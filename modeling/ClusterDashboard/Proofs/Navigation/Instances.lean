import ClusterDashboard.Proofs.Navigation.Origins
import Mathlib.Data.List.Nodup
/-!
# One page for each name

From one reload to the next at most one page is made for a name. It is the page of that name from
then on, and in view whenever the name is current. A reload does away with all pages that there are,
but for a root page that cannot be made anew. A refused name is never registered.
-/
namespace ClusterDashboard.Navigator

variable {P : Type}

section Renewal

variable {n m old : Navigator P} {f g : Factory P} {op : Operation P} {name key : String}
  {view : ViewId}

/-- The page may still be had after a reload by `g`: it has been made since, or is the root page and
`g` has refused to make another. -/
def Remains (old : Navigator P) (g : Factory P) (name : String) (view : ViewId) : Prop :=
  old.views.length ≤ view ∨ g.make old.root = none ∧ name = old.root ∧ view = old.rootView

/-- No other page can be found any more, nor is one in view. -/
structure Renewed (old : Navigator P) (g : Factory P) (n : Navigator P) : Prop where
  registered : ∀ name view, n.page? name = some view → Remains old g name view
  shown : Remains old g n.current n.currentView

/-- What holds from a reload on. -/
structure Succeeds (old : Navigator P) (g : Factory P) (n : Navigator P) : Prop
    extends Sound n where
  root : n.root = old.root
  older : old.views.length ≤ n.views.length
  registered : ∀ name view, n.page? name = some view → Remains old g name view

theorem Succeeds.apply (h : Succeeds old g n) (op : Operation P) :
    Succeeds old g (op.apply n) := by
  have step : StockStep n (op.apply n) op := op.stock_step n
  have older : old.views.length ≤ (op.apply n).views.length :=
    Nat.le_trans h.older step.grows.le
  refine ⟨h.toSound.apply op, (op.apply_root n).trans h.root, older, ?_⟩
  intro name view hv
  rcases step.page?_cases hv with ⟨-, there⟩ | ⟨new, -⟩ | ⟨f, -, -, rfl, rfl⟩
  · exact h.registered name view there
  · exact .inl (Nat.le_trans h.older new)
  · exact h.registered n.root n.rootView h.root_registered

theorem Succeeds.after (h : Succeeds old g n) (operations : List (Operation P)) :
    Succeeds old g (n.after operations) := by
  induction operations generalizing n with
  | nil => exact h
  | cons op operations ih => exact ih (h.apply op)

theorem Sound.reload_succeeds (h : old.Sound) (g : Factory P) :
    Succeeds old g ((Operation.reload g).apply old) := by
  have step := (Operation.reload g).stock_step old
  refine ⟨h.apply (.reload g), Operation.apply_root old _, step.grows.le, ?_⟩
  intro name view hv
  rcases step.page?_cases hv with ⟨still, -⟩ | ⟨new, -⟩ | ⟨f, wish, refused, root, held⟩
  · cases still
  · exact .inl new
  · cases wish
    exact .inr ⟨refused, root, held⟩

theorem Succeeds.renewed (h : Succeeds old g n) : Renewed old g n :=
  ⟨h.registered, h.registered n.current n.currentView h.toSound.currentView_eq⟩

end Renewal

variable {n m : Navigator (Noted P)} {f : Factory P} {root : String} {former : Nat}

/-- How many pages had been made when the last reload came. -/
def formerly (n : Navigator P) (former : Nat) : List (Operation P) → Nat
  | [] => former
  | op :: operations =>
    formerly (op.apply n) (if op.isReload then n.views.length else former) operations

/-- Pages are registered under the names that they were made for, and from a number on they all
are. -/
structure Registers (former : Nat) (n : Navigator (Noted P)) : Prop where
  named : ∀ name view, n.page? name = some view → ∃ v, n.views[view]? = some v ∧ v.name = name
  found : ∀ (view : ViewId) v, former ≤ view → n.views[view]? = some v →
    n.page? v.name = some view

/-- From a number on each page was made for a name of its own, and is the page of that name. -/
structure OneEach (former : Nat) (n : Navigator (Noted P)) : Prop extends Registers former n where
  once : ((n.views.drop former).map (·.name)).Nodup
  shown : ∀ (view : ViewId) v, former ≤ view → n.views[view]? = some v → n.current = v.name →
    n.currentView = view

namespace Registers

theorem of_same (h : Registers former n) (same : SameStock m n) : Registers former m := by
  have pages : ∀ name, m.page? name = n.page? name := by
    intro name
    rw [page?, same.pages, page?]
  constructor
  · intro name view hv
    rw [same.views]
    exact h.named name view (pages name ▸ hv)
  · intro view v hf hv
    rw [pages]
    exact h.found view v hf (same.views ▸ hv)

theorem ensure (h : Registers former n) (f : Factory P) (name : String) :
    Registers former (n.ensure f.noted name).1 := by
  constructor
  · intro key view hv
    rcases ensure_page?_cases hv with there | ⟨rfl, rfl, hp, made, hf⟩
    · obtain ⟨v, hi, hn⟩ := h.named key view there
      exact ⟨v, (ensure_grows n f.noted name).keeps hi, hn⟩
    · obtain ⟨page, -, rfl⟩ := noted_make_some hf
      rw [ensure_made hp hf, placed_noted]
      exact ⟨_, List.getElem?_concat_length, rfl⟩
  · intro view v hl hv
    rcases ensure_view_cases hv with old | ⟨rfl, hp, made, hf, rfl⟩
    · exact ensure_keeps_pages (h.found view v hl old)
    · obtain ⟨page, -, rfl⟩ := noted_make_some hf
      rw [ensure_made hp hf, placed_noted]
      exact Keyed.get?_put_self ..

/-- The number of the root page is all that a reload takes over from before. -/
theorem rebuilt (h : Registers former n) (hr : n.page? n.root = some n.rootView) (f : Factory P) :
    Registers n.views.length (n.rebuilt f.noted) := by
  have single {key view} : (n.rebuilt f.noted).page? key = some view ↔
      key = n.root ∧ view = (n.rebuilt f.noted).rootView :=
    page?_of_single (n.rebuilt_pages f.noted)
  rcases n.rebuilt_cases f.noted with ⟨-, number, views⟩ | ⟨made, hf, number, views⟩
  · refine ⟨fun key view hv => ?_, fun view v hl hv => ?_⟩
    · obtain ⟨rfl, rfl⟩ := single.mp hv
      rw [views, number]
      exact h.named n.root n.rootView hr
    · rw [views] at hv
      exact absurd (List.getElem?_eq_some_iff.mp hv).1 (Nat.not_lt.mpr hl)
  · obtain ⟨page, -, rfl⟩ := noted_make_some hf
    rw [placed_noted] at views
    refine ⟨fun key view hv => ?_, fun view v hl hv => ?_⟩
    · obtain ⟨rfl, rfl⟩ := single.mp hv
      rw [views, number]
      exact ⟨_, List.getElem?_concat_length, rfl⟩
    · rw [views] at hv
      rcases getElem?_concat hv with old | ⟨rfl, rfl⟩
      · exact absurd (List.getElem?_eq_some_iff.mp old).1 (Nat.not_lt.mpr hl)
      · exact single.mpr ⟨rfl, number.symm⟩

theorem apply (h : Registers former n) (hs : n.Sound) (op : Operation P) :
    Registers (if op.noted.isReload then n.views.length else former) (op.noted.apply n) := by
  cases op.noted.stock_step n with
  | recorded page position wish put =>
    rw [put, wish]
    exact (⟨h.named, h.found⟩ : Registers former (n.recordPosition page position))
  | kept _ still same =>
    rw [still]
    exact h.of_same same
  | ensured g name asks still same =>
    obtain ⟨f, -, rfl⟩ := Operation.noted_asks asks
    rw [still]
    exact (h.ensure f name).of_same same
  | rebuilt g wish same =>
    obtain ⟨f, -, rfl⟩ := Operation.noted_asks (wish ▸ rfl : op.noted.factory? = some g)
    rw [wish] at same ⊢
    exact ((h.rebuilt hs.root_registered f).ensure f n.current).of_same same

theorem after (h : Registers former n) (hs : n.Sound) (operations : List (Operation P)) :
    Registers (formerly n former (operations.map .noted)) (n.noting operations) := by
  induction operations generalizing n former with
  | nil => exact h
  | cons op operations ih => exact ih (h.apply hs op) (hs.apply op.noted)

theorem oneEach (h : Registers former n) (hs : n.Sound) : OneEach former n := by
  refine ⟨h, ?_, fun view v hl hv hc => ?_⟩
  · rw [List.nodup_iff_getElem?_ne_getElem?]
    intro i j before hj alike
    have made : former + j < n.views.length := by
      rw [List.length_map, List.length_drop] at hj
      omega
    obtain ⟨w, hw⟩ : ∃ w, n.views[former + j]? = some w := ⟨_, List.getElem?_eq_getElem made⟩
    rw [List.getElem?_map, List.getElem?_map, List.getElem?_drop, List.getElem?_drop, hw] at alike
    obtain ⟨v, hv, name⟩ := Option.map_eq_some_iff.mp alike
    have first := h.found (former + i) v (Nat.le_add_right ..) hv
    have second := h.found (former + j) w (Nat.le_add_right ..) hw
    rw [name] at first
    have same : former + i = former + j := Option.some.inj (first.symm.trans second)
    omega
  · have there := h.found view v hl hv
    rw [← hc, hs.currentView_eq] at there
    exact Option.some.inj there

end Registers

theorem start_registers (h : start? f.noted root = some n) : Registers 0 n := by
  obtain ⟨page, -, rfl⟩ := start_noted h
  have only : (opening root { page, name := root : Noted P }).pages = Keyed.put [] root 0 := rfl
  have ho : Registers 0 (opening root { page, name := root : Noted P }) := by
    constructor
    · intro name view hv
      obtain ⟨rfl, rfl⟩ := (page?_of_single only).mp hv
      exact ⟨_, rfl, rfl⟩
    · intro view v _ hv
      obtain ⟨rfl, rfl⟩ := (getElem?_concat (l := []) hv).resolve_left nofun
      exact (page?_of_single only).mpr ⟨rfl, rfl⟩
  exact ho.of_same (shown_same_stock _ _ _)

/-- A name that is refused is found after an operation only if it was before; and if that was a
reload, it can only be the root page's. -/
theorem Sound.refused_unregistered (h : n.Sound) {op : Operation P} {g : Factory P} {name : String}
    {view : ViewId} (asks : op.factory? = some g) (refused : g.make name = none)
    (hv : (op.noted.apply n).page? name = some view) :
    n.page? name = some view ∧ (op.isReload = true → name = n.root) := by
  rcases (op.noted.stock_step n).page?_cases hv with ⟨still, there⟩ | ⟨-, f, v, asked, made⟩ |
    ⟨f, -, -, rfl, rfl⟩
  · rw [op.noted_isReload] at still
    exact ⟨there, fun reloads => nomatch reloads.symm.trans still⟩
  · obtain ⟨other, same, rfl⟩ := Operation.noted_asks asked
    obtain rfl : g = other := Option.some.inj (asks.symm.trans same)
    cases (noted_make_none.mpr refused).symm.trans made
  · exact ⟨h.root_registered, fun _ => rfl⟩

/-- In every run at most one page is made for a name from one reload to the next, which is the page
of that name from then on; no page that was made before a reload is to be had after it, but for a
root page that was refused; and no refused name is registered. -/
theorem one_page_for_each_name {start : Navigator (Noted P)}
    (opened : start? f.noted root = some start) (operations : List (Operation P)) :
    let n := start.noting operations
    (start? f root = some start.plain ∧ n.plain = start.plain.after operations) ∧
      OneEach (formerly start 0 (operations.map .noted)) n ∧
      (∀ earlier g later, operations = earlier ++ .reload g :: later →
        Renewed (start.noting earlier) g.noted n) ∧
      ∀ (op : Operation P) g name view, op.factory? = some g → g.make name = none →
        (op.noted.apply n).page? name = some view →
          n.page? name = some view ∧ (op.isReload = true → name = root) := by
  intro n
  have opening : start.Sound := start_sound opened
  have sound : n.Sound := opening.after _
  have hr : n.root = root := (after_root start _).trans (start_root opened)
  refine ⟨⟨start_plain opened, plain_noting start operations⟩,
    ((start_registers opened).after opening operations).oneEach sound, ?_, ?_⟩
  · intro earlier g later split
    have parts : n = ((Operation.reload g.noted).apply (start.noting earlier)).noting later := by
      have whole : n = start.noting operations := rfl
      rw [whole, split, noting, List.map_append]
      exact Trace.run_append _ _
    have past : (start.noting earlier).Sound := opening.after _
    rw [parts]
    exact ((past.reload_succeeds g.noted).after _).renewed
  · intro op g name view asks refused hv
    rw [← hr]
    exact sound.refused_unregistered asks refused hv

/-- Makes neither the root page nor that of the jobs. -/
def sparing : Factory CountedPage := CountedPage.factory ["pods", "jobs"]

/-- Pages are visited again and again up to a reload that cannot make the root page. -/
def roaming : List (Operation CountedPage) :=
  let all := CountedPage.factory []
  [.navigate all "nodes", .navigate sparing "jobs", .navigate all "jobs", .goBack sparing,
    .switchPage sparing "nodes" (.logs "logs nodes/a"), .navigate all "pods",
    .navigate sparing "nodes"]

/-- After the reload they are visited again. -/
def resuming : List (Operation CountedPage) :=
  [.navigate (CountedPage.factory []) "jobs", .goBack sparing, .goBack sparing,
    .navigate sparing "jobs"]

theorem one_page_for_each_name_after_refusal :
    ∃ start, start? (CountedPage.factory []).noted "pods" = some start ∧
      let operations := roaming ++ .reload sparing :: resuming
      let n := start.noting operations
      n.views.map (·.name) = ["pods", "nodes", "jobs", "nodes", "jobs"] ∧
        (n.page? "pods", n.page? "nodes", n.page? "jobs") = (some 0, some 3, some 4) ∧
        formerly start 0 (operations.map .noted) = 3 ∧ OneEach 3 n ∧
        Renewed (start.noting roaming) sparing.noted n ∧
        ∀ view, ((Operation.reload sparing).noted.apply n).page? "jobs" ≠ some view := by
  have opened : start? (CountedPage.factory []).noted "pods" = some _ := rfl
  obtain ⟨-, each, renewed, refused⟩ :=
    one_page_for_each_name opened (roaming ++ .reload sparing :: resuming)
  refine ⟨_, opened, by decide, by decide, by decide, each,
    renewed roaming sparing resuming rfl, fun view there => ?_⟩
  have root := (refused (.reload sparing) sparing "jobs" view rfl (by decide) there).2 rfl
  exact absurd root (by decide)

end ClusterDashboard.Navigator
