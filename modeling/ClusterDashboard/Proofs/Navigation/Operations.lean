import ClusterDashboard.Navigation.Navigator
/-!
# Operations of the navigator

Any sequence of operations keeps the navigator `Sound`: the root page and the current page stay
registered, the newest history entry names the current page, and the entries below it show
nothing transient. An operation changes the page in view exactly when it announces it. Factories
are part of the operations because a factory may refuse other names each time.
-/
namespace ClusterDashboard

/-- Pages that the factory makes, or puts back in place, have the property. -/
def Factory.Yields {P : Type} (f : Factory P) (Q : P → Prop) : Prop :=
  (∀ name page, f.make name = some page → Q page) ∧
    ∀ position page, Q page → Q (f.restore position page)

def Layer.isConfirm : Layer → Bool
  | .confirm _ => true
  | _ => false

theorem Layer.isConfirm_of_settled {layer : Layer} (h : layer.isTransient = false) :
    layer.isConfirm = false := by
  cases layer with
  | confirm prompt => cases h
  | _ => rfl

theorem Layer.settled_not_transient (layer : Layer) : layer.settled.isTransient = false := by
  cases layer <;> rfl

namespace Navigator

variable {P : Type} {n : Navigator P} {f : Factory P} {name key : String} {view : ViewId}

inductive Operation (P : Type) where
  | switchPage (f : Factory P) (name : String) (layer : Layer)
  | navigate (f : Factory P) (name : String)
  | goBack (f : Factory P)
  | showMenu
  | hideMenu
  | dismissOverlay
  | reload (f : Factory P)
  | recordPosition (page : String) (position : Position)

def Operation.apply (n : Navigator P) : Operation P → Navigator P
  | .switchPage f name layer => (n.switchPage f name layer).1
  | .navigate f name => (n.navigate f name).1
  | .goBack f => (n.goBack f).1
  | .showMenu => n.showMenu.1
  | .hideMenu => n.hideMenu.1
  | .dismissOverlay => n.dismissOverlay.1
  | .reload f => n.reload f
  | .recordPosition page position => n.recordPosition page position

/-- Only showing a layer can put a question on the screen. -/
def Operation.asks : Operation P → Bool
  | .switchPage _ _ layer => layer.isConfirm
  | _ => false

def Operation.isReload : Operation P → Bool
  | .reload _ => true
  | _ => false

/-- A new page as it is registered: put back where its name was last left. -/
def placed (n : Navigator P) (f : Factory P) (name : String) (page : P) : P :=
  match n.positions.get? name with
  | some position => f.restore position page
  | none => page

theorem make_eq (n : Navigator P) (f : Factory P) (name : String) :
    n.make? f name = (f.make name).map fun page =>
      ({ n with views := n.views ++ [n.placed f name page] }, n.views.length) := rfl

theorem ensure_registered (h : n.page? name = some view) : n.ensure f name = (n, true) := by
  simp [ensure, h]

theorem ensure_refused (h : n.page? name = none) (hf : f.make name = none) :
    n.ensure f name = (n, false) := by
  simp [ensure, h, make_eq, hf]

theorem ensure_made (h : n.page? name = none) {page : P} (hf : f.make name = some page) :
    n.ensure f name = ({ n with
      views := n.views ++ [n.placed f name page]
      pages := n.pages.put name n.views.length }, true) := by
  simp [ensure, h, make_eq, hf]

/-- Everything that registering a page leaves alone. -/
structure SameCourse (m n : Navigator P) : Prop where
  root : m.root = n.root
  current : m.current = n.current
  history : m.history = n.history
  rootView : m.rootView = n.rootView
  positions : m.positions = n.positions
  menuShown : m.menuShown = n.menuShown
  notices : m.notices = n.notices

theorem ensure_same_course (n : Navigator P) (f : Factory P) (name : String) :
    SameCourse (n.ensure f name).1 n := by
  cases hp : n.page? name with
  | some view => rw [ensure_registered hp]; constructor <;> rfl
  | none =>
    cases hf : f.make name with
    | none => rw [ensure_refused hp hf]; constructor <;> rfl
    | some page => rw [ensure_made hp hf]; constructor <;> rfl

theorem ensure_keeps_pages (h : n.page? key = some view) :
    (n.ensure f name).1.page? key = some view := by
  cases hp : n.page? name with
  | some other => rw [ensure_registered hp]; exact h
  | none =>
    cases hf : f.make name with
    | none => rw [ensure_refused hp hf]; exact h
    | some page =>
      have hne : name ≠ key := by
        rintro rfl
        rw [hp] at h
        cases h
      rw [ensure_made hp hf]
      exact (Keyed.get?_put_of_ne n.pages _ hne).trans h

theorem ensure_found (h : (n.ensure f name).2 = true) :
    ∃ view, (n.ensure f name).1.page? name = some view := by
  cases hp : n.page? name with
  | some view => exact ⟨view, ensure_keeps_pages hp⟩
  | none =>
    cases hf : f.make name with
    | none => rw [ensure_refused hp hf] at h; cases h
    | some page => rw [ensure_made hp hf]; exact ⟨_, Keyed.get?_put_self ..⟩

theorem ensure_page?_cases (h : (n.ensure f name).1.page? key = some view) :
    n.page? key = some view ∨
      view = n.views.length ∧ key = name ∧ n.page? key = none ∧ ∃ page, f.make key = some page := by
  cases hp : n.page? name with
  | some other =>
    rw [ensure_registered hp] at h
    exact .inl h
  | none =>
    cases hf : f.make name with
    | none =>
      rw [ensure_refused hp hf] at h
      exact .inl h
    | some page =>
      rw [ensure_made hp hf] at h
      by_cases hk : name = key
      · subst hk
        have new : n.views.length = view := Option.some.inj ((Keyed.get?_put_self ..).symm.trans h)
        exact .inr ⟨new.symm, rfl, hp, page, hf⟩
      · exact .inl ((Keyed.get?_put_of_ne n.pages _ hk).symm.trans h)

/-- The name that a wish for a page leads to: the root page's when there is no such page. -/
def landing (n : Navigator P) (f : Factory P) (name : String) : String :=
  if (n.ensure f name).2 then name else n.root

/-- Shows a registered page: a new history entry unless it is the current page. -/
def shown (n : Navigator P) (target : String) (layer : Layer) : Navigator P :=
  if n.current = target then
    { n with menuShown := false, history := n.history.replaceTop ⟨target, layer⟩ }
  else
    notify { n with
      menuShown := false
      current := target
      history := n.history.settleTop.push ⟨target, layer⟩ }

theorem switchPage_eq (n : Navigator P) (f : Factory P) (name : String) (layer : Layer) :
    (n.switchPage f name layer).1 = (n.ensure f name).1.shown (n.landing f name) layer := by
  simp only [switchPage, shown, landing, (ensure_same_course n f name).root]
  split <;> split <;> rfl

theorem switchPage_track (n : Navigator P) (f : Factory P) (name : String) (layer : Layer) :
    (n.switchPage f name layer).2 = (n.switchPage f name layer).1.top := by
  simp only [switchPage]
  split <;> split <;> rfl

/-- One entry back, before anything is known of its page. -/
def steppedBack (n : Navigator P) : Navigator P :=
  { n with menuShown := false, history := n.history.pop }

/-- The entry that a step back ends on. -/
def withReturn (n : Navigator P) (found : Bool) : Navigator P :=
  if found then n else { n with history := n.history.replaceTop (.table n.root) }

/-- Makes the page of the newest entry the current one. -/
def followTop (n : Navigator P) : Navigator P :=
  if n.current = n.top.name then n else notify { n with current := n.top.name }

theorem goBack_eq (n : Navigator P) (f : Factory P) :
    (n.goBack f).1 =
      let m := n.steppedBack.ensure f n.steppedBack.top.name
      (m.1.withReturn m.2).followTop :=
  apply_ite Prod.fst _ _ _

theorem goBack_track (n : Navigator P) (f : Factory P) : (n.goBack f).2 = (n.goBack f).1.top := by
  simp only [goBack]
  split <;> split <;> rfl

/-- All pages torn down and the root page made anew, if it can be. -/
def rebuilt (n : Navigator P) (f : Factory P) : Navigator P :=
  let n := match n.make? f n.root with
    | some (n, view) => { n with rootView := view }
    | none => n
  { n with pages := Keyed.put [] n.root n.rootView }

theorem rebuilt_current (n : Navigator P) (f : Factory P) : (n.rebuilt f).current = n.current := by
  cases hf : f.make n.root <;> simp [rebuilt, make_eq, hf]

theorem rebuilt_history (n : Navigator P) (f : Factory P) : (n.rebuilt f).history = n.history := by
  cases hf : f.make n.root <;> simp [rebuilt, make_eq, hf]

theorem rebuilt_notices (n : Navigator P) (f : Factory P) : (n.rebuilt f).notices = n.notices := by
  cases hf : f.make n.root <;> simp [rebuilt, make_eq, hf]

/-- Where one page is registered, no other is found. -/
theorem page?_of_single {other : ViewId}
    (only : n.pages = Keyed.put [] key view) :
    n.page? name = some other ↔ name = key ∧ other = view := by
  rw [page?, only]
  by_cases hk : key = name
  · subst hk
    simp [eq_comm]
  · simp [Keyed.get?_put_of_ne _ _ hk, Ne.symm hk]

theorem rebuilt_pages (n : Navigator P) (f : Factory P) :
    (n.rebuilt f).pages = Keyed.put [] n.root (n.rebuilt f).rootView := by
  cases hf : f.make n.root <;> simp [rebuilt, make_eq, hf]

/-- The root page is made anew, or is the one that it was. -/
theorem rebuilt_cases (n : Navigator P) (f : Factory P) :
    (f.make n.root = none ∧ (n.rebuilt f).rootView = n.rootView ∧
      (n.rebuilt f).views = n.views) ∨
    ∃ page, f.make n.root = some page ∧ (n.rebuilt f).rootView = n.views.length ∧
      (n.rebuilt f).views = n.views ++ [n.placed f n.root page] := by
  cases hf : f.make n.root <;> simp [rebuilt, make_eq, hf]

theorem rebuilt_root (n : Navigator P) (f : Factory P) : (n.rebuilt f).root = n.root := by
  cases hf : f.make n.root <;> simp [rebuilt, make_eq, hf]

theorem rebuilt_positions (n : Navigator P) (f : Factory P) :
    (n.rebuilt f).positions = n.positions := by
  cases hf : f.make n.root <;> simp [rebuilt, make_eq, hf]

theorem rebuilt_page?_cases (h : (n.rebuilt f).page? key = some view) :
    key = n.root ∧ (view = n.views.length ∧ (∃ page, f.make key = some page) ∨
      view = n.rootView ∧ f.make key = none) := by
  obtain ⟨rfl, rfl⟩ := (page?_of_single (n.rebuilt_pages f)).mp h
  rcases n.rebuilt_cases f with ⟨hf, number, -⟩ | ⟨page, hf, number, -⟩
  · exact ⟨rfl, .inr ⟨number, hf⟩⟩
  · exact ⟨rfl, .inl ⟨number, page, hf⟩⟩

theorem reload_eq (n : Navigator P) (f : Factory P) :
    n.reload f =
      let m := (n.rebuilt f).ensure f (n.rebuilt f).current
      notify (if m.2 then m.1 else { m.1.withReturn false with current := m.1.root }) := rfl

/-- What holds even halfway through an operation. -/
structure Grounded (n : Navigator P) : Prop where
  root_registered : n.page? n.root = some n.rootView
  registered_made : ∀ name view, n.page? name = some view → view < n.views.length
  history_root : n.history.root = n.root
  below_settled : ∀ track ∈ n.history.tracks.tail, track.layer.isTransient = false

structure Sound (n : Navigator P) : Prop extends Grounded n where
  current_registered : ∃ view, n.page? n.current = some view
  top_current : n.top.name = n.current

theorem Sound.currentView_eq (h : n.Sound) : n.page? n.current = some n.currentView := by
  obtain ⟨view, hv⟩ := h.current_registered
  simp [currentView, hv]

theorem Sound.currentView_made (h : n.Sound) : n.currentView < n.views.length :=
  h.registered_made _ _ h.currentView_eq

theorem Sound.landing_current (h : n.Sound) (f : Factory P) :
    n.landing f n.current = n.current := by
  rw [landing, ensure_registered h.currentView_eq]
  rfl

theorem Sound.of_same_course {Q : Type} {m : Navigator Q} (h : n.Sound) (root : m.root = n.root)
    (current : m.current = n.current) (history : m.history = n.history) (pages : m.pages = n.pages)
    (rootView : m.rootView = n.rootView) (views : m.views.length = n.views.length) : m.Sound := by
  have hp : ∀ name, m.page? name = n.page? name := fun name => by rw [page?, pages]; rfl
  refine ⟨⟨?_, ?_, ?_, ?_⟩, ?_, ?_⟩
  · rw [hp, root, rootView]
    exact h.root_registered
  · intro name view hv
    rw [views]
    exact h.registered_made name view (hp name ▸ hv)
  · rw [history, root]
    exact h.history_root
  · rw [history]
    exact h.below_settled
  · rw [hp, current]
    exact h.current_registered
  · rw [top, history, current]
    exact h.top_current

theorem Grounded.ensure (h : n.Grounded) (f : Factory P) (name : String) :
    (n.ensure f name).1.Grounded := by
  have hc := ensure_same_course n f name
  refine ⟨?_, ?_, ?_, ?_⟩
  · rw [hc.root, hc.rootView]; exact ensure_keeps_pages h.root_registered
  · intro key view hv
    cases hp : n.page? name with
    | some other => rw [ensure_registered hp] at hv ⊢; exact h.registered_made key view hv
    | none =>
      cases hf : f.make name with
      | none => rw [ensure_refused hp hf] at hv ⊢; exact h.registered_made key view hv
      | some page =>
        rw [ensure_made hp hf] at hv ⊢
        simp only [List.length_append, List.length_singleton]
        by_cases hk : name = key
        · subst hk
          obtain rfl : n.views.length = view := by simpa [page?] using hv
          exact Nat.lt_succ_self _
        · exact Nat.lt_succ_of_lt
            (h.registered_made key view ((Keyed.get?_put_of_ne n.pages _ hk).symm.trans hv))
  · rw [hc.history, hc.root]; exact h.history_root
  · rw [hc.history]; exact h.below_settled

theorem landing_registered (h : n.Grounded) (f : Factory P) (name : String) :
    ∃ view, (n.ensure f name).1.page? (n.landing f name) = some view := by
  unfold landing
  split
  · exact ensure_found ‹_›
  · exact ⟨_, ensure_keeps_pages h.root_registered⟩

theorem Grounded.steppedBack (h : n.Grounded) : n.steppedBack.Grounded where
  root_registered := h.root_registered
  registered_made := h.registered_made
  history_root := h.history_root
  below_settled track ht := h.below_settled track (List.mem_of_mem_tail ht)

/-- The pages and the history decide; the rest may be anything. -/
theorem Grounded.retouched (h : n.Grounded) (current : String) (menuShown : Bool)
    (notices : List String) (positions : Keyed String Position) :
    Grounded { n with current, menuShown, notices, positions } :=
  ⟨h.root_registered, h.registered_made, h.history_root, h.below_settled⟩

theorem Grounded.retopped (h : n.Grounded) (top : Track) :
    Grounded { n with history := n.history.replaceTop top } :=
  ⟨h.root_registered, h.registered_made, h.history_root, h.below_settled⟩

theorem Grounded.withReturn (h : n.Grounded) (found : Bool) : (n.withReturn found).Grounded := by
  cases found with
  | true => exact h
  | false => exact h.retopped _

theorem return_registered (h : n.Grounded) (f : Factory P) :
    let m := n.ensure f n.top.name
    ∃ view, (m.1.withReturn m.2).page? (m.1.withReturn m.2).top.name = some view := by
  intro m
  have hc := ensure_same_course n f n.top.name
  cases hm : m.2 with
  | true =>
    have ht : m.1.top = n.top := congrArg History.top hc.history
    obtain ⟨view, hv⟩ := ensure_found hm
    exact ⟨view, by simpa [Navigator.withReturn, ht] using hv⟩
  | false => exact ⟨_, (h.ensure f n.top.name).root_registered⟩

theorem Grounded.followTop (h : n.Grounded) (ht : ∃ view, n.page? n.top.name = some view) :
    n.followTop.Sound := by
  unfold Navigator.followTop
  split
  · next hc => exact ⟨h, hc ▸ ht, hc.symm⟩
  · exact ⟨h.retouched _ _ _ _, ht, rfl⟩

theorem Sound.shown (h : n.Sound) {target : String} (ht : ∃ view, n.page? target = some view)
    (layer : Layer) : (n.shown target layer).Sound := by
  unfold Navigator.shown
  split
  · next hc =>
    exact ⟨(h.toGrounded.retopped _).retouched _ _ _ _, h.current_registered, hc.symm⟩
  · refine ⟨⟨h.root_registered, h.registered_made, h.history_root, ?_⟩, ht, rfl⟩
    intro track hm
    cases hh : n.history.tracks with
    | nil => simp [notify, History.push, History.settleTop, hh] at hm
    | cons newest below =>
      have hb := h.below_settled
      simp only [notify, History.push, History.settleTop, hh, List.tail_cons,
        List.mem_cons] at hm hb
      -- the entry that was newest is settled on its way below
      rcases hm with rfl | hm
      · exact Layer.settled_not_transient _
      · exact hb track hm

theorem Sound.ensure (h : n.Sound) (f : Factory P) (name : String) :
    (n.ensure f name).1.Sound := by
  have hc := ensure_same_course n f name
  refine ⟨h.toGrounded.ensure f name, ⟨n.currentView, ?_⟩, ?_⟩
  · rw [hc.current]; exact ensure_keeps_pages h.currentView_eq
  · rw [hc.current, top, hc.history]; exact h.top_current

/-- A reload may leave the current page unregistered, so only what is grounded can be kept. -/
theorem Sound.rebuilt (h : n.Sound) (f : Factory P) : (n.rebuilt f).Grounded := by
  have single {name view} : (n.rebuilt f).page? name = some view ↔
      name = n.root ∧ view = (n.rebuilt f).rootView := page?_of_single (n.rebuilt_pages f)
  refine ⟨?_, ?_, ?_, ?_⟩
  · exact single.mpr ⟨n.rebuilt_root f, rfl⟩
  · intro name view hv
    obtain ⟨-, rfl⟩ := single.mp hv
    rcases n.rebuilt_cases f with ⟨-, number, views⟩ | ⟨page, -, number, views⟩
    · rw [number, views]
      exact h.registered_made _ _ h.root_registered
    · rw [number, views, List.length_append]
      exact Nat.lt_succ_self _
  · rw [rebuilt_history, rebuilt_root]
    exact h.history_root
  · rw [rebuilt_history]
    exact h.below_settled

theorem Sound.retop (h : n.Sound) (menuShown : Bool) (layer : Layer) :
    Sound { n with menuShown, history := n.history.replaceTop ⟨n.current, layer⟩ } :=
  ⟨(h.toGrounded.retopped _).retouched _ _ _ _, h.current_registered, rfl⟩

theorem Sound.reload (h : n.Sound) (f : Factory P) : (n.reload f).Sound := by
  have hg := (h.rebuilt f).ensure f (n.rebuilt f).current
  have hc := ensure_same_course (n.rebuilt f) f (n.rebuilt f).current
  rw [reload_eq]
  dsimp only
  split
  · next hfound =>
    refine ⟨hg.retouched _ _ _ _, ?_, ?_⟩
    · obtain ⟨view, hv⟩ := ensure_found hfound
      exact ⟨view, (congrArg _ hc.current).trans hv⟩
    · change (Navigator.ensure ..).1.history.top.name = (Navigator.ensure ..).1.current
      rw [hc.history, hc.current, rebuilt_history, rebuilt_current]
      exact h.top_current
  · exact ⟨(hg.retopped _).retouched _ _ _ _, ⟨_, hg.root_registered⟩, rfl⟩

theorem Sound.apply (h : n.Sound) (op : Operation P) : (op.apply n).Sound := by
  cases op with
  | switchPage f name layer =>
    rw [Operation.apply, switchPage_eq]
    exact (h.ensure f name).shown (landing_registered h.toGrounded f name) layer
  | navigate f name =>
    rw [Operation.apply, navigate, switchPage_eq]
    exact (h.ensure f name).shown (landing_registered h.toGrounded f name) .table
  | goBack f =>
    rw [Operation.apply, goBack_eq]
    have hb := h.toGrounded.steppedBack
    exact ((hb.ensure f _).withReturn _).followTop (return_registered hb f)
  | showMenu =>
    simp only [Operation.apply, showMenu]
    split
    · exact h
    · exact h.retop true .menu
  | hideMenu =>
    have hs : Sound { n with menuShown := false } :=
      ⟨h.toGrounded.retouched _ _ _ _, h.current_registered, h.top_current⟩
    simp only [Operation.apply, hideMenu]
    split
    · exact h
    · split
      · exact hs.retop false .table
      · exact hs
  | dismissOverlay =>
    simp only [Operation.apply, dismissOverlay]
    split
    · exact h
    · exact h.retop false .table
  | reload f => exact h.reload f
  | recordPosition page position =>
    exact ⟨h.toGrounded.retouched _ _ _ _, h.current_registered, h.top_current⟩

theorem shown_top (n : Navigator P) (target : String) (layer : Layer) :
    (n.shown target layer).top = ⟨target, layer⟩ := by
  unfold shown
  split <;> rfl

theorem followTop_top (n : Navigator P) : n.followTop.top = n.top := by
  unfold followTop
  split <;> rfl

theorem dismissOverlay_bare (h : n.top.layer.isOverlay = false) :
    n.dismissOverlay = (n, false) := by
  rw [dismissOverlay, h]
  rfl

theorem dismissOverlay_overlaid (h : n.top.layer.isOverlay = true) :
    n.dismissOverlay = ({ n with
      menuShown := false
      history := n.history.replaceTop (.table n.current) }, true) := by
  rw [dismissOverlay, h]
  rfl

theorem dismissOverlay_top (n : Navigator P) : n.dismissOverlay.1.top.layer = .table := by
  unfold dismissOverlay
  cases hl : n.top.layer with
  | table => simpa [Layer.isOverlay] using hl
  | _ => rfl

theorem showMenu_layer (n : Navigator P) :
    n.showMenu.1.top.layer = n.top.layer ∨ n.showMenu.1.top.layer = .menu := by
  unfold showMenu
  split
  · exact .inl rfl
  · exact .inr rfl

theorem hideMenu_layer (n : Navigator P) :
    n.hideMenu.1.top.layer = n.top.layer ∨ n.hideMenu.1.top.layer = .table := by
  unfold hideMenu
  split
  · exact .inl rfl
  · dsimp only
    split
    · exact .inr rfl
    · exact .inl rfl

theorem Grounded.steppedBack_settled (h : n.Grounded) :
    n.steppedBack.top.layer.isTransient = false := by
  change (n.history.tracks.tail.headD (.table n.history.root)).layer.isTransient = false
  cases ht : n.history.tracks.tail with
  | nil => rfl
  | cons track below => exact h.below_settled track (ht ▸ List.mem_cons_self)

theorem Grounded.goBack_settled (h : n.Grounded) (f : Factory P) :
    (n.goBack f).1.top.layer.isTransient = false := by
  have hc := ensure_same_course n.steppedBack f n.steppedBack.top.name
  rw [goBack_eq, followTop_top]
  cases (n.steppedBack.ensure f n.steppedBack.top.name).2 with
  | true =>
    change (n.steppedBack.ensure f n.steppedBack.top.name).1.history.top.layer.isTransient = false
    rw [hc.history]
    exact h.steppedBack_settled
  | false => rfl

/-- The layer on top stays, is one that lasts, is the menu, or is shown at a wish. -/
theorem Grounded.apply_layer (h : n.Grounded) (op : Operation P) :
    let layer := (op.apply n).top.layer
    layer = n.top.layer ∨ layer.isTransient = false ∨ layer = .menu ∨
      ∃ f name, op = .switchPage f name layer := by
  intro layer
  have settles : layer.isTransient = false → layer = n.top.layer ∨ layer.isTransient = false ∨
      layer = .menu ∨ ∃ f name, op = .switchPage f name layer := fun hl => .inr (.inl hl)
  cases op with
  | switchPage f name shown =>
    have ht : layer = shown := by
      change ((n.switchPage f name shown).1).top.layer = shown
      rw [switchPage_eq, shown_top]
    exact .inr (.inr (.inr ⟨f, name, by rw [ht]⟩))
  | navigate f name =>
    have ht : layer = .table := by
      change ((n.switchPage f name .table).1).top.layer = .table
      rw [switchPage_eq, shown_top]
    exact settles (ht ▸ rfl)
  | goBack f => exact settles (h.goBack_settled f)
  | showMenu =>
    rcases showMenu_layer n with ht | ht
    · exact .inl ht
    · exact .inr (.inr (.inl ht))
  | hideMenu =>
    rcases hideMenu_layer n with ht | ht
    · exact .inl ht
    · have ht : layer = .table := ht
      exact settles (ht ▸ rfl)
  | dismissOverlay =>
    have ht : layer = .table := dismissOverlay_top n
    exact settles (ht ▸ rfl)
  | reload f =>
    have hc := ensure_same_course (n.rebuilt f) f (n.rebuilt f).current
    cases hm : ((n.rebuilt f).ensure f (n.rebuilt f).current).2 with
    | true =>
      have ht : layer = ((n.rebuilt f).ensure f (n.rebuilt f).current).1.history.top.layer := by
        simp only [layer, Operation.apply, reload_eq, hm, if_true]
        rfl
      rw [hc.history, rebuilt_history] at ht
      exact .inl ht
    | false =>
      have ht : layer = .table := by
        simp only [layer, Operation.apply, reload_eq, hm]
        rfl
      exact settles (ht ▸ rfl)
  | recordPosition page position => exact .inl rfl

/-- No question comes up but by showing one. -/
theorem Sound.apply_unasked (h : n.Sound) (hn : n.top.layer.isConfirm = false)
    {op : Operation P} (ho : op.asks = false) : (op.apply n).top.layer.isConfirm = false := by
  rcases h.toGrounded.apply_layer op with hl | hl | hl | ⟨f, name, hl⟩
  · rw [hl]
    exact hn
  · exact Layer.isConfirm_of_settled hl
  · rw [hl]
    rfl
  · rw [hl] at ho
    exact ho

/-- The same page is in view, and nothing more has been announced. -/
structure SameView (m n : Navigator P) : Prop where
  current : m.current = n.current
  notices : m.notices = n.notices
  currentView : m.currentView = n.currentView

/-- A change of the current page is announced, and so is a reload; nothing else is, and nothing
else changes the page in view. -/
structure Announced (reload : Bool) (n m : Navigator P) : Prop where
  told : reload = true ∨ m.current ≠ n.current → m.notices = n.notices ++ [m.current]
  untold : reload = false → m.current = n.current → SameView m n

theorem ensure_same_view (h : ∃ view, n.page? n.current = some view) (f : Factory P)
    (name : String) : SameView (n.ensure f name).1 n := by
  obtain ⟨view, hv⟩ := h
  have hc := ensure_same_course n f name
  refine ⟨hc.current, hc.notices, ?_⟩
  simp only [currentView, hc.current, hv, ensure_keeps_pages hv, Option.getD_some]

theorem SameView.announced {m k : Navigator P} (h : SameView m n) {reload : Bool}
    (ha : Announced reload m k) : Announced reload n k := by
  constructor
  · intro hk
    rw [← h.notices]
    exact ha.told (h.current ▸ hk)
  · intro hr hk
    have hs := ha.untold hr (hk.trans h.current.symm)
    exact ⟨hk, hs.notices.trans h.notices, hs.currentView.trans h.currentView⟩

theorem SameView.not_announced {m : Navigator P} (h : SameView m n) : Announced false n m :=
  ⟨fun hr => (hr.elim Bool.noConfusion (absurd h.current)), fun _ _ => h⟩

theorem shown_announced (n : Navigator P) (target : String) (layer : Layer) :
    Announced false n (n.shown target layer) := by
  unfold shown
  split
  · exact SameView.not_announced ⟨rfl, rfl, rfl⟩
  · next hne => exact ⟨fun _ => rfl, fun _ he => absurd he.symm hne⟩

theorem followTop_announced (n : Navigator P) : Announced false n n.followTop := by
  unfold followTop
  split
  · exact SameView.not_announced ⟨rfl, rfl, rfl⟩
  · next hne => exact ⟨fun _ => rfl, fun _ he => absurd he.symm hne⟩

theorem Sound.switchPage_announced (h : n.Sound) (f : Factory P) (name : String) (layer : Layer) :
    Announced false n (n.switchPage f name layer).1 := by
  rw [switchPage_eq]
  exact (ensure_same_view h.current_registered f name).announced (shown_announced _ _ _)

theorem Sound.announced (h : n.Sound) (op : Operation P) :
    Announced op.isReload n (op.apply n) := by
  cases op with
  | switchPage f name layer => exact h.switchPage_announced f name layer
  | navigate f name => exact h.switchPage_announced f name .table
  | goBack f =>
    simp only [Operation.apply, goBack_eq, Operation.isReload]
    have hs := ensure_same_view (n := n.steppedBack) h.current_registered f n.steppedBack.top.name
    have hr : ∀ (m : Navigator P) found, SameView (m.withReturn found) m := by
      intro m found
      cases found <;> exact ⟨rfl, rfl, rfl⟩
    have hb : SameView n.steppedBack n := ⟨rfl, rfl, rfl⟩
    exact hb.announced (hs.announced ((hr _ _).announced (followTop_announced _)))
  | showMenu =>
    simp only [Operation.apply, showMenu, Operation.isReload]
    split <;> exact SameView.not_announced ⟨rfl, rfl, rfl⟩
  | hideMenu =>
    simp only [Operation.apply, hideMenu, Operation.isReload]
    split
    · exact SameView.not_announced ⟨rfl, rfl, rfl⟩
    · split <;> exact SameView.not_announced ⟨rfl, rfl, rfl⟩
  | dismissOverlay =>
    simp only [Operation.apply, dismissOverlay, Operation.isReload]
    split <;> exact SameView.not_announced ⟨rfl, rfl, rfl⟩
  | reload f =>
    have hc := ensure_same_course (n.rebuilt f) f (n.rebuilt f).current
    have hn := hc.notices.trans (rebuilt_notices n f)
    refine ⟨fun _ => ?_, Bool.noConfusion⟩
    simp only [Operation.apply, reload_eq]
    split <;> exact congrArg (· ++ _) hn
  | recordPosition page position => exact SameView.not_announced ⟨rfl, rfl, rfl⟩

theorem Sound.notices_apply (h : n.Sound) (op : Operation P) :
    (op.apply n).notices ≠ [] ↔
      n.notices ≠ [] ∨ op.isReload = true ∨ (op.apply n).current ≠ n.current := by
  have ha := h.announced op
  by_cases ht : op.isReload = true ∨ (op.apply n).current ≠ n.current
  · refine iff_of_true ?_ (.inr ht)
    rw [ha.told ht]
    exact List.append_ne_nil_of_right_ne_nil _ nofun
  · obtain ⟨hr, hc⟩ := not_or.mp ht
    have hv := ha.untold (eq_false_of_ne_true hr) (Decidable.not_not.mp hc)
    rw [hv.notices]
    exact (or_iff_left ht).symm

theorem start_eq {root : String} (h : start? f root = some n) :
    ∃ page, f.make root = some page ∧ n = (opening root page).shown root .table := by
  obtain ⟨page, hf, rfl⟩ := Option.map_eq_some_iff.mp h
  have hp : (opening root page).page? root = some 0 := by simp [page?, opening, Keyed.get?_cons]
  refine ⟨page, hf, ?_⟩
  simp [navigate, switchPage_eq, landing, ensure_registered hp]

theorem start_sound {root : String} (h : start? f root = some n) : n.Sound := by
  obtain ⟨page, -, rfl⟩ := start_eq h
  have hp : (opening root page).page? root = some 0 := by simp [page?, opening, Keyed.get?_cons]
  have hm : ∀ name view, (opening root page).page? name = some view → view < 1 := by
    intro name view hv
    by_cases hk : root = name
    · subst hk
      obtain rfl : 0 = view := by simpa [hp] using hv
      exact Nat.one_pos
    · simp [page?, opening, Keyed.get?_cons, hk] at hv
  unfold shown
  split
  · next hc =>
    exact ⟨⟨hp, hm, rfl, by simp [opening, History.replaceTop]⟩, ⟨0, hc ▸ hp⟩, hc.symm⟩
  · exact ⟨⟨hp, hm, rfl, by simp [opening, notify, History.push, History.settleTop]⟩,
      ⟨0, hp⟩, rfl⟩

end Navigator
end ClusterDashboard
