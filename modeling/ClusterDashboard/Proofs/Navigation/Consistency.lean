import ClusterDashboard.Proofs.Navigation.Stock
import ClusterDashboard.Proofs.Trace
import ClusterDashboard.Refresh.Gate
/-!
# Pointer, history and registry agree

After any operations, with factories that refuse whatever names they like, the newest history entry
names the current page, the current page and the root page are registered, each under its own name
only, and below the newest entry there are tables and details only.
-/
namespace ClusterDashboard

theorem Layer.lasting_iff {layer : Layer} : layer.isTransient = false ↔
    layer = .table ∨ ∃ title body, layer = .detail title body := by
  constructor
  · intro h
    cases layer with
    | table => exact .inl rfl
    | detail title body => exact .inr ⟨title, body, rfl⟩
    | menu | logs | confirm | status => cases h
  · rintro (rfl | ⟨title, body, rfl⟩) <;> rfl

namespace Navigator

variable {P : Type} {n m : Navigator P} {f : Factory P}

/-- What comes of a navigator by one operation after the other. -/
abbrev after (n : Navigator P) (operations : List (Operation P)) : Navigator P :=
  Trace.run Operation.apply n operations

theorem Sound.after (h : n.Sound) (operations : List (Operation P)) :
    (n.after operations).Sound := by
  induction operations generalizing n with
  | nil => exact h
  | cons op operations ih => exact ih (h.apply op)

/-- No page is registered under two names. -/
def Apart (n : Navigator P) : Prop :=
  ∀ name other view, n.page? name = some view → n.page? other = some view → name = other

theorem Apart.of_pages (h : n.Apart) (hp : m.pages = n.pages) : m.Apart := by
  intro name other view hn ho
  have same : ∀ key, m.page? key = n.page? key := by
    intro key
    rw [page?, hp, page?]
  exact h name other view (same name ▸ hn) (same other ▸ ho)

/-- Where only one page is registered there is nothing to tell apart. -/
theorem apart_of_single (key : String) (view : ViewId) (hp : n.pages = Keyed.put [] key view) :
    n.Apart := by
  intro name other both hn ho
  exact ((page?_of_single hp).mp hn).1.trans ((page?_of_single hp).mp ho).1.symm

theorem Apart.ensure (h : n.Apart) (hg : n.Grounded) (f : Factory P) (key : String) :
    (n.ensure f key).1.Apart := by
  -- a new page has a number that no page had before
  have old : ∀ name, n.page? name ≠ some n.views.length := fun name hn =>
    Nat.lt_irrefl _ (hg.registered_made name _ hn)
  intro name other view hn ho
  rcases ensure_page?_cases hn with hn | ⟨new, named, -⟩ <;>
    rcases ensure_page?_cases ho with ho | ⟨new', named', -⟩
  · exact h name other view hn ho
  · exact absurd (new' ▸ hn) (old name)
  · exact absurd (new ▸ ho) (old other)
  · exact named.trans named'.symm

theorem rebuilt_apart (n : Navigator P) (f : Factory P) : (n.rebuilt f).Apart :=
  apart_of_single n.root (n.rebuilt f).rootView (n.rebuilt_pages f)

theorem Apart.apply (h : n.Apart) (hs : n.Sound) (op : Operation P) : (op.apply n).Apart := by
  cases op.stock_step n with
  | recorded page position _ put => exact h.of_pages (put ▸ rfl)
  | kept _ _ same => exact h.of_pages same.pages
  | ensured f name _ _ same => exact (h.ensure hs.toGrounded f name).of_pages same.pages
  | rebuilt f _ same =>
    have he := (rebuilt_apart n f).ensure (hs.rebuilt f) f n.current
    exact he.of_pages same.pages

theorem Apart.after (h : n.Apart) (hs : n.Sound) (operations : List (Operation P)) :
    (n.after operations).Apart := by
  induction operations generalizing n with
  | nil => exact h
  | cons op operations ih => exact ih (h.apply hs op) (hs.apply op)

theorem start_apart {root : String} (h : start? f root = some n) : n.Apart := by
  obtain ⟨page, -, rfl⟩ := start_eq h
  exact apart_of_single root 0 (shown_same_pages ..).pages

theorem after_root (n : Navigator P) (operations : List (Operation P)) :
    (n.after operations).root = n.root := by
  induction operations generalizing n with
  | nil => rfl
  | cons op operations ih => exact (ih (op.apply n)).trans (op.apply_root n)

theorem start_root {root : String} (h : start? f root = some n) : n.root = root := by
  obtain ⟨page, -, rfl⟩ := start_eq h
  exact (shown_same_pages _ _ _).root

/-- At every moment the newest history entry names the current page; the page in view is the one
that is registered for the current name, and for no other, so the root page never stands in for
another one; and below the newest entry there is nothing transient. -/
theorem navigation_consistent {root : String} {start : Navigator P}
    (opened : start? f root = some start) (operations : List (Operation P)) :
    let n := start.after operations
    n.top.name = n.current ∧
    (n.page? n.current = some n.currentView ∧ n.page? root = some n.rootView ∧
      (∃ page, n.views[n.currentView]? = some page) ∧
      ∀ name, n.page? name = some n.currentView → name = n.current) ∧
    ∀ track ∈ n.history.tracks.tail,
      track.layer = .table ∨ ∃ title body, track.layer = .detail title body := by
  intro n
  have hs : n.Sound := (start_sound opened).after operations
  have ha : n.Apart := (start_apart opened).after (start_sound opened) operations
  have hr : n.root = root := by
    obtain ⟨page, -, rfl⟩ := start_eq opened
    exact (after_root _ operations).trans (shown_same_pages _ _ _).root
  have hc := hs.currentView_eq
  refine ⟨hs.top_current, ⟨hc, ?_, ?_, ?_⟩, ?_⟩
  · rw [← hr]
    exact hs.root_registered
  · exact ⟨_, List.getElem?_eq_getElem hs.currentView_made⟩
  · intro name hn
    exact ha name n.current n.currentView hn hc
  · intro track ht
    exact Layer.lasting_iff.mp (hs.below_settled track ht)

/-- Pages are visited under layers of all kinds, the history is drained, and at last the factory
refuses the current page and the root page alike. -/
def wandering : List (Operation CountedPage) :=
  let all := CountedPage.factory []
  let none := CountedPage.factory ["pods", "nodes", "jobs"]
  [.switchPage all "pods" (.logs "logs pods/web"), .navigate all "nodes", .showMenu,
    .switchPage all "jobs" (.detail "yaml" "kind: Job"), .goBack none, .goBack none, .goBack none,
    .dismissOverlay, .navigate none "nodes", .recordPosition "nodes" ⟨2, 0⟩,
    .switchPage all "nodes" (.detail "yaml" "kind: Node"), .navigate all "jobs", .reload none]

theorem navigation_consistent_after_refusals :
    ∃ start, start? (CountedPage.factory []) "pods" = some start ∧
      let n := start.after wandering
      (n.current, n.currentView, n.history.tracks) =
        ("pods", 0, [.table "pods", ⟨"nodes", .detail "yaml" "kind: Node"⟩]) ∧
      n.top.name = n.current ∧ n.page? n.current = some n.currentView ∧
      (∀ name, n.page? name = some n.currentView → name = n.current) ∧
      ∀ track ∈ n.history.tracks.tail,
        track.layer = .table ∨ ∃ title body, track.layer = .detail title body := by
  have opened : start? (CountedPage.factory []) "pods" = some _ := rfl
  have h := navigation_consistent opened wandering
  exact ⟨_, opened, by decide, h.1, h.2.1.1, h.2.1.2.2.2, h.2.2⟩

end Navigator
end ClusterDashboard
