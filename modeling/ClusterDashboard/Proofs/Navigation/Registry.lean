import ClusterDashboard.Proofs.Navigation.Consistency
/-!
# What registered pages have in common

What all factories of a run see to holds of every registered page, also where it depends on the name
that the page is made for. A reload needs no such past: if its own factory makes the root page, only
pages of that factory are registered afterwards.
-/
namespace ClusterDashboard

/-- Pages that the factory makes for a name, or puts back in place, belong to that name. -/
def Factory.Files {P : Type} (f : Factory P) (Q : String → P → Prop) : Prop :=
  (∀ name page, f.make name = some page → Q name page) ∧
    ∀ name position page, Q name page → Q name (f.restore position page)

theorem Factory.Yields.files {P : Type} {f : Factory P} {Q : P → Prop} (h : f.Yields Q) :
    f.Files fun _ => Q :=
  ⟨h.1, fun _ => h.2⟩

namespace Navigator

variable {P : Type} {n m : Navigator P} {f : Factory P} {Q : P → Prop} {R : String → P → Prop}

/-- Every page belongs to the name under which it is registered. -/
def Filed (R : String → P → Prop) (n : Navigator P) : Prop :=
  ∀ name view, n.page? name = some view → ∃ page, n.views[view]? = some page ∧ R name page

/-- Where one page is registered it decides. -/
theorem filed_of_single {key : String} {view : ViewId} {page : P}
    (pages : n.pages = Keyed.put [] key view) (made : n.views[view]? = some page)
    (hr : R key page) : n.Filed R := by
  intro name other hn
  obtain ⟨rfl, rfl⟩ := (page?_of_single pages).mp hn
  exact ⟨page, made, hr⟩

theorem placed_files (hf : f.Files R) {name : String} {page : P} (h : f.make name = some page) :
    R name (n.placed f name page) := by
  unfold placed
  split
  · exact hf.2 _ _ _ (hf.1 _ _ h)
  · exact hf.1 _ _ h

namespace Filed

theorem of_same (h : n.Filed R) (pages : m.pages = n.pages) (views : m.views = n.views) :
    m.Filed R := by
  intro name view hv
  rw [page?, pages] at hv
  rw [views]
  exact h name view hv

theorem ensure (h : n.Filed R) (hf : f.Files R) (key : String) : (n.ensure f key).1.Filed R := by
  intro name view hv
  rcases ensure_page?_cases hv with there | ⟨rfl, rfl, hp, page, hm⟩
  · obtain ⟨old, ho, hr⟩ := h name view there
    exact ⟨old, (ensure_grows n f key).keeps ho, hr⟩
  · rw [ensure_made hp hm]
    exact ⟨n.placed f name page, List.getElem?_concat_length, placed_files hf hm⟩

/-- A root page that is refused is the one that it was. -/
theorem rebuilt (h : n.Filed R) (hg : n.Grounded) (hf : f.Files R) : (n.rebuilt f).Filed R := by
  rcases n.rebuilt_cases f with ⟨-, number, views⟩ | ⟨page, made, number, views⟩
  · obtain ⟨root, there, hr⟩ := h n.root n.rootView hg.root_registered
    refine filed_of_single (n.rebuilt_pages f) ?_ hr
    rw [number, views]
    exact there
  · refine filed_of_single (n.rebuilt_pages f) ?_ (placed_files (n := n) hf made)
    rw [number, views]
    exact List.getElem?_concat_length

theorem apply (h : n.Filed R) (hg : n.Grounded) {op : Operation P}
    (hf : ∀ f, op.factory? = some f → f.Files R) : (op.apply n).Filed R := by
  cases op.stock_step n with
  | recorded page position _ put => exact h.of_same (put ▸ rfl) (put ▸ rfl)
  | kept _ _ same => exact h.of_same same.pages same.views
  | ensured f name asks _ same =>
    exact (h.ensure (hf f asks) name).of_same same.pages same.views
  | rebuilt f wish same =>
    subst wish
    exact ((h.rebuilt hg (hf f rfl)).ensure (hf f rfl) n.current).of_same same.pages same.views

end Filed

theorem start_filed {root : String} (hf : f.Files R) (h : start? f root = some n) : n.Filed R := by
  obtain ⟨page, hp, rfl⟩ := start_eq h
  have only : (opening root page).pages = Keyed.put [] root 0 := rfl
  have made : (opening root page).views[0]? = some page := rfl
  have same := shown_same_stock (opening root page) root .table
  exact (filed_of_single only made (hf.1 root page hp)).of_same same.pages same.views

/-- What all pages have, whatever their names. -/
def Registered (Q : P → Prop) (n : Navigator P) : Prop :=
  ∀ name view, n.page? name = some view → ∃ page, n.views[view]? = some page ∧ Q page

theorem registered_iff : n.Registered Q ↔ n.Filed fun _ => Q := Iff.rfl

namespace Registered

theorem apply (h : n.Registered Q) {op : Operation P} (hy : op.Yields Q)
    (hr : op.isReload = false) : (op.apply n).Registered Q := by
  have hn : n.Filed fun _ => Q := registered_iff.mp h
  cases op.stock_step n with
  | recorded page position _ put => exact hn.of_same (put ▸ rfl) (put ▸ rfl)
  | kept _ _ same => exact hn.of_same same.pages same.views
  | ensured f name asks _ same =>
    exact (hn.ensure (hy.factory asks).files name).of_same same.pages same.views
  | rebuilt f wish _ =>
    subst wish
    cases hr

end Registered

theorem reload_registered (hf : f.Yields Q) {page : P} (hm : f.make n.root = some page) :
    (n.reload f).Registered Q := by
  have hb : (n.rebuilt f).Filed fun _ => Q := by
    rcases n.rebuilt_cases f with ⟨refused, -, -⟩ | ⟨other, made, number, views⟩
    · cases refused.symm.trans hm
    · refine filed_of_single (n.rebuilt_pages f) ?_ (placed_files (n := n) hf.files made)
      rw [number, views]
      exact List.getElem?_concat_length
  have same := reload_same_stock n f
  exact registered_iff.mpr ((hb.ensure hf.files n.current).of_same same.pages same.views)

theorem start_registered {root : String} (hf : f.Yields Q) (h : start? f root = some n) :
    n.Registered Q :=
  registered_iff.mpr (start_filed hf.files h)

end Navigator
end ClusterDashboard
