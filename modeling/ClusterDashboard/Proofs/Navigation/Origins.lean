import ClusterDashboard.Proofs.Navigation.Consistency
/-!
# Pages that know where they come from

A noted page carries the name that it was made for and the positions that it was put back to, in
order. The notes do not bear on navigation: without them the run is the one it would have been
anyway.
-/
namespace ClusterDashboard

/-- A page with the name that it was made for and every position that it was put back to. -/
structure Noted (P : Type) where
  page : P
  name : String
  restored : List Position := []

/-- The factory takes down what it does. -/
def Factory.noted {P : Type} (f : Factory P) : Factory (Noted P) where
  make name := (f.make name).map fun page => { page, name }
  restore position v :=
    { v with page := f.restore position v.page, restored := v.restored ++ [position] }

namespace Navigator

variable {P : Type} {n : Navigator (Noted P)} {f : Factory P} {name root : String}

def Operation.noted : Operation P → Operation (Noted P)
  | .switchPage f name layer => .switchPage f.noted name layer
  | .navigate f name => .navigate f.noted name
  | .goBack f => .goBack f.noted
  | .showMenu => .showMenu
  | .hideMenu => .hideMenu
  | .dismissOverlay => .dismissOverlay
  | .reload f => .reload f.noted
  | .recordPosition page position => .recordPosition page position

/-- The navigator without the notes. -/
def plain (n : Navigator (Noted P)) : Navigator P := { n with views := n.views.map (·.page) }

theorem noted_make_none : f.noted.make name = none ↔ f.make name = none := Option.map_eq_none_iff

theorem noted_make_some {v : Noted P} (h : f.noted.make name = some v) :
    ∃ page, f.make name = some page ∧ v = { page, name } := by
  obtain ⟨page, hf, rfl⟩ := Option.map_eq_some_iff.mp h
  exact ⟨page, hf, rfl⟩

/-- A new page is put back once if a position is remembered for its name, and else not at all. -/
theorem placed_noted (n : Navigator (Noted P)) (f : Factory P) (name : String) (page : P) :
    n.placed f.noted name { page, name } =
      { page := n.plain.placed f name page, name, restored := (n.positions.get? name).toList } := by
  have same : n.plain.positions = n.positions := rfl
  rw [placed, placed, same]
  cases n.positions.get? name <;> rfl

theorem Operation.noted_factory (op : Operation P) :
    op.noted.factory? = op.factory?.map Factory.noted := by
  cases op <;> rfl

theorem Operation.noted_asks {op : Operation P} {g : Factory (Noted P)}
    (asks : op.noted.factory? = some g) : ∃ f, op.factory? = some f ∧ g = f.noted := by
  rw [op.noted_factory] at asks
  obtain ⟨f, hf, rfl⟩ := Option.map_eq_some_iff.mp asks
  exact ⟨f, hf, rfl⟩

theorem Operation.noted_isReload (op : Operation P) : op.noted.isReload = op.isReload := by
  cases op <;> rfl

theorem plain_ensure (n : Navigator (Noted P)) (f : Factory P) (name : String) :
    (n.ensure f.noted name).1.plain = (n.plain.ensure f name).1 ∧
      (n.ensure f.noted name).2 = (n.plain.ensure f name).2 := by
  have there : n.plain.page? name = n.page? name := rfl
  cases hp : n.page? name with
  | some view =>
    rw [ensure_registered hp, ensure_registered (there.trans hp)]
    exact ⟨rfl, rfl⟩
  | none =>
    cases hf : f.make name with
    | none =>
      rw [ensure_refused hp (noted_make_none.mpr hf), ensure_refused (there.trans hp) hf]
      exact ⟨rfl, rfl⟩
    | some page =>
      have made : f.noted.make name = some { page, name } := congrArg (Option.map _) hf
      rw [ensure_made hp made, ensure_made (there.trans hp) hf, placed_noted]
      simp [plain]

theorem plain_shown (n : Navigator (Noted P)) (target : String) (layer : Layer) :
    (n.shown target layer).plain = n.plain.shown target layer := apply_ite plain _ _ _

theorem plain_switchPage (n : Navigator (Noted P)) (f : Factory P) (name : String) (layer : Layer) :
    (n.switchPage f.noted name layer).1.plain = (n.plain.switchPage f name layer).1 := by
  obtain ⟨ensured, found⟩ := plain_ensure n f name
  have target : n.landing f.noted name = n.plain.landing f name := by
    rw [landing, landing, found]
    rfl
  rw [switchPage_eq, switchPage_eq, plain_shown, ensured, target]

theorem plain_goBack (n : Navigator (Noted P)) (f : Factory P) :
    (n.goBack f.noted).1.plain = (n.plain.goBack f).1 := by
  have follows (m : Navigator (Noted P)) : m.followTop.plain = m.plain.followTop :=
    apply_ite plain _ _ _
  have returns (m : Navigator (Noted P)) (found : Bool) :
      (m.withReturn found).plain = m.plain.withReturn found := by
    cases found <;> rfl
  obtain ⟨ensured, found⟩ := plain_ensure n.steppedBack f n.steppedBack.top.name
  rw [goBack_eq, goBack_eq]
  dsimp only
  rw [follows, returns, ensured, found]
  rfl

theorem plain_rebuilt (n : Navigator (Noted P)) (f : Factory P) :
    (n.rebuilt f.noted).plain = n.plain.rebuilt f := by
  have root : n.plain.root = n.root := rfl
  cases hf : f.make n.root with
  | none =>
    simp only [rebuilt, make_eq, root, hf, noted_make_none.mpr hf]
    rfl
  | some page =>
    have made : f.noted.make n.root = some { page, name := n.root } := congrArg (Option.map _) hf
    simp only [rebuilt, make_eq, root, hf, made, Option.map_some, placed_noted]
    simp [plain]

theorem plain_reload (n : Navigator (Noted P)) (f : Factory P) :
    (n.reload f.noted).plain = n.plain.reload f := by
  obtain ⟨ensured, found⟩ := plain_ensure (n.rebuilt f.noted) f (n.rebuilt f.noted).current
  have current : (n.rebuilt f.noted).current = (n.plain.rebuilt f).current := by
    rw [rebuilt_current, rebuilt_current]
    rfl
  rw [plain_rebuilt, current] at ensured found
  rw [reload_eq, reload_eq]
  dsimp only
  rw [← ensured, ← found, current]
  split <;> rfl

theorem plain_showMenu (n : Navigator (Noted P)) :
    n.showMenu.1.plain = n.plain.showMenu.1 := by
  have mark : n.plain.menuShown = n.menuShown := rfl
  rw [showMenu, showMenu, mark]
  split <;> rfl

theorem plain_hideMenu (n : Navigator (Noted P)) :
    n.hideMenu.1.plain = n.plain.hideMenu.1 := by
  have mark : n.plain.menuShown = n.menuShown := rfl
  have top : Navigator.top { n.plain with menuShown := false } =
      Navigator.top { n with menuShown := false } := rfl
  rw [hideMenu, hideMenu, mark]
  split
  · rfl
  · dsimp only
    rw [top]
    split <;> rfl

theorem plain_dismissOverlay (n : Navigator (Noted P)) :
    n.dismissOverlay.1.plain = n.plain.dismissOverlay.1 := by
  have top : n.plain.top = n.top := rfl
  rw [dismissOverlay, dismissOverlay, top]
  split <;> rfl

/-- The notes do not bear on what an operation does. -/
theorem plain_apply (n : Navigator (Noted P)) (op : Operation P) :
    (op.noted.apply n).plain = op.apply n.plain := by
  cases op with
  | switchPage f name layer => exact plain_switchPage n f name layer
  | navigate f name => exact plain_switchPage n f name .table
  | goBack f => exact plain_goBack n f
  | showMenu => exact plain_showMenu n
  | hideMenu => exact plain_hideMenu n
  | dismissOverlay => exact plain_dismissOverlay n
  | reload f => exact plain_reload n f
  | recordPosition page position => rfl

/-- What comes of a navigator by one operation after the other, with notes taken. -/
abbrev noting (n : Navigator (Noted P)) (operations : List (Operation P)) : Navigator (Noted P) :=
  n.after (operations.map .noted)

theorem plain_noting (n : Navigator (Noted P)) (operations : List (Operation P)) :
    (n.noting operations).plain = n.plain.after operations := by
  induction operations generalizing n with
  | nil => rfl
  | cons op operations ih =>
    change ((op.noted.apply n).noting operations).plain = (op.apply n.plain).after operations
    rw [ih, plain_apply]

theorem start_noted (h : start? f.noted root = some n) : ∃ page, f.make root = some page ∧
    n = (opening root { page, name := root }).shown root .table := by
  obtain ⟨v, hv, rfl⟩ := start_eq h
  obtain ⟨page, hf, rfl⟩ := noted_make_some hv
  exact ⟨page, hf, rfl⟩

theorem start_plain (h : start? f.noted root = some n) : start? f root = some n.plain := by
  obtain ⟨page, hf, rfl⟩ := start_noted h
  obtain ⟨m, opened⟩ : ∃ m, start? f root = some m := ⟨_, congrArg (Option.map _) hf⟩
  obtain ⟨other, ho, rfl⟩ := start_eq opened
  obtain rfl : page = other := Option.some.inj (hf.symm.trans ho)
  rw [opened, plain_shown]
  rfl

end Navigator
end ClusterDashboard
