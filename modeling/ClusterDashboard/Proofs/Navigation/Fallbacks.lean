import ClusterDashboard.Proofs.Navigation.Consistency
/-!
# Where refused pages lead

A page that can no longer be made gives way to the table of the root page: at a reload for the
current page, and on a step back for the page that the step leads to.
-/
namespace ClusterDashboard.Navigator

variable {P : Type} {n : Navigator P} {f : Factory P} {name : String}

theorem ensure_found_iff (n : Navigator P) (f : Factory P) (name : String) :
    (n.ensure f name).2 = false ↔ n.page? name = none ∧ f.make name = none := by
  cases hp : n.page? name with
  | some view => simp [ensure_registered hp]
  | none =>
    cases hf : f.make name with
    | none => simp [ensure_refused hp hf]
    | some page => simp [ensure_made hp hf]

theorem rebuilt_page? (n : Navigator P) (f : Factory P) (name : String) :
    (n.rebuilt f).page? name = none ↔ name ≠ n.root := by
  rw [Option.eq_none_iff_forall_ne_some]
  simp [page?_of_single (n.rebuilt_pages f)]

theorem rebuilt_menuShown (n : Navigator P) (f : Factory P) :
    (n.rebuilt f).menuShown = n.menuShown := by
  cases hf : f.make n.root <;> simp [rebuilt, make_eq, hf]

/-- A reload cannot make the current page anew. -/
def Unmade (n : Navigator P) (f : Factory P) : Prop :=
  n.current ≠ n.root ∧ f.make n.current = none

instance (n : Navigator P) (f : Factory P) : Decidable (n.Unmade f) :=
  inferInstanceAs (Decidable (_ ∧ _))

theorem unmade_iff (n : Navigator P) (f : Factory P) :
    ((n.rebuilt f).ensure f (n.rebuilt f).current).2 = false ↔ n.Unmade f := by
  rw [ensure_found_iff, rebuilt_current, rebuilt_page?, Unmade]

/-- What a reload does to the way through the pages. -/
theorem reload_cases (n : Navigator P) (f : Factory P) :
    (n.reload f).menuShown = n.menuShown ∧
      (¬n.Unmade f ∧ (n.reload f).current = n.current ∧ (n.reload f).history = n.history ∨
        n.Unmade f ∧ (n.reload f).current = n.root ∧
          (n.reload f).history = n.history.replaceTop (.table n.root)) := by
  have hc := ensure_same_course (n.rebuilt f) f (n.rebuilt f).current
  have current := hc.current.trans (rebuilt_current n f)
  have history := hc.history.trans (rebuilt_history n f)
  have menuShown := hc.menuShown.trans (rebuilt_menuShown n f)
  have root := hc.root.trans (rebuilt_root n f)
  rw [reload_eq, ← unmade_iff]
  dsimp only
  split
  · next found => exact ⟨menuShown, .inl ⟨by simp [found], current, history⟩⟩
  · next refused =>
    refine ⟨menuShown, .inr ⟨Bool.not_eq_true _ ▸ refused, root, ?_⟩⟩
    rw [← history, ← root]
    rfl

/-- A step back leads to a page that is gone and cannot be made anew. -/
def Barred (n : Navigator P) (f : Factory P) : Prop :=
  n.page? n.steppedBack.top.name = none ∧ f.make n.steppedBack.top.name = none

instance (n : Navigator P) (f : Factory P) : Decidable (n.Barred f) :=
  inferInstanceAs (Decidable (_ ∧ _))

/-- What a step back does to the way through the pages. -/
theorem goBack_cases (n : Navigator P) (f : Factory P) :
    (n.goBack f).1.menuShown = false ∧ (n.goBack f).1.current = (n.goBack f).1.top.name ∧
      (¬n.Barred f ∧ (n.goBack f).1.history = n.history.pop ∨
        n.Barred f ∧ (n.goBack f).1.history = n.history.pop.replaceTop (.table n.root)) := by
  have hc := ensure_same_course n.steppedBack f n.steppedBack.top.name
  have hb : (n.steppedBack.ensure f n.steppedBack.top.name).2 = false ↔ n.Barred f :=
    ensure_found_iff _ _ _
  have followed (m : Navigator P) : m.followTop.menuShown = m.menuShown ∧
      m.followTop.current = m.followTop.top.name ∧ m.followTop.history = m.history := by
    rw [followTop]
    split
    · next h => exact ⟨rfl, h, rfl⟩
    · exact ⟨rfl, rfl, rfl⟩
  rw [goBack_eq, ← hb]
  dsimp only
  obtain ⟨menuShown, current, history⟩ := followed
    ((n.steppedBack.ensure f n.steppedBack.top.name).1.withReturn
      (n.steppedBack.ensure f n.steppedBack.top.name).2)
  refine ⟨menuShown.trans ?_, current, ?_⟩
  · cases (n.steppedBack.ensure f n.steppedBack.top.name).2 <;> exact hc.menuShown
  · rw [history]
    cases (n.steppedBack.ensure f n.steppedBack.top.name).2 with
    | true => exact .inl ⟨Bool.noConfusion, hc.history⟩
    | false =>
      refine .inr ⟨rfl, ?_⟩
      rw [withReturn, hc.history, hc.root]
      rfl

/-- What showing a page does to the way through the pages. -/
theorem shown_cases (n : Navigator P) (target : String) (layer : Layer) :
    (n.shown target layer).menuShown = false ∧ (n.shown target layer).current = target ∧
      (n.current = target ∧
          (n.shown target layer).history = n.history.replaceTop ⟨target, layer⟩ ∨
        n.current ≠ target ∧
          (n.shown target layer).history = n.history.settleTop.push ⟨target, layer⟩) := by
  rw [shown]
  split
  · next h => exact ⟨rfl, h, .inl ⟨h, rfl⟩⟩
  · next h => exact ⟨rfl, rfl, .inr ⟨h, rfl⟩⟩

end ClusterDashboard.Navigator
