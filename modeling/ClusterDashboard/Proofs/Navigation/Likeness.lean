import ClusterDashboard.Proofs.Navigation.Consistency
/-!
# Navigators that go the same way

Where an operation leads, and what it answers, depends neither on the pages nor on what is still to
be announced. Navigators that differ in these alone go the same way under the same operations, and
make the same pages on it.
-/
namespace ClusterDashboard.Navigator

variable {P α : Type} {n m k : Navigator P} {r : P → α}

/-- The course of navigation, without the pages and what is still to be announced. -/
def course (n : Navigator P) : Navigator Unit :=
  { n with views := n.views.map fun _ => (), notices := [] }

theorem course_sound (n : Navigator P) : n.course.Sound ↔ n.Sound :=
  ⟨fun h => h.of_same_course rfl rfl rfl rfl rfl (by simp [course]),
    fun h => h.of_same_course rfl rfl rfl rfl rfl (by simp [course])⟩

theorem Sound.of_course (h : n.Sound) (course : m.course = n.course) : m.Sound := by
  rw [← m.course_sound, course]
  exact n.course_sound.mpr h

/-- What an operation gives back. -/
inductive Answer where
  | entry (track : Track)
  | changed (done : Bool)
  | nothing
  deriving DecidableEq, Repr

def Operation.answer (n : Navigator P) : Operation P → Answer
  | .switchPage f name layer => .entry (n.switchPage f name layer).2
  | .navigate f name => .entry (n.navigate f name).2
  | .goBack f => .entry (n.goBack f).2
  | .showMenu => .changed n.showMenu.2
  | .hideMenu => .changed n.hideMenu.2
  | .dismissOverlay => .changed n.dismissOverlay.2
  | .reload _ | .recordPosition _ _ => .nothing

/-- The answers to one operation after the other. -/
abbrev answers (n : Navigator P) (operations : List (Operation P)) : List Answer :=
  Trace.gather (fun n op => [op.answer n]) Operation.apply n operations

/-- The navigators stand at the same point, and the same can be read off their pages. -/
inductive Alike (r : P → α) (n : Navigator P) : Navigator P → Prop where
  | intro (views : List P) (notices : List String) (same : views.map r = n.views.map r) :
    Alike r n { n with views, notices }

namespace Alike

theorem refl (r : P → α) (n : Navigator P) : Alike r n n := ⟨n.views, n.notices, rfl⟩

theorem trans (h : Alike r n m) (hk : Alike r m k) : Alike r n k := by
  obtain ⟨views, notices, same⟩ := h
  obtain ⟨later, left, again⟩ := hk
  exact ⟨later, left, again.trans same⟩

theorem readings (h : Alike r n m) : m.views.map r = n.views.map r := by
  obtain ⟨views, notices, same⟩ := h
  exact same

theorem length (h : Alike r n m) : m.views.length = n.views.length := by
  have counted := congrArg List.length h.readings
  rwa [List.length_map, List.length_map] at counted

theorem course (h : Alike r n m) : m.course = n.course := by
  have counted := h.length
  obtain ⟨views, notices, same⟩ := h
  change views.length = _ at counted
  simp [Navigator.course, List.map_const', counted]

theorem of_course (course : m.course = n.course) (same : m.views.map r = n.views.map r) :
    Alike r n m := by
  have left : m = { n with views := m.views, notices := m.notices } := by
    cases m
    cases n
    simp_all [Navigator.course]
  rw [left]
  exact ⟨m.views, m.notices, same⟩

theorem ensure (h : Alike r n m) (f : Factory P) (name : String) :
    (m.ensure f name).2 = (n.ensure f name).2 ∧ Alike r (n.ensure f name).1 (m.ensure f name).1 := by
  have counted := h.length
  obtain ⟨views, notices, same⟩ := h
  change views.length = _ at counted
  have hm : page? { n with views, notices } name = n.page? name := rfl
  cases hp : n.page? name with
  | some view =>
    rw [ensure_registered hp, ensure_registered (hm.trans hp)]
    exact ⟨rfl, views, notices, same⟩
  | none =>
    cases hf : f.make name with
    | none =>
      rw [ensure_refused hp hf, ensure_refused (hm.trans hp) hf]
      exact ⟨rfl, views, notices, same⟩
    | some page =>
      -- the page is the same one, and so is its number
      rw [ensure_made hp hf, ensure_made (hm.trans hp) hf, counted]
      refine ⟨rfl, views ++ [n.placed f name page], notices, ?_⟩
      rw [List.map_append, List.map_append, same]

theorem landing (h : Alike r n m) (f : Factory P) (name : String) :
    m.landing f name = n.landing f name := by
  have found := (h.ensure f name).1
  obtain ⟨views, notices, same⟩ := h
  rw [Navigator.landing, Navigator.landing, found]

theorem root (h : Alike r n m) : m.root = n.root := by
  obtain ⟨views, notices, same⟩ := h
  rfl

theorem current (h : Alike r n m) : m.current = n.current := by
  obtain ⟨views, notices, same⟩ := h
  rfl

theorem top (h : Alike r n m) : m.top = n.top := by
  obtain ⟨views, notices, same⟩ := h
  rfl

theorem moved (h : Alike r n m) (current : String) :
    Alike r { n with current } { m with current } := by
  obtain ⟨views, notices, same⟩ := h
  exact ⟨views, notices, same⟩

theorem notify (h : Alike r n m) : Alike r n.notify m.notify := by
  obtain ⟨views, notices, same⟩ := h
  exact ⟨views, notices ++ [n.current], same⟩

theorem shown (h : Alike r n m) (target : String) (layer : Layer) :
    Alike r (n.shown target layer) (m.shown target layer) := by
  obtain ⟨views, notices, same⟩ := h
  by_cases stays : n.current = target
  · rw [Navigator.shown, Navigator.shown, if_pos stays, if_pos stays]
    exact ⟨views, notices, same⟩
  · rw [Navigator.shown, Navigator.shown, if_neg stays, if_neg stays]
    exact ⟨views, notices ++ [target], same⟩

theorem switchPage (h : Alike r n m) (f : Factory P) (name : String) (layer : Layer) :
    Alike r (n.switchPage f name layer).1 (m.switchPage f name layer).1 := by
  rw [switchPage_eq, switchPage_eq, h.landing]
  exact (h.ensure f name).2.shown (n.landing f name) layer

theorem steppedBack (h : Alike r n m) : Alike r n.steppedBack m.steppedBack := by
  obtain ⟨views, notices, same⟩ := h
  exact ⟨views, notices, same⟩

theorem withReturn (h : Alike r n m) (found : Bool) :
    Alike r (n.withReturn found) (m.withReturn found) := by
  obtain ⟨views, notices, same⟩ := h
  cases found <;> exact ⟨views, notices, same⟩

theorem followTop (h : Alike r n m) : Alike r n.followTop m.followTop := by
  rw [Navigator.followTop, Navigator.followTop, h.top]
  by_cases hc : n.current = n.top.name
  · rw [if_pos hc, if_pos (h.current.trans hc)]
    exact h
  · rw [if_neg hc, if_neg fun hm => hc (h.current.symm.trans hm)]
    exact (h.moved n.top.name).notify

theorem goBack (h : Alike r n m) (f : Factory P) : Alike r (n.goBack f).1 (m.goBack f).1 := by
  obtain ⟨found, made⟩ := h.steppedBack.ensure f n.steppedBack.top.name
  rw [goBack_eq, goBack_eq, h.steppedBack.top]
  dsimp only
  rw [found]
  exact (made.withReturn _).followTop

theorem rebuilt (h : Alike r n m) (f : Factory P) : Alike r (n.rebuilt f) (m.rebuilt f) := by
  have counted := h.length
  obtain ⟨views, notices, same⟩ := h
  change views.length = _ at counted
  cases hf : f.make n.root with
  | none =>
    simp only [Navigator.rebuilt, make_eq, hf, Option.map_none]
    exact ⟨views, notices, same⟩
  | some page =>
    simp only [Navigator.rebuilt, make_eq, hf, Option.map_some, counted]
    refine ⟨views ++ [n.placed f n.root page], notices, ?_⟩
    rw [List.map_append, List.map_append, same]

theorem reload (h : Alike r n m) (f : Factory P) : Alike r (n.reload f) (m.reload f) := by
  obtain ⟨found, made⟩ := (h.rebuilt f).ensure f (n.rebuilt f).current
  rw [reload_eq, reload_eq, (h.rebuilt f).current]
  dsimp only
  rw [found, made.root]
  cases ((n.rebuilt f).ensure f (n.rebuilt f).current).2 with
  | true => exact made.notify
  | false =>
    exact ((made.withReturn false).moved ((n.rebuilt f).ensure f (n.rebuilt f).current).1.root).notify

theorem showMenu (h : Alike r n m) :
    m.showMenu.2 = n.showMenu.2 ∧ Alike r n.showMenu.1 m.showMenu.1 := by
  obtain ⟨views, notices, same⟩ := h
  rw [Navigator.showMenu, Navigator.showMenu]
  dsimp only
  split <;> exact ⟨rfl, views, notices, same⟩

theorem hideMenu (h : Alike r n m) :
    m.hideMenu.2 = n.hideMenu.2 ∧ Alike r n.hideMenu.1 m.hideMenu.1 := by
  obtain ⟨views, notices, same⟩ := h
  rw [Navigator.hideMenu, Navigator.hideMenu]
  dsimp only
  split
  · exact ⟨rfl, views, notices, same⟩
  · have top : Navigator.top { n with views, notices, menuShown := false } =
        Navigator.top { n with menuShown := false } := rfl
    rw [top]
    split <;> exact ⟨rfl, views, notices, same⟩

theorem dismissOverlay (h : Alike r n m) :
    m.dismissOverlay.2 = n.dismissOverlay.2 ∧
      Alike r n.dismissOverlay.1 m.dismissOverlay.1 := by
  have top := h.top
  obtain ⟨views, notices, same⟩ := h
  rw [Navigator.dismissOverlay, Navigator.dismissOverlay, top]
  split <;> exact ⟨rfl, views, notices, same⟩

theorem apply (h : Alike r n m) (op : Operation P) :
    op.answer m = op.answer n ∧ Alike r (op.apply n) (op.apply m) := by
  have switched (f : Factory P) (name : String) (layer : Layer) :
      (m.switchPage f name layer).2 = (n.switchPage f name layer).2 := by
    rw [switchPage_track, switchPage_track, (h.switchPage f name layer).top]
  cases op with
  | switchPage f name layer =>
    exact ⟨congrArg Answer.entry (switched f name layer), h.switchPage f name layer⟩
  | navigate f name =>
    exact ⟨congrArg Answer.entry (switched f name .table), h.switchPage f name .table⟩
  | goBack f =>
    have back : (m.goBack f).2 = (n.goBack f).2 := by
      rw [goBack_track, goBack_track, (h.goBack f).top]
    exact ⟨congrArg Answer.entry back, h.goBack f⟩
  | showMenu => exact ⟨congrArg Answer.changed h.showMenu.1, h.showMenu.2⟩
  | hideMenu => exact ⟨congrArg Answer.changed h.hideMenu.1, h.hideMenu.2⟩
  | dismissOverlay => exact ⟨congrArg Answer.changed h.dismissOverlay.1, h.dismissOverlay.2⟩
  | reload f => exact ⟨rfl, h.reload f⟩
  | recordPosition page position =>
    obtain ⟨views, notices, same⟩ := h
    exact ⟨rfl, views, notices, same⟩

end Alike
end ClusterDashboard.Navigator
