import ClusterDashboard.Proofs.Navigation.Overlays
import ClusterDashboard.Proofs.Navigation.Trail
/-!
# The way back ends at the root page

Every step back makes the way one entry shorter, whichever pages can no longer be made: the entry of
a page that is refused gives way to the root page, and no entry is added. So there are as many steps
to the root page as the history has entries, and none leads on from there.
-/
namespace ClusterDashboard.Navigator

variable {P : Type} {n : Navigator P}

/-- A step back takes one entry away and ends on a page that can be shown. -/
structure StepsDown (n : Navigator P) (f : Factory P) : Prop where
  size : (n.goBack f).1.history.size = n.history.size - 1
  unmarked : (n.goBack f).1.menuShown = false
  answer : (n.goBack f).2 = (n.goBack f).1.top
  current : (n.goBack f).1.current = (n.goBack f).1.top.name
  registered : (n.goBack f).1.page? (n.goBack f).1.current = some (n.goBack f).1.currentView
  made : ∃ page, (n.goBack f).1.views[(n.goBack f).1.currentView]? = some page
  layer : (n.goBack f).1.top.layer = .table ∨
    ∃ title body, (n.goBack f).1.top.layer = .detail title body

/-- The root page is in view under nothing, and no step back leads anywhere else. -/
structure AtHome (root : String) (n : Navigator P) : Prop where
  current : n.current = root
  top : n.top = .table root
  exhausted : n.history.size = 0
  stays : ∀ f, n.goBack f = (n, .table root)

/-- An exhausted history shows the root page. -/
theorem Sound.top_of_exhausted (h : n.Sound) (empty : n.history.size = 0) :
    n.top = .table n.root := by
  rw [Navigator.top_of_exhausted (List.length_eq_zero_iff.mp empty), h.history_root]

theorem Sound.current_of_exhausted (h : n.Sound) (empty : n.history.size = 0) :
    n.current = n.root := by
  rw [← h.top_current, h.top_of_exhausted empty]
  rfl

theorem Sound.goBack_size (h : n.Sound) (f : Factory P) :
    (n.goBack f).1.history.size = n.history.size - 1 := by
  obtain ⟨-, -, ⟨-, history⟩ | ⟨barred, history⟩⟩ := n.goBack_cases f
  · rw [history]
    exact List.length_tail
  · -- the root page takes the place of an entry that is there
    obtain ⟨left, gone, below, way, -⟩ := h.barred_way barred
    have size : n.history.size = below.length + 2 := by
      rw [← length_trail, way]
      rfl
    have rest : n.history.pop.tracks.tail.length = n.history.size - 1 - 1 := by
      rw [List.length_tail]
      exact congrArg (· - 1) List.length_tail
    rw [history]
    change n.history.pop.tracks.tail.length + 1 = _
    rw [rest, size]
    rfl

theorem Sound.stepsDown (h : n.Sound) (f : Factory P) : StepsDown n f := by
  have sound : ((n.goBack f).1).Sound := h.apply (.goBack f)
  exact ⟨h.goBack_size f, (n.goBack_cases f).1, n.goBack_track f, sound.top_current.symm,
    sound.currentView_eq, ⟨_, List.getElem?_eq_getElem sound.currentView_made⟩,
    Layer.lasting_iff.mp (h.toGrounded.goBack_settled f)⟩

/-- Beyond the end of the way back is the root page. -/
theorem Sound.goBack_to_root (h : n.Sound) (f : Factory P) (short : n.history.size ≤ 1) :
    (n.goBack f).1.current = n.root := by
  have sound : ((n.goBack f).1).Sound := h.apply (.goBack f)
  have root : (n.goBack f).1.root = n.root := (Operation.goBack f).apply_root n
  rw [← root]
  apply sound.current_of_exhausted
  rw [h.goBack_size f]
  exact Nat.sub_eq_zero_of_le short

/-- A step back from the end changes nothing, unless it takes the mark of the menu away. -/
theorem Sound.goBack_exhausted (h : n.Sound) (empty : n.history.size = 0)
    (unmarked : n.menuShown = false) (f : Factory P) : n.goBack f = (n, .table n.root) := by
  have top : n.top = .table n.root := h.top_of_exhausted empty
  have none : n.history.tracks = [] := List.length_eq_zero_iff.mp empty
  have popped : n.history.pop = n.history := by
    rw [History.pop, none, List.tail_nil, ← none]
  have stepped : n.steppedBack = n := by
    rw [Navigator.steppedBack, popped, ← unmarked]
  have found : n.ensure f n.top.name = (n, true) := by
    apply ensure_registered
    rw [top]
    exact h.root_registered
  have same : (n.goBack f).1 = n := by
    rw [goBack_eq, stepped, found]
    exact if_pos h.top_current.symm
  have answer : (n.goBack f).2 = .table n.root := by
    rw [n.goBack_track, same, top]
  exact Prod.ext same answer

theorem Sound.atHome (h : n.Sound) (unmarked : n.Unmarked) (empty : n.history.size = 0) :
    AtHome n.root n where
  current := h.current_of_exhausted empty
  top := h.top_of_exhausted empty
  exhausted := empty
  stays := h.goBack_exhausted empty (unmarked (List.length_eq_zero_iff.mp empty))

theorem AtHome.after {root : String} (h : AtHome root n) (backs : List (Factory P)) :
    n.after (backs.map .goBack) = n := by
  induction backs with
  | nil => rfl
  | cons f backs ih =>
    have stays : (Operation.goBack f).apply n = n := congrArg Prod.fst (h.stays f)
    change ((Operation.goBack f).apply n).after (backs.map .goBack) = n
    rw [stays]
    exact ih

theorem Sound.size_after (h : n.Sound) (backs : List (Factory P)) :
    (n.after (backs.map .goBack)).history.size = n.history.size - backs.length := by
  induction backs generalizing n with
  | nil => rfl
  | cons f backs ih =>
    have sound : ((n.goBack f).1).Sound := h.apply (.goBack f)
    change ((n.goBack f).1.after (backs.map .goBack)).history.size = _
    rw [ih sound, h.goBack_size f, List.length_cons]
    omega

/-- Wherever the navigator has got to, each step back takes one entry away and ends on a page that
can be shown; as many steps as there are entries lead to the bare root page; and no further step
changes anything, whatever the factories refuse. -/
theorem back_comes_home {root : String} {f : Factory P} {start : Navigator P}
    (opened : start? f root = some start) (operations : List (Operation P)) :
    let n := start.after operations
    (∀ g, StepsDown n g) ∧
      ∀ backs : List (Factory P), backs.length = n.history.size →
        let m := n.after (backs.map .goBack)
        AtHome root m ∧ ∀ further : List (Factory P), m.after (further.map .goBack) = m := by
  intro n
  have sound : n.Sound := (start_sound opened).after operations
  refine ⟨sound.stepsDown, fun backs all => ?_⟩
  intro m
  have came : m = start.after (operations ++ backs.map .goBack) :=
    (Trace.run_append operations (backs.map .goBack)).symm
  have unmarked : m.Unmarked := by
    rw [came]
    exact Unmarked.after (fun _ => (start_menu opened).1) _
  have hr : m.root = root := by rw [came, after_root, start_root opened]
  have empty : m.history.size = 0 := by
    rw [sound.size_after backs, all]
    exact Nat.sub_self _
  have home : AtHome root m := hr ▸ (sound.after _).atHome unmarked empty
  exact ⟨home, home.after⟩

/-- A page is left under a text and another under the menu, and two of the pages on the way back are
torn down. -/
def strayed : List (Operation CountedPage) :=
  let all := CountedPage.factory []
  [.switchPage all "nodes" (.detail "yaml" "kind: Node"), .navigate all "jobs",
    .navigate all "events", .navigate all "jobs", .reload all, .showMenu]

/-- By the time of the way back most of the pages are refused. -/
def refusing : Factory CountedPage := CountedPage.factory ["pods", "events", "jobs"]

theorem back_comes_home_after_refusals :
    ∃ start, start? (CountedPage.factory []) "pods" = some start ∧
      let n := start.after strayed
      let m := n.after ([refusing, refusing, refusing, refusing, refusing].map .goBack)
      (n.history.size, n.trail) = (5, ["jobs", "events", "jobs", "nodes", "pods"]) ∧
        n.menuShown = true ∧ StepsDown n refusing ∧ n.Barred refusing ∧ AtHome "pods" m ∧
        m.after ([refusing, refusing].map .goBack) = m := by
  have opened : start? (CountedPage.factory []) "pods" = some _ := rfl
  obtain ⟨down, home⟩ := back_comes_home opened strayed
  obtain ⟨arrived, stays⟩ := home [refusing, refusing, refusing, refusing, refusing] (by decide)
  exact ⟨_, opened, by decide, by decide, down refusing, by decide, arrived,
    stays [refusing, refusing]⟩

end ClusterDashboard.Navigator
