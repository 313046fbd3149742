import ClusterDashboard.Proofs.Navigation.Fallbacks
import Mathlib.Data.List.Chain
/-!
# The way back through the pages

The names in the history, newest first, are the way back. Neighbours on it differ, but where the
root page was put in the place of a page that could not be made, just above another entry of the
root page. Such a pair stays until the way back gets shorter than it was. A step back leaves the
current page unless it ends on the same page, or on the root page in the place of another.
-/
namespace ClusterDashboard.Navigator

variable {P : Type} {n m : Navigator P} {op : Operation P} {name : String} {names : List String}
  {depth : Nat}

def trail (n : Navigator P) : List String := n.history.tracks.map Track.name

/-- Two neighbours have this name; so many names are left from the upper one on. -/
inductive DoubledAt (name : String) (depth : Nat) : List String → Prop where
  | here {below : List String} (h : below.length + 2 = depth) :
    DoubledAt name depth (name :: name :: below)
  | beneath {above : String} {names : List String} (h : DoubledAt name depth names) :
    DoubledAt name depth (above :: names)

/-- The root page is put in the place of another, just above an entry of the root page. -/
def Operation.RepeatsRoot (n : Navigator P) : Operation P → Prop
  | .reload f => n.Unmade f ∧ n.trail[1]? = some n.root
  | .goBack f => n.Barred f ∧ n.trail[2]? = some n.root
  | _ => False

instance (n : Navigator P) : (op : Operation P) → Decidable (op.RepeatsRoot n)
  | .reload f => inferInstanceAs (Decidable (n.Unmade f ∧ _))
  | .goBack f => inferInstanceAs (Decidable (n.Barred f ∧ _))
  | .switchPage .. | .navigate .. | .showMenu | .hideMenu | .dismissOverlay
  | .recordPosition .. => .isFalse id

/-- The root page was repeated on a way back of this length, which was never shorter since. -/
def RepeatedAt (depth : Nat) (start : Navigator P) (operations : List (Operation P)) : Prop :=
  Trace.Since (fun n op => op.RepeatsRoot n ∧ (op.apply n).history.size = depth)
    (fun n op => depth ≤ (op.apply n).history.size) Operation.apply start operations

instance (depth : Nat) (start : Navigator P) (operations : List (Operation P)) :
    Decidable (RepeatedAt depth start operations) :=
  inferInstanceAs (Decidable (Trace.Since ..))

theorem doubledAt_cons {above : String} : DoubledAt name depth (above :: names) ↔
    DoubledAt name depth names ∨
      above = name ∧ names.head? = some name ∧ names.length + 1 = depth := by
  constructor
  · intro h
    cases h with
    | here hd => exact .inr ⟨rfl, rfl, hd⟩
    | beneath h => exact .inl h
  · rintro (h | ⟨rfl, hh, hd⟩)
    · exact .beneath h
    · obtain ⟨below, rfl⟩ := List.head?_eq_some_iff.mp hh
      exact .here hd

theorem DoubledAt.le (h : DoubledAt name depth names) : depth ≤ names.length := by
  induction h with
  | here hd => simp [← hd]
  | beneath _ ih => exact Nat.le_succ_of_le ih

theorem not_doubledAt_nil : ¬DoubledAt name depth [] := nofun

/-- Pairs go when the way back gets too short for them. -/
theorem doubledAt_tail (names : List String) : DoubledAt name depth names.tail ↔
    DoubledAt name depth names ∧ depth ≤ names.tail.length := by
  cases names with
  | nil => simp [not_doubledAt_nil]
  | cons above names =>
    rw [List.tail_cons, doubledAt_cons]
    constructor
    · intro h
      exact ⟨.inl h, h.le⟩
    · rintro ⟨h | ⟨-, -, hd⟩, hl⟩
      · exact h
      · omega

/-- With another name in place of the uppermost, one pair more may come about. -/
theorem doubledAt_replace {gone : String} (other : gone ≠ name) :
    DoubledAt name depth (name :: names) ↔
      names.head? = some name ∧ names.length + 1 = depth ∨
        DoubledAt name depth (gone :: names) ∧ depth ≤ names.length + 1 := by
  have old : DoubledAt name depth (gone :: names) ↔ DoubledAt name depth names := by
    simp [doubledAt_cons, other]
  rw [old, doubledAt_cons, and_iff_left_of_imp fun hd => Nat.le_succ_of_le hd.le, or_comm]
  simp

theorem isChain_iff : names.IsChain (· ≠ ·) ↔ ∀ name depth, ¬DoubledAt name depth names := by
  induction names with
  | nil => simp [not_doubledAt_nil]
  | cons above names ih =>
    rw [List.isChain_cons, ih]
    simp only [doubledAt_cons, not_or]
    constructor
    · rintro ⟨hn, hd⟩ name depth
      refine ⟨hd name depth, ?_⟩
      rintro ⟨rfl, hh, -⟩
      exact hn above hh rfl
    · intro h
      refine ⟨?_, fun name depth => (h name depth).1⟩
      rintro name hh rfl
      exact (h above _).2 ⟨rfl, hh, rfl⟩

theorem length_trail (n : Navigator P) : n.trail.length = n.history.size := List.length_map ..

theorem trail_eq (h : n.history = m.history) : n.trail = m.trail := by rw [trail, h, trail]

theorem trail_replaceTop (track : Track) (h : m.history = n.history.replaceTop track) :
    m.trail = track.name :: n.trail.tail := by
  rw [trail, h, trail, History.replaceTop, List.map_cons, List.map_tail]

theorem trail_retop (n : Navigator P) (menuShown : Bool) (layer : Layer) :
    trail { n with menuShown, history := n.history.replaceTop ⟨n.current, layer⟩ } =
      n.current :: n.trail.tail := trail_replaceTop ⟨n.current, layer⟩ rfl

theorem trail_pop (h : m.history = n.history.pop) :
    m.trail = n.trail.tail := by
  rw [trail, h, trail, History.pop, List.map_tail]

theorem trail_visited {track : Track} (h : m.history = n.history.settleTop.push track) :
    m.trail = track.name :: n.trail := by
  rw [trail, h, trail, History.push, History.settleTop, List.map_cons]
  cases n.history.tracks <;> rfl

/-- What an operation does to the way back. -/
inductive TrailStep (n m : Navigator P) (op : Operation P) : Prop where
  | kept (spared : ¬op.RepeatsRoot n) (same : m.trail = n.trail)
  | retopped (spared : ¬op.RepeatsRoot n) (top : m.trail = n.current :: n.trail.tail)
  | visited (spared : ¬op.RepeatsRoot n) (name : String) (other : n.current ≠ name)
    (new : m.trail = name :: n.trail)
  | stepped (spared : ¬op.RepeatsRoot n) (back : m.trail = n.trail.tail)
  | unmade (below : List String) (way : n.trail = n.current :: below) (other : n.current ≠ n.root)
    (repeats : op.RepeatsRoot n ↔ below.head? = some n.root) (top : m.trail = n.root :: below)
  | barred (left gone : String) (below : List String) (way : n.trail = left :: gone :: below)
    (other : gone ≠ n.root) (repeats : op.RepeatsRoot n ↔ below.head? = some n.root)
    (back : m.trail = n.root :: below)

/-- The way back begins with the current page; without one the root page is current. -/
theorem Sound.trail_cases (h : n.Sound) :
    n.trail = [] ∧ n.current = n.root ∨ ∃ below, n.trail = n.current :: below := by
  have current := h.top_current
  rw [top, History.top] at current
  cases ht : n.history.tracks with
  | nil =>
    rw [ht] at current
    exact .inl ⟨by rw [trail, ht]; rfl, current.symm.trans h.history_root⟩
  | cons track below =>
    rw [ht] at current
    exact .inr ⟨below.map Track.name, by rw [trail, ht, ← current]; rfl⟩

theorem Grounded.steppedBack_name (h : n.Grounded) :
    n.steppedBack.top.name = n.trail.tail.head?.getD n.root := by
  change (n.history.tracks.tail.headD (.table n.history.root)).name = _
  rw [trail, ← List.map_tail, h.history_root]
  cases n.history.tracks.tail <;> rfl

/-- A step back is barred by another page than the root page. -/
theorem Sound.barred_way (h : n.Sound) {f : Factory P} (barred : n.Barred f) :
    ∃ left gone below, n.trail = left :: gone :: below ∧ gone ≠ n.root := by
  have unregistered := barred.1
  rw [h.toGrounded.steppedBack_name] at unregistered
  have other : n.trail.tail.head?.getD n.root ≠ n.root := by
    intro hr
    rw [hr, h.root_registered] at unregistered
    cases unregistered
  rcases ht : n.trail with _ | ⟨left, _ | ⟨gone, below⟩⟩
  · simp [ht] at other
  · simp [ht] at other
  · exact ⟨left, gone, below, rfl, by simpa [ht] using other⟩

theorem switchPage_trail (n : Navigator P) (f : Factory P) (name : String) (layer : Layer)
    (spared : ¬op.RepeatsRoot n) : TrailStep n (n.switchPage f name layer).1 op := by
  have hc := ensure_same_course n f name
  rw [switchPage_eq]
  obtain ⟨-, -, ⟨same, history⟩ | ⟨other, history⟩⟩ :=
    (n.ensure f name).1.shown_cases (n.landing f name) layer
  · rw [hc.history, ← same, hc.current] at history
    rw [← same, hc.current]
    exact .retopped spared (trail_replaceTop _ history)
  · rw [hc.history] at history
    rw [hc.current] at other
    exact .visited spared _ other (trail_visited history)

/-- The root page is registered at all times, so it is never the page that is refused. -/
theorem Sound.trail_step (h : n.Sound) (op : Operation P) : TrailStep n (op.apply n) op := by
  cases op with
  | switchPage f name layer => exact switchPage_trail n f name layer id
  | navigate f name => exact switchPage_trail n f name .table id
  | goBack f =>
    obtain ⟨-, -, ⟨free, history⟩ | ⟨barred, history⟩⟩ := n.goBack_cases f
    · exact .stepped (fun hr => free hr.1) (trail_pop history)
    · obtain ⟨left, gone, below, way, other⟩ := h.barred_way barred
      refine .barred left gone below way other ?_ ?_
      · rw [Operation.RepeatsRoot, and_iff_right barred, way, List.head?_eq_getElem?]
        rfl
      · have back : ((n.goBack f).1).trail = n.root :: n.trail.tail.tail := by
          rw [trail, history, trail, ← List.map_tail, ← List.map_tail]
          rfl
        rw [Operation.apply, back, way]
        rfl
  | showMenu =>
    rw [Operation.apply, showMenu]
    split
    · exact .kept id rfl
    · exact .retopped id (trail_retop n _ _)
  | hideMenu =>
    rw [Operation.apply, hideMenu]
    split
    · exact .kept id rfl
    · dsimp only
      split
      · exact .retopped id (trail_retop n _ _)
      · exact .kept id rfl
  | dismissOverlay =>
    rw [Operation.apply, dismissOverlay]
    split
    · exact .kept id rfl
    · exact .retopped id (trail_retop n _ _)
  | reload f =>
    obtain ⟨-, ⟨made, -, history⟩ | ⟨unmade, -, history⟩⟩ := n.reload_cases f
    · exact .kept (fun hr => made hr.1) (trail_eq history)
    · rcases h.trail_cases with ⟨-, current⟩ | ⟨below, way⟩
      · exact absurd current unmade.1
      · refine .unmade below way unmade.1 ?_ ?_
        · rw [Operation.RepeatsRoot, and_iff_right unmade, way, List.head?_eq_getElem?]
          rfl
        · rw [Operation.apply, trail_replaceTop _ history, way]
          rfl
  | recordPosition page position => exact .kept id rfl

/-- No pair comes about but where the root page is repeated, and none goes but with its entries. -/
theorem TrailStep.doubled (step : TrailStep n m op) (h : n.Sound) :
    DoubledAt n.root depth m.trail ↔
      (op.RepeatsRoot n ∧ m.trail.length = depth) ∨
        DoubledAt n.root depth n.trail ∧ depth ≤ m.trail.length := by
  cases step with
  | kept spared same =>
    rw [same, eq_false spared, false_and, false_or, and_iff_left_of_imp DoubledAt.le]
  | retopped spared top =>
    rw [eq_false spared, false_and, false_or]
    rcases h.trail_cases with ⟨empty, -⟩ | ⟨below, ht⟩
    · simp [top, empty, doubledAt_cons, not_doubledAt_nil]
    · rw [top, ht, List.tail_cons, and_iff_left_of_imp DoubledAt.le]
  | visited spared name other new =>
    rw [new, doubledAt_cons, eq_false spared, false_and, false_or]
    have apart : ¬(name = n.root ∧ n.trail.head? = some n.root ∧ n.trail.length + 1 = depth) := by
      rintro ⟨hn, hh, -⟩
      rcases h.trail_cases with ⟨empty, -⟩ | ⟨below, ht⟩
      · rw [empty] at hh
        cases hh
      · rw [ht, List.head?_cons] at hh
        exact other ((Option.some.inj hh).trans hn.symm)
    rw [or_iff_left apart]
    exact ⟨fun hd => ⟨hd, Nat.le_succ_of_le hd.le⟩, fun hd => hd.1⟩
  | stepped spared back =>
    rw [back, doubledAt_tail, eq_false spared, false_and, false_or]
  | unmade below way other repeats top =>
    rw [repeats, top, way, List.length_cons]
    exact doubledAt_replace other
  | barred left gone below way other repeats back =>
    have tail : DoubledAt n.root depth (gone :: below) ↔
        DoubledAt n.root depth (left :: gone :: below) ∧ depth ≤ below.length + 1 :=
      doubledAt_tail (left :: gone :: below)
    have whole : DoubledAt n.root depth (gone :: below) ∧ depth ≤ below.length + 1 ↔
        DoubledAt n.root depth (gone :: below) := and_iff_left_of_imp fun hd => hd.le
    rw [repeats, back, way, List.length_cons, ← tail, doubledAt_replace other, whole]

/-- A pair was there before, or it is one of the root page. -/
theorem TrailStep.old_or_root (step : TrailStep n m op) (h : n.Sound)
    (hd : DoubledAt name depth m.trail) : DoubledAt name depth n.trail ∨ name = n.root := by
  have tail {names : List String} (hd : DoubledAt name depth names.tail) :
      DoubledAt name depth names := ((doubledAt_tail names).mp hd).1
  have first {names : List String} (hd : DoubledAt name depth (n.root :: names)) :
      DoubledAt name depth names ∨ name = n.root := by
    rcases doubledAt_cons.mp hd with hd | ⟨root, -, -⟩
    · exact .inl hd
    · exact .inr root.symm
  cases step with
  | kept _ same => exact .inl (same ▸ hd)
  | retopped _ top =>
    rw [top] at hd
    rcases h.trail_cases with ⟨-, current⟩ | ⟨rest, ht⟩
    · rw [current] at hd
      exact (first hd).imp_left tail
    · rw [ht, List.tail_cons, ← ht] at hd
      exact .inl hd
  | visited _ new other trail =>
    rw [trail] at hd
    rcases doubledAt_cons.mp hd with hd | ⟨rfl, hh, -⟩
    · exact .inl hd
    · rcases h.trail_cases with ⟨empty, -⟩ | ⟨rest, ht⟩
      · rw [empty] at hh
        cases hh
      · rw [ht] at hh
        exact absurd (Option.some.inj hh) other
  | stepped _ back =>
    rw [back] at hd
    exact .inl (tail hd)
  | unmade below way _ _ top =>
    rw [top] at hd
    rw [way]
    exact (first hd).imp_left .beneath
  | barred left gone below way _ _ back =>
    rw [back] at hd
    rw [way]
    exact (first hd).imp_left fun hd => .beneath (.beneath hd)

/-- Only the root page is ever doubled. -/
def RootAlone (n : Navigator P) : Prop :=
  ∀ name depth, DoubledAt name depth n.trail → name = n.root

theorem RootAlone.apply (alone : n.RootAlone) (h : n.Sound) (op : Operation P) :
    (op.apply n).RootAlone := by
  intro name depth hd
  rw [op.apply_root]
  rcases (h.trail_step op).old_or_root h hd with hd | root
  · exact alone name depth hd
  · exact root

theorem start_trail {root : String} {f : Factory P} (h : start? f root = some n) :
    n.trail = [root] := by
  obtain ⟨page, -, rfl⟩ := start_eq h
  obtain ⟨-, -, ⟨-, history⟩ | ⟨-, history⟩⟩ := (opening root page).shown_cases root .table
  · rw [trail_replaceTop _ history]
    rfl
  · rw [trail_visited history]
    rfl

/-- Where a step back ends. -/
theorem Sound.goBack_current (h : n.Sound) (f : Factory P) (longer : 2 ≤ n.history.size) :
    (n.goBack f).1.current = n.current ↔
      n.trail[1]? = some n.current ∨ n.Barred f ∧ n.current = n.root := by
  rw [← length_trail] at longer
  obtain ⟨left, below, rest, ht⟩ : ∃ left below rest, n.trail = left :: below :: rest := by
    rcases ht : n.trail with _ | ⟨left, _ | ⟨below, rest⟩⟩
    · simp [ht] at longer
    · simp [ht] at longer
    · exact ⟨left, below, rest, rfl⟩
  have hb : n.steppedBack.top.name = below := by
    rw [h.toGrounded.steppedBack_name, ht]
    rfl
  obtain ⟨-, current, ⟨free, history⟩ | ⟨barred, history⟩⟩ := n.goBack_cases f
  · have hc : (n.goBack f).1.current = below := by
      rw [current, top, history]
      exact hb
    rw [hc, ht, eq_false free, false_and, or_false]
    simp
  · have hc : (n.goBack f).1.current = n.root := by
      rw [current, top, history]
      rfl
    have gone : below ≠ n.current := by
      rintro rfl
      have unregistered := barred.1
      rw [hb, h.currentView_eq] at unregistered
      cases unregistered
    rw [hc, ht, eq_true barred, true_and]
    simp [gone, eq_comm]

theorem doubledAt_of_infix (h : [name, name] <:+: names) : ∃ depth, DoubledAt name depth names := by
  obtain ⟨above, below, rfl⟩ := h
  refine ⟨below.length + 2, ?_⟩
  induction above with
  | nil => exact .here rfl
  | cons first above ih => exact .beneath ih

theorem Sound.repeated_iff {start : Navigator P} (sound : start.Sound)
    (plain : ∀ name depth, ¬DoubledAt name depth start.trail) (operations : List (Operation P))
    (depth : Nat) : DoubledAt start.root depth (start.after operations).trail ↔
      RepeatedAt depth start operations := by
  have keeps (n : Navigator P) (op : Operation P) (_ : True)
      (h : n.Sound ∧ n.root = start.root) :
      (op.apply n).Sound ∧ (op.apply n).root = start.root :=
    ⟨h.1.apply op, (op.apply_root n).trans h.2⟩
  have law (n : Navigator P) (op : Operation P) (_ : True) (h : n.Sound ∧ n.root = start.root) :
      DoubledAt start.root depth (op.apply n).trail ↔
        (op.RepeatsRoot n ∧ (op.apply n).history.size = depth) ∨
          DoubledAt start.root depth n.trail ∧ depth ≤ (op.apply n).history.size := by
    rw [← length_trail, ← h.2]
    exact (h.1.trail_step op).doubled h.1
  have valid : Trace.Valid (fun _ _ => True) Operation.apply start operations :=
    Trace.valid_of_forall fun _ _ _ => trivial
  have since := Trace.since_iff (motive := fun n => DoubledAt start.root depth n.trail)
    keeps law ⟨sound, rfl⟩ valid
  exact since.trans (or_iff_left fun h => plain _ _ h.1)

theorem RootAlone.after {start : Navigator P} (alone : start.RootAlone) (sound : start.Sound)
    (operations : List (Operation P)) : (start.after operations).RootAlone := by
  induction operations generalizing start with
  | nil => exact alone
  | cons op operations ih => exact ih (alone.apply sound op) (sound.apply op)

/-- After any operations, two neighbours on the way back have the same name exactly when the root
page was put in the place of another, just above an entry of its own, and the way back was never
shorter since; the name is then the root page's. A step back from the second entry or a later one
stays on the current page exactly when the entry below names that page, or when the root page is
left for a page that cannot be made. -/
theorem trail_doubled_iff {root : String} {f : Factory P} {start : Navigator P}
    (opened : start? f root = some start) (operations : List (Operation P)) :
    let n := start.after operations
    (¬n.trail.IsChain (· ≠ ·) ↔ ∃ depth, RepeatedAt depth start operations) ∧
      (∀ name, [name, name] <:+: n.trail → name = root) ∧
      ∀ back, 2 ≤ n.history.size → ((n.goBack back).1.current = n.current ↔
        n.trail[1]? = some n.current ∨ n.Barred back ∧ n.current = root) := by
  intro n
  have sound := start_sound opened
  have plain : ∀ name depth, ¬DoubledAt name depth start.trail := by
    rw [start_trail opened]
    simp [doubledAt_cons, not_doubledAt_nil]
  have hr : start.root = root := by
    obtain ⟨page, -, rfl⟩ := start_eq opened
    exact (shown_same_pages _ _ _).root
  have root_after : n.root = start.root := after_root start operations
  have alone : n.RootAlone :=
    RootAlone.after (fun name depth hd => absurd hd (plain name depth)) sound operations
  refine ⟨?_, ?_, ?_⟩
  · rw [isChain_iff]
    constructor
    · intro doubled
      by_contra unrepeated
      refine doubled fun name depth hd => unrepeated ⟨depth, ?_⟩
      rw [← sound.repeated_iff plain, ← root_after, ← alone name depth hd]
      exact hd
    · rintro ⟨depth, repeated⟩ apart
      exact apart _ _ ((sound.repeated_iff plain operations depth).mpr repeated)
  · intro name twice
    obtain ⟨depth, hd⟩ := doubledAt_of_infix twice
    rw [alone name depth hd, root_after, hr]
  · intro back longer
    rw [← hr, ← root_after]
    exact (sound.after operations).goBack_current back longer

/-- The root page comes twice in a row when a page above it is refused at a reload, and once more
on a step back; steps back take the pairs away. -/
def stammering : List (Operation CountedPage) :=
  let all := CountedPage.factory []
  let fewer := CountedPage.factory ["pods", "jobs"]
  [.navigate all "nodes", .navigate all "root", .navigate all "jobs", .navigate all "nodes",
    .navigate all "root", .navigate all "pods", .reload fewer, .goBack fewer, .goBack fewer,
    .goBack fewer]

theorem trail_doubled_while_stammering :
    ∃ start, start? (CountedPage.factory []) "root" = some start ∧
      (start.after stammering).trail = ["root", "root", "nodes", "root"] ∧
      ¬(start.after stammering).trail.IsChain (· ≠ ·) ∧
      ((start.after stammering).goBack (CountedPage.factory [])).1.current = "root" := by
  have opened : start? (CountedPage.factory []) "root" = some _ := rfl
  have h := trail_doubled_iff opened stammering
  exact ⟨_, opened, by decide, h.1.mpr ⟨4, by decide⟩, (h.2.2 _ (by decide)).mpr (by decide)⟩

/-- The page above the root page is refused when the pages are reloaded. -/
def doublingRoot : List (Operation CountedPage) :=
  let all := CountedPage.factory []
  [.navigate all "nodes", .navigate all "root", .navigate all "pods",
    .reload (CountedPage.factory ["pods"])]

theorem back_press_stays_on_root :
    ∃ start, start? (CountedPage.factory []) "root" = some start ∧
      (start.after doublingRoot).trail = ["root", "root", "nodes", "root"] ∧
      (start.after doublingRoot).current = "root" ∧
      ((start.after doublingRoot).goBack (CountedPage.factory [])).1.current = "root" :=
  ⟨_, rfl, by decide, by decide, by decide⟩

end ClusterDashboard.Navigator
