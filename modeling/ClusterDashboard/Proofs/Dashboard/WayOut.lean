import ClusterDashboard.Proofs.Dashboard.Interludes
import ClusterDashboard.Proofs.Dashboard.WayBack
/-!
# The escape key leads out

What the key does is chosen by the layer on top: a message gives way to what it covers, another
overlay to the table below it, and on a bare table the step back takes an entry of the history away.
Each press lowers a rank made of the layer and the length of the history, and where the rank ends
is the root page.
-/
namespace ClusterDashboard

namespace Dashboard

variable {S J : Type} {b : Backend S TablePage J} {d e : Dashboard S J} {root : String}

/-- So many presses of the escape key lead out, whatever is found on the way back. -/
def pressesLeft (d : Dashboard S J) : Nat :=
  2 * d.nav.history.size + (if d.top.layer.isStatus then 1 else 0) -
    (if d.top.layer = .table then 1 else 0)

/-- The table of the root page shows, and there is no way back from it. -/
structure Home (root : String) (d : Dashboard S J) : Prop where
  current : d.currentName = root
  top : d.top = .table root
  exhausted : d.nav.history.size = 0

/-- A press of the escape key leads from `d` to `e`; `came` says what the message on top came
over. -/
structure StepsOut (came : Track → Prop) (d e : Dashboard S J) : Prop where
  pressed : d.press { code := .esc } = (e, .none)
  stays : d.top.layer ≠ .table → e.currentName = d.currentName
  closes : d.top.layer ≠ .table → d.top.layer.isStatus = false → e.top = .table d.currentName
  uncovers : d.top.layer.isStatus = true → ∃ track, came track ∧ track.name = d.currentName ∧
    e.top = ⟨track.name, if track.layer.isScrollable then track.layer else .table⟩

/-- What the escape key does, by the layer on top. -/
inductive EscapeStep (d e : Dashboard S J) : Prop where
  | uncovered (overlaid : d.top.layer ≠ .table) (current : e.currentName = d.currentName)
    (size : e.nav.history.size = d.nav.history.size)
    (top : e.top = ⟨d.currentName, if d.top.layer.isStatus then d.uncoveredLayer else .table⟩)
  | back (table : d.top.layer = .table) (size : e.nav.history.size = d.nav.history.size - 1)

/-- Over a table there is an entry in the history. -/
theorem entered_of_overlaid (overlaid : d.top.layer ≠ .table) : d.nav.history.tracks ≠ [] := by
  intro empty
  have bare : d.top = .table d.nav.history.root := Navigator.top_of_exhausted empty
  rw [bare] at overlaid
  exact overlaid rfl

/-- What is no message is dismissed, and that is all. -/
theorem escape_overlaid (overlaid : d.top.layer.isOverlay = true)
    (plain : d.top.layer.isStatus = false) :
    d.escape = { d.dismissOverlay.1 with scroll := 0 } := by
  have dismissed : d.dismissOverlay.2 = true :=
    congrArg Prod.snd (Navigator.dismissOverlay_overlaid (n := d.nav) overlaid)
  rw [escape, plain]
  simp [dismissed]

theorem escape_step (hs : d.nav.Sound) : EscapeStep d d.escape ∧ d.escape.mode = d.mode := by
  cases ho : d.top.layer.isOverlay with
  | true =>
    have overlaid : d.top.layer ≠ .table := Layer.overlay_iff.mp ho
    cases hm : d.top.layer.isStatus with
    | true =>
      have clears : d.escape = d.clearStatus := if_pos hm
      obtain ⟨remains, top⟩ := clearStatus_remains hs hm
      rw [clears]
      refine ⟨.uncovered overlaid remains.current ?_ ?_, remains.mode⟩
      · exact remains.size (entered_of_overlaid overlaid)
      · rw [hm, if_pos rfl, top]
    | false =>
      have remains : Remains d d.dismissOverlay.1 := .dismissOverlay ho
      rw [escape_overlaid ho hm]
      refine ⟨.uncovered overlaid remains.current ?_ ?_, remains.mode⟩
      · exact remains.size (entered_of_overlaid overlaid)
      · change d.dismissOverlay.1.top = _
        rw [hm, top, dismissOverlay_retops ho]
        rfl
  | false =>
    have table : d.top.layer = .table := by
      by_contra overlaid
      rw [Layer.overlay_iff.mpr overlaid] at ho
      cases ho
    obtain ⟨same, back⟩ := escape_bare ho
    have moved : d.escape.situation =
        { d.situation with course := (d.nav.goBack d.factory).1.course } := by
      rw [back, goBack_situation, situation, same]
      rfl
    have way : d.escape.nav.history = (d.nav.goBack d.factory).1.history :=
      congrArg (fun q : Situation => q.course.history) moved
    refine ⟨.back table ?_, congrArg Situation.mode moved⟩
    rw [way, hs.goBack_size]

theorem EscapeStep.of_situation {f : Dashboard S J} (h : EscapeStep d e)
    (same : f.situation = e.situation) : EscapeStep d f := by
  have current : f.currentName = e.currentName :=
    congrArg (fun q : Situation => q.course.current) same
  have size : f.nav.history.size = e.nav.history.size :=
    congrArg (fun q : Situation => q.course.history.size) same
  cases h with
  | uncovered overlaid here entries top =>
    exact .uncovered overlaid (current.trans here) (size.trans entries)
      ((top_of_situation same).trans top)
  | back table entries => exact .back table (size.trans entries)

theorem pressesLeft_le (d : Dashboard S J) : d.pressesLeft ≤ 2 * d.nav.history.size + 1 := by
  rw [pressesLeft]
  split <;> omega

theorem exhausted_of_pressesLeft (h : d.pressesLeft = 0) : d.nav.history.size = 0 := by
  rw [pressesLeft] at h
  split at h <;> split at h <;> omega

/-- The rank falls with each press. -/
theorem EscapeStep.pressesLeft (h : EscapeStep d e) (plain : e.top.layer.isStatus = false) :
    e.pressesLeft ≤ d.pressesLeft - 1 := by
  rw [Dashboard.pressesLeft, Dashboard.pressesLeft, plain]
  cases h with
  | uncovered overlaid current size top =>
    rw [size, if_neg overlaid]
    cases hm : d.top.layer.isStatus with
    | true =>
      simp only [if_true, if_false, Bool.false_eq_true]
      omega
    | false =>
      rw [hm] at top
      have table : e.top.layer = .table := congrArg Track.layer top
      simp only [table, if_true, if_false, Bool.false_eq_true]
      omega
  | back table size =>
    simp only [size, table, if_true, if_false, Bool.false_eq_true]
    omega

/-- What a dismissal leaves, told by what the message came over. -/
theorem Covers.uncoveredLayer {track : Track} (h : Covers track d) :
    d.uncoveredLayer = if track.layer.isScrollable then track.layer else .table := by
  rw [Dashboard.uncoveredLayer, h.covered]
  cases track.layer.isScrollable with
  | true => exact if_pos h.name
  | false => rfl

theorem EscapeStep.stepsOut {came : Track → Prop} (h : EscapeStep d e)
    (pressed : d.press { code := .esc } = (e, .none))
    (origin : d.top.layer.isStatus = true → ∃ track, came track ∧ Covers track d) :
    StepsOut came d e := by
  cases h with
  | uncovered overlaid current size top =>
    refine ⟨pressed, fun _ => current, fun _ plain => ?_, fun message => ?_⟩
    · rw [top, plain]
      rfl
    · obtain ⟨track, ht, covers⟩ := origin message
      refine ⟨track, ht, covers.name, ?_⟩
      rw [top, message, if_pos rfl, covers.uncoveredLayer, covers.name]
  | back table size =>
    have bare : ¬d.top.layer ≠ .table := fun overlaid => overlaid table
    refine ⟨pressed, fun overlaid => absurd overlaid bare, fun overlaid => absurd overlaid bare,
      fun message => ?_⟩
    rw [table] at message
    cases message

/-- In normal mode, with the root page as it was at the start. -/
structure Roaming (root : String) (d : Dashboard S J) : Prop where
  sound : d.nav.Sound
  legible : d.CoversText
  normal : d.mode = .normal
  root : d.nav.root = root

/-- Presses of the escape key, one after the other. -/
def escapes (k : Nat) : List (Step S) := List.replicate k (.act .escape)

theorem escapes_valid (k : Nat) (d : Dashboard S J) : Step.ValidTrace b d (escapes k) := by
  refine Trace.valid_of_forall fun step hm d => ?_
  rw [List.eq_of_mem_replicate hm]
  trivial

theorem run_escapes_succ (b : Backend S TablePage J) (k : Nat) (d : Dashboard S J) :
    Step.runTrace b d (escapes (k + 1)) = (Step.runTrace b d (escapes k)).escape.syncStream := by
  have longer : escapes (k + 1) = escapes k ++ [(.act .escape : Step S)] := List.replicate_succ'
  rw [longer]
  exact Trace.run_append _ _

namespace Roaming

theorem step (h : Roaming root d) : EscapeStep d d.escape.syncStream :=
  (escape_step h.sound).1.of_situation (syncStream_situation _)

theorem pressed (h : Roaming root d) :
    d.press { code := .esc } = (d.escape.syncStream, .none) := by
  rw [press, h.normal]
  rfl

theorem next (b : Backend S TablePage J) (h : Roaming root d) :
    Roaming root d.escape.syncStream where
  sound := act_sound h.sound .escape
  legible := Step.coversText (b := b) h.legible (.act .escape)
  normal := by
    have kept : d.escape.syncStream.mode = d.escape.mode :=
      congrArg Situation.mode (syncStream_situation _)
    exact kept.trans ((escape_step h.sound).2.trans h.normal)
  root := by
    have kept : (Step.next b d (.act .escape)).nav.root = d.nav.root :=
      Step.next_root trivial h.sound
    exact kept.trans h.root

theorem after (h : Roaming root d) (k : Nat) : Roaming root (Step.runTrace b d (escapes k)) := by
  induction k with
  | zero => exact h
  | succ k ih =>
    rw [run_escapes_succ]
    exact ih.next b

theorem left (h : Roaming root d) (k : Nat) :
    (Step.runTrace b d (escapes k)).pressesLeft ≤ d.pressesLeft - k := by
  induction k with
  | zero => exact Nat.le_refl _
  | succ k ih =>
    have roams : Roaming root (Step.runTrace b d (escapes k)) := h.after k
    have plain := escape_plain roams.sound roams.legible
    rw [← top_of_situation (syncStream_situation _)] at plain
    have falls := roams.step.pressesLeft plain
    rw [run_escapes_succ]
    omega

theorem home_of_exhausted (h : Roaming root d) (empty : d.nav.history.size = 0) : Home root d := by
  have current := h.sound.current_of_exhausted empty
  have top := h.sound.top_of_exhausted empty
  rw [h.root] at current top
  exact ⟨current, top, empty⟩

theorem stays (b : Backend S TablePage J) (h : Roaming root d) (home : Home root d) :
    Home root d.escape.syncStream := by
  refine (h.next b).home_of_exhausted ?_
  cases h.step with
  | uncovered overlaid current size top =>
    rw [home.top] at overlaid
    exact absurd rfl overlaid
  | back table size => rw [size, home.exhausted]

theorem comes_home (h : Roaming root d) {k : Nat} (enough : 2 * d.nav.history.size + 1 ≤ k) :
    Home root (Step.runTrace b d (escapes k)) := by
  refine (h.after k).home_of_exhausted (exhausted_of_pressesLeft ?_)
  have most := pressesLeft_le d
  have left : (Step.runTrace b d (escapes k)).pressesLeft ≤ d.pressesLeft - k := h.left k
  omega

end Roaming

section Runs

variable {settings : Settings} {catalog : Catalog} {scope : Scope} {cluster context : String}
  {source : S} {start : Dashboard S J} {steps : List (Step S)}

/-- Wherever the dashboard has got to in normal mode, the escape key leads out. Over a bare table a
press goes back; over anything else it stays on the page, puts back the text that a message came
over, and shows the table otherwise. With twice as many presses as the history has entries, and one
more, the table of the root page is reached, and no further press leaves it. -/
theorem escape_leads_home
    (opened : start? settings catalog scope cluster context source = some start)
    (valid : Step.ValidTrace b start steps)
    (normal : (Step.runTrace b start steps).mode = .normal) :
    let d := Step.runTrace b start steps
    let after k := Step.runTrace b d (escapes k)
    (∀ k, StepsOut (Step.CameOver b · start (steps ++ escapes k)) (after k) (after (k + 1))) ∧
      (∀ k, Home settings.rootPage.token (after k) →
        Home settings.rootPage.token (after (k + 1))) ∧
      ∀ k, 2 * d.nav.history.size + 1 ≤ k → Home settings.rootPage.token (after k) := by
  intro d after
  have opening := start_sound opened
  have roams : Roaming settings.rootPage.token d :=
    ⟨Step.trace_sound opening valid, Step.trace_coversText (start_coversText opened) steps, normal,
      (Step.trace_root opening valid).trans (start_root opened)⟩
  have later (k : Nat) : Roaming settings.rootPage.token (after k) := roams.after k
  have next (k : Nat) : after (k + 1) = (after k).escape.syncStream := run_escapes_succ b k d
  refine ⟨fun k => ?_, fun k home => ?_, fun k enough => roams.comes_home enough⟩
  · rw [next k]
    refine (later k).step.stepsOut (later k).pressed fun message => ?_
    have whole : Step.runTrace b start (steps ++ escapes k) = after k :=
      Trace.run_append steps (escapes k)
    rw [← whole] at message ⊢
    exact message_covers opened (Trace.valid_append.mpr ⟨valid, escapes_valid k d⟩) message
  · rw [next k]
    exact (later k).stays b home

end Runs

/-- A page is left under a text, and on the next one a message comes over the log. -/
def engrossed : List (Step TableSource) :=
  [.act (.goToPage 2), .setDetail .yaml ⟨"deployments", none, "web"⟩ "kind: Deployment",
    .act (.goToPage 3), .attachLogs "logs pods/web" none, .message "timed out" .error,
    .message "gone" .error]

theorem escape_leads_home_from_message :
    ∃ start : Dashboard TableSource (Except Failure TableView),
      start? {} [] .all "kind" "kind" {} = some start ∧
      let d := Step.runTrace TableSource.backend start engrossed
      let after k := Step.runTrace TableSource.backend d (escapes k)
      d.top.layer = .status "gone" .error ∧ d.nav.history.size = 3 ∧
        (∀ k, StepsOut (Step.CameOver TableSource.backend · start (engrossed ++ escapes k))
          (after k) (after (k + 1))) ∧
        (after 1).top.layer = .logs "logs pods/web" ∧
        (after 3).top = ⟨"deployments", .detail "yaml deployments/web" "kind: Deployment"⟩ ∧
        Home "pods" (after 7) := by
  have opened : start? {} [] .all "kind" "kind" {} =
    some (_ : Dashboard TableSource (Except Failure TableView)) := rfl
  obtain ⟨out, -, home⟩ := escape_leads_home opened
    (show Step.ValidTrace TableSource.backend _ engrossed by decide) (by decide)
  exact ⟨_, opened, by decide, by decide +kernel, out, by decide +kernel, by decide +kernel,
    home 7 (by decide +kernel)⟩

end Dashboard
end ClusterDashboard
