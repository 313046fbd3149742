import ClusterDashboard.Proofs.Dashboard.Handling
import ClusterDashboard.Proofs.Navigation.Excursions
import ClusterDashboard.Proofs.Navigation.Homecoming
/-!
# What a step back says

After a step back the status line tells whether it led to another page. It is the length of the way
back that decides what is said, and the entry below that decides where the step leads. Where they
disagree the message is wrong: on a page that was opened when the way back had come to its end, and
on a page below which the step finds the same page again.
-/
namespace ClusterDashboard

namespace Dashboard

variable {S J : Type} {b : Backend S TablePage J} {d e : Dashboard S J} {action : Action}

/-- The actions that take a step back. -/
def StepsBack (d : Dashboard S J) : Action → Prop
  | .back => True
  | .escape => d.top.layer = .table
  | _ => False

/-- What is said in `e`, after a step back from `d`, tells whether the page is another one. -/
structure Truthful (d e : Dashboard S J) : Prop where
  already : e.status = "Already at " ++ e.currentName ↔ e.currentName = d.currentName
  back : e.status = "Back to " ++ e.currentName ↔ e.currentName ≠ d.currentName

/-- The step back from `d` to `e` tells its end by the length of the way back. -/
structure SteppedBack (d e : Dashboard S J) : Prop where
  arrives : e.currentName = (d.nav.goBack d.factory).1.current
  message : e.status =
    (if d.nav.history.size ≤ 1 then "Already at " else "Back to ") ++ e.currentName

theorem goBack_steppedBack (h : d.nav.Sound) : SteppedBack d d.goBack := by
  have arrives : d.goBack.currentName = (d.nav.goBack d.factory).1.current :=
    congrArg (fun q : Situation => q.course.current) (goBack_situation d)
  refine ⟨arrives, ?_⟩
  rw [arrives, ← h.goBack_track]
  rfl

theorem syncStream_status (d : Dashboard S J) : d.syncStream.status = d.status := by
  rw [syncStream]
  split
  · rw [stopStream]
    split <;> rfl
  · rfl

theorem SteppedBack.synced (h : SteppedBack d e) : SteppedBack d e.syncStream := by
  have current : e.syncStream.currentName = e.currentName :=
    congrArg (fun q : Situation => q.course.current) (syncStream_situation e)
  exact ⟨current.trans h.arrives, by rw [syncStream_status, current, h.message]⟩

theorem StepsBack.steppedBack (h : d.StepsBack action) (hs : d.nav.Sound) :
    SteppedBack d (d.act action).1 := by
  cases action with
  | back => exact (goBack_steppedBack hs).synced
  | escape =>
    have table : d.top.layer = .table := h
    obtain ⟨same, back⟩ := escape_bare (d := d) (by rw [table]; rfl)
    have bare := goBack_steppedBack (dismissOverlay_sound hs)
    refine SteppedBack.synced (e := d.escape) ?_
    rw [back]
    refine ⟨bare.arrives.trans ?_, bare.message.trans ?_⟩
    · rw [same]
      rfl
    · rw [same]
  | _ => exact absurd h id

/-- The message is right exactly when the length of the way back and the page below it agree on
whether the step leads to another page. -/
theorem SteppedBack.truthful_iff (h : SteppedBack d e) :
    Truthful d e ↔ (d.nav.history.size ≤ 1 ↔ e.currentName = d.currentName) := by
  have apart : "Already at " ++ e.currentName ≠ "Back to " ++ e.currentName := by
    intro same
    have heads : "Already at " = "Back to " := (String.append_left_inj _).mp same
    exact absurd heads (by decide)
  have message := h.message
  by_cases short : d.nav.history.size ≤ 1
  · rw [if_pos short] at message
    constructor
    · intro truthful
      exact iff_of_true short (truthful.already.mp message)
    · intro agree
      have same := agree.mp short
      exact ⟨iff_of_true message same,
        iff_of_false (fun hb => apart (message.symm.trans hb)) fun left => left same⟩
  · rw [if_neg short] at message
    constructor
    · intro truthful
      exact iff_of_false short (truthful.back.mp message)
    · intro agree
      have left : e.currentName ≠ d.currentName := fun same => short (agree.mpr same)
      exact ⟨iff_of_false (fun ha => apart (ha.symm.trans message)) left,
        iff_of_true message left⟩

theorem Step.next_root {step : Step S} (he : step.Enabled d) (hs : d.nav.Sound) :
    (step.next b d).nav.root = d.nav.root := by
  cases hw : step.isWork with
  | false =>
    have deeds := ((step.ensues b d hw).handles (b := b) hs).reaches
    exact deeds.induction (motive := fun t => t.nav.root = d.nav.root) rfl
      fun t e _ same => (Session.next_root b t e).trans same
  | true =>
    cases step with
    | background event => exact Session.next_root b d.session event
    | runTimers => rfl
    | _ => cases hw

theorem Step.trace_root {steps : List (Step S)} (hs : d.nav.Sound)
    (valid : Step.ValidTrace b d steps) : (Step.runTrace b d steps).nav.root = d.nav.root := by
  induction steps generalizing d with
  | nil => rfl
  | cons step steps ih =>
    exact (ih (Step.sound valid.1 hs) valid.2).trans (Step.next_root valid.1 hs)

/-- When the length of the way back tells whether the step leads to another page. -/
theorem length_tells_iff (hs : d.nav.Sound) :
    (d.nav.history.size ≤ 1 ↔ (d.nav.goBack d.factory).1.current = d.currentName) ↔
      (d.nav.history.size = 1 → d.currentName = d.nav.root) ∧
      (2 ≤ d.nav.history.size → d.nav.trail[1]? ≠ some d.currentName ∧
        ¬(d.nav.Barred d.factory ∧ d.currentName = d.nav.root)) := by
  by_cases short : d.nav.history.size ≤ 1
  · have ends := hs.goBack_to_root d.factory short
    rw [ends, iff_true_left short]
    constructor
    · intro same
      exact ⟨fun _ => same.symm, fun longer => absurd longer (by omega)⟩
    · rintro ⟨single, -⟩
      rcases Nat.le_one_iff_eq_zero_or_eq_one.mp short with empty | one
      · exact (hs.current_of_exhausted empty).symm
      · exact (single one).symm
  · have longer : 2 ≤ d.nav.history.size := by omega
    have ends : (d.nav.goBack d.factory).1.current = d.currentName ↔
        d.nav.trail[1]? = some d.currentName ∨ d.nav.Barred d.factory ∧ d.currentName = d.nav.root :=
      hs.goBack_current d.factory longer
    rw [ends, iff_false_left short, not_or]
    constructor
    · intro leads
      exact ⟨fun single => absurd single (by omega), fun _ => leads⟩
    · rintro ⟨-, leads⟩
      exact leads longer

section Runs

variable {settings : Settings} {catalog : Catalog} {scope : Scope} {cluster context : String}
  {source : S} {start : Dashboard S J} {steps : List (Step S)}

theorem start_root
    (opened : start? settings catalog scope cluster context source = some start) :
    start.nav.root = settings.rootPage.token := by
  obtain ⟨session, hs, rfl⟩ := Option.map_eq_some_iff.mp opened
  have asked := Session.course_of_outline
    (Session.trigger_outline session.nav.currentView session)
  obtain ⟨n, hn, rfl⟩ := Option.map_eq_some_iff.mp hs
  obtain ⟨page, -, rfl⟩ := Navigator.start_eq hn
  have shown := Navigator.shown_same_pages (Navigator.opening settings.rootPage.token page)
    settings.rootPage.token .table
  exact (congrArg Navigator.root asked).trans shown.root

/-- After any run, a step back says that it stays when at most one entry of the history is left,
and that it leads back otherwise. That is right unless the only entry names another page than the
root page, or there are more and the one below names the same page again, or that one is refused
and the root page is left for it. -/
theorem step_back_truthful_iff
    (opened : start? settings catalog scope cluster context source = some start)
    (valid : Step.ValidTrace b start steps) :
    let d := Step.runTrace b start steps
    d.StepsBack action →
    let e := (d.act action).1
    e.status =
        (if d.nav.history.size ≤ 1 then "Already at " else "Back to ") ++ e.currentName ∧
      (Truthful d e ↔
        (d.nav.history.size = 1 → d.currentName = settings.rootPage.token) ∧
        (2 ≤ d.nav.history.size → d.nav.trail[1]? ≠ some d.currentName ∧
          ¬(d.nav.Barred d.factory ∧ d.currentName = settings.rootPage.token))) := by
  intro d back e
  have opening := start_sound opened
  have sound : d.nav.Sound := Step.trace_sound opening valid
  have root : d.nav.root = settings.rootPage.token :=
    (Step.trace_root opening valid).trans (start_root opened)
  have step : SteppedBack d e := back.steppedBack sound
  refine ⟨step.message, step.truthful_iff.trans ?_⟩
  rw [step.arrives, ← root]
  exact length_tells_iff sound

end Runs

/-- A page is opened, and the way back is walked beyond its end, with the menu opened there and
closed again. -/
def drainingWay : List (Step TableSource) :=
  [.act (.goToPage 2), .act .back, .act .escape, .act .toggleMenu, .act .escape, .act .back,
    .background (.poll .watcher)]

theorem step_back_truthful_until_drained :
    ∃ start : Dashboard TableSource (Except Failure TableView),
      start? {} [] .all "kind" "kind" {} = some start ∧
      let d := Step.runTrace TableSource.backend start [.act (.goToPage 2)]
      let e := Step.runTrace TableSource.backend start (drainingWay ++ [.act (.goToPage 2)])
      d.nav.trail = ["deployments", "pods"] ∧ Truthful d (d.act .back).1 ∧
        e.nav.trail = ["deployments"] ∧ ¬Truthful e (e.act .escape).1 := by
  have opened : start? {} [] .all "kind" "kind" {} =
    some (_ : Dashboard TableSource (Except Failure TableView)) := rfl
  have once := step_back_truthful_iff opened
    (show Step.ValidTrace TableSource.backend _ [.act (.goToPage 2)] by decide)
    (show StepsBack _ .back from trivial)
  have again := step_back_truthful_iff opened
    (show Step.ValidTrace TableSource.backend _ (drainingWay ++ [.act (.goToPage 2)]) by decide)
    (show StepsBack _ .escape from show Track.layer _ = .table by decide +kernel)
  refine ⟨_, opened, by decide +kernel, once.2.mpr ⟨?_, ?_⟩, by decide +kernel, ?_⟩
  · decide +kernel
  · decide +kernel
  · intro truthful
    exact absurd ((again.2.mp truthful).1 (by decide +kernel)) (by decide +kernel)

theorem step_back_from_reopened_page_misreported :
    ∃ start : Dashboard TableSource (Except Failure TableView),
      start? {} [] .all "kind" "kind" {} = some start ∧
      let d := Step.runTrace TableSource.backend start [.act .back, .act (.goToPage 2)]
      let e := (d.act .back).1
      d.currentName = "deployments" ∧ e.currentName = "pods" ∧ e.status = "Already at pods" :=
  ⟨_, rfl, by decide +kernel, by decide +kernel, by decide +kernel⟩

end Dashboard
end ClusterDashboard
