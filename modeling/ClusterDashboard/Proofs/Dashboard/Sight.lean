import ClusterDashboard.Proofs.Dashboard.Streams
/-!
# A stream that is held is in sight

The output of the held stream is on top, or a message covers it. Whatever takes it away gives the
stream up: actions do when they are over, and so do the end of a message and a detail; nothing else
takes it away.
-/
namespace ClusterDashboard.Dashboard

open Kubectl (Follower)

variable {S J : Type} {b : Backend S TablePage J} {d e : Dashboard S J} {step : Step S}

theorem onScreen_of_situation (h : e.situation = d.situation) :
    e.logsOnScreen = d.logsOnScreen := by
  have hc : e.covered = d.covered := congrArg Situation.covered h
  rw [logsOnScreen, top_of_situation h, hc]
  rfl

theorem onScreen_iff : d.logsOnScreen = true ↔ (∃ title, d.top.layer = .logs title) ∨
    ∃ message kind title, d.top.layer = .status message kind ∧
      d.covered = some ⟨d.top.name, .logs title⟩ := by
  rw [logsOnScreen]
  cases hl : d.top.layer with
  | logs title => simp [Layer.isLogs]
  | status message kind =>
    cases hc : d.covered with
    | none => simp [Layer.isLogs]
    | some track =>
      obtain ⟨name, layer⟩ := track
      cases layer <;> simp [Layer.isLogs, Layer.isStatus]
  | _ => simp [Layer.isLogs, Layer.isStatus]

/-- Over a log a message covers it, and over a message what that covers. -/
theorem coveredBy_onScreen (h : d.logsOnScreen = true) :
    ∃ title, d.coveredBy d.top = some ⟨d.top.name, .logs title⟩ := by
  rw [coveredBy]
  rcases onScreen_iff.mp h with ⟨title, hl⟩ | ⟨message, kind, title, hl, hc⟩
  · refine ⟨title, ?_⟩
    have ht : d.top = ⟨d.top.name, .logs title⟩ := by rw [← hl]
    rw [hl]
    exact congrArg some ht
  · refine ⟨title, ?_⟩
    rw [hl]
    exact hc

theorem showStatus_onScreen (hs : d.nav.Sound) (h : d.logsOnScreen = true) (message : String)
    (kind : StatusKind) : (d.showStatus message kind).logsOnScreen = true := by
  have hname : d.top.name = d.currentName := hs.top_current
  rw [showStatus]
  dsimp only
  split
  · exact h
  · obtain ⟨title, hc⟩ := coveredBy_onScreen h
    let covering := { d.say message with covered := d.coveredBy d.top }
    have hn : covering.nav.Sound := hs
    have ht := showLayer_top hn (.status message kind)
    refine onScreen_iff.mpr (.inr ⟨message, kind, title, congrArg Track.layer ht, ?_⟩)
    change d.coveredBy d.top = some ⟨(covering.showLayer _).top.name, .logs title⟩
    rw [ht, hc, hname]
    rfl

/-- A stream that is held can be read: its output is on top or right under a message. -/
structure InSight (d : Dashboard S J) : Prop where
  sound : d.nav.Sound
  seen : d.stream.isSome = true → d.logsOnScreen = true

namespace InSight

/-- Nothing of what shows has changed, and the held stream is held on if anything. -/
theorem of_situation (h : d.InSight) (hq : e.situation = d.situation)
    (hs : e.stream.isSome = true → d.stream.isSome = true) : e.InSight where
  sound := sound_of_situation hq h.sound
  seen he := by
    rw [onScreen_of_situation hq]
    exact h.seen (hs he)

theorem of_sync (h : d.nav.Sound) : d.syncStream.InSight where
  sound := syncStream_sound h
  seen hs := by
    rw [onScreen_of_situation (syncStream_situation d)]
    rw [syncStream] at hs
    split at hs
    · have hn : d.stopStream.stream = none :=
        (congrArg Streams.held (stopStream_streams d)).trans (Streams.stopped_held _)
      rw [hn] at hs
      cases hs
    · next hc =>
      cases ho : d.logsOnScreen with
      | true => rfl
      | false => simp [ho, hs] at hc

theorem showStatus (h : d.InSight) (message : String) (kind : StatusKind) :
    (d.showStatus message kind).InSight where
  sound := showStatus_sound h.sound message kind
  seen hs := by
    have he : (d.showStatus message kind).stream = d.stream :=
      congrArg Streams.held (showStatus_streams d message kind)
    rw [he] at hs
    exact showStatus_onScreen h.sound (h.seen hs) message kind

theorem attachLogs (h : d.InSight) (title : String) (refusal : Option Failure) :
    (d.attachLogs title (Step.freshReader refusal)).InSight where
  sound := attachLogs_sound h.sound title _
  seen hs := by
    cases refusal with
    | some failure =>
      have he : (d.attachLogs title (.error failure)).stream = d.streams.refused.held :=
        congrArg Streams.held (refused_streams d title failure)
      rw [Step.freshReader, he, Streams.refused_held] at hs
      cases hs
    | none =>
      refine onScreen_iff.mpr (.inl ⟨title, congrArg Track.layer (showLayer_top ?_ (.logs title))⟩)
      exact stopStream_sound h.sound

theorem startLogs (h : d.InSight) (program : Kubectl.Program) (target : Target) :
    (d.startLogs program target).InSight := by
  rw [Dashboard.startLogs]
  split
  · exact h.showStatus _ _
  · rw [Follower.start?]
    split
    · exact h.attachLogs _ (some _)
    · exact h.attachLogs _ none

theorem onUiEvent (h : d.InSight) (event : UiEvent) : (d.onUiEvent event).InSight := by
  cases event with
  | statusExpired ticket =>
    rw [Dashboard.onUiEvent]
    split
    · exact h
    · refine of_sync ?_
      split
      · exact clearStatus_sound h.sound
      · exact h.sound
  | log stream feed =>
    rw [Dashboard.onUiEvent]
    split
    · exact h
    · exact h.of_situation rfl id

theorem onRefreshEvent (h : d.InSight) (event : RefreshEvent) :
    (d.onRefreshEvent event).InSight := by
  cases event with
  | rendered page => exact h
  | failed page error =>
    rw [Dashboard.onRefreshEvent]
    split
    · exact h.showStatus _ _
    · exact h

theorem next (h : d.InSight) (he : step.Enabled d) : (step.next b d).InSight := by
  cases step with
  | act action => exact of_sync (((Leads.refl (d := d)).dispatch action).sound h.sound)
  | uiEvent event => exact h.onUiEvent event
  | refreshEvent event => exact h.onRefreshEvent event
  | message text kind => exact h.showStatus text kind
  | setDetail verb target body =>
    have hd : (nav { d with covered := none }).Sound := h.sound
    exact of_sync (showLayer_sound hd _)
  | startLogs program target => exact h.startLogs program target
  | attachLogs title refusal => exact h.attachLogs title refusal
  | tick =>
    refine h.of_situation (tick_situation d) fun hs => ?_
    rw [Step.next, tick] at hs
    split at hs <;> exact hs
  | background event => exact h.of_situation (background_situation he.2) id
  | child | runFollowers | runTimers | wait | scrollTo | emptyQueue | discover | identify =>
    exact h.of_situation rfl id

end InSight

section Runs

variable {settings : Settings} {catalog : Catalog} {scope : Scope} {cluster context : String}
  {source : S} {start : Dashboard S J} {steps : List (Step S)}

theorem start_inSight (opened : start? settings catalog scope cluster context source = some start) :
    start.InSight where
  sound := start_sound opened
  seen hs := by
    obtain ⟨session, -, rfl⟩ := Option.map_eq_some_iff.mp opened
    cases hs

/-- At every moment of every run the output of the held stream is on top, or right under a message
on the same page. The reader of any other stream has been told to stop; once it has had its turn,
its child runs on only if the reader had left off reading before. -/
theorem held_streams_in_sight
    (opened : start? settings catalog scope cluster context source = some start)
    (valid : Step.ValidTrace b start steps) :
    let d := Step.runTrace b start steps
    (∀ id, d.stream = some id → (∃ title, d.top.layer = .logs title) ∨
      ∃ message kind title, d.top.layer = .status message kind ∧
        d.covered = some ⟨d.top.name, .logs title⟩) ∧
    ∀ id f, (id, f) ∈ d.followers → d.stream ≠ some id → f.stopped = true ∧
      (f.poll.child.ended = none ↔ f.phase = .ending ∧ f.child.ended = none) := by
  intro d
  have hd : d.InSight :=
    Trace.run_induction (start_inSight opened) (fun _ _ he hi => hi.next he) valid
  have ht : d.streams.Tidy := run_tidy (start_tidy opened) steps
  constructor
  · intro id hi
    refine onScreen_iff.mp (hd.seen ?_)
    rw [hi]
    rfl
  · intro id f hm hn
    have hs : f.stopped = true := ht.released id f hm hn
    exact ⟨hs, Follower.poll_leaves_running (ht.orderly id f hm) hs⟩

end Runs

/-- The first stream is replaced while its child is running, and a message comes over the second. -/
def replacing : List (Step TableSource) :=
  [.attachLogs "logs pods/web" none, .child 1 (.write [111, 110, 101, 10]), .runFollowers,
    .attachLogs "logs pods/db" none, .message "Refreshing Pods" .progress, .act .down]

theorem held_streams_in_sight_when_replaced :
    ∃ start : Dashboard TableSource (Except Failure TableView),
      start? {} [] .all "kind" "kind" {} = some start ∧
      Step.ValidTrace TableSource.backend start replacing ∧
      let d := Step.runTrace TableSource.backend start replacing
      d.stream = some 2 ∧
        ((∃ title, d.top.layer = .logs title) ∨
          ∃ message kind title, d.top.layer = .status message kind ∧
            d.covered = some ⟨d.top.name, .logs title⟩) ∧
        ∃ f, (1, f) ∈ d.followers ∧ f.feeds = [.line "one"] ∧ f.stopped = true ∧
          f.poll.child.ended ≠ none := by
  have opened : start? {} [] .all "kind" "kind" {} =
    some (_ : Dashboard TableSource (Except Failure TableView)) := rfl
  have valid : ∀ start, start? {} [] .all "kind" "kind" {} = some start →
      Step.ValidTrace TableSource.backend start replacing := by
    intro start hs
    obtain rfl := Option.some.inj (opened.symm.trans hs)
    decide
  obtain ⟨seen, released⟩ := held_streams_in_sight opened (valid _ opened)
  let reader : Follower := { stopped := true, feeds := [.line "one"] }
  have hr := released 1 reader (by decide +kernel) (by decide)
  have killed : reader.poll.child.ended ≠ none := by
    intro hn
    cases (hr.2.mp hn).1
  exact ⟨_, opened, valid _ opened, by decide, seen 2 (by decide), reader, by decide +kernel, rfl,
    hr.1, killed⟩

/-- A reader that has left off reading does not hear that it is to stop: the escape key gives the
stream up, and its child runs on. -/
theorem abandoned_child_runs_on :
    ∃ start : Dashboard TableSource (Except Failure TableView),
      start? {} [] .all "kind" "kind" {} = some start ∧
      let steps := [.attachLogs "logs pods/web" none, .child 1 (.write [0xff, 10]), .runFollowers,
        .act .escape, .runFollowers]
      Step.ValidTrace TableSource.backend start steps ∧
      let d := Step.runTrace TableSource.backend start steps
      d.stream = none ∧ d.top.layer = .table ∧
        ∃ f, (1, f) ∈ d.followers ∧ f.stopped = true ∧ f.child.ended = none ∧ f.poll = f := by
  have opened : start? {} [] .all "kind" "kind" {} =
    some (_ : Dashboard TableSource (Except Failure TableView)) := rfl
  let reader : Follower := { phase := .ending, stopped := true }
  exact ⟨_, opened, by decide, by decide, by decide, reader, by decide +kernel, rfl, rfl, rfl⟩

end ClusterDashboard.Dashboard
