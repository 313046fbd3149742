import ClusterDashboard.Proofs.Dashboard.Deeds
import ClusterDashboard.Proofs.Dashboard.Runs
/-!
# Steps of the dashboard

One call after the other, in any order: actions that no key stands for, effects that no action left,
messages and feeds that nothing sent. Every event of a desk is made of such steps, so what holds
of all runs of steps holds wherever keys lead.
-/
namespace ClusterDashboard.Dashboard

variable {S J : Type} {b : Backend S TablePage J} {d : Dashboard S J}

inductive Step (S : Type) where
  | act (action : Action)
  | uiEvent (event : UiEvent)
  | refreshEvent (event : RefreshEvent)
  | message (text : String) (kind : StatusKind)
  | setDetail (verb : DetailVerb) (target : Target) (body : String)
  | startLogs (program : Kubectl.Program) (target : Target)
  /-- A stream that is asked for by other ways, and why there is none if there is none. -/
  | attachLogs (title : String) (refusal : Option Failure)
  | tick
  | background (event : Session.Event S TablePage)
  | child (stream : Nat) (event : Kubectl.FollowEvent)
  | runFollowers
  | runTimers
  | wait (ms : Nat)
  | scrollTo (scroll : Nat)
  | emptyQueue
  | discover (catalog : Catalog)
  | identify (version : String)

namespace Step

/-- A stream that has just been started. -/
def freshReader (refusal : Option Failure) : Except Failure Kubectl.Follower :=
  match refusal with
  | none => .ok {}
  | some failure => .error failure

def next (b : Backend S TablePage J) (d : Dashboard S J) : Step S → Dashboard S J
  | .act action => (d.act action).1
  | .uiEvent event => d.onUiEvent event
  | .refreshEvent event => d.onRefreshEvent event
  | .message text kind => d.showStatus text kind
  | .setDetail verb target body => d.setDetail verb target body
  | .startLogs program target => d.startLogs program target
  | .attachLogs title refusal => d.attachLogs title (freshReader refusal)
  | .tick => d.tick.1
  | .background event => { d with session := Session.next b d.session event }
  | .child stream event => d.childStep stream event
  | .runFollowers => d.runFollowers
  | .runTimers => d.runTimers
  | .wait ms => { d with clock := d.clock + ms }
  | .scrollTo scroll => { d with scroll }
  | .emptyQueue => { d with uiEvents := [] }
  | .discover catalog => { d with catalog }
  | .identify version => { d with serverVersion := version }

/-- Only actions navigate. -/
def Enabled (d : Dashboard S J) : Step S → Prop
  | .background event => Session.Enabled d.session event ∧ event.navigates = false
  | _ => True

instance (d : Dashboard S J) : (step : Step S) → Decidable (Enabled d step)
  | .background event =>
    inferInstanceAs (Decidable (Session.Enabled d.session event ∧ event.navigates = false))
  | .act _ | .uiEvent _ | .refreshEvent _ | .message _ _ | .setDetail _ _ _ | .startLogs _ _
  | .attachLogs _ _ | .tick | .child _ _ | .runFollowers | .runTimers | .wait _ | .scrollTo _
  | .emptyQueue | .discover _ | .identify _ => .isTrue trivial

abbrev runTrace (b : Backend S TablePage J) : Dashboard S J → List (Step S) → Dashboard S J :=
  Trace.run (next b)

abbrev ValidTrace (b : Backend S TablePage J) : Dashboard S J → List (Step S) → Prop :=
  Trace.Valid Enabled (next b)

abbrev Reaches (b : Backend S TablePage J) : Dashboard S J → Dashboard S J → Prop :=
  Trace.Reaches Enabled (next b)

theorem reaches (step : Step S) (h : Enabled d step) : Reaches b d (next b d step) :=
  Trace.Reaches.step h

end Step

theorem clampScroll_eq (height : Nat) (d : Dashboard S J) :
    d.clampScroll height = { d with scroll := (d.clampScroll height).scroll } := by
  rw [clampScroll]
  split <;> rfl

theorem stopStream_sound (h : d.nav.Sound) : d.stopStream.nav.Sound :=
  sound_of_situation (stopStream_situation d) h

theorem syncStream_sound (h : d.nav.Sound) : d.syncStream.nav.Sound :=
  sound_of_situation (syncStream_situation d) h

theorem act_sound (h : d.nav.Sound) (action : Action) : (d.act action).1.nav.Sound :=
  syncStream_sound (((Leads.refl (d := d)).dispatch action).sound h)

theorem onUiEvent_sound (h : d.nav.Sound) (event : UiEvent) : (d.onUiEvent event).nav.Sound := by
  cases event with
  | statusExpired ticket =>
    rw [onUiEvent]
    split
    · exact h
    · apply syncStream_sound
      split
      · exact clearStatus_sound h
      · exact h
  | log stream feed =>
    rw [onUiEvent]
    split <;> exact h

theorem onRefreshEvent_sound (h : d.nav.Sound) (event : RefreshEvent) :
    (d.onRefreshEvent event).nav.Sound := by
  cases event with
  | rendered page => exact h
  | failed page error =>
    rw [onRefreshEvent]
    split
    · exact showStatus_sound h _ _
    · exact h

theorem attachLogs_sound (h : d.nav.Sound) (title : String)
    (started : Except Failure Kubectl.Follower) : (d.attachLogs title started).nav.Sound := by
  have hs := stopStream_sound h
  cases started with
  | error failure =>
    have he : (nav { d.stopStream with streamId := d.stopStream.streamId + 1 }).Sound := hs
    exact showStatus_sound he _ _
  | ok follower =>
    refine showLayer_sound ?_ _
    exact hs

theorem startLogs_sound (h : d.nav.Sound) (program : Kubectl.Program) (target : Target) :
    (d.startLogs program target).nav.Sound := by
  rw [startLogs]
  split
  · exact showStatus_sound h _ _
  · exact attachLogs_sound h _ _

namespace Step

theorem sound {step : Step S} (he : Enabled d step) (h : d.nav.Sound) :
    (next b d step).nav.Sound := by
  cases step with
  | act action => exact act_sound h action
  | uiEvent event => exact onUiEvent_sound h event
  | refreshEvent event => exact onRefreshEvent_sound h event
  | message text kind => exact showStatus_sound h text kind
  | setDetail verb target body =>
    have hd : (nav { d with covered := none }).Sound := h
    have hl := showLayer_sound hd (.detail (verb.title ++ " " ++ target.label) body)
    exact syncStream_sound hl
  | startLogs program target => exact startLogs_sound h program target
  | attachLogs title refusal => exact attachLogs_sound h title _
  | tick => exact sound_of_situation (tick_situation d) h
  | background event => exact sound_of_situation (background_situation he.2) h
  | child | runFollowers | runTimers | wait | scrollTo | emptyQueue | discover | identify => exact h

theorem trace_sound (h : d.nav.Sound) {steps : List (Step S)} (valid : ValidTrace b d steps) :
    (runTrace b d steps).nav.Sound :=
  Trace.run_induction (motive := fun d => d.nav.Sound) h (fun _ _ => sound) valid

theorem Reaches.sound {t : Dashboard S J} (h : Reaches b d t) (hd : d.nav.Sound) :
    t.nav.Sound := by
  obtain ⟨steps, valid, rfl⟩ := h
  exact trace_sound hd valid

/-- The end of a change is a message, and maybe a request for a refresh. -/
theorem finishChange_reaches (h : d.nav.Sound) (verb : String) (target : Target)
    (outcome : Except Failure Unit) : Reaches b d (d.finishChange verb target outcome) := by
  cases outcome with
  | error failure => exact Step.reaches (.message failure.compact .error) trivial
  | ok done =>
    have hm := showStatus_sound h (verb ++ " " ++ target.label) .progress
    refine ⟨[.message _ .progress, .background (.trigger _)], ?_, rfl⟩
    exact ⟨trivial, ⟨hm.currentView_made, rfl⟩, trivial⟩

theorem perform_reaches (h : d.nav.Sound) (program : Kubectl.Program) (editors : Kubectl.Editors)
    (effect : Effect) : Reaches b d (d.perform program editors effect).1 := by
  cases effect with
  | none => exact .refl d
  | loadDetail verb target =>
    rw [perform]
    dsimp only
    split
    · next body _ => exact Step.reaches (.setDetail verb target body) trivial
    · next failure _ => exact Step.reaches (.message failure.compact .error) trivial
  | followLogs target => exact Step.reaches (.startLogs program target) trivial
  | edit target => exact finishChange_reaches h _ _ _
  | shell target =>
    rw [perform]
    split
    · next e _ => exact Step.reaches (.message (Failure.ofTexts [e.message]).compact .error) trivial
    · dsimp only
      split
      · exact .refl d
      · next failure _ => exact Step.reaches (.message failure.compact .error) trivial
  | delete target => exact finishChange_reaches h _ _ _

end Step

namespace Desk

variable {s : Desk S J} {e : Event S}

theorem next_steps (he : Enabled s e) (h : s.board.nav.Sound) :
    Step.Reaches b s.board (next b s e).board := by
  cases e with
  | press key =>
    rw [next, press]
    split
    · next action _ => exact Step.reaches (.act action) trivial
    · exact .refl _
  | perform program editors => exact Step.perform_reaches h program editors s.due
  | refreshEvent event => exact Step.reaches (.refreshEvent event) trivial
  | uiEvent event => exact Step.reaches (.uiEvent event) trivial
  | message text kind => exact Step.reaches (.message text kind) trivial
  | tick => exact Step.reaches .tick trivial
  | background event => exact Step.reaches (.background event) he
  | child stream event => exact Step.reaches (.child stream event) trivial
  | runFollowers => exact Step.reaches .runFollowers trivial
  | runTimers => exact Step.reaches .runTimers trivial
  | wait ms => exact Step.reaches (.wait ms) trivial
  | clampScroll height =>
    rw [next, onBoard, clampScroll_eq]
    exact Step.reaches (.scrollTo _) trivial
  | emptyQueue => exact Step.reaches .emptyQueue trivial
  | discover catalog => exact Step.reaches (.discover catalog) trivial
  | identify version => exact Step.reaches (.identify version) trivial

/-- Wherever keys and what comes of them lead, steps lead. -/
theorem trace_steps (h : s.board.nav.Sound) {events : List (Event S)}
    (valid : ValidTrace b s events) : Step.Reaches b s.board (runTrace b s events).board := by
  induction events generalizing s with
  | nil => exact .refl _
  | cons e events ih =>
    have hn : Step.Reaches b s.board (next b s e).board := next_steps valid.1 h
    exact hn.trans (ih (hn.sound h) valid.2)

end Desk
end ClusterDashboard.Dashboard
