import ClusterDashboard.Dashboard.Run
import ClusterDashboard.Proofs.Refresh.Readings
/-!
# Where the dashboard stands with its question

The question is in three places: the mode, the target that waits, and the layer on top. Their
`Situation` is either `Quiet` or `Asking`; most of what happens does not change it, and an action
that does keeps it quiet, but for the one that asks.
-/
namespace ClusterDashboard

structure Situation where
  course : Navigator Unit
  covered : Option Track
  mode : Mode
  pendingDelete : Option Target

namespace Situation

variable {q : Situation} {target : Target}

/-- What lies below the layer on top asks nothing. -/
structure Calm (q : Situation) : Prop where
  sound : q.course.Sound
  covered : ∀ track, q.covered = some track → track.layer.isConfirm = false

structure Quiet (q : Situation) : Prop extends Calm q where
  mode : q.mode ≠ .confirm
  pending : q.pendingDelete = none
  top : q.course.top.layer.isConfirm = false

structure Asking (target : Target) (q : Situation) : Prop extends Calm q where
  mode : q.mode = .confirm
  pending : q.pendingDelete = some target
  top : q.course.top.layer = .confirm (Dashboard.deletePrompt target)

end Situation

namespace Dashboard

variable {S J : Type} {d e : Dashboard S J} {target : Target}

def situation (d : Dashboard S J) : Situation where
  course := d.nav.course
  covered := d.covered
  mode := d.mode
  pendingDelete := d.pendingDelete

theorem top_of_situation (h : e.situation = d.situation) : e.top = d.top :=
  congrArg (fun q : Situation => q.course.top) h

theorem withNav_nav {α : Type}
    (act : Navigator (View TablePage) → Navigator (View TablePage) × α) (d : Dashboard S J) :
    (d.withNav act).1.nav = (act d.nav).1 :=
  Session.withNav_nav act d.session

theorem withNav_situation {α : Type}
    (act : Navigator (View TablePage) → Navigator (View TablePage) × α) (d : Dashboard S J) :
    (d.withNav act).1.situation =
      { d.situation with course := (act d.nav).1.course } := by
  rw [situation, withNav_nav]
  rfl

theorem triggerRefresh_situation (d : Dashboard S J) :
    d.triggerRefresh.1.situation = d.situation := by
  simp only [triggerRefresh, situation, nav,
    Session.course_of_outline (Session.trigger_outline _ d.session)]

/-- A request for a refresh comes after a navigation, and a word in the status line. -/
theorem goBack_situation (d : Dashboard S J) : d.goBack.situation =
    { d.situation with course := (d.nav.goBack d.factory).1.course } := by
  let there : Dashboard S J := { (d.withNav (·.goBack d.factory)).1 with scroll := 0 }
  have moved : there.situation = _ := withNav_situation (·.goBack d.factory) d
  exact (triggerRefresh_situation there).trans moved

theorem openPage_situation (name : String) (d : Dashboard S J) : (d.openPage name).situation =
    { d.situation with course := (d.nav.navigate d.factory name).1.course } := by
  let there : Dashboard S J := { (d.withNav (·.navigate d.factory name)).1 with scroll := 0 }
  have moved : there.situation = _ := withNav_situation (·.navigate d.factory name) d
  exact (triggerRefresh_situation there).trans moved

theorem onPage_situation (change : TablePage → TablePage) (d : Dashboard S J) :
    (d.onPage change).situation = d.situation := by
  simp only [onPage, situation, nav,
    Session.course_of_outline (Session.modifyPage_outline _ change d.session)]

theorem tick_situation (d : Dashboard S J) : d.tick.1.situation = d.situation := by
  unfold tick
  split
  · exact triggerRefresh_situation d
  · rfl

theorem clampScroll_situation (height : Nat) (d : Dashboard S J) :
    (d.clampScroll height).situation = d.situation := by
  unfold clampScroll
  split <;> rfl

theorem background_situation {b : Backend S TablePage J} {event : Session.Event S TablePage}
    (h : event.navigates = false) :
    (situation { d with session := Session.next b d.session event }) = d.situation := by
  simp only [situation, nav, Session.next_course h]

theorem stopStream_situation (d : Dashboard S J) : d.stopStream.situation = d.situation := by
  unfold stopStream
  split <;> rfl

theorem syncStream_situation (d : Dashboard S J) : d.syncStream.situation = d.situation := by
  unfold syncStream
  split
  · exact stopStream_situation d
  · rfl

/-- A message that comes while a question is open goes to the status line. -/
theorem showStatus_situation (h : d.mode = .confirm) (message : String) (kind : StatusKind) :
    (d.showStatus message kind).situation = d.situation := by
  have hs : (d.say message).mode = .confirm := h
  unfold showStatus
  dsimp only
  rw [if_pos hs]
  rfl

section Start

variable {settings : Settings} {catalog : Catalog} {scope : Scope} {cluster context : String}
  {source : S}

theorem start_top (opened : start? settings catalog scope cluster context source = some d) :
    d.top = .table settings.rootPage.token := by
  obtain ⟨session, hs, rfl⟩ := Option.map_eq_some_iff.mp opened
  have hc := Session.course_of_outline
    (Session.trigger_outline session.nav.currentView session)
  obtain ⟨n, hn, rfl⟩ := Option.map_eq_some_iff.mp hs
  obtain ⟨page, -, rfl⟩ := Navigator.start_eq hn
  exact (congrArg Navigator.top hc).trans (Navigator.shown_top ..)

theorem start_quiet (opened : start? settings catalog scope cluster context source = some d) :
    d.situation.Quiet := by
  have ht := start_top opened
  obtain ⟨session, hs, rfl⟩ := Option.map_eq_some_iff.mp opened
  have hc := Session.course_of_outline
    (Session.trigger_outline session.nav.currentView session)
  have hi := (Session.start_invariant hs).sound
  have hm : Mode.normal ≠ .confirm := by decide
  refine ⟨⟨?_, ?_⟩, hm, rfl, congrArg (·.layer.isConfirm) ht⟩
  · simp only [situation, nav, hc]
    exact (Navigator.course_sound _).mpr hi
  · intro track ht
    cases ht

theorem start_sound (opened : start? settings catalog scope cluster context source = some d) :
    d.nav.Sound :=
  d.nav.course_sound.mp (start_quiet opened).sound

end Start

namespace Quiet

open Situation (Quiet)

theorem withNav {α : Type} (h : d.situation.Quiet) (op : Navigator.Operation (View TablePage))
    {act : Navigator (View TablePage) → Navigator (View TablePage) × α}
    (ha : (act d.nav).1 = op.apply d.nav) (ho : op.asks = false) :
    (d.withNav act).1.situation.Quiet := by
  have hs : d.nav.Sound := d.nav.course_sound.mp h.sound
  rw [withNav_situation, ha]
  exact ⟨⟨(Navigator.course_sound _).mpr (hs.apply op), h.covered⟩, h.mode, h.pending,
    hs.apply_unasked h.top ho⟩

theorem showLayer (h : d.situation.Quiet) {layer : Layer} (hl : layer.isConfirm = false) :
    (d.showLayer layer).situation.Quiet :=
  withNav h (.switchPage d.factory d.currentName layer) rfl hl

theorem dismissOverlay (h : d.situation.Quiet) : d.dismissOverlay.1.situation.Quiet :=
  withNav h .dismissOverlay rfl rfl

theorem cover (h : d.situation.Quiet) {covered : Option Track}
    (hc : ∀ track, covered = some track → track.layer.isConfirm = false) :
    situation { d with covered } |>.Quiet :=
  ⟨⟨h.sound, hc⟩, h.mode, h.pending, h.top⟩

theorem uncover (h : d.situation.Quiet) : (situation { d with covered := none }).Quiet := by
  apply cover h
  intro track ht
  cases ht

theorem coveredBy (h : d.situation.Quiet) (top : Track) :
    ∀ track, d.coveredBy top = some track → track.layer.isConfirm = false := by
  intro track ht
  unfold Dashboard.coveredBy at ht
  cases hl : top.layer with
  | status message kind =>
    rw [hl] at ht
    exact h.covered track ht
  | detail | logs =>
    rw [hl] at ht
    cases ht
    rw [hl]
    rfl
  | table | menu | confirm =>
    rw [hl] at ht
    cases ht

theorem showStatus (h : d.situation.Quiet) (message : String) (kind : StatusKind) :
    (d.showStatus message kind).situation.Quiet := by
  have hs : (d.say message).situation.Quiet := h
  unfold Dashboard.showStatus
  dsimp only
  split
  · exact hs
  · exact showLayer (cover hs (coveredBy hs _)) rfl

theorem showError (h : d.situation.Quiet) (message : String) :
    (d.showError message).situation.Quiet :=
  showStatus h message .error

theorem say (h : d.situation.Quiet) (status : String) : (d.say status).situation.Quiet := h

theorem triggerRefresh (h : d.situation.Quiet) : d.triggerRefresh.1.situation.Quiet := by
  rw [triggerRefresh_situation]
  exact h

theorem onPage (h : d.situation.Quiet) (change : TablePage → TablePage) :
    (d.onPage change).situation.Quiet := by
  rw [onPage_situation]
  exact h

theorem syncStream (h : d.situation.Quiet) : d.syncStream.situation.Quiet := by
  rw [syncStream_situation]
  exact h

theorem clearStatus (h : d.situation.Quiet) : d.clearStatus.situation.Quiet := by
  have hc := uncover h
  unfold Dashboard.clearStatus
  dsimp only
  split
  · next track ht =>
    split
    · exact showLayer hc (h.covered track ht)
    · exact dismissOverlay hc
  · exact dismissOverlay hc

theorem setDetail (h : d.situation.Quiet) (verb : DetailVerb) (target : Target) (body : String) :
    (d.setDetail verb target body).situation.Quiet :=
  syncStream (showLayer (uncover h) rfl)

theorem attachLogs (h : d.situation.Quiet) (title : String)
    (started : Except Failure Kubectl.Follower) : (d.attachLogs title started).situation.Quiet := by
  have hs : d.stopStream.situation.Quiet := by
    rw [stopStream_situation]
    exact h
  unfold Dashboard.attachLogs
  dsimp only
  cases started with
  | error failure =>
    refine showError ?_ _
    exact hs
  | ok follower =>
    refine showLayer ?_ rfl
    exact uncover hs

theorem startLogs (h : d.situation.Quiet) (program : Kubectl.Program) (target : Target) :
    (d.startLogs program target).situation.Quiet := by
  unfold Dashboard.startLogs
  split
  · exact showError h _
  · exact attachLogs h _ _

theorem finishChange (h : d.situation.Quiet) (verb : String) (target : Target)
    (outcome : Except Failure Unit) : (d.finishChange verb target outcome).situation.Quiet := by
  cases outcome with
  | ok => exact triggerRefresh (showStatus h _ _)
  | error failure => exact showError h _

theorem perform (h : d.situation.Quiet) (program : Kubectl.Program) (editors : Kubectl.Editors)
    (effect : Effect) : (d.perform program editors effect).1.situation.Quiet := by
  cases effect with
  | none => exact h
  | loadDetail verb target =>
    simp only [Dashboard.perform]
    split
    · exact setDetail h ..
    · exact showError h _
  | followLogs target => exact startLogs h program target
  | edit target => exact finishChange h ..
  | shell target =>
    simp only [Dashboard.perform]
    split
    · exact showError h _
    · dsimp only
      split
      · exact h
      · exact showError h _
  | delete target => exact finishChange h ..

theorem onRefreshEvent (h : d.situation.Quiet) (event : RefreshEvent) :
    (d.onRefreshEvent event).situation.Quiet := by
  unfold Dashboard.onRefreshEvent
  split
  · exact h
  · split
    · exact showError h _
    · exact h

theorem onUiEvent (h : d.situation.Quiet) (event : UiEvent) :
    (d.onUiEvent event).situation.Quiet := by
  unfold Dashboard.onUiEvent
  split
  · split
    · exact h
    · apply syncStream
      split
      · exact clearStatus h
      · exact h
  · split <;> exact h

end Quiet

end Dashboard
end ClusterDashboard
