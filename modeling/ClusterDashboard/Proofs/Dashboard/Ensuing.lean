import ClusterDashboard.Proofs.Dashboard.Steps
/-!
# What comes of a step

But for the background work and the timers, whatever happens to a dashboard is a chain of the deeds
that actions are made of, of details and logs that come into view, and of things that have no
bearing on pages and messages.
-/
namespace ClusterDashboard.Dashboard

variable {S J : Type} {b : Backend S TablePage J} {d e f : Dashboard S J} {step : Step S}

/-- What pages, scopes and messages depend on. -/
structure Bearing (S J : Type) where
  session : Session S TablePage J
  settings : Settings
  scope : Scope
  mode : Mode
  ticket : Nat
  covered : Option Track
  timers : List Timer

def bearing (d : Dashboard S J) : Bearing S J where
  session := d.session
  settings := d.settings
  scope := d.scope
  mode := d.mode
  ticket := d.ticket
  covered := d.covered
  timers := d.timers

/-- A detail or a log takes the place of all that lay over the page. -/
def reveal (layer : Layer) (d : Dashboard S J) : Dashboard S J :=
  { d with covered := none }.showLayer layer

inductive Ensues (d : Dashboard S J) : Dashboard S J → Prop where
  | refl : Ensues d d
  | leads {e f : Dashboard S J} (h : Ensues d e) (deeds : Leads e f) : Ensues d f
  | reveal {e : Dashboard S J} (h : Ensues d e) (layer : Layer)
    (legible : layer.isScrollable = true) : Ensues d (e.reveal layer)
  | aside {e f : Dashboard S J} (h : Ensues d e) (same : f.bearing = e.bearing) : Ensues d f

theorem stopStream_bearing (d : Dashboard S J) : d.stopStream.bearing = d.bearing := by
  rw [stopStream]
  split <;> rfl

theorem syncStream_bearing (d : Dashboard S J) : d.syncStream.bearing = d.bearing := by
  rw [syncStream]
  split
  · exact stopStream_bearing d
  · rfl

namespace Ensues

theorem sound (h : Ensues d e) (hs : d.nav.Sound) : e.nav.Sound := by
  induction h with
  | refl => exact hs
  | leads _ deeds ih => exact deeds.sound ih
  | @reveal e _ layer _ ih =>
    have he : (nav { e with covered := none }).Sound := ih
    exact showLayer_sound he layer
  | @aside e f _ same ih =>
    have hn : f.nav = e.nav := congrArg (fun k : Bearing S J => k.session.nav) same
    rw [hn]
    exact ih

theorem synced (h : Ensues d e) : Ensues d e.syncStream := h.aside (syncStream_bearing e)

theorem showStatus (h : Ensues d e) (message : String) (kind : StatusKind) :
    Ensues d (e.showStatus message kind) :=
  h.leads (Leads.refl.showStatus message kind)

theorem onUiEvent (h : Ensues d e) (event : UiEvent) : Ensues d (e.onUiEvent event) := by
  cases event with
  | statusExpired ticket =>
    rw [Dashboard.onUiEvent]
    split
    · exact h
    · split
      · exact (h.leads Leads.refl.clearStatus).synced
      · exact h.synced
  | log stream feed =>
    rw [Dashboard.onUiEvent]
    split
    · exact h
    · exact h.aside rfl

theorem onRefreshEvent (h : Ensues d e) (event : RefreshEvent) :
    Ensues d (e.onRefreshEvent event) := by
  cases event with
  | rendered page => exact h
  | failed page error =>
    rw [Dashboard.onRefreshEvent]
    split
    · exact h.showStatus _ _
    · exact h

theorem setDetail (h : Ensues d e) (verb : DetailVerb) (target : Target) (body : String) :
    Ensues d (e.setDetail verb target body) := by
  have hd := h.reveal (.detail (verb.title ++ " " ++ target.label) body) rfl
  exact (hd.leads (Leads.refl.scrollTo 0)).synced

theorem attachLogs (h : Ensues d e) (title : String)
    (started : Except Failure Kubectl.Follower) : Ensues d (e.attachLogs title started) := by
  have hs : Ensues d { e.stopStream with streamId := e.stopStream.streamId + 1 } :=
    h.aside (stopStream_bearing e)
  cases started with
  | error failure => exact hs.showStatus _ _
  | ok follower =>
    let streaming := { e.stopStream with
      streamId := e.stopStream.streamId + 1
      stream := some (e.stopStream.streamId + 1)
      followers := e.stopStream.followers.put (e.stopStream.streamId + 1) follower
      logLines := []
      following := true
      scroll := scrollEnd
      status := "Following " ++ title }
    have ht : Ensues d streaming := hs.aside rfl
    exact ht.reveal (.logs title) rfl

theorem startLogs (h : Ensues d e) (program : Kubectl.Program) (target : Target) :
    Ensues d (e.startLogs program target) := by
  rw [Dashboard.startLogs]
  split
  · exact h.showStatus _ _
  · exact h.attachLogs _ _

end Ensues

namespace Step

/-- The steps that let background work go on, each in its own way. -/
def isWork : Step S → Bool
  | .background _ | .runTimers => true
  | _ => false

theorem ensues (b : Backend S TablePage J) (d : Dashboard S J) (h : step.isWork = false) :
    Ensues d (step.next b d) := by
  cases step with
  | act action => exact (Ensues.refl.leads (Leads.refl.dispatch action)).synced
  | uiEvent event => exact Ensues.refl.onUiEvent event
  | refreshEvent event => exact Ensues.refl.onRefreshEvent event
  | message text kind => exact Ensues.refl.showStatus text kind
  | setDetail verb target body => exact Ensues.refl.setDetail verb target body
  | startLogs program target => exact Ensues.refl.startLogs program target
  | attachLogs title refusal => exact Ensues.refl.attachLogs title _
  | tick =>
    rw [next, Dashboard.tick]
    split
    · exact Ensues.refl.leads Leads.refl.triggerRefresh
    · exact Ensues.refl
  | background | runTimers => cases h
  | child | runFollowers | wait | scrollTo | emptyQueue | discover | identify =>
    exact Ensues.refl.aside rfl

end Step
end ClusterDashboard.Dashboard
