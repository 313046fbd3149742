import ClusterDashboard.Dashboard.Action
import ClusterDashboard.Dashboard.Drawing
/-!
Carrying out effects, and letting the background work go on: refreshes, log readers, and the
timers of status messages.
-/
namespace ClusterDashboard.Dashboard

variable {S J : Type}

open Kubectl (Program Editors Call)

/-- Reports the end of a change and asks for fresh rows if it was made. -/
def finishChange (verb : String) (target : Target) (outcome : Except Failure Unit)
    (d : Dashboard S J) : Dashboard S J :=
  match outcome with
  | .ok () => (d.showStatus (verb ++ " " ++ target.label) .progress).triggerRefresh.1
  | .error failure => d.showError failure.compact

/-- Carries out an effect with the given program as kubectl; tells how that was started, if it
was. -/
def perform (program : Program) (editors : Editors) (effect : Effect) (d : Dashboard S J) :
    Dashboard S J × Option Call :=
  match effect with
  | .none => (d, none)
  | .loadDetail verb target =>
    let arguments := Kubectl.detailArguments verb target
    let d := match Kubectl.capture program arguments with
      | .ok body => d.setDetail verb target body
      | .error failure => d.showError failure.compact
    (d, Kubectl.captureCall? program editors arguments)
  | .followLogs target =>
    (d.startLogs program target,
      match Kubectl.logsArguments target with
      | .ok arguments => Kubectl.captureCall? program editors arguments
      | .error _ => none)
  | .edit target =>
    let arguments := Kubectl.editArguments target
    (d.finishChange "Edited" target (Kubectl.interact program arguments),
      Kubectl.interactCall? program editors arguments)
  | .shell target =>
    match Kubectl.shellArguments target with
    | .error e => (d.showError (Failure.ofTexts [e.message]).compact, none)
    | .ok arguments =>
      (match Kubectl.interact program arguments with
        | .ok () => d
        | .error failure => d.showError failure.compact,
        Kubectl.interactCall? program editors arguments)
  | .delete target =>
    let arguments := Kubectl.deleteArguments target
    (d.finishChange "Deleted" target ((Kubectl.capture program arguments).map fun _ => ()),
      Kubectl.captureCall? program editors arguments)

/-- Timers start with their first turn and report when their time is over. -/
def runTimers (d : Dashboard S J) : Dashboard S J :=
  let timers := d.timers.map fun t =>
    { t with due := some (t.due.getD (d.clock + d.settings.statusDelayMs)) }
  let (expired, left) := timers.partition fun t => t.due.any (· ≤ d.clock)
  { d with
    timers := left
    uiEvents := d.uiEvents ++ expired.map fun t => .statusExpired t.ticket }

/-- Each reader takes its turn and hands on what is new. -/
def runFollowers (d : Dashboard S J) : Dashboard S J :=
  let turns := d.followers.map fun (id, f) => (id, f.feeds.length, f.poll)
  { d with
    followers := turns.map fun (id, _, f) => (id, f)
    uiEvents := d.uiEvents ++
      turns.flatMap fun (id, seen, f) => (f.feeds.drop seen).map (UiEvent.log id) }

/-- Lets all background work go on until it waits. -/
def settle (b : Backend S TablePage J) (d : Dashboard S J) : Dashboard S J :=
  { d with session := d.session.settle b }.runTimers.runFollowers

/-- What was handed over: refresh events first, then the dashboard's own. -/
structure Delivered where
  refreshes : List RefreshEvent
  ui : List UiEvent

def deliver (d : Dashboard S J) : Dashboard S J × Delivered :=
  let (session, refreshes) := d.session.takeEvents
  let ui := d.uiEvents
  let d := { d with session, uiEvents := [] }
  let d := refreshes.foldl (fun d event => d.onRefreshEvent event) d
  (ui.foldl (fun d event => d.onUiEvent event) d, ⟨refreshes, ui⟩)

def advance (b : Backend S TablePage J) (ms : Nat) (d : Dashboard S J) : Dashboard S J :=
  let d := d.settle b
  { d with clock := d.clock + ms }.settle b

/-- Refreshes the page in view at once, past its refresh loop; gives the failure if it failed. -/
def load (d : Dashboard TableSource (Except Failure TableView)) :
    Dashboard TableSource (Except Failure TableView) × Option Failure :=
  let (page, failure) := d.page.receive (d.session.source.answer d.page)
  let source := (d.session.source.record d.page).pass d.page
  let d := { d with session := { d.session with source } }
  (d.onPage fun _ => page, failure)

/-- Opens a page's gate for one refresh. -/
def releaseGate (page : String) (d : Dashboard TableSource J) : Dashboard TableSource J :=
  let (gates, waiting) := d.session.source.gates.release page
  let session := { d.session with source := { d.session.source with gates } }
  match waiting with
  | some id => { d with session := session.resume id }
  | none => { d with session }

/-- A key acts, the screen is drawn, and the effect is carried out. -/
def typeKey (program : Program) (editors : Editors) (height : Nat)
    (state : Dashboard S J × Option Call) (key : Key) : Dashboard S J × Option Call :=
  let (d, call) := state
  if !d.running then state
  else
    let (d, effect) := (d.clampScroll height).press key
    let (d, started) := (d.clampScroll height).perform program editors effect
    (d.clampScroll height, started.or call)

/-- Keys typed one after the other on a screen of the given height, until the dashboard is left;
tells how kubectl was started last. The first periodic refresh is due at once. -/
def runKeys (program : Program) (editors : Editors) (height : Nat) (keys : List Key)
    (d : Dashboard S J) : Dashboard S J × Option Call :=
  let body := (bodyArea 0 height).height
  keys.foldl (typeKey program editors body) (d.tick.1.clampScroll body, none)

/-- Watch events poke the page of their kind, if it was ever visited. -/
def notifyKind (kind : BuiltinKind) (d : Dashboard S J) : Dashboard S J :=
  match d.nav.page? kind.token with
  | some view => { d with session := (d.session.trigger view).1 }
  | none => d

/-- The child behind a stream goes on. -/
def childStep (stream : Nat) (event : Kubectl.FollowEvent) (d : Dashboard S J) : Dashboard S J :=
  { d with
    followers := d.followers.map fun (id, f) =>
      if id = stream then (id, f.next event) else (id, f) }

end ClusterDashboard.Dashboard
