import ClusterDashboard.Dashboard.Basic
/-!
Status messages and log streams. A message covers the layer below it until it is dismissed; a
stream is held only as long as its output can be seen or lies under a message.
-/
namespace ClusterDashboard.Dashboard

variable {S J : Type}

/-- The log lines that are kept. -/
def logLimit : Nat := 5000

/-- The layer to come back to under a message shown over `top`; of stacked messages the first
covered it. -/
def coveredBy (d : Dashboard S J) (top : Track) : Option Track :=
  match top.layer with
  | .status _ _ => d.covered
  | .detail _ _ | .logs _ => some top
  | .table | .menu | .confirm _ => none

/-- Shows a message and schedules its dismissal. While a question is open the message goes to the
status line only. -/
def showStatus (message : String) (kind : StatusKind) (d : Dashboard S J) : Dashboard S J :=
  let d := d.say message
  if d.mode = .confirm then d
  else
    let d := { d with covered := d.coveredBy d.top }
    let d := d.showLayer (.status message kind)
    { d with ticket := d.ticket + 1, timers := d.timers ++ [{ ticket := d.ticket + 1 }] }

def showError (message : String) (d : Dashboard S J) : Dashboard S J := d.showStatus message .error

/-- Takes the message away and brings back what it covered, if that was on this page. -/
def clearStatus (d : Dashboard S J) : Dashboard S J :=
  let covered := d.covered
  let d := { d with covered := none }
  match covered with
  | some track => if track.name = d.currentName then d.showLayer track.layer else d.dismissOverlay.1
  | none => d.dismissOverlay.1

def logsOnScreen (d : Dashboard S J) : Bool :=
  d.top.layer.isLogs ||
    (d.top.layer.isStatus &&
      d.covered.any fun track => track.name == d.top.name && track.layer.isLogs)

def stopStream (d : Dashboard S J) : Dashboard S J :=
  match d.stream with
  | none => d
  | some id =>
    { d with
      stream := none
      followers := d.followers.map fun (i, f) => if i = id then (i, f.stop) else (i, f) }

/-- Gives up the stream whose output can no longer be seen. -/
def syncStream (d : Dashboard S J) : Dashboard S J :=
  if d.stream.isSome && !d.logsOnScreen then d.stopStream else d

def pushLogLine (line : String) (d : Dashboard S J) : Dashboard S J :=
  let lines := d.logLines ++ [line]
  { d with
    logLines := lines.drop (lines.length - logLimit)
    scroll := if d.following then scrollEnd else d.scroll }

def feedLine : Kubectl.Feed → String
  | .line text => text
  | .closed none => "[log stream ended]"
  | .closed (some reason) => "[log stream failed: " ++ reason ++ "]"

def onUiEvent (event : UiEvent) (d : Dashboard S J) : Dashboard S J :=
  match event with
  | .statusExpired ticket =>
    if ticket ≠ d.ticket then d
    else (if d.top.layer.isStatus then d.clearStatus else d).syncStream
  | .log stream feed =>
    if stream ≠ d.streamId || d.stream.isNone then d else d.pushLogLine (feedLine feed)

def onRefreshEvent (event : RefreshEvent) (d : Dashboard S J) : Dashboard S J :=
  match event with
  | .rendered _ => d
  | .failed page error => if page = d.currentName then d.showError error else d

def setDetail (verb : DetailVerb) (target : Target) (body : String) (d : Dashboard S J) :
    Dashboard S J :=
  let d := { d with covered := none }
  let d := d.showLayer (.detail (verb.title ++ " " ++ target.label) body)
  { d with scroll := 0 }.syncStream

/-- Replaces the open stream by the one that was started, or reports why none was. -/
def attachLogs (title : String) (started : Except Failure Kubectl.Follower) (d : Dashboard S J) :
    Dashboard S J :=
  let d := d.stopStream
  let d := { d with streamId := d.streamId + 1 }
  match started with
  | .error failure => d.showError failure.oneLine
  | .ok follower =>
    { d with
      stream := some d.streamId
      followers := d.followers.put d.streamId follower
      logLines := []
      following := true
      scroll := scrollEnd
      covered := none
      status := "Following " ++ title }.showLayer (.logs title)

def logsTitle (target : Target) : String := "logs " ++ target.label

def startLogs (program : Kubectl.Program) (target : Target) (d : Dashboard S J) : Dashboard S J :=
  match Kubectl.logsArguments target with
  | .error e => d.showError e.message
  | .ok arguments => d.attachLogs (logsTitle target) (Kubectl.Follower.start? program arguments)

end ClusterDashboard.Dashboard
