import ClusterDashboard.Keys
import ClusterDashboard.Kubectl.Follower
import ClusterDashboard.Kubectl.Target
import ClusterDashboard.Page.TablePage
import ClusterDashboard.Settings.Basic
/-!
The state of the dashboard, and its small steps: what shows on top, the page in view, and changes
to either.
-/
namespace ClusterDashboard

/-- Work that an action leaves to be done outside the screen, mostly by kubectl. -/
inductive Effect where
  | none
  | loadDetail (verb : DetailVerb) (target : Target)
  | followLogs (target : Target)
  | edit (target : Target)
  | shell (target : Target)
  | delete (target : Target)
  deriving DecidableEq, Repr

/-- What the dashboard's own background work reports. -/
inductive UiEvent where
  | statusExpired (ticket : Nat)
  | log (stream : Nat) (feed : Kubectl.Feed)
  deriving DecidableEq, Repr

/-- The dismissal of one status message; its time runs from its first turn on. -/
structure Timer where
  ticket : Nat
  due : Option Nat := none
  deriving DecidableEq, Repr

/-- `S` is where tables come from and `J` a fetch that has begun. -/
structure Dashboard (S J : Type) where
  session : Session S TablePage J
  settings : Settings
  catalog : Catalog
  scope : Scope
  cluster : String
  context : String
  serverVersion : String := "unknown"
  running : Bool := true
  mode : Mode := .normal
  input : String := ""
  status : String := "Ready"
  /-- The number of the last message, whose dismissal alone counts. -/
  ticket : Nat := 0
  /-- What the message on top covers. -/
  covered : Option Track := none
  pendingDelete : Option Target := none
  scroll : Nat := 0
  /-- The log stream that is held open. -/
  stream : Option Nat := none
  /-- The number of the last stream that was asked for. -/
  streamId : Nat := 0
  logLines : List String := []
  following : Bool := true
  /-- The readers of all streams that were ever opened. -/
  followers : Keyed Nat Kubectl.Follower := []
  timers : List Timer := []
  uiEvents : List UiEvent := []
  clock : Nat := 0

namespace Dashboard

variable {S J : Type}

/-- The largest scroll offset stands for the end of the text. -/
def scrollEnd : Nat := 65535

def nav (d : Dashboard S J) : Navigator (View TablePage) := d.session.nav

def top (d : Dashboard S J) : Track := d.nav.top

def currentName (d : Dashboard S J) : String := d.nav.current

def factory (d : Dashboard S J) : Factory (View TablePage) :=
  (TablePage.factory d.catalog d.scope).views

/-- The page in view. -/
def page (d : Dashboard S J) : TablePage := (d.session.page? d.nav.currentView).getD default

def withNav {α : Type} (act : Navigator (View TablePage) → Navigator (View TablePage) × α)
    (d : Dashboard S J) : Dashboard S J × α :=
  let (session, result) := d.session.withNav act
  ({ d with session }, result)

def onPage (change : TablePage → TablePage) (d : Dashboard S J) : Dashboard S J :=
  { d with session := d.session.modifyPage d.nav.currentView change }

/-- Moves within the page in view and remembers where that led. -/
def moveOnPage (change : TableView → TableView) (d : Dashboard S J) : Dashboard S J :=
  let d := d.onPage (·.onView change)
  (d.withNav fun nav => (nav.recordPosition d.page.name d.page.position, ())).1

/-- Shows a layer over the page in view. -/
def showLayer (layer : Layer) (d : Dashboard S J) : Dashboard S J :=
  (d.withNav (·.switchPage d.factory d.currentName layer)).1

def dismissOverlay (d : Dashboard S J) : Dashboard S J × Bool := d.withNav (·.dismissOverlay)

def say (status : String) (d : Dashboard S J) : Dashboard S J := { d with status }

def triggerRefresh (d : Dashboard S J) : Dashboard S J × Bool :=
  let (session, accepted) := d.session.trigger d.nav.currentView
  ({ d with session }, accepted)

/-- The page that is drawn: the one the top entry names. -/
def visiblePage (d : Dashboard S J) : TablePage :=
  match d.nav.page? d.top.name with
  | some view => (d.session.page? view).getD default
  | none => d.page

/-- The held stream has not ended. -/
def streamLive (d : Dashboard S J) : Bool :=
  d.stream.any fun id => (d.followers.get? id).any (!·.isDone)

def logText (d : Dashboard S J) : String := String.intercalate "\n" d.logLines

/-- The root page is current and asked to refresh before anything else happens. -/
def start? (settings : Settings) (catalog : Catalog) (scope : Scope) (cluster context : String)
    (source : S) : Option (Dashboard S J) :=
  (Session.start? (TablePage.factory catalog scope) settings.rootPage.token source).map
    fun session =>
      { session := (session.trigger session.nav.currentView).1
        settings, catalog, scope, cluster, context }

end Dashboard
end ClusterDashboard
