import ClusterDashboard.Dashboard.Status
/-!
What each action does to the dashboard, and the effect it leaves to be carried out.
-/
namespace ClusterDashboard.Dashboard

variable {S J : Type}

/-- Rows or lines that the page keys move by. -/
def pageStep : Int := 10

/-- Going to a page asks for a refresh of it, whether it was there before or not. -/
def openPage (name : String) (d : Dashboard S J) : Dashboard S J :=
  let (d, track) := d.withNav (·.navigate d.factory name)
  ({ d with scroll := 0 }.triggerRefresh.1).say ("Viewing " ++ track.name)

def goBack (d : Dashboard S J) : Dashboard S J :=
  let before := d.nav.history.size
  let (d, track) := d.withNav (·.goBack d.factory)
  let d := { d with scroll := 0 }.triggerRefresh.1
  d.say ((if before ≤ 1 then "Already at " else "Back to ") ++ track.name)

def escape (d : Dashboard S J) : Dashboard S J :=
  if d.top.layer.isStatus then d.clearStatus
  else
    let (d, dismissed) := d.dismissOverlay
    if dismissed then { d with scroll := 0 } else d.goBack

def toggleMenu (d : Dashboard S J) : Dashboard S J :=
  if d.nav.menuShown then (d.withNav (·.hideMenu)).1 else (d.withNav (·.showMenu)).1

/-- The tenth page has the digit 0. -/
def goToPage (digit : Nat) (d : Dashboard S J) : Dashboard S J :=
  match d.settings.pages[if digit = 0 then 9 else digit - 1]? with
  | some kind => d.openPage kind.token
  | none => d.say ("No page bound to " ++ toString digit)

def refresh (d : Dashboard S J) : Dashboard S J :=
  let title := d.page.kind.title
  let (d, accepted) := d.triggerRefresh
  if accepted then d.showStatus ("Refreshing " ++ title) .progress
  else d.say ("Refresh of " ++ title ++ " already pending")

/-- Over a text the lines move, within what 16 bits can hold; going up stops following a log. -/
def moveBy (delta : Int) (d : Dashboard S J) : Dashboard S J :=
  if d.top.layer.isScrollable then
    { d with
      following := d.following && 0 ≤ delta
      scroll := (min (max (d.scroll + delta) 0) scrollEnd).toNat }
  else d.moveOnPage (·.moveSelection delta)

def toTop (d : Dashboard S J) : Dashboard S J :=
  if d.top.layer.isScrollable then { d with following := false, scroll := 0 }
  else d.moveOnPage (·.selectFirst)

def toBottom (d : Dashboard S J) : Dashboard S J :=
  if d.top.layer.isScrollable then { d with following := true, scroll := scrollEnd }
  else d.moveOnPage (·.selectLast)

/-- The selected row as a target, or a message saying why there is none. -/
def selectedTarget (d : Dashboard S J) : Dashboard S J × Option Target :=
  match d.page.view.selectedRow? with
  | none => (d.showError "No resource selected", none)
  | some row =>
    match Target.ofRow? d.page.kind row with
    | some target => (d, some target)
    | none =>
      (d.showError (row.name ++ " has no kubectl actions, press Enter to open it"), none)

def selectedPod (d : Dashboard S J) : Dashboard S J × Option Target :=
  if d.page.kind.builtin? = some .pods then d.selectedTarget
  else (d.showError "Only available on the pods page", none)

def loadDetail (verb : DetailVerb) (d : Dashboard S J) : Dashboard S J × Effect :=
  match d.selectedTarget with
  | (d, some target) =>
    (d.say ("Loading " ++ verb.title ++ " for " ++ target.label), .loadDetail verb target)
  | (d, none) => (d, .none)

def followLogs (d : Dashboard S J) : Dashboard S J × Effect :=
  match d.selectedPod with
  | (d, some target) => (d.say ("Following logs of " ++ target.label), .followLogs target)
  | (d, none) => (d, .none)

/-- Enter opens a discovered kind's own page and describes the selection everywhere else. -/
def openRow (d : Dashboard S J) : Dashboard S J × Effect :=
  if d.page.kind ≠ .apiResources then d.loadDetail .describe
  else match d.page.view.selectedRow? with
    | none => (d.showError "No resource selected", .none)
    | some row =>
      match d.catalog.pageName? row.name with
      | some name => (d.openPage name, .none)
      | none => (d.showError (row.name ++ " cannot be listed"), .none)

def deletePrompt (target : Target) : String := "Delete " ++ target.label ++ "?"

def askDelete (d : Dashboard S J) : Dashboard S J :=
  match d.selectedTarget with
  | (d, none) => d
  | (d, some target) =>
    { d.showLayer (.confirm (deletePrompt target)) with
      pendingDelete := some target
      mode := .confirm }

def closeQuestion (d : Dashboard S J) : Dashboard S J :=
  { ({ d with mode := .normal }.dismissOverlay).1 with pendingDelete := none }

def confirmYes (d : Dashboard S J) : Dashboard S J × Effect :=
  (d.closeQuestion, match d.pendingDelete with
    | some target => .delete target
    | none => .none)

def confirmNo (d : Dashboard S J) : Dashboard S J :=
  match d.pendingDelete with
  | some target => d.closeQuestion.say ("Kept " ++ target.label)
  | none => d.closeQuestion

/-- The rows follow what is typed into the search. -/
def applyFilter (d : Dashboard S J) : Dashboard S J :=
  if d.mode = .search then d.onPage (·.setFilter d.input) else d

def cancelInput (d : Dashboard S J) : Dashboard S J :=
  let d := if d.mode = .search then d.onPage (·.setFilter "") else d
  { d with mode := .normal, input := "" }

/-- Another scope tears all pages down. -/
def setScope (scope : Scope) (d : Dashboard S J) : Dashboard S J :=
  if d.scope = scope then d.say ("Already in namespace " ++ scope.display)
  else
    let d := { d with scope }
    let d := (d.withNav fun nav => (nav.reload d.factory, ())).1
    d.triggerRefresh.1.say ("Namespace: " ++ scope.display)

/-- A word for a page: the settings' kinds first, then what discovery found. -/
def openWord (word : String) (d : Dashboard S J) : Dashboard S J :=
  let name := match d.settings.kindOf? word with
    | some kind => some kind.token
    | none => d.catalog.pageName? (Text.lower word)
  match name with
  | some name => d.openPage name
  | none => d.showError ("Unknown command: " ++ word)

def runCommand (line : String) (d : Dashboard S J) : Dashboard S J :=
  match Text.words line with
  | [] => d
  | word :: arguments =>
    if word ∈ ["q", "q!", "quit"] then { d with running := false }
    else if word ∈ ["api-resources", "api", "res"] then d.openPage PageKind.apiResourcesToken
    else match arguments with
      | space :: _ =>
        if word ∈ ["ns", "namespace"] then d.setScope (.ofArgument space) else d.openWord word
      | [] => d.openWord word

def submitInput (d : Dashboard S J) : Dashboard S J :=
  let line := d.input
  let mode := d.mode
  let d := { d with input := "", mode := .normal }
  match mode with
  | .search =>
    let d := d.onPage (·.setFilter line)
    let filter := Text.trim line
    d.say (if filter = "" then "Filter cleared" else "Filter: " ++ filter)
  | .command => d.runCommand line
  | .normal | .confirm => d

def dispatch (action : Action) (d : Dashboard S J) : Dashboard S J × Effect :=
  match action with
  | .quit => ({ d with running := false }, .none)
  | .goToPage digit => (d.goToPage digit, .none)
  | .toggleMenu => (d.toggleMenu, .none)
  | .escape => (d.escape, .none)
  | .back => (d.goBack, .none)
  | .refresh => (d.refresh, .none)
  | .down => (d.moveBy 1, .none)
  | .up => (d.moveBy (-1), .none)
  | .pageDown => (d.moveBy pageStep, .none)
  | .pageUp => (d.moveBy (-pageStep), .none)
  | .left => (d.moveOnPage (·.moveColumn (-1)), .none)
  | .right => (d.moveOnPage (·.moveColumn 1), .none)
  | .top => (d.toTop, .none)
  | .bottom => (d.toBottom, .none)
  | .openRow => d.openRow
  | .showYaml => d.loadDetail .yaml
  | .describe => d.loadDetail .describe
  | .logs => d.followLogs
  | .edit =>
    match d.selectedTarget with
    | (d, some target) => (d, .edit target)
    | (d, none) => (d, .none)
  | .shell =>
    match d.selectedPod with
    | (d, some target) => (d, .shell target)
    | (d, none) => (d, .none)
  | .delete => (d.askDelete, .none)
  | .confirmYes => d.confirmYes
  | .confirmNo => (d.confirmNo, .none)
  | .startSearch => ({ d with mode := .search, input := d.page.view.filter }, .none)
  | .startCommand => ({ d with mode := .command, input := "" }, .none)
  | .inputChar c => ({ d with input := d.input.push c }.applyFilter, .none)
  | .backspace =>
    ({ d with input := String.ofList d.input.toList.dropLast }.applyFilter, .none)
  | .cancelInput => (d.cancelInput, .none)
  | .submitInput => (d.submitInput, .none)

/-- An action is over when a stream that went out of sight has been given up. -/
def act (action : Action) (d : Dashboard S J) : Dashboard S J × Effect :=
  let (d, effect) := d.dispatch action
  (d.syncStream, effect)

/-- A key does what it means in the mode the dashboard is in, if it means anything. -/
def press (key : Key) (d : Dashboard S J) : Dashboard S J × Effect :=
  match key.action? d.mode with
  | some action => d.act action
  | none => (d, .none)

/-- The periodic refresh; pages that are not polled are left alone. -/
def tick (d : Dashboard S J) : Dashboard S J × Bool :=
  if d.page.kind.polled then d.triggerRefresh else (d, false)

end ClusterDashboard.Dashboard
