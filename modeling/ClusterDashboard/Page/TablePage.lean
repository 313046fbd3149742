import ClusterDashboard.Failure
import ClusterDashboard.Kind.Basic
import ClusterDashboard.Refresh.Gate
import ClusterDashboard.Table.View
/-!
Pages that list one kind of object within a scope. The scope is the one in force when the page was
made. A refresh that fails leaves the rows of the last one on the screen.
-/
namespace ClusterDashboard

structure TablePage where
  kind : PageKind
  scope : Scope
  view : TableView := {}
  deriving DecidableEq, Repr

namespace TablePage

instance : Inhabited TablePage := ⟨{ kind := .apiResources, scope := .all }⟩

def name (page : TablePage) : String := page.kind.token

def position (page : TablePage) : Position := ⟨page.view.selected, page.view.column⟩

def onView (page : TablePage) (change : TableView → TableView) : TablePage :=
  { page with view := change page.view }

/-- Blanks around a filter do not count. -/
def setFilter (page : TablePage) (filter : String) : TablePage :=
  page.onView (·.setFilter (Text.trim filter))

def restore (position : Position) (page : TablePage) : TablePage :=
  page.onView (·.restore position.row position.column)

/-- Takes up the outcome of a fetch; the error text of one that failed is given back. -/
def receive (page : TablePage) (outcome : Except Failure TableView) :
    TablePage × Option Failure :=
  match outcome with
  | .ok fresh => (page.onView (·.absorb fresh), none)
  | .error failure => (page, some (failure.during ("failed to refresh " ++ page.kind.title)))

/-- A page for every name that the catalog knows. -/
def factory (catalog : Catalog) (scope : Scope) : Factory TablePage where
  make name := (catalog.resolve name).map fun kind => { kind, scope }
  restore := restore

end TablePage

/-- A supply of tables that answers each page from a script, or with five rows of its own, and
holds back the answers of gated pages. It keeps a record of what was asked for. -/
structure TableSource where
  scripts : Keyed String (Except Failure TableView) := []
  gated : List String := []
  gates : Gates String := []
  fetched : List (String × String) := []

namespace TableSource

def sampleRows : Nat := 5

def sample (page : TablePage) : TableView :=
  { headers := ["Name", "Namespace"]
    stamp := some ⟨12, 0, 0⟩
    rows := (List.range sampleRows).map fun i =>
      let name := page.name ++ "-" ++ toString i
      ⟨name, some page.scope.display, [name, page.scope.display]⟩ }

def answer (source : TableSource) (page : TablePage) : Except Failure TableView :=
  (source.scripts.get? page.name).getD (.ok (sample page))

def record (source : TableSource) (page : TablePage) : TableSource :=
  { source with fetched := source.fetched ++ [(page.name, page.scope.display)] }

/-- The answer is settled when the refresh begins, even if it is held back. -/
def backend : Backend TableSource TablePage (Except Failure TableView) where
  name := TablePage.name
  start source id _ page :=
    let answer := source.answer page
    let source := source.record page
    if page.name ∈ source.gated then
      let (gates, parked) := source.gates.arrive page.name id
      ({ source with gates }, page, answer, parked)
    else (source, page, answer, false)
  complete page outcome :=
    let (page, failure) := page.receive outcome
    (page, failure.map Failure.oneLine)

/-- Goes past a gate that was opened beforehand. -/
def pass (source : TableSource) (page : TablePage) : TableSource :=
  let gate := source.gates.gate page.name
  if page.name ∈ source.gated ∧ gate.permit then
    { source with gates := source.gates.put page.name { gate with permit := false } }
  else source

def script (source : TableSource) (page : String) (outcome : Option (Except Failure TableView)) :
    TableSource :=
  match outcome with
  | some outcome => { source with scripts := source.scripts.put page outcome }
  | none => { source with scripts := source.scripts.erase page }

def setGate (source : TableSource) (page : String) (closed : Bool) : TableSource :=
  let others := source.gated.filter (· ≠ page)
  { source with gated := if closed then page :: others else others }

end TableSource
end ClusterDashboard
