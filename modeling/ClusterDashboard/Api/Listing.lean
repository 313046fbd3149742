import ClusterDashboard.Api.Discovery
import ClusterDashboard.Api.Rows
import ClusterDashboard.Page.TablePage
/-!
Listing a page's objects: the request, the rows, and the failure when it cannot be done; and the
API server as the source of all tables.
-/
namespace ClusterDashboard

namespace PageKind

/-- Where the API keeps the objects of a kind. -/
def listPath (group version plural : String) (space : Option String) : String :=
  (if group = "" then "/api/" ++ version else "/apis/" ++ group ++ "/" ++ version) ++
    (match space with
      | some name => "/namespaces/" ++ name
      | none => "") ++
    "/" ++ plural

/-- The namespace that restricts a listing: none for kinds that live outside of namespaces. -/
def spaceOf (namespaced : Bool) (scope : Scope) : Option String :=
  match scope with
  | .all => none
  | .named name => if namespaced then some name else none

end PageKind

def BuiltinKind.path (kind : BuiltinKind) (scope : Scope) : String :=
  PageKind.listPath kind.group "v1" kind.token (PageKind.spaceOf kind.namespaced scope)

def DiscoveredKind.path (kind : DiscoveredKind) (scope : Scope) : String :=
  PageKind.listPath kind.group kind.version kind.plural (PageKind.spaceOf kind.namespaced scope)

namespace Listing

/-- At most so many objects are listed. -/
def pageLimit : String := "?&limit=500"

def items (listing : JsonValue) : List JsonValue := (listing.listAt? ["items"]).getD []

/-- The table of a page's rows, in their order on the screen. -/
def table (kind : PageKind) (stamp : TimeOfDay) (rows : List Row) : TableView :=
  ({} : TableView).setRows kind.headers (Row.sorted rows) stamp

/-- The rows of a page, and the kinds if it lists those. -/
def rows (kind : PageKind) (scope : Scope) (now : Instant) :
    Exchange (List Row × Option (List DiscoveredKind)) :=
  match kind with
  | .builtin kind => do
    let listing ← Exchange.get (Schema.listing kind.shape) (kind.path scope ++ pageLimit)
    return ((items listing).map (Row.ofBuiltin kind now), none)
  | .discovered kind => do
    let listing ← Exchange.get (Schema.listing Schema.discovered) (kind.path scope ++ pageLimit)
    return ((items listing).map (Row.ofDiscovered kind now), none)
  | .apiResources => do
    let kinds ← Discovery.run
    return (kinds.map Row.ofKind, some kinds)

/-- Waiting for an answer has its limits, so silence is a failure of its own. -/
def failure (kind : PageKind) : Fault → Failure
  | .silent => [.text ("listing " ++ kind.title ++ " timed out"), .text "deadline has elapsed"]
  | .failed =>
    match kind with
    | .apiResources => [.text "API discovery failed", .apiCall]
    | _ => [.apiCall]

/-- Fetches a page's table; a successful discovery replaces the catalog. -/
def fetch (kind : PageKind) (scope : Scope) (now : Instant) (stamp : TimeOfDay)
    (catalog : Catalog) (server : ApiServer) :
    ApiServer × Catalog × Except Failure TableView :=
  let (outcome, server) := (rows kind scope now).run.run server
  match outcome with
  | .ok (rows, found) =>
    (server, (found.map Catalog.ofKinds).getD catalog, .ok (table kind stamp rows))
  | .error fault => (server, catalog, .error (failure kind fault))

end Listing

/-- The version that the API server says it has. -/
def serverVersion (server : ApiServer) : ApiServer × Except Failure String :=
  let (outcome, server) := (Exchange.get Schema.version "/version").run.run server
  match outcome with
  | .ok answer => (server, .ok (Discovery.textOf answer "gitVersion"))
  | .error _ => (server, .error [.text "failed to query API server version", .apiCall])

/-- Tables that come from the API server. Discovery feeds the catalog, which all pages share. -/
structure ClusterSource where
  server : ApiServer := {}
  catalog : Catalog := []
  now : Instant := 0
  stamp : TimeOfDay := ⟨0, 0, 0⟩

namespace ClusterSource

def fetch (source : ClusterSource) (page : TablePage) :
    ClusterSource × Except Failure TableView :=
  let (server, catalog, outcome) :=
    Listing.fetch page.kind page.scope source.now source.stamp source.catalog source.server
  ({ source with server, catalog }, outcome)

/-- Answers come at once, so no refresh is ever held back. -/
def backend : Backend ClusterSource TablePage (Except Failure TableView) where
  name := TablePage.name
  start source _ _ page :=
    let (source, outcome) := source.fetch page
    (source, page, outcome, false)
  complete page outcome :=
    let (page, failure) := page.receive outcome
    (page, failure.map Failure.oneLine)

end ClusterSource

end ClusterDashboard
