import ClusterDashboard.Keyed
import ClusterDashboard.Text.Basic
/-!
What a page lists: one of the built-in kinds, a kind found by discovery, or the discovery listing
itself; and from which namespaces. A page is named by the token of its kind, and every page has one
canonical name, so aliases and other spellings name no page.
-/
namespace ClusterDashboard

inductive BuiltinKind where
  | pods
  | deployments
  | statefulSets
  | daemonSets
  | jobs
  | services
  | ingresses
  | configMaps
  | secrets
  | nodes
  | namespaces
  deriving DecidableEq, Repr

namespace BuiltinKind

/-- In the order of the pages' digits. -/
def all : List BuiltinKind :=
  [.pods, .deployments, .statefulSets, .daemonSets, .jobs, .services, .ingresses, .configMaps,
    .secrets, .nodes, .namespaces]

theorem mem_all (kind : BuiltinKind) : kind ∈ all := by cases kind <;> decide

def title : BuiltinKind → String
  | .pods => "Pods"
  | .deployments => "Deployments"
  | .statefulSets => "StatefulSets"
  | .daemonSets => "DaemonSets"
  | .jobs => "Jobs"
  | .services => "Services"
  | .ingresses => "Ingresses"
  | .configMaps => "ConfigMaps"
  | .secrets => "Secrets"
  | .nodes => "Nodes"
  | .namespaces => "Namespaces"

/-- The page's name and kubectl's word for the resource. -/
def token : BuiltinKind → String
  | .pods => "pods"
  | .deployments => "deployments"
  | .statefulSets => "statefulsets"
  | .daemonSets => "daemonsets"
  | .jobs => "jobs"
  | .services => "services"
  | .ingresses => "ingresses"
  | .configMaps => "configmaps"
  | .secrets => "secrets"
  | .nodes => "nodes"
  | .namespaces => "namespaces"

theorem token_ne_empty (kind : BuiltinKind) : kind.token ≠ "" := by cases kind <;> decide

/-- All words for the kind, in lower case. -/
def words : BuiltinKind → List String
  | .pods => ["po", "pod", "pods"]
  | .deployments => ["deploy", "deployment", "deployments", "dp"]
  | .statefulSets => ["sts", "statefulset", "statefulsets"]
  | .daemonSets => ["ds", "daemonset", "daemonsets", "daemon-set", "daemon-sets"]
  | .jobs => ["job", "jobs"]
  | .services => ["svc", "service", "services"]
  | .ingresses => ["ing", "ingress", "ingresses"]
  | .configMaps => ["cm", "configmap", "configmaps", "config-map", "config-maps"]
  | .secrets => ["secret", "secrets"]
  | .nodes => ["node", "nodes", "no"]
  | .namespaces => ["ns", "namespace", "namespaces"]

def ofWord? (word : String) : Option BuiltinKind :=
  all.find? (fun kind => kind.words.contains (Text.folded word))

def namespaced : BuiltinKind → Bool
  | .nodes | .namespaces => false
  | _ => true

/-- The API group; empty for the core group. -/
def group : BuiltinKind → String
  | .deployments | .statefulSets | .daemonSets => "apps"
  | .jobs => "batch"
  | .ingresses => "networking.k8s.io"
  | _ => ""

end BuiltinKind

/-- A listable kind found through API discovery. -/
structure DiscoveredKind where
  group : String
  version : String
  kind : String
  plural : String
  namespaced : Bool
  deriving DecidableEq, Repr

namespace DiscoveredKind

/-- `plural.group`, or the plural alone in the core group. -/
def token (d : DiscoveredKind) : String :=
  if d.group = "" then d.plural else d.plural ++ "." ++ d.group

def apiVersion (d : DiscoveredKind) : String :=
  if d.group = "" then d.version else d.group ++ "/" ++ d.version

/-- The built-in kind that lists the same resource. -/
def builtin? (d : DiscoveredKind) : Option BuiltinKind :=
  BuiltinKind.all.find? (fun kind => kind.token == d.plural && kind.group == d.group)

end DiscoveredKind

inductive PageKind where
  | builtin (kind : BuiltinKind)
  | apiResources
  | discovered (kind : DiscoveredKind)
  deriving DecidableEq, Repr

namespace PageKind

/-- The name of the page that lists what discovery found. -/
def apiResourcesToken : String := "api-resources"

def token : PageKind → String
  | .builtin kind => kind.token
  | .apiResources => apiResourcesToken
  | .discovered kind => kind.token

def title : PageKind → String
  | .builtin kind => kind.title
  | .apiResources => "API Resources"
  | .discovered kind => kind.kind ++ " (" ++ kind.apiVersion ++ ")"

def builtin? : PageKind → Option BuiltinKind
  | .builtin kind => some kind
  | _ => none

/-- The discovery listing is nothing that kubectl could act on. -/
def kubectlResource? : PageKind → Option String
  | .apiResources => none
  | kind => some kind.token

def namespaced : PageKind → Bool
  | .builtin kind => kind.namespaced
  | .apiResources => false
  | .discovered kind => kind.namespaced

/-- Discovery is expensive: its page is refreshed on request only. -/
def polled : PageKind → Bool
  | .apiResources => false
  | _ => true

end PageKind

/-- The kinds found by the last discovery run, by page name. -/
abbrev Catalog := Keyed String DiscoveredKind

namespace Catalog

/-- Of kinds with one token the last is kept. -/
def ofKinds (kinds : List DiscoveredKind) : Catalog :=
  Keyed.ofList (kinds.map (fun kind => (kind.token, kind)))

/-- The built-in kind whose own token, letter by letter, is the name. -/
def exactBuiltin? (name : String) : Option BuiltinKind :=
  (BuiltinKind.ofWord? name).filter (fun kind => kind.token == name)

def resolve (catalog : Catalog) (name : String) : Option PageKind :=
  if name = PageKind.apiResourcesToken then some .apiResources
  else match exactBuiltin? name with
    | some kind => some (.builtin kind)
    | none => (catalog.get? name).map .discovered

/-- The name of the page for a discovered token; a built-in kind opens its own page. -/
def pageName? (catalog : Catalog) (token : String) : Option String :=
  (catalog.get? token).map fun kind =>
    match kind.builtin? with
    | some builtin => builtin.token
    | none => kind.token

end Catalog

/-- The namespaces that a listing covers. -/
inductive Scope where
  | all
  | named (name : String)
  deriving DecidableEq, Repr

namespace Scope

def ofArgument (argument : String) : Scope :=
  let name := Text.trim argument
  if name = "" ∨ name = "all" ∨ name = "*" ∨ name = "-A" then .all else .named name

def display : Scope → String
  | .all => "all"
  | .named name => name

end Scope

end ClusterDashboard
