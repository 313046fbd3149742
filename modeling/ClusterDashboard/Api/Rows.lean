import ClusterDashboard.Api.Schema
import ClusterDashboard.Table.View
import ClusterDashboard.Text.Basic
/-!
How the objects of each kind become table rows. Every row has a cell for each header of its kind.
-/
namespace ClusterDashboard

/-- What stands for a value that is not there. -/
def missing : String := "-"

def nodeRoleLabel : String := "node-role.kubernetes.io/"
def plainRoleLabel : String := "kubernetes.io/role"

/-- Sorts and drops repetitions. -/
def sortedSet (names : List String) : List String :=
  (names.mergeSort fun a b => decide (a ≤ b)).eraseReps

/-- The roles that a node's labels name, an empty one meaning a worker; without any, what the
plain role label says. -/
def nodeRoles (labels : Keyed String String) : String :=
  let roles := labels.keys.filterMap fun key =>
    Text.dropStart? nodeRoleLabel.toList key.toList
  if roles.isEmpty then (labels.get? plainRoleLabel).getD missing
  else
    String.intercalate ","
      (sortedSet (roles.map fun role => if role.isEmpty then "worker" else String.ofList role))

namespace JsonValue

/-- The name, or what names are generated from. -/
def name (object : JsonValue) : String :=
  (object.textAt? ["metadata", "name"]).getD
    ((object.textAt? ["metadata", "generateName"]).getD "")

def space? (object : JsonValue) : Option String := object.textAt? ["metadata", "namespace"]

def created? (object : JsonValue) : Option Instant :=
  (object.textAt? ["metadata", "creationTimestamp"]).bind Instant.ofText?

/-- An object from the future has no age yet. -/
def age (now : Instant) (object : JsonValue) : String :=
  match object.created? with
  | some created => Text.elapsed (max 0 (now - created))
  | none => missing

def labels (object : JsonValue) : Keyed String String :=
  (((object.at? ["metadata", "labels"]).map entries).getD []).map fun (key, value) =>
    (key, (value.asText?).getD "")

def integerOr (object : JsonValue) (path : List String) (default : Int) : Int :=
  (object.integerAt? path).getD default

def textOr (object : JsonValue) (path : List String) (default : String) : String :=
  (object.textAt? path).getD default

def itemsAt (object : JsonValue) (path : List String) : List JsonValue :=
  (object.listAt? path).getD []

def entryCount (object : JsonValue) (path : List String) : Nat :=
  ((object.at? path).map fun v => v.entries.length).getD 0

end JsonValue

namespace Cells

open JsonValue

def status (field : String) : List String := ["status", field]

def ratio (part whole : Int) : String := toString part ++ "/" ++ toString whole

/-- Restarts are added up in 32 bits. -/
def restarts (containers : List JsonValue) : Int :=
  let counts := containers.map fun c => c.integerOr ["restartCount"] 0
  Int.bmod (counts.foldr (· + ·) 0) (Nat.pow 2 32)

def pod (o : JsonValue) : List String :=
  let containers := o.itemsAt (status "containerStatuses")
  let ready := containers.filter fun c => ((c.field? "ready").bind asBool?).getD false
  [o.textOr ["spec", "nodeName"] missing, ratio ready.length containers.length,
    o.textOr (status "phase") "Unknown", toString (restarts containers)]

def deployment (o : JsonValue) : List String :=
  [ratio (o.integerOr (status "readyReplicas") 0) (o.integerOr ["spec", "replicas"] 1),
    toString (o.integerOr (status "updatedReplicas") 0),
    toString (o.integerOr (status "availableReplicas") 0)]

def statefulSet (o : JsonValue) : List String :=
  [ratio (o.integerOr (status "readyReplicas") 0) (o.integerOr ["spec", "replicas"] 1),
    toString (o.integerOr (status "currentReplicas") 0)]

def daemonSet (o : JsonValue) : List String :=
  [ratio (o.integerOr (status "numberReady") 0) (o.integerOr (status "desiredNumberScheduled") 0),
    toString (o.integerOr (status "updatedNumberScheduled") 0),
    toString (o.integerOr (status "numberAvailable") 0)]

def job (o : JsonValue) : List String :=
  [ratio (o.integerOr (status "succeeded") 0) (o.integerOr ["spec", "completions"] 1),
    toString (o.integerOr (status "active") 0), toString (o.integerOr (status "failed") 0)]

def orMissing (text : String) : String := if text = "" then missing else text

def servicePort (port : JsonValue) : String :=
  toString (port.integerOr ["port"] 0) ++ "/" ++ port.textOr ["protocol"] "TCP"

def service (o : JsonValue) : List String :=
  [o.textOr ["spec", "type"] "ClusterIP", o.textOr ["spec", "clusterIP"] missing,
    orMissing (String.intercalate "," ((o.itemsAt ["spec", "ports"]).map servicePort))]

def ingress (o : JsonValue) : List String :=
  let hosts := (o.itemsAt ["spec", "rules"]).filterMap fun rule => rule.textAt? ["host"]
  let entry? := (o.itemsAt ["status", "loadBalancer", "ingress"]).head?
  let address? := entry?.bind fun e => (e.textAt? ["ip"]).or (e.textAt? ["hostname"])
  [o.textOr ["spec", "ingressClassName"] missing,
    Text.shorten (orMissing (String.intercalate "," hosts)) 28,
    Text.shorten (address?.getD missing) 20]

def configMap (o : JsonValue) : List String :=
  [toString (o.entryCount ["data"] + o.entryCount ["binaryData"])]

def secret (o : JsonValue) : List String :=
  [Text.shorten (o.textOr ["type"] "Opaque") 20, toString (o.entryCount ["data"])]

/-- The first condition named Ready decides. -/
def nodeReadiness (o : JsonValue) : String :=
  let ready? := (o.itemsAt (status "conditions")).find? fun c => c.textAt? ["type"] == some "Ready"
  match ready?.map fun c => c.textOr ["status"] "" with
  | some "True" => "Ready"
  | some "False" => "NotReady"
  | _ => "Unknown"

def node (o : JsonValue) : List String :=
  let version :=
    if (o.at? (status "nodeInfo")).isSome then o.textOr ["status", "nodeInfo", "kubeletVersion"] ""
    else missing
  [nodeReadiness o, nodeRoles o.labels, version]

def phase (o : JsonValue) : List String := [o.textOr (status "phase") "Active"]

/-- The cells between name and age. -/
def builtin : BuiltinKind → JsonValue → List String
  | .pods => pod
  | .deployments => deployment
  | .statefulSets => statefulSet
  | .daemonSets => daemonSet
  | .jobs => job
  | .services => service
  | .ingresses => ingress
  | .configMaps => configMap
  | .secrets => secret
  | .nodes => node
  | .namespaces => phase

def discovered (o : JsonValue) : List String := [toString o.labels.length]

end Cells

namespace Row

/-- A row begins with the name, then the namespace where the kind has one. -/
def ofObject (namespaced : Bool) (cells : List String) (object : JsonValue) : Row :=
  let name := object.name
  if namespaced then
    let space := object.space?
    ⟨name, space, name :: space.getD missing :: cells⟩
  else ⟨name, none, name :: cells⟩

def ofBuiltin (kind : BuiltinKind) (now : Instant) (object : JsonValue) : Row :=
  ofObject kind.namespaced (Cells.builtin kind object ++ [object.age now]) object

def ofDiscovered (kind : DiscoveredKind) (now : Instant) (object : JsonValue) : Row :=
  ofObject kind.namespaced (Cells.discovered object ++ [object.age now]) object

/-- The row of a kind in the listing of what discovery found. -/
def ofKind (kind : DiscoveredKind) : Row :=
  ⟨kind.token, none,
    [kind.plural, kind.apiVersion, kind.kind, if kind.namespaced then "true" else "false"]⟩

/-- By namespace, rows without one first, then by name. -/
def before (a b : Row) : Bool :=
  match a.space, b.space with
  | none, some _ => true
  | some _, none => false
  | none, none => decide (a.name ≤ b.name)
  | some s, some t => decide (s < t) || (s == t && decide (a.name ≤ b.name))

def sorted (rows : List Row) : List Row := rows.mergeSort before

end Row

namespace PageKind

def builtinHeaders : BuiltinKind → List String
  | .pods => ["Node", "Ready", "Status", "Restarts"]
  | .deployments => ["Ready", "Updated", "Available"]
  | .statefulSets => ["Ready", "Current"]
  | .daemonSets => ["Ready", "Updated", "Available"]
  | .jobs => ["Completions", "Active", "Failed"]
  | .services => ["Type", "Cluster IP", "Ports"]
  | .ingresses => ["Class", "Hosts", "Address"]
  | .configMaps => ["Data"]
  | .secrets => ["Type", "Data"]
  | .nodes => ["Status", "Roles", "Version"]
  | .namespaces => ["Status"]

def headersOf (namespaced : Bool) (headers : List String) : List String :=
  "Name" :: (if namespaced then ["Namespace"] else []) ++ headers ++ ["Age"]

def headers : PageKind → List String
  | .builtin kind => headersOf kind.namespaced (builtinHeaders kind)
  | .apiResources => ["Name", "API Version", "Kind", "Namespaced"]
  | .discovered kind => headersOf kind.namespaced ["Labels"]

end PageKind
end ClusterDashboard
