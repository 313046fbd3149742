import ClusterDashboard.Api.Address
import ClusterDashboard.Api.Schema
import ClusterDashboard.Failure
import ClusterDashboard.Yaml.Value
/-!
The cluster configuration: named clusters and contexts, the current context, and the cluster that
it leads to. A file may hold several documents; of what they have in common the first counts.
-/
namespace ClusterDashboard

/-- A cluster's server, and the certificates that it is known by. -/
structure ClusterEntry where
  server : Option String
  certificates : Option String
  certificateFile : Option String
  deriving DecidableEq, Repr

structure ClusterContext where
  cluster : String
  space : Option String
  deriving DecidableEq, Repr

/-- `none` stands for an entry that has a name and nothing else. -/
structure Kubeconfig where
  kind : Option String := none
  apiVersion : Option String := none
  current : Option String := none
  clusters : List (String × Option ClusterEntry) := []
  contexts : List (String × Option ClusterContext) := []
  deriving DecidableEq, Repr

namespace Kubeconfig

open Shape

def extensions : Shape := .list (.field "name" true .text .object)

def clusterShape : Shape :=
  record [("server", .text), ("insecure-skip-tls-verify", .flag), ("certificate-authority", .text),
    ("certificate-authority-data", .text), ("proxy-url", .text), ("disable-compression", .flag),
    ("tls-server-name", .text), ("extensions", extensions)]

def contextShape : Shape :=
  .field "cluster" true .text
    (record [("user", .text), ("namespace", .text), ("extensions", extensions)])

def userShape : Shape :=
  record [("username", .text), ("password", .text), ("token", .text), ("tokenFile", .text),
    ("client-certificate", .text), ("client-certificate-data", .text), ("client-key", .text),
    ("client-key-data", .text), ("as", .text), ("as-groups", .list .text),
    ("auth-provider", .object), ("exec", .object)]

def named (field : String) (shape : Shape) : Shape :=
  .list (.field "name" true .text (record [(field, shape)]))

def shape : Shape :=
  record [("preferences", record [("colors", .flag), ("extensions", extensions)]),
    ("clusters", named "cluster" clusterShape), ("users", named "user" userShape),
    ("contexts", named "context" contextShape), ("current-context", .text),
    ("extensions", extensions), ("kind", .text), ("apiVersion", .text)]

def nameOf (entry : JsonValue) : String := (entry.textAt? ["name"]).getD ""

/-- A document that says nothing is an empty configuration. -/
def ofValue? (v : JsonValue) : Option Kubeconfig :=
  if v.isNull then some {}
  else if !shape.accepts v then none
  else
    some
      { kind := v.textAt? ["kind"]
        apiVersion := v.textAt? ["apiVersion"]
        current := v.textAt? ["current-context"]
        clusters := ((v.listAt? ["clusters"]).getD []).map fun entry =>
          (nameOf entry, (entry.field? "cluster").map fun c =>
            ⟨c.textAt? ["server"], c.textAt? ["certificate-authority-data"],
              c.textAt? ["certificate-authority"]⟩)
        contexts := ((v.listAt? ["contexts"]).getD []).map fun entry =>
          (nameOf entry, (entry.field? "context").map fun c =>
            ⟨(c.textAt? ["cluster"]).getD "", c.textAt? ["namespace"]⟩) }

def agree (a b : Option String) : Bool := a.isNone || b.isNone || a == b

/-- Entries with names that are not taken yet. -/
def appendNew {α : Type} (entries more : List (String × α)) : List (String × α) :=
  entries ++ more.filter fun e => !(entries.map (·.1)).contains e.1

/-- Documents of different types do not go together. -/
def merge? (a b : Kubeconfig) : Option Kubeconfig :=
  if agree a.kind b.kind && agree a.apiVersion b.apiVersion then
    some
      { kind := a.kind.or b.kind
        apiVersion := a.apiVersion.or b.apiVersion
        current := a.current.or b.current
        clusters := appendNew a.clusters b.clusters
        contexts := appendNew a.contexts b.contexts }
  else none

def parse? (text : String) : Option Kubeconfig := do
  let documents ← Yaml.documents? text
  let configs ← documents.mapM fun d => d.toValue?.bind ofValue?
  match configs with
  | [] => return {}
  | first :: rest => rest.foldlM merge? first

end Kubeconfig

/-- Certificates have to stand in the configuration itself, not in a file of their own. -/
def ClusterEntry.isUsable (cluster : ClusterEntry) : Bool :=
  match cluster.certificates with
  | some data => Text.isBase64 data.toList
  | none => cluster.certificateFile.isNone

/-- Where the cluster is, under which name, and the namespace that applies there. -/
structure Gateway where
  address : ServerAddress
  context : String
  space : String
  deriving DecidableEq, Repr

namespace Gateway

def defaultSpace : String := "default"

/-- Goes from the current context to its cluster. Users need not be known. -/
def ofKubeconfig? (config : Kubeconfig) : Option Gateway := do
  let name ← config.current
  let context ← (← config.contexts.find? fun e => e.1 == name).2
  let cluster ← (← config.clusters.find? fun e => e.1 == context.cluster).2
  let address ← ServerAddress.parse? (← cluster.server)
  if !cluster.isUsable then none
  return ⟨address, name, context.space.getD defaultSpace⟩

def noConfiguration : Failure :=
  [.text "failed to infer Kubernetes configuration", .clusterConfig]

/-- `none` stands for a file that is not there. -/
def infer (kubeconfig : Option String) : Except Failure Gateway :=
  match (kubeconfig.bind Kubeconfig.parse?).bind ofKubeconfig? with
  | some gateway => .ok gateway
  | none => .error noConfiguration

end Gateway
end ClusterDashboard
