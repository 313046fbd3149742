import ClusterDashboard.Kind.Basic
import ClusterDashboard.Table.View
/-!
The resource that a kubectl call is about, and the argument list of each call.
-/
namespace ClusterDashboard

structure Target where
  resource : String
  space : Option String
  name : String
  deriving DecidableEq, Repr

namespace Target

/-- A row's namespace counts only where the kind has one; the discovery listing has no targets. -/
def ofRow? (kind : PageKind) (row : Row) : Option Target :=
  kind.kubectlResource?.map fun resource =>
    ⟨resource, if kind.namespaced then row.space else none, row.name⟩

def label (t : Target) : String :=
  match t.space with
  | some space => t.resource ++ "/" ++ space ++ "/" ++ t.name
  | none => t.resource ++ "/" ++ t.name

def arguments (t : Target) : List String :=
  [t.resource, t.name] ++ (match t.space with | some space => ["-n", space] | none => [])

/-- Why a call that works on pods only cannot be made. -/
inductive PodError where
  | notAPod (resource : String)
  | noNamespace (pod : String)
  deriving DecidableEq, Repr

def PodError.message : PodError → String
  | .notAPod resource => "only pods support this action, not " ++ resource
  | .noNamespace pod => "pod " ++ pod ++ " has no namespace"

def podSpace (t : Target) : Except PodError String :=
  if t.resource ≠ BuiltinKind.pods.token then .error (.notAPod t.resource)
  else match t.space with
    | some space => .ok space
    | none => .error (.noNamespace t.name)

end Target

/-- The kubectl output shown in a detail layer. -/
inductive DetailVerb where
  | yaml
  | describe
  deriving DecidableEq, Repr

def DetailVerb.title : DetailVerb → String
  | .yaml => "yaml"
  | .describe => "describe"

namespace Kubectl

/-- How much of a log is shown when it is opened. -/
def logTail : Nat := 500

/-- Starts bash under a pseudo terminal where there is one, else the plain shell. -/
def shellScript : String :=
  "TERM=xterm-256color; export TERM; [ -x /bin/bash ] && ([ -x /usr/bin/script ] && " ++
  "/usr/bin/script -q -c /bin/bash /dev/null || exec /bin/bash) || exec /bin/sh"

def detailArguments (verb : DetailVerb) (t : Target) : List String :=
  match verb with
  | .yaml => "get" :: t.arguments ++ ["-o", "yaml"]
  | .describe => "describe" :: t.arguments

def deleteArguments (t : Target) : List String := "delete" :: t.arguments

def editArguments (t : Target) : List String := "edit" :: t.arguments

def logsArguments (t : Target) : Except Target.PodError (List String) := do
  let space ← t.podSpace
  return ["logs", "-f", "-n", space, t.name, "--all-containers", "--tail=" ++ toString logTail]

def shellArguments (t : Target) : Except Target.PodError (List String) := do
  let space ← t.podSpace
  return ["exec", "-it", "-n", space, t.name, "--", "/bin/sh", "-c", shellScript]

end Kubectl
end ClusterDashboard
