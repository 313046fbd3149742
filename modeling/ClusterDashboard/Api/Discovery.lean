import ClusterDashboard.Api.Schema
import ClusterDashboard.Api.Server
/-!
Finding out which kinds the API server knows: all versions of all groups are asked for, and each
group contributes the resources of one version.
-/
namespace ClusterDashboard

/-- The versions of an API group: `v2`, `v1beta2`, `v1alpha1`, and any others. -/
inductive ApiVersion where
  | stable (major : Nat)
  | beta (major : Nat) (minor : Option Nat)
  | alpha (major : Nat) (minor : Option Nat)
  | other (name : String)
  deriving DecidableEq, Repr

namespace ApiVersion

def number? (digits : List Char) : Option Nat :=
  if digits.isEmpty || !digits.all Char.isDigit then none
  else
    some (digits.foldl (fun n c => 10 * n + (c.toNat - '0'.toNat)) 0) |>.filter (· < Nat.pow 2 32)

def minor? (digits : List Char) : Option (Option Nat) :=
  if digits.isEmpty then some none else (number? digits).map some

def parse? (name : List Char) : Option ApiVersion := do
  let 'v' :: rest := name | none
  let digits := rest.takeWhile Char.isDigit
  let major ← number? digits
  let rest := rest.drop digits.length
  if rest.isEmpty then return .stable major
  else if "alpha".toList.isPrefixOf rest then return .alpha major (← minor? (rest.drop 5))
  else if "beta".toList.isPrefixOf rest then return .beta major (← minor? (rest.drop 4))
  else none

def ofName (name : String) : ApiVersion := (parse? name.toList).getD (.other name)

/-- Stability first, then the numbers; a missing minor number is the lowest. -/
def rank : ApiVersion → Nat × Nat × Nat
  | .stable major => (3, major, 0)
  | .beta major minor => (2, major, (minor.map (· + 1)).getD 0)
  | .alpha major minor => (1, major, (minor.map (· + 1)).getD 0)
  | .other _ => (0, 0, 0)

/-- The higher version stands first; others are in alphabetical order. -/
def atLeast (a b : ApiVersion) : Bool :=
  match a, b with
  | .other s, .other t => decide (s ≤ t)
  | a, b =>
    let (s, m, n) := a.rank
    let (t, k, l) := b.rank
    s > t || (s == t && (m > k || (m == k && n ≥ l)))

end ApiVersion

/-- The resources of one version of a group. -/
structure VersionListing where
  version : String
  kinds : List DiscoveredKind
  deriving DecidableEq, Repr

namespace Discovery

def textOf (v : JsonValue) (name : String) : String := (v.textAt? [name]).getD ""

def itemsOf (v : JsonValue) (name : String) : List JsonValue := (v.listAt? [name]).getD []

/-- Group and version, divided at the first slash; the core group has no name. -/
def splitGroupVersion (text : String) : String × String :=
  let chars := text.toList
  let first := chars.takeWhile (· != '/')
  match chars.drop first.length with
  | _ :: rest => (String.ofList first, String.ofList rest)
  | [] => ("", text)

def canList (resource : JsonValue) : Bool :=
  (itemsOf resource "verbs").any fun verb => verb.asText? == some "list"

/-- The listable kinds of an answer. Parts of other resources are passed over; what a resource
can do is read off the first entry with its name. -/
def kindsOf (answer : JsonValue) : List DiscoveredKind :=
  let (group, version) := splitGroupVersion (textOf answer "groupVersion")
  let resources := itemsOf answer "resources"
  let plain := resources.filter fun r => !(textOf r "name").toList.contains '/'
  plain.filterMap fun r =>
    let plural := textOf r "name"
    let first := (resources.find? fun other => textOf other "name" == plural).getD r
    if canList first then
      some
        { group := (r.textAt? ["group"]).getD group
          version := (r.textAt? ["version"]).getD version
          kind := textOf r "kind"
          plural
          namespaced := ((first.field? "namespaced").bind JsonValue.asBool?).getD false }
    else none

/-- The preferred version counts, even if it was not listed; without one, the highest. -/
def recommended (preferred : Option String) (versions : List VersionListing) :
    List DiscoveredKind :=
  let best? : Option VersionListing := match preferred with
    | some name => versions.find? fun v => v.version == name
    | none =>
      (versions.mergeSort fun a b =>
        (ApiVersion.ofName a.version).atLeast (ApiVersion.ofName b.version)).head?
  (best?.map (·.kinds)).getD []

def listVersion (start version path : String) : Exchange VersionListing := do
  let answer ← Exchange.get Schema.resources (start ++ path)
  return ⟨version, kindsOf answer⟩

/-- A group without versions cannot be read. -/
def group (g : JsonValue) : Exchange (String × List DiscoveredKind) := do
  let versions := itemsOf g "versions"
  if versions.isEmpty then Exchange.fail
  let listed ← versions.mapM fun v =>
    listVersion "/apis/" (textOf v "version") (textOf v "groupVersion")
  let preferred := (g.field? "preferredVersion").map fun v => textOf v "version"
  return (textOf g "name", recommended preferred listed)

def core : Exchange (String × List DiscoveredKind) := do
  let answer ← Exchange.get Schema.coreVersions "/api"
  let versions := (itemsOf answer "versions").filterMap JsonValue.asText?
  if versions.isEmpty then Exchange.fail
  let listed ← versions.mapM fun v => listVersion "/api/" v v
  return ("", recommended (some "v1") listed)

/-- All listable kinds. Of groups with one name the last counts. -/
def run : Exchange (List DiscoveredKind) := do
  let answer ← Exchange.get Schema.groups "/apis"
  let groups ← (itemsOf answer "groups").mapM group
  let core ← core
  return (Keyed.ofList (groups ++ [core])).reverse.flatMap (·.2)

end Discovery
end ClusterDashboard
