import ClusterDashboard.Keyed
/-!
JSON values. Objects keep their fields as written, repeated names included; of fields with one
name the last counts, and a field that is null counts as absent.
-/
namespace ClusterDashboard

/-- A number that is not whole, or too large for 64 bits, is kept as it was written. -/
inductive JsonValue where
  | null
  | bool (b : Bool)
  | integer (n : Int)
  | decimal (literal : String)
  | text (s : String)
  | list (items : List JsonValue)
  | object (fields : List (String × JsonValue))
  deriving Inhabited

namespace JsonValue

def isNull : JsonValue → Bool
  | .null => true
  | _ => false

def isObject : JsonValue → Bool
  | .object _ => true
  | _ => false

def fields : JsonValue → List (String × JsonValue)
  | .object fields => fields
  | _ => []

def field? (v : JsonValue) (name : String) : Option JsonValue :=
  ((Keyed.ofList v.fields).get? name).filter (!·.isNull)

/-- Goes down along field names. -/
def at? (v : JsonValue) : List String → Option JsonValue
  | [] => some v
  | name :: rest => (v.field? name).bind (·.at? rest)

def asText? : JsonValue → Option String
  | .text s => some s
  | _ => none

def asInteger? : JsonValue → Option Int
  | .integer n => some n
  | _ => none

def asBool? : JsonValue → Option Bool
  | .bool b => some b
  | _ => none

def asList? : JsonValue → Option (List JsonValue)
  | .list items => some items
  | _ => none

/-- The entries of an object that is used as a map. -/
def entries (v : JsonValue) : Keyed String JsonValue := Keyed.ofList v.fields

def textAt? (v : JsonValue) (path : List String) : Option String := (v.at? path).bind asText?

def integerAt? (v : JsonValue) (path : List String) : Option Int := (v.at? path).bind asInteger?

def listAt? (v : JsonValue) (path : List String) : Option (List JsonValue) :=
  (v.at? path).bind asList?

end JsonValue
end ClusterDashboard
