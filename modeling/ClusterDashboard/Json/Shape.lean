import ClusterDashboard.Instant
import ClusterDashboard.Json.Value
/-!
What a JSON value has to look like to be read as an object of a certain type. Fields that a shape
does not name may hold anything.
-/
namespace ClusterDashboard

namespace Text

/-! ### Texts that stand for bytes, six bits a character -/

def base64Value? (c : Char) : Option Nat :=
  if 'A' ≤ c ∧ c ≤ 'Z' then some (c.toNat - 'A'.toNat)
  else if 'a' ≤ c ∧ c ≤ 'z' then some (c.toNat - 'a'.toNat + 26)
  else if '0' ≤ c ∧ c ≤ '9' then some (c.toNat - '0'.toNat + 52)
  else if c = '+' then some 62
  else if c = '/' then some 63
  else none

/-- Groups of four characters, the last one filled up with `=`. The bits that a filled group has
too many are zero. -/
def isBase64 : List Char → Bool
  | [] => true
  | [a, b, '=', '='] => (base64Value? a).isSome && (base64Value? b).any (· % 16 == 0)
  | [a, b, c, '='] =>
    (base64Value? a).isSome && (base64Value? b).isSome && (base64Value? c).any (· % 4 == 0)
  | a :: b :: c :: d :: rest =>
    (base64Value? a).isSome && (base64Value? b).isSome && (base64Value? c).isSome &&
      (base64Value? d).isSome && isBase64 rest
  | _ => false

end Text

/-! ### Shapes -/

/-- An object's fields are named one after the other, ending in `object`. A field that is needed
stands there exactly once. -/
inductive Shape where
  | anything
  | flag
  | text
  | exactly (s : String)
  | whole (bits : Nat)
  | instant
  | bytes
  | wholeOrText
  | optional (of : Shape)
  | list (of : Shape)
  | dictionary (of : Shape)
  | object
  | field (name : String) (needed : Bool) (value rest : Shape)

namespace Shape

def fitsBits (bits : Nat) (n : Int) : Bool :=
  let bound : Int := Nat.pow 2 (bits - 1)
  n < bound && -bound ≤ n

def fieldsNamed (name : String) (v : JsonValue) : List JsonValue :=
  (v.fields.filter fun f => f.1 == name).map (·.2)

def accepts : Shape → JsonValue → Bool
  | .anything, _ => true
  | .flag, v => v.asBool?.isSome
  | .text, v => v.asText?.isSome
  | .exactly s, v => v.asText? == some s
  | .whole bits, v => v.asInteger?.any (fitsBits bits)
  | .instant, v => v.asText?.any fun s => (Instant.ofText? s).isSome
  | .bytes, v => v.asText?.any fun s => Text.isBase64 s.toList
  | .wholeOrText, v => v.asText?.isSome || v.asInteger?.any (fitsBits 32)
  | .optional of, v => v.isNull || accepts of v
  | .list of, v => v.asList?.any fun items => items.all (accepts of)
  | .dictionary of, v => v.isObject && v.fields.all fun f => accepts of f.2
  | .object, v => v.isObject
  | .field name needed value rest, v =>
    let found := fieldsNamed name v
    (!needed || found.length == 1) && found.all (accepts value) && accepts rest v

/-- An object whose fields may all be left out or be null. -/
def record (fields : List (String × Shape)) : Shape :=
  fields.foldr (fun f rest => .field f.1 false (.optional f.2) rest) .object

end Shape
end ClusterDashboard
