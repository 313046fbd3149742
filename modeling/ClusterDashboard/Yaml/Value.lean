import ClusterDashboard.Json.Reader
import ClusterDashboard.Yaml.Node
/-!
YAML trees as JSON values: what a plain scalar stands for is read off its text.
-/
namespace ClusterDashboard.Yaml

def trueTexts : List String := ["true", "True", "TRUE"]
def falseTexts : List String := ["false", "False", "FALSE"]

def specialNumbers : List String :=
  [".inf", ".Inf", ".INF", "+.inf", "+.Inf", "+.INF", "-.inf", "-.Inf", "-.INF", ".nan", ".NaN",
    ".NAN"]

def withoutSign (s : List Char) : List Char :=
  match s with
  | c :: rest => if c == '+' || c == '-' then rest else s
  | [] => []

/-- Digits behind a zero are no number. -/
def isPadded (s : List Char) : Bool :=
  let bare := withoutSign s
  bare.length > 1 && bare.head? == some '0' && bare.all Char.isDigit

def isBased (s : List Char) : Bool :=
  match withoutSign s with
  | '0' :: mark :: digits =>
    let base := if mark = 'x' then 16 else if mark = 'o' then 8 else if mark = 'b' then 2 else 0
    !digits.isEmpty && digits.all fun c => (hexValue? c).any (· < base)
  | _ => false

def isExponent (s : List Char) : Bool :=
  match s with
  | e :: rest =>
    let digits := withoutSign rest
    (e == 'e' || e == 'E') && !digits.isEmpty && digits.all Char.isDigit
  | [] => true

/-- Digits with a point somewhere, and perhaps an exponent. -/
def isDecimal (s : List Char) : Bool :=
  let bare := withoutSign s
  let before := bare.takeWhile Char.isDigit
  let rest := bare.drop before.length
  let (after, rest) := match rest with
    | '.' :: more =>
      let after := more.takeWhile Char.isDigit
      (after, more.drop after.length)
    | _ => ([], rest)
  !(before.isEmpty && after.isEmpty) && isExponent rest

def isNumber (text : String) : Bool :=
  let s := text.toList
  !isPadded s && (isBased s || isDecimal s) || specialNumbers.contains text

/-- The value of a plain scalar. Numbers are told apart from texts but not evaluated. -/
def plainValue (text : String) : JsonValue :=
  if text = "" ∨ text ∈ Node.nullTexts then .null
  else if text ∈ trueTexts then .bool true
  else if text ∈ falseTexts then .bool false
  else if isNumber text then .decimal text
  else .text text

namespace Node

mutual

/-- Keys are texts, and none occurs twice in a mapping. -/
def toValue? : Node → Option JsonValue
  | .scalar text plain tag =>
    some (if plain && tag.isNone then plainValue text else .text text)
  | .sequence items _ => (itemValues? items).map .list
  | .mapping pairs _ => do
    let fields ← fieldValues? pairs
    if (fields.map (·.1)).Nodup then return .object fields else none

def itemValues? : List Node → Option (List JsonValue)
  | [] => some []
  | item :: rest => do return (← toValue? item) :: (← itemValues? rest)

def fieldValues? : List (Node × Node) → Option (List (String × JsonValue))
  | [] => some []
  | (key, value) :: rest => do
    let .text name ← toValue? key | none
    return (name, ← toValue? value) :: (← fieldValues? rest)

end

end Node
end ClusterDashboard.Yaml
