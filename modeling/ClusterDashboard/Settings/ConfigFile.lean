import ClusterDashboard.Keyed
import ClusterDashboard.Text.Basic
import ClusterDashboard.Yaml.Node
/-!
The configuration file as it was written. A scalar of any kind will do for a text; a field must
not be given twice, under either of its names; fields nobody knows are passed over.
-/
namespace ClusterDashboard

structure ConfigFile where
  refreshMs : Option Nat := none
  statusDelayMs : Option Nat := none
  rootPage : Option String := none
  pages : List String := []
  aliases : Keyed String String := []
  deriving DecidableEq, Repr

namespace ConfigFile

open Yaml (Node)

def digitsIn? (base : Nat) (digits : List Char) : Option Nat :=
  if digits.isEmpty then none
  else
    digits.foldl
      (fun n c => do
        let n ← n
        let d ← Yaml.hexValue? c
        if d < base then some (base * n + d) else none)
      (some 0)

/-- Digits after a base mark may carry no sign of their own. -/
def based? (mark : Char) (base : Nat) (text : List Char) : Option Nat :=
  match text with
  | '0' :: m :: rest => if m = mark then digitsIn? base rest else none
  | _ => none

/-- An unquoted number below 2^64: an optional plus sign, then decimal digits without a leading
zero, or digits after 0x, 0o or 0b. -/
def unsigned? (text : String) : Option Nat :=
  let bare := match text.toList with
    | '+' :: rest => rest
    | all => all
  let decimal? : Option Nat :=
    if bare.length > 1 && bare.head? = some '0' && bare.all Char.isDigit then none
    else digitsIn? 10 bare
  let n? := (based? 'x' 16 bare).or <| (based? 'o' 8 bare).or <| (based? 'b' 2 bare).or decimal?
  n?.filter (· < Nat.pow 2 64)

def nullTag : String := "tag:yaml.org,2002:null"

/-- An optional field left empty or null is absent; the value is there otherwise. -/
def present? (n : Node) : Option Bool :=
  match n with
  | .scalar text true none => some (text != "" && !Node.nullTexts.contains text)
  | .scalar text true (some tag) =>
    if tag = nullTag then if Node.nullTexts.contains text then some false else none else some true
  | _ => some true

def optional? {α : Type} (read : Node → Option α) (n : Node) : Option (Option α) := do
  if ← present? n then return some (← read n) else return none

def number? : Node → Option Nat
  | .scalar text true _ => unsigned? text
  | _ => none

def texts? : Node → Option (List String)
  | .sequence items _ => items.mapM Node.text?
  | n => if n.isEmpty then some [] else none

/-- Of two entries with one key the later stays. -/
def textMap? : Node → Option (Keyed String String)
  | .mapping pairs _ => do
    return Keyed.ofList (← pairs.mapM fun (k, v) => do return (← k.text?, ← v.text?))
  | n => if n.isEmpty then some [] else none

/-- A field of the file by either of its names. -/
inductive Field where
  | refreshMs
  | statusDelayMs
  | rootPage
  | pages
  | aliases
  deriving DecidableEq

def Field.ofName? : String → Option Field
  | "refresh_ms" => some .refreshMs
  | "status_delay_ms" | "status_delay" => some .statusDelayMs
  | "root_page" | "root" => some .rootPage
  | "pages" => some .pages
  | "aliases" => some .aliases
  | _ => none

def set (file : ConfigFile) (field : Field) (n : Node) : Option ConfigFile :=
  match field with
  | .refreshMs => do return { file with refreshMs := ← optional? number? n }
  | .statusDelayMs => do return { file with statusDelayMs := ← optional? number? n }
  | .rootPage => do return { file with rootPage := ← optional? Node.text? n }
  | .pages => do return { file with pages := ← texts? n }
  | .aliases => do return { file with aliases := ← textMap? n }

def ofPairs (file : ConfigFile) (seen : List Field) : List (Node × Node) → Option ConfigFile
  | [] => some file
  | (k, v) :: rest => do
    match Field.ofName? (← k.text?) with
    | none => file.ofPairs seen rest
    | some field =>
      if field ∈ seen then none
      else (← file.set field v).ofPairs (field :: seen) rest

def ofNode? : Node → Option ConfigFile
  | .mapping pairs _ => ({} : ConfigFile).ofPairs [] pairs
  | n => if n.isEmpty then some {} else none

/-- A text without a document gives the empty file; more than one document is not accepted. -/
def parse? (text : String) : Option ConfigFile :=
  if Text.trim text = "" then some {}
  else do
    match ← Yaml.documents? text with
    | [] => some {}
    | [document] => ofNode? document
    | _ => none

end ConfigFile
end ClusterDashboard
