import ClusterDashboard.Yaml.Token
/-!
YAML documents as trees. An alias stands for a copy of the node it names.
-/
namespace ClusterDashboard.Yaml

inductive Node where
  | scalar (text : String) (plain : Bool) (tag : Option String)
  | sequence (items : List Node) (tag : Option String)
  | mapping (pairs : List (Node × Node)) (tag : Option String)

namespace Node

def empty : Node := .scalar "" true none

/-- Nothing was written where a value could stand. -/
def isEmpty : Node → Bool
  | .scalar "" true _ => true
  | _ => false

/-- The text of any scalar, quoted or not. -/
def text? : Node → Option String
  | .scalar text _ _ => some text
  | _ => none

def nullTexts : List String := ["null", "Null", "NULL", "~"]

end Node

/-- What is left to read, and the nodes that were given names. -/
structure Reader where
  tokens : List Token
  anchors : List (List Char × Node) := []
  handles : List (List Char × List Char) := []

namespace Reader

abbrev Read (α : Type) := StateT Reader Option α

def peek : Read (Option Token) := do return (← get).tokens.head?

def skip : Read Unit := modify fun r => { r with tokens := r.tokens.tail }

/-- Goes past the token if it comes next. -/
def accept (t : Token) : Read Bool := do
  if (← peek) = some t then
    skip
    return true
  return false

def expect (t : Token) : Read Unit := do
  if !(← accept t) then failure

def nextIn (ts : List Token) : Read Bool := do
  return match ← peek with
    | some t => ts.contains t
    | none => true

def resolveTag (handle suffix : List Char) : Read String := do
  if handle.isEmpty then return String.ofList suffix
  match (← get).handles.lookup handle with
  | some uri => return String.ofList (uri ++ suffix)
  | none =>
    if handle = ['!'] then return String.ofList (handle ++ suffix)
    else if handle = "!!".toList then return String.ofList ("tag:yaml.org,2002:".toList ++ suffix)
    else failure

/-- An anchor and a tag, in either order, at most one of each. -/
def properties : Read (Option (List Char) × Option String) := do
  let anchor : Read (Option (List Char)) := do
    match ← peek with
    | some (.anchor name) => skip; return some name
    | _ => return none
  let tag : Read (Option String) := do
    match ← peek with
    | some (.tag handle suffix) => skip; return some (← resolveTag handle suffix)
    | _ => return none
  match ← anchor with
  | some name => return (some name, ← tag)
  | none =>
    let t ← tag
    return (← anchor, t)

mutual

/-- `block` allows block collections, `indentless` a sequence at the column of its key. -/
def node (fuel : Nat) (block indentless : Bool) : Read Node :=
  match fuel with
  | 0 => failure
  | fuel + 1 => do
    if let some (.alias name) ← peek then
      skip
      match (← get).anchors.lookup name with
      | some n => return n
      | none => failure
    let (anchor, tag) ← properties
    let n ← content fuel block indentless (anchor.isSome || tag.isSome) tag
    if let some name := anchor then
      modify fun r => { r with anchors := (name, n) :: r.anchors }
    return n

def content (fuel : Nat) (block indentless named : Bool) (tag : Option String) : Read Node :=
  match fuel with
  | 0 => failure
  | fuel + 1 => do
    match ← peek with
    | some (.scalar text plain) =>
      skip
      return .scalar (String.ofList text) plain tag
    | some .flowSequenceStart =>
      skip
      return .sequence (← flowItems fuel true) tag
    | some .flowMappingStart =>
      skip
      return .mapping (← flowPairs fuel true) tag
    | some .blockEntry =>
      if indentless then return .sequence (← indentlessItems fuel) tag
      else if named then return .scalar "" true tag
      else failure
    | some .blockSequenceStart =>
      if block then
        skip
        return .sequence (← blockItems fuel) tag
      else if named then return .scalar "" true tag
      else failure
    | some .blockMappingStart =>
      if block then
        skip
        return .mapping (← blockPairs fuel) tag
      else if named then return .scalar "" true tag
      else failure
    | _ => if named then return .scalar "" true tag else failure

def blockItems (fuel : Nat) : Read (List Node) :=
  match fuel with
  | 0 => failure
  | fuel + 1 => do
    if ← accept .blockEnd then return []
    expect .blockEntry
    let item ← nodeUnless fuel [.blockEntry, .blockEnd] true false
    return item :: (← blockItems fuel)

def indentlessItems (fuel : Nat) : Read (List Node) :=
  match fuel with
  | 0 => failure
  | fuel + 1 => do
    if !(← accept .blockEntry) then return []
    let item ← nodeUnless fuel [.blockEntry, .key, .value, .blockEnd] true false
    return item :: (← indentlessItems fuel)

def blockPairs (fuel : Nat) : Read (List (Node × Node)) :=
  match fuel with
  | 0 => failure
  | fuel + 1 => do
    if ← accept .blockEnd then return []
    expect .key
    let k ← nodeUnless fuel [.key, .value, .blockEnd] true true
    let v ←
      if ← accept .value then nodeUnless fuel [.key, .value, .blockEnd] true true
      else pure .empty
    return (k, v) :: (← blockPairs fuel)

/-- Between two items stands a comma; one may follow the last. -/
def flowItems (fuel : Nat) (first : Bool) : Read (List Node) :=
  match fuel with
  | 0 => failure
  | fuel + 1 => do
    if ← accept .flowSequenceEnd then return []
    if !first then
      expect .flowEntry
      if ← accept .flowSequenceEnd then return []
    let item ←
      if ← accept .key then flowPair fuel
      else node fuel false false
    return item :: (← flowItems fuel false)

/-- A single pair as an item of a flow sequence. -/
def flowPair (fuel : Nat) : Read Node :=
  match fuel with
  | 0 => failure
  | fuel + 1 => do
    let ends : List Token := [.flowEntry, .flowSequenceEnd]
    let k ←
      if ← nextIn (.value :: ends) then
        skip
        pure .empty
      else node fuel false false
    let v ←
      if ← accept .value then nodeUnless fuel ends false false
      else pure .empty
    return .mapping [(k, v)] none

def flowPairs (fuel : Nat) (first : Bool) : Read (List (Node × Node)) :=
  match fuel with
  | 0 => failure
  | fuel + 1 => do
    if ← accept .flowMappingEnd then return []
    if !first then
      expect .flowEntry
      if ← accept .flowMappingEnd then return []
    let ends : List Token := [.flowEntry, .flowMappingEnd]
    let pair ←
      if ← accept .key then
        let k ← nodeUnless fuel (.value :: ends) false false
        let v ←
          if ← accept .value then nodeUnless fuel ends false false
          else pure .empty
        pure (k, v)
      else
        pure (← node fuel false false, .empty)
    return pair :: (← flowPairs fuel false)

/-- An empty scalar if one of the given tokens comes next. -/
def nodeUnless (fuel : Nat) (ends : List Token) (block indentless : Bool) : Read Node :=
  match fuel with
  | 0 => failure
  | fuel + 1 => do
    if ← nextIn ends then return .empty
    node fuel block indentless

end

/-- Directives before a document: at most one version, and each tag handle once. -/
def directives : Nat → Bool → Read Bool
  | 0, _ => failure
  | fuel + 1, versioned => do
    match ← peek with
    | some .versionDirective =>
      if versioned then failure
      skip
      discard (directives fuel true)
      return true
    | some (.tagDirective handle uri) =>
      if (← get).handles.any (·.1 == handle) then failure
      skip
      modify fun r => { r with handles := (handle, uri) :: r.handles }
      discard (directives fuel versioned)
      return true
    | _ => return false

def skipDocumentEnds : Nat → Read Unit
  | 0 => pure ()
  | fuel + 1 => do if ← accept .documentEnd then skipDocumentEnds fuel

/-- The documents of a stream. Only the first may begin without its marker. -/
def documents (bound : Nat) : Nat → Bool → Read (List Node)
  | 0, _ => failure
  | fuel + 1, implicit => do
    if !implicit then skipDocumentEnds bound
    if (← get).tokens.isEmpty then return []
    modify fun r => { r with anchors := [], handles := [] }
    let declared ← directives bound false
    let marked ← accept .documentStart
    if !marked && (declared || !implicit) then failure
    let n ←
      if marked && (← nextIn [.versionDirective, .documentStart, .documentEnd]) then pure .empty
      else
        match marked, ← peek with
        | true, some (.tagDirective _ _) => pure .empty
        | _, _ => node bound true false
    discard (accept .documentEnd)
    return n :: (← documents bound fuel false)

end Reader

/-- The documents of a text; nothing if it is ill formed anywhere. -/
def documents? (text : String) : Option (List Node) := do
  let tokens ← tokens? text
  let bound := 4 * tokens.length + 8
  return (← (Reader.documents bound (tokens.length + 2) true).run { tokens }).1

end ClusterDashboard.Yaml
