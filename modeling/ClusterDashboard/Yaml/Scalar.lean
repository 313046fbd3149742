import ClusterDashboard.Yaml.Cursor
/-!
The text of scalars: plain, quoted and block scalars, with line folding and escapes. Every reader
gives the place after the scalar and its text, or nothing if it is ill formed.
-/
namespace ClusterDashboard.Yaml

/-- Spaces inside a line, or the line breaks, between two parts of a scalar. -/
structure Gap where
  spaces : List Char := []
  firstBreak : List Char := []
  breaks : List Char := []
  broken : Bool := false

namespace Gap

/-- A single line break becomes a space; of several the first is dropped. -/
def fold (g : Gap) : List Char :=
  if !g.broken then g.spaces
  else if g.firstBreak = ['\n'] then if g.breaks.isEmpty then [' '] else g.breaks
  else g.firstBreak ++ g.breaks

end Gap

/-- Reads spaces and line breaks. In a plain scalar (`indent` given) a tab must not stand where
the indentation of a following line is. -/
def readGap (indent : Option Nat) : Nat → Cursor → Gap → Option (Cursor × Gap)
  | 0, c, g => some (c, g)
  | fuel + 1, c, g =>
    match c.peek with
    | none => some (c, g)
    | some x =>
      if isSpace x then
        if g.broken && x == '\t' && indent.any (fun i => c.column < i) then none
        else
          readGap indent fuel c.skip (if g.broken then g else { g with spaces := g.spaces ++ [x] })
      else if isBreak x then
        let (c, text) := c.readBreak
        if g.broken then readGap indent fuel c { g with breaks := g.breaks ++ text }
        else readGap indent fuel c { g with spaces := [], firstBreak := text, broken := true }
      else some (c, g)

def isFlowIndicator (x : Char) : Bool :=
  x == ',' || x == '[' || x == ']' || x == '{' || x == '}'

/-- The characters of a plain scalar up to a space, a line break or an indicator that ends it. -/
def readPlainPart (flow : Bool) : Nat → Cursor → List Char → Option (Cursor × List Char)
  | 0, c, part => some (c, part.reverse)
  | fuel + 1, c, part =>
    match c.peek with
    | none => some (c, part.reverse)
    | some x =>
      if isSpace x || isBreak x then some (c, part.reverse)
      else if flow && x == ':' && (c.peek 1).any (fun y => isFlowIndicator y || y == '?') then none
      else if (x == ':' && c.atGap 1) || (flow && isFlowIndicator x) then some (c, part.reverse)
      else readPlainPart flow fuel c.skip (x :: part)

structure PlainText where
  after : Cursor
  text : List Char
  /-- The scalar was followed by a line break. -/
  brokeLine : Bool

/-- `indent` is the least column of a continuation line outside flow collections. -/
def readPlain (flow : Bool) (indent : Nat) :
    Nat → Cursor → Gap → List Char → Option PlainText
  | 0, c, g, text => some ⟨c, text, g.broken⟩
  | fuel + 1, c, g, text => do
    if c.atDocumentMark || c.sees '#' then return ⟨c, text, g.broken⟩
    let (c, part) ← readPlainPart flow (c.rest.length + 1) c []
    let text := if part.isEmpty then text else text ++ g.fold ++ part
    let broken := part.isEmpty && g.broken
    if !(c.atSpace || c.atBreak) then return ⟨c, text, broken⟩
    let before : Gap := if part.isEmpty then g else {}
    let (c, g) ← readGap (some indent) (c.rest.length + 1) c before
    if !flow && c.column < indent then return ⟨c, text, g.broken⟩
    readPlain flow indent fuel c g text

def hexValue? (c : Char) : Option Nat :=
  if c.isDigit then some (c.toNat - '0'.toNat)
  else if 'a' ≤ c && c ≤ 'f' then some (c.toNat - 'a'.toNat + 10)
  else if 'A' ≤ c && c ≤ 'F' then some (c.toNat - 'A'.toNat + 10)
  else none

def hexNumber? (digits : List Char) : Option Nat :=
  digits.foldl (fun n c => do return 16 * (← n) + (← hexValue? c)) (some 0)

def charOfNat? (n : Nat) : Option Char :=
  if n < 0xD800 || (0xDFFF < n && n ≤ 0x10FFFF) then some (Char.ofNat n) else none

/-- What an escape letter stands for, and the number of hexadecimal digits after it. -/
def escape? : Char → Option (Char ⊕ Nat)
  | '0' => some (.inl '\x00')
  | 'a' => some (.inl '\x07')
  | 'b' => some (.inl '\x08')
  | 't' => some (.inl '\t')
  | '\t' => some (.inl '\t')
  | 'n' => some (.inl '\n')
  | 'v' => some (.inl '\x0b')
  | 'f' => some (.inl '\x0c')
  | 'r' => some (.inl '\r')
  | 'e' => some (.inl '\x1b')
  | ' ' => some (.inl ' ')
  | '"' => some (.inl '"')
  | '/' => some (.inl '/')
  | '\\' => some (.inl '\\')
  | 'N' => some (.inl '\u0085')
  | '_' => some (.inl '\u00a0')
  | 'L' => some (.inl '\u2028')
  | 'P' => some (.inl '\u2029')
  | 'x' => some (.inr 2)
  | 'u' => some (.inr 4)
  | 'U' => some (.inr 8)
  | _ => none

/-- The characters of a quoted scalar up to a space, a line break or the closing quote; true when
an escaped line break ended the part. -/
def readQuotedPart (quote : Char) :
    Nat → Cursor → List Char → Option (Cursor × List Char × Bool)
  | 0, c, part => some (c, part.reverse, false)
  | fuel + 1, c, part =>
    match c.peek with
    | none => some (c, part.reverse, false)
    | some x =>
      if isSpace x || isBreak x then some (c, part.reverse, false)
      else if quote == '\'' && x == '\'' && c.sees '\'' 1 then
        readQuotedPart quote fuel (c.skip 2) ('\'' :: part)
      else if x == quote then some (c, part.reverse, false)
      else if quote == '"' && x == '\\' then
        if c.atBreak 1 then some (c.skip.readBreak.1, part.reverse, true)
        else do
          match ← escape? (← c.peek 1) with
          | .inl y => readQuotedPart quote fuel (c.skip 2) (y :: part)
          | .inr n =>
            let digits := (c.skip 2).rest.take n
            if digits.length < n then none
            else
              let y ← charOfNat? (← hexNumber? digits)
              readQuotedPart quote fuel (c.skip (2 + n)) (y :: part)
      else readQuotedPart quote fuel c.skip (x :: part)

/-- Reads from behind the opening quote to behind the closing one. -/
def readQuoted (quote : Char) : Nat → Cursor → List Char → Option (Cursor × List Char)
  | 0, _, _ => none
  | fuel + 1, c, text => do
    if c.atDocumentMark || c.atEnd then none
    let (c, part, escaped) ← readQuotedPart quote (c.rest.length + 1) c []
    let text := text ++ part
    if c.sees quote then return (c.skip, text)
    let (c, g) ← readGap none (c.rest.length + 1) c { broken := escaped }
    readQuoted quote fuel c (text ++ g.fold)

/-- What is kept of the line breaks at the end of a block scalar. -/
inductive Chomping where
  | strip
  | clip
  | keep
  deriving DecidableEq

/-- Empty lines before a line of a block scalar. While the indentation is not known, the deepest
column met so far is remembered. -/
def readEmptyLines (indent : Option Nat) :
    Nat → Cursor → Nat → List Char → Option (Cursor × Nat × List Char)
  | 0, c, deepest, breaks => some (c, deepest, breaks)
  | fuel + 1, c, deepest, breaks =>
    let spaces := c.rest.takeWhile (· == ' ')
    let c := match indent with
      | none => c.skip spaces.length
      | some i => c.skip (min spaces.length (i - c.column))
    let deepest := max deepest c.column
    if c.sees '\t' && (match indent with | none => true | some i => c.column < i) then none
    else if c.atBreak then
      let (c, text) := c.readBreak
      readEmptyLines indent fuel c deepest (breaks ++ text)
    else some (c, deepest, breaks)

/-- The lines of a block scalar. `folding` says that the scalar is folded; a line break between
two lines that do not begin with a space is then folded. -/
def readBlockLines (folding : Bool) (indent : Nat) :
    Nat → Cursor → List Char → List Char → Bool → List Char →
      Option (Cursor × List Char × List Char × List Char)
  | 0, c, text, last, _, breaks => some (c, text, last, breaks)
  | fuel + 1, c, text, last, spaceBefore, breaks => do
    if c.column ≠ indent || c.atEnd then return (c, text, last, breaks)
    let spaceHere := c.atSpace
    let joint :=
      if folding && last == ['\n'] && !spaceBefore && !spaceHere then
        if breaks.isEmpty then [' '] else breaks
      else last ++ breaks
    let (c, line) := c.takeWhile (!isBreak ·)
    let (c, last) := c.readBreak
    let (c, _, breaks) ← readEmptyLines (some indent) (c.rest.length + 1) c 0 []
    readBlockLines folding indent fuel c (text ++ joint ++ line) last spaceHere breaks

/-- The header of a block scalar behind its indicator: chomping, and the indentation if given. -/
def readBlockHeader (c : Cursor) : Option (Cursor × Chomping × Option Nat) := do
  let sign (c : Cursor) : Option Chomping :=
    if c.sees '+' then some .keep else if c.sees '-' then some .strip else none
  let digit (c : Cursor) : Option Nat :=
    (c.peek.filter Char.isDigit).map (fun x => x.toNat - '0'.toNat)
  let (c, chomping, step) := match sign c with
    | some chomping =>
      match digit c.skip with
      | some n => (c.skip 2, chomping, some n)
      | none => (c.skip, chomping, none)
    | none =>
      match digit c with
      | some n =>
        match sign c.skip with
        | some chomping => (c.skip 2, chomping, some n)
        | none => (c.skip, .clip, some n)
      | none => (c, Chomping.clip, none)
  if step = some 0 then none
  let (c, _) := c.takeWhile isSpace
  let c := if c.sees '#' then (c.takeWhile (!isBreak ·)).1 else c
  if !c.atBreakOrEnd then none
  return (c.readBreak.1, chomping, step)

/-- `outer` is the indentation of the surrounding block, -1 at the top. -/
def readBlock (folding : Bool) (outer : Int) (c : Cursor) : Option (Cursor × List Char) := do
  let (c, chomping, step) ← readBlockHeader c
  let given := step.map fun n => if outer ≥ 0 then outer.toNat + n else n
  let (c, deepest, breaks) ← readEmptyLines given (c.rest.length + 1) c 0 []
  let indent := given.getD (max (max deepest (outer + 1).toNat) 1)
  let (c, text, last, breaks) ←
    readBlockLines folding indent (c.rest.length + 1) c [] [] false breaks
  return (c, match chomping with
    | .strip => text
    | .clip => text ++ last
    | .keep => text ++ last ++ breaks)

end ClusterDashboard.Yaml
