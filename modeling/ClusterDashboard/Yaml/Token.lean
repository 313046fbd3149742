import ClusterDashboard.Yaml.Scalar
/-!
The tokens of a YAML text. Block structure is read off the indentation: a deeper column opens a
block, a shallower one closes blocks. A text followed by a colon on its line was a key all along,
so its key token is put in before it afterwards.
-/
namespace ClusterDashboard.Yaml

inductive Token where
  | versionDirective
  | tagDirective (handle uri : List Char)
  | documentStart
  | documentEnd
  | blockSequenceStart
  | blockMappingStart
  | blockEnd
  | flowSequenceStart
  | flowSequenceEnd
  | flowMappingStart
  | flowMappingEnd
  | blockEntry
  | flowEntry
  | key
  | value
  | alias (name : List Char)
  | anchor (name : List Char)
  | tag (handle suffix : List Char)
  | scalar (text : List Char) (plain : Bool)
  deriving DecidableEq

/-- A place where a key may have begun. -/
structure KeyStart where
  required : Bool
  /-- The number of tokens before it. -/
  position : Nat
  index : Nat
  line : Nat
  column : Nat

structure Scanner where
  cursor : Cursor
  tokens : List Token := []
  count : Nat := 0
  indent : Int := -1
  outer : List Int := []
  keyAllowed : Bool := true
  /-- The possible key of each open flow collection, innermost first; the last is the block's. -/
  keys : List (Option KeyStart) := [none]
  flow : Nat := 0

namespace Scanner

/-- The tokens are kept in reverse order. -/
def emit (s : Scanner) (t : Token) : Scanner :=
  { s with tokens := t :: s.tokens, count := s.count + 1 }

def insertAt (s : Scanner) (position : Nat) (t : Token) : Scanner :=
  let later := s.count - position
  { s with tokens := s.tokens.take later ++ t :: s.tokens.drop later, count := s.count + 1 }

def emitAfter (s : Scanner) (n : Nat) (t : Token) : Scanner :=
  { s with cursor := s.cursor.skip n }.emit t

/-- Closes the blocks that are deeper than the column. -/
def closeBlocks (column : Int) : List Int → Scanner → Scanner
  | [], s => s
  | i :: outer, s =>
    if s.indent > column then closeBlocks column outer { s.emit .blockEnd with indent := i, outer }
    else s

def unroll (s : Scanner) (column : Int) : Scanner :=
  if s.flow > 0 then s else closeBlocks column s.outer s

/-- Opens a block if the column is deeper than the current one. -/
def roll (s : Scanner) (column : Nat) (position : Nat) (t : Token) : Scanner :=
  if s.flow = 0 && s.indent < column then
    { s.insertAt position t with outer := s.indent :: s.outer, indent := column }
  else s

/-- A key ends on its line and within 1024 characters. -/
def isCurrent (s : Scanner) (k : KeyStart) : Bool :=
  k.line == s.cursor.line && s.cursor.index ≤ k.index + 1024

/-- Forgets keys that came to nothing; a key that had to come is missed. -/
def dropStale (s : Scanner) : Option Scanner :=
  if s.keys.any (fun k => k.any fun k => k.required && !s.isCurrent k) then none
  else some { s with keys := s.keys.map (·.filter s.isCurrent) }

def setKey (s : Scanner) (k : Option KeyStart) : Scanner := { s with keys := k :: s.keys.tail }

def key? (s : Scanner) : Option KeyStart := s.keys.head?.join

def removeKey (s : Scanner) : Option Scanner :=
  if s.key?.any (·.required) then none else some (s.setKey none)

def saveKey (s : Scanner) : Option Scanner :=
  if !s.keyAllowed then some s
  else do
    let s ← s.removeKey
    let c := s.cursor
    return s.setKey (some
      { required := s.flow = 0 && s.indent = c.column
        position := s.count
        index := c.index
        line := c.line
        column := c.column })

/-- A key may begin here; right behind it none may. -/
def beginText (s : Scanner) : Option Scanner := do
  return { (← s.saveKey) with keyAllowed := false }

/-- Goes to the next token over spaces, comments and line breaks. A tab does not indent. -/
def skipGap : Nat → Scanner → Scanner
  | 0, s => s
  | fuel + 1, s =>
    let (c, _) := s.cursor.takeWhile fun x =>
      x == ' ' || (x == '\t' && (s.flow > 0 || !s.keyAllowed))
    let c := if c.sees '#' then (c.takeWhile (!isBreak ·)).1 else c
    if c.atBreak then
      skipGap fuel
        { s with cursor := c.readBreak.1, keyAllowed := s.keyAllowed || s.flow = 0 }
    else { s with cursor := c }

def isTagChar (x : Char) : Bool :=
  isWordChar x || ";/?:@&=+$.!~*'()%".toList.contains x

def isTagCharInside (x : Char) : Bool := isTagChar x || ",[]".toList.contains x

/-- Percent escapes of a tag stand for the bytes of characters. -/
def unescapeTag : List Char → Option (List Char)
  | [] => some []
  | '%' :: a :: b :: rest => do
    let n ← hexNumber? [a, b]
    if n < 128 then return Char.ofNat n :: (← unescapeTag rest) else none
  | '%' :: _ => none
  | c :: rest => do return c :: (← unescapeTag rest)

def scanTag (s : Scanner) : Option Scanner := do
  let c := s.cursor
  let (c, handle, suffix) ←
    if c.sees '<' 1 then do
      let (c, uri) := (c.skip 2).takeWhile isTagCharInside
      if uri.isEmpty || !c.sees '>' then none
      else pure (c.skip, [], ← unescapeTag uri)
    else do
      let (c, word) := c.skip.takeWhile isWordChar
      if c.sees '!' then
        let (c, suffix) := c.skip.takeWhile fun x => isTagChar x && x != '!'
        if suffix.isEmpty then none
        else pure (c, '!' :: word ++ ['!'], ← unescapeTag suffix)
      else
        let (c, more) := c.takeWhile fun x => isTagChar x && x != '!'
        let suffix := word ++ more
        if suffix.isEmpty then pure (c, [], ['!'])
        else pure (c, ['!'], ← unescapeTag suffix)
  if !(c.atGap || (s.flow > 0 && c.sees ',')) then none
  return { s with cursor := c }.emit (.tag handle suffix)

def scanAnchor (s : Scanner) (make : List Char → Token) : Option Scanner :=
  let (c, name) := s.cursor.skip.takeWhile isWordChar
  if name.isEmpty ||
      !(c.atGap || (c.peek.any fun x => "?:,]\x7d%@".toList.contains x || x.val == 0x60))
  then none
  else some ({ s with cursor := c }.emit (make name))

/-- Only version 1.1 and 1.2 and tag handles can be declared. -/
def scanDirective (s : Scanner) : Option Scanner := do
  let (c, name) := s.cursor.skip.takeWhile isWordChar
  if name.isEmpty || !c.atGap then none
  let (c, _) := c.takeWhile isSpace
  let (c, token) ←
    if name = "YAML".toList then do
      let (c, major) := c.takeWhile Char.isDigit
      if !c.sees '.' then none
      let (c, minor) := c.skip.takeWhile Char.isDigit
      if major = ['1'] && (minor = ['1'] || minor = ['2']) then pure (c, Token.versionDirective)
      else none
    else if name = "TAG".toList then do
      if !c.sees '!' then none
      let (c, word) := c.skip.takeWhile isWordChar
      let (c, handle) ←
        if c.sees '!' then pure (c.skip, '!' :: word ++ ['!'])
        else if word.isEmpty then pure (c, ['!'])
        else none
      if !c.atSpace then none
      let (c, _) := c.takeWhile isSpace
      let (c, uri) := c.takeWhile isTagCharInside
      if uri.isEmpty || !c.atGap then none
      pure (c, Token.tagDirective handle (← unescapeTag uri))
    else none
  let (c, _) := c.takeWhile isSpace
  let c := if c.sees '#' then (c.takeWhile (!isBreak ·)).1 else c
  if !c.atBreakOrEnd then none
  return { s with cursor := c.readBreak.1 }.emit token

def openFlow (s : Scanner) (t : Token) : Option Scanner := do
  let s ← s.saveKey
  return { s with keys := none :: s.keys, flow := s.flow + 1, keyAllowed := true }.emitAfter 1 t

def closeFlow (s : Scanner) (t : Token) : Option Scanner := do
  let s ← s.removeKey
  let s := if s.flow > 0 then { s with keys := s.keys.tail, flow := s.flow - 1 } else s
  return { s with keyAllowed := false }.emitAfter 1 t

def blockEntry (s : Scanner) : Option Scanner := do
  if s.flow = 0 && !s.keyAllowed then none
  let s ← (s.roll s.cursor.column s.count .blockSequenceStart).removeKey
  return { s with keyAllowed := true }.emitAfter 1 .blockEntry

def explicitKey (s : Scanner) : Option Scanner := do
  if s.flow = 0 && !s.keyAllowed then none
  let s ← (s.roll s.cursor.column s.count .blockMappingStart).removeKey
  return { s with keyAllowed := s.flow = 0 }.emitAfter 1 .key

def value (s : Scanner) : Option Scanner :=
  match s.key? with
  | some k =>
    let s := (s.insertAt k.position .key).roll k.column k.position .blockMappingStart
    some ({ s.setKey none with keyAllowed := false }.emitAfter 1 .value)
  | none =>
    if s.flow = 0 && !s.keyAllowed then none
    else
      let s := s.roll s.cursor.column s.count .blockMappingStart
      some ({ s with keyAllowed := s.flow = 0 }.emitAfter 1 .value)

def quoted (s : Scanner) (quote : Char) : Option Scanner := do
  let s ← s.saveKey
  let c := s.cursor.skip
  let (c, text) ← readQuoted quote (c.rest.length + 2) c []
  return { s with keyAllowed := false, cursor := c }.emit (.scalar text false)

def plain (s : Scanner) : Option Scanner := do
  let s ← s.saveKey
  let c := s.cursor
  let read ← readPlain (s.flow > 0) (s.indent + 1).toNat (c.rest.length + 2) c {} []
  return { s with keyAllowed := read.brokeLine, cursor := read.after }.emit (.scalar read.text true)

def block (s : Scanner) (folding : Bool) : Option Scanner := do
  let s ← s.removeKey
  let (c, text) ← readBlock folding s.indent s.cursor.skip
  return { s with keyAllowed := true, cursor := c }.emit (.scalar text false)

def documentMark (s : Scanner) : Option Scanner := do
  let s ← (s.unroll (-1)).removeKey
  return { s with keyAllowed := false }.emitAfter 3
    (if s.cursor.sees '-' then .documentStart else .documentEnd)

/-- A character that may begin a plain scalar, whatever follows it. -/
def startsPlain (x : Char) : Bool :=
  !(isSpace x || isBreak x || "-?:,[]\x7b\x7d#&*!|>'\"%@".toList.contains x || x.val == 0x60)

/-- Reads one token that begins with `x`. -/
def token (s : Scanner) (x : Char) : Option Scanner :=
  let c := s.cursor
  let gap := c.atGap 1
  if c.column = 0 && x == '%' then do
    let s ← (s.unroll (-1)).removeKey
    { s with keyAllowed := false }.scanDirective
  else if c.atDocumentMark then s.documentMark
  else if x == '[' then s.openFlow .flowSequenceStart
  else if x == '{' then s.openFlow .flowMappingStart
  else if x == ']' then s.closeFlow .flowSequenceEnd
  else if x == '}' then s.closeFlow .flowMappingEnd
  else if x == ',' then do
    let s ← s.removeKey
    return { s with keyAllowed := true }.emitAfter 1 .flowEntry
  else if x == '-' && gap then s.blockEntry
  else if x == '?' && (s.flow > 0 || gap) then s.explicitKey
  else if x == ':' && (s.flow > 0 || gap) then s.value
  else if x == '*' then do (← s.beginText).scanAnchor .alias
  else if x == '&' then do (← s.beginText).scanAnchor .anchor
  else if x == '!' then do (← s.beginText).scanTag
  else if x == '|' && s.flow = 0 then s.block false
  else if x == '>' && s.flow = 0 then s.block true
  else if x == '\'' || x == '"' then s.quoted x
  else if startsPlain x || (x == '-' && !c.atSpace 1) ||
      ((x == '?' || x == ':') && s.flow = 0 && !gap)
  then s.plain
  else none

/-- At the end all blocks are closed. -/
def finish (s : Scanner) : Option (List Token) := do
  let c := s.cursor
  let s :=
    if c.column = 0 then s else { s with cursor := { c with column := 0, line := c.line + 1 } }
  return (← (← (s.unroll (-1)).dropStale).removeKey).tokens.reverse

def run : Nat → Scanner → Option (List Token)
  | 0, _ => none
  | fuel + 1, s => do
    let s ← (skipGap (s.cursor.rest.length + 1) s).dropStale
    let s := s.unroll s.cursor.column
    match s.cursor.peek with
    | none => s.finish
    | some x => run fuel (← s.token x)

end Scanner

/-- A byte order mark at the beginning is no part of the text. -/
def tokens? (text : String) : Option (List Token) :=
  let chars := match text.toList with
    | c :: rest => if c.val == 0xFEFF then rest else c :: rest
    | [] => []
  if chars.all isReadable then Scanner.run (chars.length + 2) { cursor := { rest := chars } }
  else none

end ClusterDashboard.Yaml
