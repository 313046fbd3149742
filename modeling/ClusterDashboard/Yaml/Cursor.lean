/-!
A place in a YAML text: the characters still to read, and where they stand. A carriage return
with the line feed after it is one line break.
-/
namespace ClusterDashboard.Yaml

def isBreak (c : Char) : Bool :=
  c == '\n' || c == '\r' || c.val == 0x85 || c.val == 0x2028 || c.val == 0x2029

def isSpace (c : Char) : Bool := c == ' ' || c == '\t'

/-- The characters that may stand in a YAML text at all. -/
def isReadable (c : Char) : Bool :=
  c.val == 0x9 || c.val == 0xA || c.val == 0xD || (0x20 ≤ c.val && c.val ≤ 0x7E) ||
  c.val == 0x85 || (0xA0 ≤ c.val && c.val ≤ 0xFFFD && c.val != 0xFEFF) || 0x10000 ≤ c.val

/-- A letter, digit, low line or hyphen. -/
def isWordChar (c : Char) : Bool := c.isAlphanum || c == '_' || c == '-'

structure Cursor where
  rest : List Char
  index : Nat := 0
  line : Nat := 0
  column : Nat := 0

namespace Cursor

def peek (c : Cursor) (ahead : Nat := 0) : Option Char := c.rest[ahead]?

def sees (c : Cursor) (x : Char) (ahead : Nat := 0) : Bool := c.peek ahead == some x

def atBreak (c : Cursor) (ahead : Nat := 0) : Bool := (c.peek ahead).any isBreak

def atSpace (c : Cursor) (ahead : Nat := 0) : Bool := (c.peek ahead).any isSpace

def atEnd (c : Cursor) : Bool := c.rest.isEmpty

def atBreakOrEnd (c : Cursor) (ahead : Nat := 0) : Bool :=
  (c.peek ahead).isNone || c.atBreak ahead

/-- A space, a line break or the end. -/
def atGap (c : Cursor) (ahead : Nat := 0) : Bool := c.atSpace ahead || c.atBreakOrEnd ahead

def skip (c : Cursor) (n : Nat := 1) : Cursor :=
  { c with rest := c.rest.drop n, index := c.index + n, column := c.column + n }

/-- Goes past a line break and gives the text it stands for. -/
def readBreak (c : Cursor) : Cursor × List Char :=
  let next (taken : Nat) : Cursor :=
    { rest := c.rest.drop taken, index := c.index + taken, line := c.line + 1, column := 0 }
  match c.rest with
  | '\r' :: '\n' :: _ => (next 2, ['\n'])
  | x :: _ =>
    if x.val == 0x2028 || x.val == 0x2029 then (next 1, [x])
    else if isBreak x then (next 1, ['\n'])
    else (c, [])
  | [] => (c, [])

def takeWhile (c : Cursor) (p : Char → Bool) : Cursor × List Char :=
  let taken := c.rest.takeWhile p
  (c.skip taken.length, taken)

/-- The line begins with one of the two document markers. -/
def atDocumentMark (c : Cursor) : Bool :=
  c.column == 0 && c.atGap 3 &&
    ((c.sees '-' && c.sees '-' 1 && c.sees '-' 2) || (c.sees '.' && c.sees '.' 1 && c.sees '.' 2))

end Cursor
end ClusterDashboard.Yaml
