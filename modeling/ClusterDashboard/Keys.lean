/-!
What a key press means in each input mode, and the keys as a terminal sends them: single
characters, and sequences that begin with the escape character.
-/
namespace ClusterDashboard

inductive Mode where
  | normal
  | search
  | command
  | confirm
  deriving DecidableEq, Repr

inductive KeyCode where
  | char (c : Char)
  | function (n : Nat)
  | esc
  | enter
  | backspace
  | up
  | down
  | left
  | right
  | pageUp
  | pageDown
  | home
  | endKey
  | tab
  | backTab
  | delete
  | insert
  | null
  deriving DecidableEq, Repr

structure Modifiers where
  shift : Bool := false
  control : Bool := false
  alt : Bool := false
  superKey : Bool := false
  hyperKey : Bool := false
  metaKey : Bool := false
  deriving DecidableEq, Repr

structure Key where
  code : KeyCode
  modifiers : Modifiers := {}
  deriving DecidableEq, Repr

inductive Action where
  | quit
  | goToPage (digit : Nat)
  | toggleMenu
  | escape
  | back
  | refresh
  | down
  | up
  | left
  | right
  | pageDown
  | pageUp
  | top
  | bottom
  | openRow
  | showYaml
  | describe
  | logs
  | edit
  | shell
  | delete
  | startSearch
  | startCommand
  | submitInput
  | cancelInput
  | backspace
  | inputChar (c : Char)
  | confirmYes
  | confirmNo
  deriving DecidableEq, Repr

namespace Key

/-- In normal mode the control key leaves only its own four bindings. -/
def normalAction? (key : Key) : Option Action :=
  if key.modifiers.control then
    match key.code with
    | .char 'c' => some .quit
    | .char 'd' => some .delete
    | .char 'f' => some .pageDown
    | .char 'b' => some .pageUp
    | _ => none
  else
    match key.code with
    | .char 'q' => some .quit
    | .char 'm' => some .toggleMenu
    | .esc => some .escape
    | .enter => some .openRow
    | .char 'b' | .backspace => some .back
    | .char 'r' | .function 5 => some .refresh
    | .char 'j' | .down => some .down
    | .char 'k' | .up => some .up
    | .left => some .left
    | .right => some .right
    | .pageDown => some .pageDown
    | .pageUp => some .pageUp
    | .char 'g' | .home => some .top
    | .char 'G' | .endKey => some .bottom
    | .char 'y' => some .showYaml
    | .char 'd' => some .describe
    | .char 'l' => some .logs
    | .char 'e' => some .edit
    | .char 's' => some .shell
    | .char '/' => some .startSearch
    | .char ':' => some .startCommand
    | .char c => if c.isDigit then some (.goToPage (c.toNat - '0'.toNat)) else none
    | _ => none

/-- A character is typed when at most the shift key goes with it. -/
def inputAction? (key : Key) : Option Action :=
  match key.code with
  | .esc => some .cancelInput
  | .enter => some .submitInput
  | .backspace => some .backspace
  | .char c =>
    if key.modifiers.control && (c == 'm' || c == 'j') then some .submitInput
    else if key.modifiers = {} ∨ key.modifiers = { shift := true } then some (.inputChar c)
    else none
  | _ => none

def confirmAction? (key : Key) : Option Action :=
  match key.code with
  | .char 'y' | .char 'Y' | .enter => some .confirmYes
  | .char 'n' | .char 'N' | .esc => some .confirmNo
  | _ => none

def action? (mode : Mode) (key : Key) : Option Action :=
  match mode with
  | .normal => key.normalAction?
  | .search | .command => key.inputAction?
  | .confirm => key.confirmAction?

end Key

namespace Key

/-- Keys that are sent as a letter behind the sequence's opening. -/
def ofFinal : Char → KeyCode
  | 'A' => .up
  | 'B' => .down
  | 'C' => .right
  | 'D' => .left
  | 'H' => .home
  | 'F' => .endKey
  | 'Z' => .backTab
  | 'P' => .function 1
  | 'Q' => .function 2
  | 'R' => .function 3
  | 'S' => .function 4
  | _ => .null

/-- Keys that are sent as a number with a tilde behind it. -/
def ofNumber : List Char → KeyCode
  | ['1'] | ['7'] => .home
  | ['2'] => .insert
  | ['3'] => .delete
  | ['4'] | ['8'] => .endKey
  | ['5'] => .pageUp
  | ['6'] => .pageDown
  | ['1', '5'] => .function 5
  | _ => .null

/-- Control characters stand for a letter that is typed with the control key. -/
def ofTypedChar (c : Char) : Key :=
  let n := c.toNat
  if c == '\r' || c == '\n' then { code := .enter }
  else if c == '\t' then { code := .tab }
  else if c == '\x1b' then { code := .esc }
  else if n == 0x7f then { code := .backspace }
  else if 1 ≤ n && n ≤ 26 then
    { code := .char (Char.ofNat (n + 0x60)), modifiers := { control := true } }
  else { code := .char c, modifiers := { shift := c.isUpper } }

def ofTyped : List Char → List Key
  | '\x1b' :: '[' :: a :: '~' :: rest => { code := ofNumber [a] } :: ofTyped rest
  | '\x1b' :: '[' :: a :: b :: '~' :: rest => { code := ofNumber [a, b] } :: ofTyped rest
  | '\x1b' :: '[' :: c :: rest => { code := ofFinal c } :: ofTyped rest
  | '\x1b' :: 'O' :: c :: rest => { code := ofFinal c } :: ofTyped rest
  | c :: rest => ofTypedChar c :: ofTyped rest
  | [] => []

end Key
end ClusterDashboard
