import ClusterDashboard.Text.Basic
/-!
The screen as rows of cells, and the ways in which an area of it is divided. Drawing outside of the
screen has no effect.
-/
namespace ClusterDashboard

/-- A rectangle of cells. -/
structure Rect where
  x : Nat
  y : Nat
  width : Nat
  height : Nat
  deriving DecidableEq, Repr

namespace Rect

def right (r : Rect) : Nat := r.x + r.width
def bottom (r : Rect) : Nat := r.y + r.height

/-- The part inside a frame of one cell. -/
def inner (r : Rect) : Rect :=
  ⟨min (r.x + 1) r.right, min (r.y + 1) r.bottom, r.width - 2, r.height - 2⟩

/-- A percentage of a length to the nearest whole number, halves upward. -/
def portion (percent length : Nat) : Nat := (length * percent + 50) / 100

/-- The middle part of an area: the given share of it, the rest split in two equal margins. -/
def centered (percentX percentY : Nat) (area : Rect) : Rect :=
  let marginX := (100 - percentX) / 2
  let marginY := (100 - percentY) / 2
  let left := portion marginX area.width
  let top := portion marginY area.height
  ⟨area.x + left, area.y + top, portion (marginX + percentX) area.width - left,
    portion (marginY + percentY) area.height - top⟩

end Rect

/-- Equal shares of the width in whole percents, at least one each. The number of columns is
narrowed to 16 bits first. -/
def columnPercents (columns : Nat) : List Nat :=
  if columns = 0 then [100]
  else List.replicate columns (max 1 (100 / (columns % 65536)))

inductive Colour where
  | reset
  | black
  | white
  | rgb (red green blue : Nat)
  deriving DecidableEq, Repr

/-- What drawing changes in a cell besides its symbol: a colour that is not named stays, and marks
are only ever added. -/
structure Look where
  ink : Option Colour := none
  ground : Option Colour := none
  bold : Bool := false
  underlined : Bool := false
  deriving DecidableEq, Repr

structure Cell where
  symbol : String := " "
  ink : Colour := .reset
  ground : Colour := .reset
  bold : Bool := false
  underlined : Bool := false
  deriving DecidableEq, Repr

namespace Cell

def dress (look : Look) (cell : Cell) : Cell :=
  { cell with
    ink := look.ink.getD cell.ink
    ground := look.ground.getD cell.ground
    bold := cell.bold || look.bold
    underlined := cell.underlined || look.underlined }

end Cell

/-- The cells row by row. -/
structure Canvas where
  width : Nat
  height : Nat
  cells : Array Cell

namespace Canvas

def blank (width height : Nat) : Canvas := ⟨width, height, Array.replicate (width * height) {}⟩

def area (c : Canvas) : Rect := ⟨0, 0, c.width, c.height⟩

def modifyCell (x y : Nat) (change : Cell → Cell) (c : Canvas) : Canvas :=
  if x < c.width ∧ y < c.height then { c with cells := c.cells.modify (y * c.width + x) change }
  else c

def modifyRow (x y count : Nat) (change : Cell → Cell) (c : Canvas) : Canvas :=
  (List.range' x count).foldl (fun c x => c.modifyCell x y change) c

def modifyArea (area : Rect) (change : Cell → Cell) (c : Canvas) : Canvas :=
  (List.range' area.y area.height).foldl (fun c y => c.modifyRow area.x y area.width change) c

def dress (area : Rect) (look : Look) (c : Canvas) : Canvas := c.modifyArea area (·.dress look)

/-- Makes an area blank again. -/
def clear (area : Rect) (c : Canvas) : Canvas := c.modifyArea area fun _ => {}

def put (x y : Nat) (symbol : String) (look : Look) (c : Canvas) : Canvas :=
  c.modifyCell x y fun cell => { cell.dress look with symbol }

def rows (c : Canvas) : List (List Cell) :=
  (List.range c.height).map fun y => (c.cells.extract (y * c.width) ((y + 1) * c.width)).toList

/-- The symbols of each row, without the blanks at its end. -/
def textRows (c : Canvas) : List String :=
  c.rows.map fun row => Text.trimEnd (String.join (row.map (·.symbol)))

end Canvas

end ClusterDashboard
