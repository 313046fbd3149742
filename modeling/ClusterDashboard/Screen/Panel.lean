import ClusterDashboard.Screen.Paragraph
/-!
Framed panels with a title in the upper edge, and the rows and columns of a table in them. Equal
columns share the width with a cell between any two; a mark in front shows the selected row.
-/
namespace ClusterDashboard

/-- Writes glyphs over what is there. The cell hidden behind a wide one becomes blank. -/
def Canvas.write (area : Rect) (line : Glyphs) (c : Canvas) : Canvas :=
  (line.foldl
    (fun (c, x, full) g =>
      if full || area.right < x + g.width then (c, x, true)
      else if g.width = 0 then (c, x, false)
      else
        let c := c.put x area.y g.cluster.symbol g.look
        (c.clear ⟨x + 1, area.y, g.width - 1, 1⟩, x + g.width, false))
    (c, area.x, false)).1

structure Panel where
  title : String := ""
  edge : Look
  ground : Colour
  deriving DecidableEq, Repr

namespace Panel

def drawEdge (area : Rect) (look : Look) (c : Canvas) : Canvas :=
  if area.width = 0 ∨ area.height = 0 then c
  else
    let right := area.right - 1
    let bottom := area.bottom - 1
    let side (c : Canvas) (y : Nat) : Canvas := (c.put area.x y "│" look).put right y "│" look
    let lid (c : Canvas) (x : Nat) : Canvas := (c.put x area.y "─" look).put x bottom "─" look
    let c := (List.range' area.y area.height).foldl side c
    let c := (List.range' area.x area.width).foldl lid c
    let c := (c.put area.x area.y "┌" look).put right area.y "┐" look
    (c.put area.x bottom "└" look).put right bottom "┘" look

def draw (p : Panel) (area : Rect) (c : Canvas) : Canvas :=
  let c := (c.dress area { ground := some p.ground })
  let c := drawEdge area p.edge c
  c.write ⟨area.x + 1, area.y, area.width - 2, 1⟩ (Span.glyphs { text := p.title })

/-- A paragraph inside a panel; its look covers the panel as well. -/
def drawText (p : Panel) (text : Paragraph) (area : Rect) (c : Canvas) : Canvas :=
  text.draw area.inner (p.draw area (c.dress area text.look))

end Panel

structure Grid where
  headers : List (String × Look)
  rows : List (List String)
  selected : Option Nat := none
  header : Look
  cell : Look
  highlight : Look

namespace Grid

def marker : String := "> "

/-- Divides, to the nearest whole number, halves upward. -/
def nearest (a b : Nat) : Nat := (2 * a + b) / (2 * b)

/-- Start and width of each column. Edges are kept to a hundredth of a cell before they are put
on whole cells. -/
def columns (room : Nat) (percents : List Nat) : List (Nat × Nat) :=
  let count := percents.length
  let share := min (percents.headD 100 * room * count) (100 * (room - (count - 1)))
  let edge (hundredths : Nat) : Nat := nearest (nearest hundredths count) 100
  (List.range count).map fun i =>
    let start := i * (share + 100 * count)
    (edge start, edge (start + share) - edge start)

/-- The first row on the screen: rows scroll no further than the selected one needs. -/
def firstRow (height : Nat) (selected : Option Nat) : Nat :=
  match selected with
  | some row => row + 1 - height
  | none => 0

def drawCells (area : Rect) (columns : List (Nat × Nat)) (cells : List (String × Look))
    (c : Canvas) : Canvas :=
  (columns.zip cells).foldl
    (fun c ((x, width), (text, look)) =>
      let place : Rect := ⟨area.x + x, area.y, width, 1⟩
      (c.dress place look).write place (Span.glyphs { text := (Text.lines text).headD "" }))
    c

def drawRow (g : Grid) (area : Rect) (indent : Nat) (columns : List (Nat × Nat)) (c : Canvas)
    (row : (List String × Nat) × Nat) : Canvas :=
  let ((cells, index), y) := row
  let place : Rect := { area with y, height := 1 }
  let chosen := g.selected = some index
  let c :=
    if chosen then c.write { place with width := indent } (Span.glyphs { text := marker }) else c
  let c := drawCells { place with x := area.x + indent } columns (cells.map fun t => (t, g.cell)) c
  if chosen then c.dress place g.highlight else c

def draw (g : Grid) (area : Rect) (c : Canvas) : Canvas :=
  if area.width = 0 ∨ area.height = 0 then c
  else
    let indent := if g.selected.isSome then min marker.length area.width else 0
    let columns := columns (area.width - indent) (columnPercents g.headers.length)
    let c := c.dress { area with height := 1 } g.header
    let c := drawCells { area with x := area.x + indent } columns g.headers c
    let height := area.height - 1
    let shown := (g.rows.zipIdx.drop (firstRow height g.selected)).take height
    (shown.zipIdx (area.y + 1)).foldl (g.drawRow area indent columns) c

end Grid

end ClusterDashboard
