import ClusterDashboard.Screen.Canvas
import ClusterDashboard.Text.Cluster
import ClusterDashboard.Text.Basic
/-!
Text on the screen: lines of styled spans, cut off at the end of the area or wrapped between
words. Control characters are not drawn.
-/
namespace ClusterDashboard

structure Span where
  text : String
  look : Look := {}
  deriving DecidableEq, Repr

/-- One cluster of a span with the span's look. -/
structure Glyph where
  cluster : Text.Cluster
  look : Look
  deriving DecidableEq, Repr

namespace Glyph

def width (g : Glyph) : Nat := g.cluster.width

/-- A text may be wrapped at blanks, save the one that forbids it, and at the invisible one. -/
def isBlank (g : Glyph) : Bool :=
  g.cluster.chars == ['\u200B'] ||
    (g.cluster.chars.all Text.isBlank && g.cluster.chars != ['\u00A0'])

end Glyph

def Span.glyphs (span : Span) : List Glyph := (Text.clusters span.text).map (⟨·, span.look⟩)

abbrev Glyphs := List Glyph

namespace Glyphs

def width (line : Glyphs) : Nat := (line.map Glyph.width).foldr (· + ·) 0

/-- As much of the line as fits; what is wider than the whole area is left out. -/
def cut (room : Nat) (line : Glyphs) : Glyphs :=
  let step (line : Glyphs × Nat × Bool) (g : Glyph) : Glyphs × Nat × Bool :=
    let (taken, used, full) := line
    if full || room < g.width then line
    else if room < used + g.width then (taken, used, true)
    else (g :: taken, used + g.width, false)
  ((line.filter fun g => g.width ≤ room).foldl step ([], 0, false)).1.reverse

end Glyphs

/-- Wrapping under way. A line is followed by the blanks after it and the word after those, of
which it is not known yet whether they fit. -/
structure Wrapping where
  done : List Glyphs := []
  line : Glyphs := []
  blanks : Glyphs := []
  word : Glyphs := []
  inWord : Bool := false

namespace Wrapping

/-- The word is known to belong to the line; blanks at the start of a trimmed line are dropped. -/
def settleWord (trim : Bool) (w : Wrapping) : Wrapping :=
  { w with
    line := w.line ++ (if w.line.isEmpty && trim then [] else w.blanks) ++ w.word
    blanks := []
    word := [] }

/-- The leading blanks that still fit on the line are lost at its end. -/
def dropFitting : Nat → Glyphs → Glyphs
  | _, [] => []
  | room, g :: rest => if room < g.width then g :: rest else dropFitting (room - g.width) rest

/-- The word, or the blanks, or both together fill the line by themselves. -/
def overflows (room : Nat) (trim : Bool) (w : Wrapping) (g : Glyph) : Bool :=
  w.line.isEmpty &&
    if trim then room < w.word.width + g.width || room < w.blanks.width + g.width
    else room < w.word.width + w.blanks.width + g.width

def add (g : Glyph) (w : Wrapping) : Wrapping :=
  if g.isBlank then { w with blanks := w.blanks ++ [g], inWord := false }
  else { w with word := w.word ++ [g], inWord := true }

def step (room : Nat) (trim : Bool) (w : Wrapping) (g : Glyph) : Wrapping :=
  if room < g.width then w
  else
    let w := if (w.inWord && g.isBlank) || w.overflows room trim g then w.settleWord trim else w
    let used := w.line.width
    if room ≤ used || (0 < g.width && room ≤ used + w.blanks.width + w.word.width) then
      let w :=
        { w with
          done := w.line :: w.done, line := [], blanks := dropFitting (room - used) w.blanks }
      if g.isBlank && w.blanks.isEmpty then w else w.add g
    else w.add g

def finish (trim : Bool) (w : Wrapping) : List Glyphs :=
  let alone := w.line.isEmpty && w.word.isEmpty && !w.blanks.isEmpty
  let done := if alone then [] :: w.done else w.done
  let last := (w.settleWord trim).line
  let done := if last.isEmpty then done else last :: done
  if done.isEmpty then [[]] else done.reverse

end Wrapping

/-- The lines into which a line is wrapped, at least one. -/
def Glyphs.wrap (room : Nat) (trim : Bool) (line : Glyphs) : List Glyphs :=
  (line.foldl (Wrapping.step room trim) {}).finish trim

inductive Alignment where
  | left
  | center
  | right
  deriving DecidableEq, Repr

/-- Where a line starts. A centred line has its middle over the middle of the area. -/
def Alignment.offset (alignment : Alignment) (room used : Nat) : Nat :=
  match alignment with
  | .left => 0
  | .center => room / 2 - used / 2
  | .right => room - used

/-- A text with its look; `wrapped` says whether blanks at the start of lines are dropped when it
is wrapped. -/
structure Paragraph where
  lines : List (List Span)
  look : Look := {}
  alignment : Alignment := .left
  wrapped : Option Bool := none
  scroll : Nat := 0

namespace Paragraph

def ofText (text : String) (look : Look) : Paragraph :=
  { lines := (Text.lines text).map fun line => [{ text := line }], look }

/-- The lines that are drawn in an area of the given size. -/
def visible (p : Paragraph) (room height : Nat) : List Glyphs :=
  let glyphs (line : List Span) : Glyphs := line.flatMap Span.glyphs
  match p.wrapped with
  | none => ((p.lines.drop p.scroll).take height).map fun line => (glyphs line).cut room
  | some trim =>
    ((p.lines.flatMap fun line => (glyphs line).wrap room trim).drop p.scroll).take height

def drawLine (area : Rect) (alignment : Alignment) (c : Canvas) (line : Glyphs × Nat) : Canvas :=
  let start := area.x + alignment.offset area.width line.1.width
  (line.1.foldl
    (fun (c, x) g =>
      if g.width = 0 then (c, x) else (c.put x line.2 g.cluster.symbol g.look, x + g.width))
    (c, start)).1

def draw (p : Paragraph) (area : Rect) (c : Canvas) : Canvas :=
  let c := c.dress area p.look
  if area.width = 0 then c
  else
    (p.visible area.width area.height).zipIdx area.y |>.foldl (drawLine area p.alignment) c

end Paragraph
end ClusterDashboard
