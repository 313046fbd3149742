import ClusterDashboard.Dashboard.Basic
import ClusterDashboard.Screen.Panel
import ClusterDashboard.Text.Basic
/-!
How the dashboard looks: a header line, the table of the visible page with whatever lies over it,
and a footer line. Drawing brings the scroll offset of a shown text back to what its length allows.
-/
namespace ClusterDashboard

namespace Palette

def ground : Colour := .rgb 9 15 25
def panel : Colour := .rgb 16 27 44
def accent : Colour := .rgb 52 211 153
def muted : Colour := .rgb 140 156 178
def warning : Colour := .rgb 251 191 36
def error : Colour := .rgb 248 113 113
def message : Colour := .rgb 17 94 89
def prompt : Colour := .rgb 30 64 175
def selected : Colour := .rgb 24 36 58

end Palette

/-- The highest line number of a text as the screen counts it, in 16 bits. -/
def screenLines (text : String) : Nat := (Text.lines text).length % 65536

/-- The scroll offset at which a text of so many lines is shown in a panel of the given height. -/
def shownScroll (lines height scroll : Nat) : Nat := min scroll (lines - (height - 2))

/-- Where a message of so many lines is shown: near the lower edge, a cell inside the body. -/
def messageArea (lines : Nat) (area : Rect) : Rect :=
  let height := 3 + min lines (area.height - 5)
  ⟨area.x + 1, area.y + (area.height - (height + 1)), area.width - 2, min height area.height⟩

namespace Dashboard

variable {S J : Type}

def programVersion : String := "0.1.0"

def logo : List String :=
  ["    _",
    "   / \\   __  _____",
    "  / _ \\  \\ \\/ / _ \\",
    " / ___ \\  >  <  __/",
    "/_/   \\_\\/_/\\_\\___|"]

def shortcuts : List (String × String) :=
  [("1-0", "switch page"),
    ("Enter", "open / describe"),
    ("b / Esc", "back"),
    ("m", "menu"),
    ("r", "refresh"),
    ("/", "search"),
    (":", "command (:ns, :<kind>, :api-resources, :q)"),
    ("y", "get yaml"),
    ("d", "describe"),
    ("l", "follow logs (G to resume)"),
    ("e", "edit"),
    ("s", "shell"),
    ("Ctrl-d", "delete"),
    ("q", "quit")]

def padding (width : Nat) (text : String) : String :=
  String.ofList (List.replicate (width - text.length) ' ')

def keyLine (key value : String) : List Span :=
  [⟨padding 12 key ++ key ++ "  ", { ink := some Palette.muted }⟩,
    ⟨value ++ padding 28 value, { ink := some .white }⟩]

def spanLength (spans : List Span) : Nat :=
  (spans.map fun span => span.text.length).foldr (· + ·) 0

/-- A single line on the ground colour. -/
def drawLine (spans : List Span) (alignment : Alignment) (area : Rect) (c : Canvas) : Canvas :=
  Paragraph.draw { lines := [spans], look := { ground := some Palette.ground }, alignment } area c

/-- The right part gets as many cells as it has characters, the left part the rest. -/
def drawSides (left right : List Span) (rightWidth : Nat) (area : Rect) (c : Canvas) : Canvas :=
  let split := area.width - rightWidth
  let c := drawLine left .left { area with width := split } c
  drawLine right .right ⟨area.x + split, area.y, area.width - split, area.height⟩ c

def badge (text : String) (ink ground : Colour) : Span :=
  ⟨text, { ink := some ink, ground := some ground, bold := true }⟩

/-- The endpoint is left out where there is little room. -/
def drawHeader (d : Dashboard S J) (area : Rect) (c : Canvas) : Canvas :=
  let left : List Span :=
    [badge " axe " .black Palette.accent,
      ⟨" ctx:" ++ d.context ++ " ", { ink := some .white }⟩,
      ⟨" ns:" ++ d.scope.display ++ " ", { ink := some Palette.warning }⟩]
  let right : List Span := [⟨Text.endpoint d.cluster ++ " ", { ink := some Palette.muted }⟩]
  let rightWidth := spanLength right % 65536
  if area.width < 42 || area.width ≤ rightWidth then drawLine left .left area c
  else drawSides left right rightWidth area c

def edge (colour : Colour) : Look := { ink := some colour }

def panel (title : String) (colour : Colour) : Panel := ⟨title, edge colour, Palette.panel⟩

def tableTitle (page : TablePage) : String :=
  let view := page.view
  page.kind.title ++ " (" ++ toString view.visibleRows.length ++ ")" ++
    (if view.filter = "" then "" else " /" ++ view.filter) ++
    (match view.stamp with
      | some time => " @ " ++ time.text
      | none => "")

def drawTable (page : TablePage) (area : Rect) (c : Canvas) : Canvas :=
  let view := page.view
  let rows := view.visibleRows.map (·.cells)
  let grid : Grid :=
    { headers := view.headers.zipIdx.map fun (header, i) =>
        (header, { bold := true, underlined := i == view.column })
      rows
      selected := if rows.isEmpty then none else some (min view.selected (rows.length - 1))
      header := edge Palette.accent
      cell := { ink := some .white }
      highlight := { ground := some Palette.selected, bold := true } }
  grid.draw area.inner ((panel (tableTitle page) Palette.accent).draw area c)

def drawMenu (d : Dashboard S J) (area : Rect) (c : Canvas) : Canvas :=
  let popup := Rect.centered 60 80 area
  let lines :=
    logo.map (fun line => [⟨line, { ink := some Palette.accent }⟩]) ++
      [[], keyLine "axe version" programVersion, keyLine "k8s version" d.serverVersion, []] ++
      shortcuts.map fun (key, use) => keyLine key use
  (panel "Menu" Palette.accent).drawText
    { lines, look := { ink := some .white }, alignment := .center } popup (c.clear popup)

def drawText (title body : String) (scroll : Nat) (area : Rect) (c : Canvas) : Canvas :=
  (panel (title ++ " (Esc to close)") Palette.accent).drawText
    { Paragraph.ofText body { ink := some .white } with scroll } area (c.clear area)

def drawQuestion (prompt : String) (area : Rect) (c : Canvas) : Canvas :=
  let popup := Rect.centered 50 20 area
  let hint : Span := ⟨"y / Enter to confirm, n / Esc to cancel", { ink := some Palette.muted }⟩
  (panel "Confirm" Palette.warning).drawText
    { lines := [[{ text := prompt }], [], [hint]]
      look := { ink := some .white }
      alignment := .center
      wrapped := some true } popup (c.clear popup)

def drawMessage (message : String) (kind : StatusKind) (area : Rect) (c : Canvas) : Canvas :=
  let colour := match kind with
    | .progress => Palette.warning
    | .error => Palette.error
  let popup := messageArea (screenLines message) area
  (panel "" colour).drawText
    { Paragraph.ofText message { ink := some colour } with wrapped := some false }
    popup (c.clear popup)

/-- What becomes of the stream's output, as the title says it. -/
def streamState (d : Dashboard S J) : String :=
  if !d.streamLive then "ended" else if d.following then "following" else "paused"

/-- The text that is shown instead of the table, with its title. -/
def shownText? (d : Dashboard S J) : Option (String × String) :=
  match d.top.layer with
  | .detail title body => some (title, body)
  | .logs title => some (title ++ " [" ++ d.streamState ++ "]", d.logText)
  | _ => none

/-- The area between header and footer. -/
def bodyArea (width height : Nat) : Rect := ⟨0, 1, width, height - 2⟩

/-- The scroll offset after the text has been shown in an area of the given height. -/
def clampScroll (height : Nat) (d : Dashboard S J) : Dashboard S J :=
  match d.shownText? with
  | some (_, body) => { d with scroll := shownScroll (screenLines body) height d.scroll }
  | none => d

def drawLayer (d : Dashboard S J) (area : Rect) (c : Canvas) : Canvas :=
  match d.shownText? with
  | some (title, body) => drawText title body d.scroll area c
  | none =>
    match d.top.layer with
    | .menu => d.drawMenu area c
    | .confirm prompt => drawQuestion prompt area c
    | .status message kind => drawMessage message kind area c
    | .table | .detail _ _ | .logs _ => c

def pageSpans (d : Dashboard S J) : List Span :=
  d.settings.pages.zipIdx.map fun (kind, i) =>
    let label :=
      if i < 10 then " " ++ toString ((i + 1) % 10) ++ ":" ++ kind.token ++ " "
      else " " ++ kind.token ++ " "
    if kind.token = d.currentName then badge label .black Palette.accent
    else ⟨label, { ink := some Palette.muted, ground := some Palette.ground }⟩

def footerSpans (d : Dashboard S J) : List Span :=
  match d.mode with
  | .search =>
    [badge " search " .black Palette.warning, badge (" /" ++ d.input ++ " ") .white Palette.prompt]
  | .command =>
    [badge " cmd " .black Palette.accent, badge (" :" ++ d.input ++ " ") .white Palette.prompt]
  | .normal | .confirm => d.pageSpans

/-- The status takes up to half of the footer. -/
def drawFooter (d : Dashboard S J) (area : Rect) (c : Canvas) : Canvas :=
  let right := [badge (" " ++ Text.compact d.status 48 ++ " ") .white Palette.message]
  drawSides d.footerSpans right (min (spanLength right % 65536) (area.width / 2)) area c

/-- Draws the whole screen. -/
def draw (width height : Nat) (d : Dashboard S J) : Dashboard S J × Canvas :=
  let body := bodyArea width height
  let d := d.clampScroll body.height
  let c := d.drawHeader ⟨0, 0, width, 1⟩ (Canvas.blank width height)
  let c := d.drawLayer body (drawTable d.visiblePage body c)
  (d, d.drawFooter ⟨0, height - 1, width, 1⟩ c)

end Dashboard
end ClusterDashboard
