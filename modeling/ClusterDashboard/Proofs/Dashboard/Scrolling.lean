import ClusterDashboard.Dashboard.Drawing
import ClusterDashboard.Proofs.Dashboard.Steps
import ClusterDashboard.Proofs.Text.Lines
/-!
# How far a text is scrolled

A text is drawn from the offset that was asked for, or from the one that brings its last line to the
lower edge of the panel. The lines are counted in 16 bits, so the end of a text with more of them is
taken to be where the count has got to.
-/
namespace ClusterDashboard

namespace Text

variable {α : Type} [DecidableEq α] {lf cr : α}

theorem openLine_feeds (n : Nat) : openLine lf (List.replicate n lf) = [] := by
  cases n with
  | zero => exact openLine_of_open List.not_mem_nil
  | succ n => rw [List.replicate_succ', openLine_ended]

theorem endedLines_feeds (n : Nat) :
    endedLines lf cr (List.replicate n lf) = List.replicate n [] := by
  induction n with
  | zero => exact endedLines_of_open List.not_mem_nil
  | succ n ih =>
    rw [List.replicate_succ, ← List.nil_append (lf :: _), endedLines_line List.not_mem_nil, ih]
    rfl

/-- As many line feeds, and a text after them. -/
def feedsThen (n : Nat) (s : String) : String :=
  String.ofList (List.replicate n '\n' ++ s.toList)

theorem lines_feedsThen (n : Nat) (s : String) :
    (lines (feedsThen n s)).length = n + (lines s).length := by
  rw [lines_eq, lines_eq, feedsThen, String.toList_ofList, linesOf_append, endedLines_feeds,
    openLine_feeds]
  simp

end Text

/-- The line of that number is one of those that fit a panel from the offset on. -/
def InView (room scroll line : Nat) : Prop := scroll ≤ line ∧ line < scroll + room

/-- The offset that is asked for, or else the one that brings the last line to the lower edge of a
panel of the given height. -/
def ScrolledExactly (lines height asked used : Nat) : Prop :=
  (used : Int) = min (asked : Int) (max 0 ((lines : Int) - max 0 ((height : Int) - 2)))

theorem Paragraph.visible_ofText {room scroll line : Nat} (h : InView room scroll line)
    (text : String) (look : Look) (width : Nat) :
    (visible { ofText text look with scroll } width room)[line - scroll]? =
      (Text.lines text)[line]?.map fun line =>
        Glyphs.cut width (Span.glyphs { text := line }) := by
  obtain ⟨from_scroll, to_room⟩ := h
  have within : line - scroll < room := by omega
  have place : scroll + (line - scroll) = line := by omega
  simp only [visible, ofText, List.getElem?_map, List.getElem?_take_of_lt within,
    List.getElem?_drop, place, Option.map_map]
  congr 1
  funext line
  simp

/-- The count of lines, as it stands in 16 bits, is the right one for every offset up to the end
that it gives. -/
theorem shownScroll_exactly_iff (lines height asked : Nat) :
    ScrolledExactly lines height asked (shownScroll (lines % 65536) height asked) ↔
      lines < 65536 ∨ lines ≤ height - 2 ∨ asked ≤ lines % 65536 - (height - 2) := by
  unfold ScrolledExactly shownScroll
  omega

theorem shownScroll_within (lines height asked : Nat) :
    shownScroll (lines % 65536) height asked ≤ lines - (height - 2) := by
  unfold shownScroll
  omega

theorem shownScroll_end_iff {lines height : Nat} (nonempty : 0 < lines) (room : 0 < height - 2) :
    InView (height - 2) (shownScroll (lines % 65536) height Dashboard.scrollEnd) (lines - 1) ↔
      lines < 65536 ∨ lines ≤ height - 2 := by
  unfold InView shownScroll Dashboard.scrollEnd
  omega

namespace Dashboard

variable {S J : Type} {d e : Dashboard S J} {title body : String}

theorem clampScroll_scroll (shown : d.shownText? = some (title, body)) (height : Nat) :
    (d.clampScroll height).scroll =
      shownScroll ((Text.lines body).length % 65536) height d.scroll := by
  rw [clampScroll, shown]
  rfl

theorem clampScroll_shownText (height : Nat) (d : Dashboard S J) :
    (d.clampScroll height).shownText? = d.shownText? := by
  rw [clampScroll_eq]
  rfl

/-- A text that is shown is what the keys scroll. -/
theorem scrollable_of_shown (shown : d.shownText? = some (title, body)) :
    d.top.layer.isScrollable = true := by
  rw [shownText?] at shown
  split at shown
  · next layer => rw [layer]; rfl
  · next layer => rw [layer]; rfl
  · cases shown

theorem toBottom_eq (shown : d.shownText? = some (title, body)) :
    d.toBottom = { d with following := true, scroll := scrollEnd } :=
  if_pos (scrollable_of_shown shown)

theorem syncStream_text (d : Dashboard S J) :
    d.syncStream.top = d.top ∧ d.syncStream.logText = d.logText ∧
      d.syncStream.scroll = d.scroll := by
  rw [syncStream, stopStream]
  split
  · split <;> exact ⟨rfl, rfl, rfl⟩
  · exact ⟨rfl, rfl, rfl⟩

/-- The title of a log may change, the text does not. -/
theorem shownText_same (top : e.top = d.top) (text : e.logText = d.logText)
    (shown : d.shownText? = some (title, body)) :
    ∃ title, e.shownText? = some (title, body) := by
  rw [shownText?] at shown ⊢
  rw [top, text]
  split at shown
  · exact ⟨_, shown⟩
  · next layer =>
    rw [← (Prod.mk.inj (Option.some.inj shown)).2]
    exact ⟨_, rfl⟩
  · cases shown

/-- The key for the end leaves the text in place and asks for more than any text has. -/
theorem act_bottom (shown : d.shownText? = some (title, body)) :
    (∃ title, (d.act .bottom).1.shownText? = some (title, body)) ∧
      (d.act .bottom).1.scroll = scrollEnd := by
  have moved : (d.act .bottom).1 = { d with following := true, scroll := scrollEnd }.syncStream :=
    congrArg syncStream (toBottom_eq shown)
  obtain ⟨top, text, scroll⟩ := syncStream_text { d with following := true, scroll := scrollEnd }
  rw [← moved] at top text scroll
  exact ⟨shownText_same (d := d) top text shown, scroll⟩

/-- What the body shows of a text, from the offset that is in force. -/
structure Draws (d : Dashboard S J) (title body : String) (area : Rect) : Prop where
  panel : ∀ c, d.drawLayer area c = drawText title body d.scroll area c
  lines : ∀ line look, InView area.inner.height d.scroll line →
    (Paragraph.visible { Paragraph.ofText body look with scroll := d.scroll } area.inner.width
      area.inner.height)[line - d.scroll]? =
      (Text.lines body)[line]?.map fun line =>
        Glyphs.cut area.inner.width (Span.glyphs { text := line })

theorem draws (shown : d.shownText? = some (title, body)) (area : Rect) :
    d.Draws title body area where
  panel c := by rw [drawLayer, shown]
  lines _ look view := Paragraph.visible_ofText view body look _

/-- A text is drawn from the offset that drawing leaves, and that is exactly the right one unless
the text has 2^16 lines or more, does not fit the panel, and is asked for beyond the end that its
count in 16 bits gives; never is it past the last line. The key for the end brings the last line into
view if and only if the text has fewer lines, or fits. -/
theorem text_scrolled_exactly_iff (shown : d.shownText? = some (title, body)) (width height : Nat) :
    let lines := (Text.lines body).length
    let area := bodyArea width height
    let room := area.height - 2
    let drawn := (d.draw width height).1
    let bottom := ((d.act .bottom).1.draw width height).1
    drawn.Draws title body area ∧
    (ScrolledExactly lines area.height d.scroll drawn.scroll ↔
      lines < 65536 ∨ lines ≤ room ∨ d.scroll ≤ lines % 65536 - room) ∧
    drawn.scroll ≤ lines - room ∧
    (0 < lines → 0 < room →
      (InView room bottom.scroll (lines - 1) ↔ lines < 65536 ∨ lines ≤ room)) := by
  intro lines area room drawn bottom
  have used : drawn.scroll = shownScroll (lines % 65536) area.height d.scroll :=
    clampScroll_scroll shown area.height
  have last : bottom.scroll = shownScroll (lines % 65536) area.height scrollEnd := by
    obtain ⟨⟨title, below⟩, asked⟩ := act_bottom shown
    exact asked ▸ clampScroll_scroll below area.height
  refine ⟨draws ((clampScroll_shownText _ d).trans shown) area, ?_, ?_, ?_⟩
  · rw [used]
    exact shownScroll_exactly_iff lines area.height d.scroll
  · rw [used]
    exact shownScroll_within lines area.height d.scroll
  · intro nonempty roomy
    rw [last]
    exact shownScroll_end_iff nonempty roomy

/-- A text is described and its end asked for. -/
def toEnd (body : String) : List (Step TableSource) :=
  [.setDetail .describe ⟨"pods", some "default", "web"⟩ body, .act .bottom]

theorem toEnd_shows (body : String) :
    ∃ start d : Dashboard TableSource (Except Failure TableView), ∃ title : String,
      start? {} [] .all "kind" "kind" {} = some start ∧
      Step.runTrace TableSource.backend start (toEnd body) = d ∧
      d.shownText? = some (title, body) ∧ d.scroll = 65535 :=
  ⟨_, _, _, rfl, rfl, rfl, rfl⟩

/-- As many lines as 16 bits can count. -/
theorem text_scrolled_exactly_up_to_limit :
    let body := Text.feedsThen 65534 "end"
    ∃ start d : Dashboard TableSource (Except Failure TableView), ∃ title : String,
      start? {} [] .all "kind" "kind" {} = some start ∧
      Step.runTrace TableSource.backend start (toEnd body) = d ∧
      d.shownText? = some (title, body) ∧ (Text.lines body).length = 65535 ∧ d.scroll = 65535 ∧
      ScrolledExactly 65535 22 65535 (d.draw 80 24).1.scroll ∧
      InView 20 ((d.act .bottom).1.draw 80 24).1.scroll 65534 := by
  intro body
  obtain ⟨start, d, title, opened, run, shown, asked⟩ := toEnd_shows body
  have lines : (Text.lines body).length = 65535 := by
    rw [Text.lines_feedsThen, show (Text.lines "end").length = 1 by decide]
  obtain ⟨-, exact_iff, -, last_iff⟩ := text_scrolled_exactly_iff shown 80 24
  rw [lines, asked] at exact_iff
  rw [lines] at last_iff
  exact ⟨start, d, title, opened, run, shown, lines, asked, exact_iff.mpr (by decide),
    (last_iff (by decide) (by decide)).mpr (by decide)⟩

/-- Of one line more the last cannot be brought into sight: asked for its end, the text stays at its
top. -/
theorem last_line_out_of_reach :
    let body := Text.feedsThen 65535 "end"
    ∃ start d : Dashboard TableSource (Except Failure TableView), ∃ title : String,
      start? {} [] .all "kind" "kind" {} = some start ∧
      Step.runTrace TableSource.backend start (toEnd body) = d ∧
      d.shownText? = some (title, body) ∧ (Text.lines body).length = 65536 ∧ d.scroll = 65535 ∧
      (d.draw 80 24).1.scroll = 0 ∧
      ¬ ScrolledExactly 65536 22 65535 (d.draw 80 24).1.scroll ∧
      ¬ InView 20 (d.draw 80 24).1.scroll 65535 := by
  intro body
  obtain ⟨start, d, title, opened, run, shown, asked⟩ := toEnd_shows body
  have lines : (Text.lines body).length = 65536 := by
    rw [Text.lines_feedsThen, show (Text.lines "end").length = 1 by decide]
  have used : (d.draw 80 24).1.scroll = 0 := by
    refine (clampScroll_scroll shown (bodyArea 80 24).height).trans ?_
    rw [lines, asked]
    rfl
  refine ⟨start, d, title, opened, run, shown, lines, asked, used, ?_, ?_⟩
  · rw [used]
    unfold ScrolledExactly
    decide
  · rw [used]
    unfold InView
    decide

end Dashboard
end ClusterDashboard
