import ClusterDashboard.Dashboard.Drawing
import Mathlib.Data.UInt
/-!
# Where a message pops up

The place of a message is worked out in 16 bits. For an area of the screen that has any width none
of the sums is too large for them, and the place lies inside the area, however small that is and
however many lines the message has.
-/
namespace ClusterDashboard

/-- A sum has to fit. -/
def wordSum? (a b : UInt16) : Option UInt16 :=
  if a.toNat + b.toNat < 65536 then some (a + b) else none

/-- A difference is never less than nothing. -/
def wordExcess (a b : UInt16) : UInt16 := if b ≤ a then a - b else 0

theorem wordSum?_of_fits {a b : UInt16} {m n : Nat} (ha : a.toNat = m) (hb : b.toNat = n)
    (fits : m + n < 65536) : ∃ c, wordSum? a b = some c ∧ c.toNat = m + n := by
  subst ha hb
  exact ⟨a + b, if_pos fits, (UInt16.toNat_add a b).trans (Nat.mod_eq_of_lt fits)⟩

theorem wordExcess_toNat (a b : UInt16) : (wordExcess a b).toNat = a.toNat - b.toNat := by
  rw [wordExcess]
  split
  · next le => exact UInt16.toNat_sub_of_le a b le
  · next less =>
    have : a.toNat < b.toNat := UInt16.lt_iff_toNat_lt.mp (UInt16.not_le.mp less)
    exact (Nat.sub_eq_zero_of_le this.le).symm

/-- A rectangle whose measures have 16 bits. -/
structure WordRect where
  x : UInt16
  y : UInt16
  width : UInt16
  height : UInt16
  deriving DecidableEq, Repr

def WordRect.toRect (r : WordRect) : Rect := ⟨r.x.toNat, r.y.toNat, r.width.toNat, r.height.toNat⟩

/-- One rectangle lies inside another. -/
structure Rect.Within (inside area : Rect) : Prop where
  left : area.x ≤ inside.x
  right : inside.right ≤ area.right
  top : area.y ≤ inside.y
  bottom : inside.bottom ≤ area.bottom

namespace Dashboard

/-- The place of a message, step by step in 16 bits; nothing if a sum does not fit. -/
def messageArea? (lines : UInt16) (area : WordRect) : Option WordRect := do
  let height ← wordSum? 3 (min lines (wordExcess area.height 5))
  let x ← wordSum? area.x 1
  let offset ← wordSum? height 1
  let y ← wordSum? area.y (wordExcess area.height offset)
  return ⟨x, y, wordExcess area.width 2, min height area.height⟩

variable {area : WordRect}

/-- Where the area has any width and its edges are within reach, no sum is too large. -/
theorem messageArea?_eq (lines : UInt16) (wide : 0 < area.width.toNat)
    (right : area.toRect.right < 65536) (bottom : area.toRect.bottom < 65536) :
    ∃ popup, messageArea? lines area = some popup ∧
      popup.toRect = messageArea lines.toNat area.toRect := by
  simp only [Rect.right, Rect.bottom, WordRect.toRect] at right bottom
  have shown : (min lines (wordExcess area.height 5)).toNat =
      min lines.toNat (area.height.toNat - 5) := by
    rw [UInt16.toNat_min, wordExcess_toNat]
    rfl
  have one : UInt16.toNat 1 = 1 := rfl
  obtain ⟨height, height_some, height_eq⟩ :=
    wordSum?_of_fits (show UInt16.toNat 3 = 3 from rfl) shown (by omega)
  obtain ⟨x, x_some, x_eq⟩ := wordSum?_of_fits (a := area.x) rfl one (by omega)
  obtain ⟨offset, offset_some, offset_eq⟩ := wordSum?_of_fits height_eq one (by omega)
  have above : (wordExcess area.height offset).toNat = _ :=
    (wordExcess_toNat area.height offset).trans (congrArg _ offset_eq)
  obtain ⟨y, y_some, y_eq⟩ := wordSum?_of_fits (a := area.y) rfl above (by omega)
  refine ⟨⟨x, y, wordExcess area.width 2, min height area.height⟩, ?_, ?_⟩
  · simp only [messageArea?, height_some, x_some, offset_some, y_some, Option.bind_eq_bind,
      Option.bind_some, Option.pure_def]
  · simp only [WordRect.toRect, messageArea, x_eq, y_eq, wordExcess_toNat, UInt16.toNat_min,
      height_eq]
    rfl

theorem messageArea_within (lines : Nat) {body : Rect} (wide : 0 < body.width) :
    (messageArea lines body).Within body := by
  constructor <;> simp only [messageArea, Rect.right, Rect.bottom] <;> omega

/-- A message in its frame. -/
def drawPopup (message : String) (kind : StatusKind) (popup : Rect) (c : Canvas) : Canvas :=
  let colour := match kind with
    | .progress => Palette.warning
    | .error => Palette.error
  (panel "" colour).drawText
    { Paragraph.ofText message { ink := some colour } with wrapped := some false }
    popup (c.clear popup)

/-- Whatever the message, and however small the area, if only it has any width and 16 bits reach its
edges: the place of the message is worked out without a sum that is too large, it lies inside the
area, and it is where the message is drawn. -/
theorem message_drawn_inside (message : String) (kind : StatusKind) (wide : 0 < area.width.toNat)
    (right : area.toRect.right < 65536) (bottom : area.toRect.bottom < 65536) :
    ∃ popup, messageArea? (UInt16.ofNat (Text.lines message).length) area = some popup ∧
      popup.toRect.Within area.toRect ∧
      ∀ c, drawMessage message kind area.toRect c = drawPopup message kind popup.toRect c := by
  obtain ⟨popup, placed, same⟩ :=
    messageArea?_eq (UInt16.ofNat (Text.lines message).length) wide right bottom
  have counted : (UInt16.ofNat (Text.lines message).length).toNat = screenLines message :=
    UInt16.toNat_ofNat'
  rw [counted] at same
  refine ⟨popup, placed, same ▸ messageArea_within _ wide, fun c => ?_⟩
  rw [same]
  rfl

/-- The corner of the largest screen, a column wide. -/
theorem message_drawn_inside_corner :
    let area : WordRect := ⟨65534, 65500, 1, 35⟩
    ∃ popup, messageArea? 2 area = some popup ∧ popup = ⟨65535, 65529, 0, 5⟩ ∧
      popup.toRect.Within area.toRect ∧
      ∀ c, drawMessage "first\nsecond" .error area.toRect c =
        drawPopup "first\nsecond" .error popup.toRect c := by
  intro area
  obtain ⟨popup, placed, within, drawn⟩ := message_drawn_inside "first\nsecond" .error
    (show 0 < area.width.toNat by decide) (by decide) (by decide)
  have lines : UInt16.ofNat (Text.lines "first\nsecond").length = 2 := by decide
  rw [lines] at placed
  refine ⟨popup, placed, ?_, within, drawn⟩
  exact Option.some.inj (placed.symm.trans (by decide))

/-- Without any width there may be no place for the frame. -/
example : messageArea? 1 ⟨65535, 0, 0, 24⟩ = none := by decide

end Dashboard
end ClusterDashboard
