/-!
What is done with texts: blanks are trimmed, names compared, lines cut, and what is too long for
its place is shortened. All functions work on characters; the `String` forms wrap them.
-/
namespace ClusterDashboard.Text

/-! ### White space in the sense of Unicode -/

/-- The characters with the Unicode property White_Space. -/
def isBlank (c : Char) : Bool :=
  (0x9 ≤ c.val && c.val ≤ 0xD) || c.val == 0x20 || c.val == 0x85 || c.val == 0xA0 ||
  c.val == 0x1680 || (0x2000 ≤ c.val && c.val ≤ 0x200A) || c.val == 0x2028 ||
  c.val == 0x2029 || c.val == 0x202F || c.val == 0x205F || c.val == 0x3000

def dropEndWhile (p : Char → Bool) (s : List Char) : List Char :=
  (s.reverse.dropWhile p).reverse

def trimChars (s : List Char) : List Char := dropEndWhile isBlank (s.dropWhile isBlank)

def trim (s : String) : String := String.ofList (trimChars s.toList)

def trimEnd (s : String) : String := String.ofList (dropEndWhile isBlank s.toList)

/-- The parts between the characters that satisfy `p`: one more than there are of those. -/
def splitWhere (p : Char → Bool) (s : List Char) : List (List Char) :=
  s.foldr
    (fun c parts =>
      if p c then [] :: parts
      else match parts with
        | [] => [[c]]
        | part :: rest => (c :: part) :: rest)
    [[]]

def split (sep : Char) (s : String) : List String :=
  (splitWhere (· == sep) s.toList).map String.ofList

/-- The maximal runs of characters that are not blank. -/
def words (s : String) : List String :=
  ((splitWhere isBlank s.toList).filter (fun part => !part.isEmpty)).map String.ofList

/-! ### Comparison that ignores the case of the letters A to Z -/

def lowerChars (s : List Char) : List Char := s.map Char.toLower

/-- Only A to Z have another case here. -/
def lower (s : String) : String := String.ofList (lowerChars s.toList)

/-- The form in which names and aliases are compared: trimmed, in lower case. -/
def folded (s : String) : String := lower (trim s)

/-- `needle` occurs somewhere in the text. -/
def occursIn (needle : List Char) : List Char → Bool
  | [] => needle.isEmpty
  | c :: rest => needle.isPrefixOf (c :: rest) || occursIn needle rest

theorem occursIn_iff {needle s : List Char} :
    occursIn needle s = true ↔ ∃ before after, s = before ++ needle ++ after := by
  induction s with
  | nil =>
    rw [occursIn, List.isEmpty_iff]
    constructor
    · rintro rfl
      exact ⟨[], [], rfl⟩
    · rintro ⟨b, a, h⟩
      have := congrArg List.length h
      simp only [List.length_nil, List.length_append] at this
      exact List.length_eq_zero_iff.1 (by omega)
  | cons c rest ih =>
    simp only [occursIn, Bool.or_eq_true, List.isPrefixOf_iff_prefix, ih]
    constructor
    · rintro (⟨t, h⟩ | ⟨b, a, h⟩)
      · exact ⟨[], t, by simp [h]⟩
      · exact ⟨c :: b, a, by simp [h]⟩
    · rintro ⟨b, a, h⟩
      cases b with
      | nil => exact .inl ⟨a, by simpa using h.symm⟩
      | cons d b =>
        obtain ⟨_, h⟩ := List.cons.inj (by simpa using h)
        exact .inr ⟨b, a, by simpa using h⟩

/-! ### Lines

A line ends with a line feed, a carriage return just before it belongs to the ending, and after a
final line feed there is no further line. The same rule holds for characters and for bytes. -/

section Lines

variable {α : Type} [DecidableEq α]

/-- Cuts after each line feed, keeping the endings. -/
def segments (lf : α) (s : List α) : List (List α) :=
  s.foldr
    (fun c parts =>
      match parts with
      | [] => [[c]]
      | part :: rest => if c = lf then [lf] :: part :: rest else (c :: part) :: rest)
    []

def dropEnding (lf cr : α) (line : List α) : List α :=
  if line.getLast? = some lf then
    let body := line.dropLast
    if body.getLast? = some cr then body.dropLast else body
  else line

def charLines (s : List Char) : List (List Char) := (segments '\n' s).map (dropEnding '\n' '\r')

def lines (s : String) : List String := (charLines s.toList).map String.ofList

end Lines

/-! ### The cluster's address and the age of an object as the screen shows them -/

def dropStart? (start s : List Char) : Option (List Char) :=
  if start.isPrefixOf s then some (s.drop start.length) else none

/-- The address without its scheme and without slashes at the end. -/
def endpointChars (address : List Char) : List Char :=
  let bare := dropEndWhile (· == '/') (trimChars address)
  match dropStart? "https://".toList bare with
  | some rest => rest
  | none => (dropStart? "http://".toList bare).getD bare

def endpoint (address : String) : String := String.ofList (endpointChars address.toList)

/-- A span of time in its largest unit, rounded down. -/
def elapsed (seconds : Int) : String :=
  if seconds ≥ 86400 then toString (seconds / 86400) ++ "d"
  else if seconds ≥ 3600 then toString (seconds / 3600) ++ "h"
  else if seconds ≥ 60 then toString (seconds / 60) ++ "m"
  else toString seconds ++ "s"

/-! ### Shortening

Two ways of shortening a text to a number of characters: `shorten` for the cells of a table and
`compact` for the status line. Both show what was cut off as one ellipsis. -/

/-- A text that is too long keeps one character less than `max`, for the ellipsis. -/
def shortenChars (s : List Char) (max : Nat) : List Char :=
  if s.length ≤ max then s else s.take (max - 1) ++ ['…']

/-- With room for at most one character nothing but the ellipsis is left. -/
def compactChars (s : List Char) (max : Nat) : List Char :=
  if s.length ≤ max then s
  else if max ≤ 1 then ['…']
  else s.take (max - 1) ++ ['…']

def shorten (s : String) (max : Nat) : String := String.ofList (shortenChars s.toList max)

def compact (s : String) (max : Nat) : String := String.ofList (compactChars s.toList max)

end ClusterDashboard.Text
