import ClusterDashboard.Text.Basic
import Mathlib.Tactic.Common
/-!
# Lines of a text

A text is cut at its line feeds. The pieces before a line feed are lines, less a carriage return at
their end, and so is the piece after the last line feed unless it is empty. What is appended to a
text goes on with its open line and leaves the ended ones alone.
-/
namespace ClusterDashboard.Text

variable {α : Type} [DecidableEq α]

/-- What stands after the last line feed. -/
def openLine (lf : α) (s : List α) : List α := (s.splitOn lf).getLast (List.splitOn_ne_nil lf s)

def dropReturn (cr : α) (piece : List α) : List α :=
  if piece.getLast? = some cr then piece.dropLast else piece

/-- The lines that have come to their end. -/
def endedLines (lf cr : α) (s : List α) : List (List α) :=
  (s.splitOn lf).dropLast.map (dropReturn cr)

def linesOf (lf cr : α) (s : List α) : List (List α) :=
  endedLines lf cr s ++ if openLine lf s = [] then [] else [openLine lf s]

variable {lf cr : α} {piece s : List α}

/-- A text is open, or it is a line and another text. -/
theorem line_induction {motive : List α → Prop} (lf : α)
    (opened : ∀ s, lf ∉ s → motive s)
    (line : ∀ piece rest, lf ∉ piece → motive rest → motive (piece ++ lf :: rest))
    (s : List α) : motive s := by
  generalize hn : s.length = n
  induction n using Nat.strongRecOn generalizing s with
  | ind n ih =>
    by_cases hm : lf ∈ s
    · obtain ⟨piece, rest, rfl, hp⟩ := List.eq_append_cons_of_mem hm
      refine line piece rest hp (ih rest.length ?_ rest rfl)
      rw [← hn, List.length_append, List.length_cons]
      omega
    · exact opened s hm

theorem openLine_of_open (h : lf ∉ s) : openLine lf s = s := by
  simp only [openLine, List.splitOn_eq_singleton h, List.getLast_singleton]

theorem endedLines_of_open (h : lf ∉ s) : endedLines lf cr s = [] := by
  rw [endedLines, List.splitOn_eq_singleton h]
  rfl

theorem openLine_line (h : lf ∉ piece) (rest : List α) :
    openLine lf (piece ++ lf :: rest) = openLine lf rest := by
  simp only [openLine, List.splitOn_append_cons_self_of_not_mem h,
    List.getLast_cons (List.splitOn_ne_nil lf rest)]

theorem endedLines_line (h : lf ∉ piece) (rest : List α) :
    endedLines lf cr (piece ++ lf :: rest) = dropReturn cr piece :: endedLines lf cr rest := by
  rw [endedLines, List.splitOn_append_cons_self_of_not_mem h,
    List.dropLast_cons_of_ne_nil (List.splitOn_ne_nil lf rest), List.map_cons]
  rfl

theorem openLine_append (a b : List α) :
    openLine lf (a ++ b) = openLine lf (openLine lf a ++ b) := by
  induction a using line_induction lf with
  | opened s h => rw [openLine_of_open h]
  | line piece rest h ih =>
    rw [List.append_assoc, List.cons_append, openLine_line h, ih, openLine_line h]

theorem endedLines_append (a b : List α) :
    endedLines lf cr (a ++ b) = endedLines lf cr a ++ endedLines lf cr (openLine lf a ++ b) := by
  induction a using line_induction lf with
  | opened s h => rw [openLine_of_open h, endedLines_of_open h, List.nil_append]
  | line piece rest h ih =>
    rw [List.append_assoc, List.cons_append, endedLines_line h, ih, endedLines_line h,
      openLine_line h, List.cons_append]

theorem linesOf_append (a b : List α) :
    linesOf lf cr (a ++ b) = endedLines lf cr a ++ linesOf lf cr (openLine lf a ++ b) := by
  rw [linesOf, endedLines_append, openLine_append, List.append_assoc, linesOf]

theorem openLine_ended (s : List α) : openLine lf (s ++ [lf]) = [] := by
  induction s using line_induction lf with
  | opened s h => rw [openLine_line h, openLine_of_open List.not_mem_nil]
  | line piece rest h ih => rw [List.append_assoc, List.cons_append, openLine_line h, ih]

/-- The open line comes to its end. -/
theorem endedLines_ended (s : List α) :
    endedLines lf cr (s ++ [lf]) = endedLines lf cr s ++ [dropReturn cr (openLine lf s)] := by
  induction s using line_induction lf with
  | opened s h =>
    rw [endedLines_line h, endedLines_of_open List.not_mem_nil, endedLines_of_open h,
      openLine_of_open h, List.nil_append]
  | line piece rest h ih =>
    rw [List.append_assoc, List.cons_append, endedLines_line h, ih, endedLines_line h,
      openLine_line h, List.cons_append]

theorem linesOf_ended (s : List α) : linesOf lf cr (s ++ [lf]) = endedLines lf cr (s ++ [lf]) := by
  rw [linesOf, openLine_ended, if_pos rfl, List.append_nil]

theorem linesOf_ended_append (a b : List α) :
    linesOf lf cr (a ++ [lf] ++ b) = linesOf lf cr (a ++ [lf]) ++ linesOf lf cr b := by
  rw [linesOf_append, openLine_ended, List.nil_append, linesOf_ended]

theorem openLine_suffix (s : List α) : openLine lf s <:+ s := by
  induction s using line_induction lf with
  | opened s h =>
    exact (openLine_of_open h).symm ▸ List.suffix_rfl
  | line piece rest h ih =>
    rw [openLine_line h]
    exact (ih.trans (List.suffix_cons lf rest)).trans (List.suffix_append ..)

/-- What ends a text that has no carriage return at its end leaves its lines as they are. -/
theorem linesOf_prefix_ended (bare : s.getLast? ≠ some cr) :
    linesOf lf cr s <+: linesOf lf cr (s ++ [lf]) := by
  rw [linesOf_ended, endedLines_ended, linesOf]
  refine (List.prefix_append_right_inj _).mpr ?_
  split
  · exact List.nil_prefix
  · next shown =>
    obtain ⟨before, parts⟩ : openLine lf s <:+ s := openLine_suffix s
    have last : (openLine lf s).getLast? = s.getLast? := by
      conv_rhs => rw [← parts, List.getLast?_append, List.getLast?_eq_some_getLast shown]
      exact List.getLast?_eq_some_getLast shown
    have kept : dropReturn cr (openLine lf s) = openLine lf s := if_neg (last ▸ bare)
    exact kept.symm ▸ List.prefix_rfl

theorem segments_of_open (h : lf ∉ s) (hs : s ≠ []) : segments lf s = [s] := by
  induction s with
  | nil => exact absurd rfl hs
  | cons c s ih =>
    have hc : c ≠ lf := fun he => h (he ▸ List.mem_cons_self)
    rw [segments, List.foldr_cons, ← segments]
    cases s with
    | nil => rfl
    | cons d s =>
      rw [ih (fun hm => h (List.mem_cons_of_mem _ hm)) (List.cons_ne_nil d s)]
      exact if_neg hc

theorem segments_line (h : lf ∉ piece) (rest : List α) :
    segments lf (piece ++ lf :: rest) = (piece ++ [lf]) :: segments lf rest := by
  induction piece with
  | nil =>
    rw [List.nil_append, segments, List.foldr_cons, ← segments]
    cases segments lf rest with
    | nil => rfl
    | cons part parts => exact if_pos rfl
  | cons c piece ih =>
    have hc : c ≠ lf := fun he => h (he ▸ List.mem_cons_self)
    rw [List.cons_append, segments, List.foldr_cons, ← segments,
      ih fun hm => h (List.mem_cons_of_mem _ hm)]
    exact if_neg hc

theorem dropEnding_ended (piece : List α) :
    dropEnding lf cr (piece ++ [lf]) = dropReturn cr piece := by
  simp [dropEnding, dropReturn]

theorem dropEnding_of_open (h : lf ∉ s) : dropEnding lf cr s = s := by
  rw [dropEnding, if_neg]
  intro hl
  exact h (List.mem_of_getLast? hl)

/-- Cutting with the endings kept, and taking them off, gives the lines. -/
theorem map_dropEnding_segments (s : List α) :
    (segments lf s).map (dropEnding lf cr) = linesOf lf cr s := by
  induction s using line_induction lf with
  | opened s h =>
    rw [linesOf, endedLines_of_open h, openLine_of_open h, List.nil_append]
    by_cases hs : s = []
    · subst hs
      rfl
    · rw [segments_of_open h hs, if_neg hs, List.map_singleton, dropEnding_of_open h]
  | line piece rest h ih =>
    rw [segments_line h, List.map_cons, ih, dropEnding_ended, linesOf, linesOf, endedLines_line h,
      openLine_line h, List.cons_append]

theorem lines_eq (s : String) : lines s = (linesOf '\n' '\r' s.toList).map String.ofList := by
  rw [lines, charLines, map_dropEnding_segments]

theorem toList_ended (s : String) : (s ++ "\n").toList = s.toList ++ ['\n'] :=
  String.toList_append ..

theorem lines_ended_append (a b : String) :
    lines (a ++ "\n" ++ b) = lines (a ++ "\n") ++ lines b := by
  rw [lines_eq, lines_eq, lines_eq, String.toList_append, toList_ended, linesOf_ended_append,
    List.map_append]

theorem lines_prefix_ended {s : String} (bare : s.toList.getLast? ≠ some '\r') :
    lines s <+: lines (s ++ "\n") := by
  rw [lines_eq, lines_eq, toList_ended]
  exact (linesOf_prefix_ended bare).map String.ofList

/-- The rows of pieces that are joined by line feeds. -/
def rowsOf (pieces : List String) : List String := lines (String.intercalate "\n" pieces)

/-- The rows of pieces that have others below them. -/
def rowsAbove (pieces : List String) : List String :=
  pieces.flatMap fun piece => lines (piece ++ "\n")

theorem rowsOf_append (above : List String) {below : List String} (nonempty : below ≠ []) :
    rowsOf (above ++ below) = rowsAbove above ++ rowsOf below := by
  induction above with
  | nil => rfl
  | cons piece above ih =>
    have rest : above ++ below ≠ [] := List.append_ne_nil_of_right_ne_nil above nonempty
    rw [List.cons_append, rowsOf, String.intercalate_cons_of_ne_nil rest, lines_ended_append,
      ← rowsOf, ih, rowsAbove, rowsAbove, List.flatMap_cons, List.append_assoc]

/-- A piece above others takes up a row, and more if it has line feeds of its own. -/
theorem length_le_rowsAbove (pieces : List String) :
    pieces.length ≤ (rowsAbove pieces).length := by
  induction pieces with
  | nil => exact Nat.le_refl 0
  | cons piece pieces ih =>
    have row : 1 ≤ (lines (piece ++ "\n")).length := by
      rw [lines_eq, toList_ended, linesOf_ended, endedLines_ended]
      simp
    rw [rowsAbove, List.flatMap_cons, List.length_append, ← rowsAbove, List.length_cons]
    omega

/-- What comes below leaves rows as they are, but for a carriage return at the end of the last. -/
theorem rowsOf_prefix {pieces : List String}
    (bare : (String.intercalate "\n" pieces).toList.getLast? ≠ some '\r') (more : List String) :
    rowsOf pieces <+: rowsOf (pieces ++ more) := by
  cases hp : pieces with
  | nil => exact List.nil_prefix
  | cons piece rest =>
    cases hm : more with
    | nil => exact (List.append_nil (piece :: rest)).symm ▸ List.prefix_rfl
    | cons next others =>
      rw [rowsOf, rowsOf, String.intercalate_append_of_ne_nil (List.cons_ne_nil piece rest)
        (List.cons_ne_nil next others), lines_ended_append]
      exact (lines_prefix_ended (hp ▸ bare)).trans (List.prefix_append _ _)

/-- The segments that are whole are the lines that have ended. -/
theorem map_dropEnding_whole (s : List α) :
    ((segments lf s).filter fun part => part.getLast? = some lf).map (dropEnding lf cr) =
      endedLines lf cr s := by
  induction s using line_induction lf with
  | opened s h =>
    rw [endedLines_of_open h]
    by_cases hs : s = []
    · subst hs
      rfl
    · have hl : ¬s.getLast? = some lf := fun hl => h (List.mem_of_getLast? hl)
      rw [segments_of_open h hs, List.filter_cons_of_neg (by simpa using hl)]
      rfl
  | line piece rest h ih =>
    rw [segments_line h, List.filter_cons_of_pos (by simp), List.map_cons, ih, dropEnding_ended,
      endedLines_line h]

/-- The rest is the line that is open. -/
theorem flatten_unfinished (s : List α) :
    ((segments lf s).filter fun part => !decide (part.getLast? = some lf)).flatten =
      openLine lf s := by
  induction s using line_induction lf with
  | opened s h =>
    rw [openLine_of_open h]
    by_cases hs : s = []
    · subst hs
      rfl
    · have hl : ¬s.getLast? = some lf := fun hl => h (List.mem_of_getLast? hl)
      rw [segments_of_open h hs, List.filter_cons_of_pos (by simpa using hl)]
      simp
  | line piece rest h ih =>
    rw [segments_line h, List.filter_cons_of_neg (by simp), ih, openLine_line h]

end ClusterDashboard.Text
