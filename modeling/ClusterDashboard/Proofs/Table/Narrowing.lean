import ClusterDashboard.Page.TablePage
import ClusterDashboard.Proofs.Text.Trimming
import Mathlib.Data.List.Basic
/-!
# A search narrows as it is typed

A row passes a query if one of its texts holds the query, trimmed and in whatever case. A longer
query, once trimmed, still holds the shorter one, so that what it finds was there before. Nothing
but the trimmed query in lower case decides what is found.
-/
namespace ClusterDashboard

namespace Text

variable {s t : List Char} {p : Char → Bool}

/-- What has no such character at its end stays whole, whatever comes behind it. -/
theorem prefix_dropEndWhile (last : ∀ c ∈ s.getLast?, p c = false) (t : List Char) :
    s <+: dropEndWhile p (s ++ t) := by
  rw [dropEndWhile, List.reverse_append, List.dropWhile_append]
  split
  · have whole : s.reverse.dropWhile p = s.reverse := by
      refine dropWhile_of_head ?_
      rw [List.head?_reverse]
      exact last
    refine ⟨[], ?_⟩
    rw [whole, List.reverse_reverse, List.append_nil]
  · rw [List.reverse_append, List.reverse_reverse]
    exact List.prefix_append ..

/-- Typing on does not reach what was trimmed already: a blank that was dropped at the end comes to
stand inside, or goes again. -/
theorem trimChars_infix_append (s t : List Char) : trimChars s <:+: trimChars (s ++ t) := by
  have cut : trimChars (s ++ t) = dropEndWhile isBlank ((s ++ t).dropWhile isBlank) := rfl
  by_cases blank : s.dropWhile isBlank = []
  · have none : trimChars s = [] := by rw [trimChars, blank]; rfl
    rw [none]
    exact List.nil_infix
  · obtain ⟨after, -, kept⟩ := exists_dropEndWhile isBlank (s.dropWhile isBlank)
    rw [← trimChars] at kept
    rw [cut, List.dropWhile_append, if_neg (by simpa using blank), kept, List.append_assoc]
    exact (prefix_dropEndWhile (trimChars_trimmed s).last (after ++ t)).isInfix

theorem toList_lower (s : String) : (lower s).toList = lowerChars s.toList :=
  String.toList_ofList ..

theorem folded_infix_append (s t : String) : (folded s).toList <:+: (folded (s ++ t)).toList := by
  rw [toList_folded, toList_folded, String.toList_append]
  exact (trimChars_infix_append s.toList t.toList).map Char.toLower

theorem folded_of_blank {s : String} (blank : ∀ c ∈ s.toList, isBlank c = true) :
    folded s = "" := by
  have none : trimChars (s.toList ++ [] ++ []) = [] := trimChars_between trimmed_nil blank nofun
  simp only [List.append_nil] at none
  rw [folded, trim, none]
  rfl

theorem folded_trim (s : String) : folded (trim s) = folded s := by
  rw [folded, folded, trim_of_trimmed (trimsTo_trim s).trimmed]

theorem occursIn_iff_infix : occursIn s t = true ↔ s <:+: t := by
  rw [occursIn_iff]
  exact exists_congr fun before => exists_congr fun after => eq_comm

end Text

namespace Row

variable {row : Row} {query other : String}

/-- A row passes if one of its texts holds the query, and an empty query is held by every text. -/
theorem passes_iff : row.passes query = true ↔
    ∃ text ∈ row.texts, (Text.folded query).toList <:+: (Text.lower text).toList := by
  simp only [passes, Bool.or_eq_true, List.any_eq_true, Text.occursIn_iff_infix,
    Text.toList_folded, Text.toList_lower]
  refine or_iff_right_of_imp fun empty => ⟨row.name, List.mem_cons_self, ?_⟩
  rw [List.isEmpty_iff.mp empty]
  exact List.nil_infix

theorem passes_of_append (more : String) (h : row.passes (query ++ more) = true) :
    row.passes query = true := by
  obtain ⟨text, there, holds⟩ := passes_iff.mp h
  exact passes_iff.mpr ⟨text, there, (Text.folded_infix_append query more).trans holds⟩

theorem passes_of_folded (same : Text.folded other = Text.folded query) (row : Row) :
    row.passes other = row.passes query := by
  rw [Bool.eq_iff_iff, passes_iff, passes_iff, same]

theorem passes_of_blank (blank : ∀ c ∈ query.toList, Text.isBlank c = true) (row : Row) :
    row.passes query = true := by
  refine passes_iff.mpr ⟨row.name, List.mem_cons_self, ?_⟩
  rw [Text.folded_of_blank blank]
  exact List.nil_infix

/-- Blanks around a query do not count. -/
theorem passes_trim (query : String) (row : Row) :
    row.passes (Text.trim query) = row.passes query :=
  passes_of_folded (Text.folded_trim query) row

end Row

namespace TableView

variable {view : TableView} {query : String}

/-- What a search shows of a table. -/
structure Searches (view : TableView) (query : String) : Prop where
  found : ∀ row, row ∈ (view.setFilter query).visibleRows ↔ row ∈ view.rows ∧
    ∃ text ∈ row.texts, (Text.folded query).toList <:+: (Text.lower text).toList
  narrowed : ∀ more,
    (view.setFilter (query ++ more)).visibleRows.Sublist (view.setFilter query).visibleRows
  alike : ∀ other, Text.folded other = Text.folded query →
    (view.setFilter other).visibleRows = (view.setFilter query).visibleRows
  blank : (∀ c ∈ query.toList, Text.isBlank c = true) →
    (view.setFilter query).visibleRows = view.rows
  /-- A page stores the query without the blanks around it. -/
  stored : ∀ kind scope, (TablePage.setFilter { kind, scope, view } query).view.visibleRows =
    (view.setFilter query).visibleRows

/-- Whatever is typed behind a query, the rows found are some of those that were found before, in
the same order; queries that read alike find the same rows, and one of blanks finds all. -/
theorem search_narrows (view : TableView) (query : String) : view.Searches query where
  found row := by
    rw [visibleRows, List.mem_filter, Row.passes_iff]
    rfl
  narrowed more := List.monotone_filter_right view.rows fun _ => Row.passes_of_append more
  alike other same := List.filter_congr fun row _ => Row.passes_of_folded same row
  blank all := List.filter_eq_self.mpr fun row _ => Row.passes_of_blank all row
  stored kind scope := List.filter_congr fun row _ => Row.passes_trim query row

/-- Blanks before the query go, those behind it come to stand inside as soon as more follows. -/
example :
    let row (name : String) : Row := ⟨name, none, []⟩
    let shown (query : String) : List String :=
      (TableView.setFilter { rows := ["api", "map a", "db", "Map B"].map row } query).visibleRows.map
        (·.name)
    shown "\t AP" = ["api", "map a", "Map B"] ∧ shown "\t AP " = ["api", "map a", "Map B"] ∧
      shown "\t AP \u3000" = ["api", "map a", "Map B"] ∧ shown "\t AP b" = ["Map B"] := by
  decide +kernel

end TableView
end ClusterDashboard
