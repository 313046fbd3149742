import ClusterDashboard.Text.Basic
import Mathlib.Data.List.TakeWhile
/-!
# Texts without blanks around them

Trimming a text leaves what stands between the blanks at its two ends, and that is determined by
having no blank at an end itself. In lower case it has none there either, so that the form in which
words are compared is reached at once.
-/
namespace ClusterDashboard.Text

variable {s t before after : List Char}

/-- No blank stands at either end. -/
structure Trimmed (s : List Char) : Prop where
  first : ∀ c ∈ s.head?, isBlank c = false
  last : ∀ c ∈ s.getLast?, isBlank c = false

theorem trimmed_nil : Trimmed [] := ⟨nofun, nofun⟩

theorem dropWhile_of_head {p : Char → Bool} (h : ∀ c ∈ s.head?, p c = false) :
    s.dropWhile p = s := by
  cases s with
  | nil => rfl
  | cons c s => exact List.dropWhile_cons_of_neg (by simp [h c rfl])

theorem head_dropWhile (p : Char → Bool) (s : List Char) :
    ∀ c ∈ (s.dropWhile p).head?, p c = false := by
  intro c hc
  have passed := List.head?_dropWhile_not p s
  rw [Option.mem_def.mp hc] at passed
  exact passed

/-- What is left of a text, with what was dropped behind it. -/
theorem exists_dropEndWhile (p : Char → Bool) (s : List Char) :
    ∃ after, (∀ c ∈ after, p c = true) ∧ s = dropEndWhile p s ++ after := by
  refine ⟨(s.reverse.takeWhile p).reverse, fun c hc => ?_, ?_⟩
  · exact List.mem_takeWhile_imp (List.mem_reverse.mp hc)
  · rw [dropEndWhile, ← List.reverse_append, List.takeWhile_append_dropWhile, List.reverse_reverse]

theorem trimChars_trimmed (s : List Char) : Trimmed (trimChars s) where
  first := by
    obtain ⟨after, -, kept⟩ := exists_dropEndWhile isBlank (s.dropWhile isBlank)
    intro c hc
    refine head_dropWhile isBlank s c ?_
    rw [kept, List.head?_append, ← trimChars, Option.mem_def.mp hc]
    rfl
  last := by
    rw [trimChars, dropEndWhile, List.getLast?_reverse]
    exact head_dropWhile isBlank _

theorem trimChars_between (h : Trimmed t) (hb : ∀ c ∈ before, isBlank c = true)
    (ha : ∀ c ∈ after, isBlank c = true) : trimChars (before ++ t ++ after) = t := by
  cases t with
  | nil =>
    have blank : (before ++ [] ++ after).dropWhile isBlank = [] := by
      rw [List.dropWhile_eq_nil_iff]
      intro c hc
      rw [List.append_nil, List.mem_append] at hc
      exact hc.elim (hb c) (ha c)
    rw [trimChars, blank]
    rfl
  | cons c t =>
    have front : (before ++ (c :: t) ++ after).dropWhile isBlank = c :: t ++ after := by
      rw [List.append_assoc, List.dropWhile_append_of_pos hb]
      exact dropWhile_of_head h.first
    rw [trimChars, front, dropEndWhile, List.reverse_append,
      List.dropWhile_append_of_pos fun d hd => ha d (List.mem_reverse.mp hd),
      dropWhile_of_head (s := (c :: t).reverse) (by rw [List.head?_reverse]; exact h.last),
      List.reverse_reverse]

/-- The second text is what stands between the blanks at the ends of the first. -/
structure TrimsTo (s t : String) : Prop where
  trimmed : Trimmed t.toList
  between : ∃ before after, (∀ c ∈ before, isBlank c = true) ∧ (∀ c ∈ after, isBlank c = true) ∧
    s.toList = before ++ t.toList ++ after

theorem trimsTo_trim (s : String) : TrimsTo s (trim s) := by
  have left : (trim s).toList = trimChars s.toList := String.toList_ofList ..
  refine ⟨left ▸ trimChars_trimmed s.toList, s.toList.takeWhile isBlank, ?_⟩
  obtain ⟨after, blank, kept⟩ := exists_dropEndWhile isBlank (s.toList.dropWhile isBlank)
  refine ⟨after, fun c => List.mem_takeWhile_imp, blank, ?_⟩
  rw [left, trimChars, List.append_assoc, ← kept, List.takeWhile_append_dropWhile]

theorem TrimsTo.eq_trim {s t : String} (h : TrimsTo s t) : t = trim s := by
  obtain ⟨before, after, hb, ha, parts⟩ := h.between
  rw [trim, parts, trimChars_between h.trimmed hb ha, String.ofList_toList]

theorem trimsTo_iff {s t : String} : TrimsTo s t ↔ t = trim s :=
  ⟨TrimsTo.eq_trim, fun h => h ▸ trimsTo_trim s⟩

theorem trim_of_trimmed {s : String} (h : Trimmed s.toList) : trim s = s :=
  (trimsTo_iff.mp ⟨h, [], [], nofun, nofun, by simp⟩).symm

theorem isBlank_of_letter {c : Char} (h : 65 ≤ c.toNat ∧ c.toNat ≤ 122) : isBlank c = false := by
  have hv : c.val.toNat = c.toNat := rfl
  simp only [isBlank, UInt32.le_iff_toNat_le, ← UInt32.toNat_inj, Bool.or_eq_false_iff,
    Bool.and_eq_false_iff, decide_eq_false_iff_not, beq_eq_false_iff_ne, ne_eq,
    UInt32.reduceToNat]
  omega

/-- Only a letter from A to Z becomes another one. -/
theorem toLower_cases (c : Char) : c.toLower = c ∨
    65 ≤ c.toNat ∧ c.toNat ≤ 90 ∧ c.toLower.toNat = c.toNat + 32 := by
  by_cases capital : 'A'.val ≤ c.val ∧ c.val ≤ 'Z'.val
  · have low : 65 ≤ c.toNat := UInt32.le_iff_toNat_le.mp capital.1
    have high : c.toNat ≤ 90 := UInt32.le_iff_toNat_le.mp capital.2
    have moved : c.toLower.toNat = (c.toNat + 32) % 2 ^ 32 :=
      congrArg Char.toNat (dif_pos capital : c.toLower = _)
    exact .inr ⟨low, high, by omega⟩
  · exact .inl (dif_neg capital)

theorem toLower_toLower (c : Char) : c.toLower.toLower = c.toLower := by
  rcases toLower_cases c with same | ⟨low, high, moved⟩
  · rw [same, same]
  · rcases toLower_cases c.toLower with same | ⟨_, _, _⟩
    · exact same
    · omega

theorem isBlank_toLower (c : Char) : isBlank c.toLower = isBlank c := by
  rcases toLower_cases c with same | ⟨low, high, moved⟩
  · rw [same]
  · rw [isBlank_of_letter (by omega), isBlank_of_letter (by omega)]

theorem Trimmed.lowerChars {s : List Char} (h : Trimmed s) : Trimmed (lowerChars s) where
  first c hc := by
    rw [Text.lowerChars, List.head?_map] at hc
    obtain ⟨d, hd, rfl⟩ := Option.map_eq_some_iff.mp hc
    rw [isBlank_toLower, h.first d hd]
  last c hc := by
    rw [Text.lowerChars, List.getLast?_map] at hc
    obtain ⟨d, hd, rfl⟩ := Option.map_eq_some_iff.mp hc
    rw [isBlank_toLower, h.last d hd]

theorem lowerChars_lowerChars (s : List Char) : lowerChars (lowerChars s) = lowerChars s := by
  rw [lowerChars, lowerChars, List.map_map]
  exact List.map_congr_left fun c _ => toLower_toLower c

theorem toList_folded (s : String) : (folded s).toList = lowerChars (trimChars s.toList) := by
  simp only [folded, lower, trim, String.toList_ofList]

theorem folded_folded (s : String) : folded (folded s) = folded s := by
  have trimmed : Trimmed (folded s).toList := by
    rw [toList_folded]
    exact (trimChars_trimmed s.toList).lowerChars
  have whole : trim (folded s) = folded s := trim_of_trimmed trimmed
  rw [folded, whole, lower, toList_folded, lowerChars_lowerChars, ← toList_folded,
    String.ofList_toList]

end ClusterDashboard.Text
