import ClusterDashboard.Text.Basic
import Mathlib.Data.String.Basic
/-!
# Two ways of shortening

The cells of a table and the status line shorten a text alike. The ellipsis is shown even where
there is no room for any character; although it is too long then, it stays as it is when it is
shortened again.
-/
namespace ClusterDashboard.Text

variable {s : List Char} {limit : Nat}

theorem shortenChars_of_le (enough : s.length ≤ limit) : shortenChars s limit = s := if_pos enough

theorem shortenChars_of_lt (short : limit < s.length) :
    shortenChars s limit = s.take (limit - 1) ++ ['…'] := if_neg (Nat.not_le.mpr short)

theorem length_shortenChars_of_lt (short : limit < s.length) :
    (shortenChars s limit).length = max limit 1 := by
  rw [shortenChars_of_lt short, List.length_append, List.length_take, List.length_singleton]
  omega

theorem length_shortenChars_le (s : List Char) (limit : Nat) :
    (shortenChars s limit).length ≤ max limit 1 := by
  rcases Nat.lt_or_ge limit s.length with short | enough
  · exact (length_shortenChars_of_lt short).le
  · rw [shortenChars_of_le enough]
    exact enough.trans (Nat.le_max_left limit 1)

/-- To shorten twice is to shorten once to the smaller limit. -/
theorem shortenChars_shortenChars (s : List Char) (m n : Nat) :
    shortenChars (shortenChars s m) n = shortenChars s (min m n) := by
  rcases Nat.lt_or_ge m s.length with short | enough
  · have length := length_shortenChars_of_lt short
    rcases Nat.lt_or_ge n (max m 1) with less | more
    · -- The second ellipsis takes the place of the first, or comes before it.
      have le : n ≤ m := by omega
      have kept : n - 1 ≤ (s.take (m - 1)).length := by
        rw [List.length_take]
        omega
      calc shortenChars (shortenChars s m) n
          = (s.take (m - 1) ++ ['…']).take (n - 1) ++ ['…'] := by
            rw [shortenChars_of_lt (length ▸ less), shortenChars_of_lt short]
        _ = s.take (n - 1) ++ ['…'] := by
            rw [List.take_append_of_le_length kept, List.take_take,
              Nat.min_eq_left (Nat.sub_le_sub_right le 1)]
        _ = shortenChars s (min m n) := by
            rw [Nat.min_eq_right le, shortenChars_of_lt (le.trans_lt short)]
    · rw [shortenChars_of_le (length ▸ more), Nat.min_eq_left (by omega)]
  · rw [shortenChars_of_le enough]
    rcases Nat.le_total m n with le | ge
    · rw [Nat.min_eq_left le, shortenChars_of_le enough, shortenChars_of_le (enough.trans le)]
    · rw [Nat.min_eq_right ge]

/-- With room for at most one character nothing is kept before the ellipsis. -/
theorem compactChars_eq (s : List Char) (limit : Nat) :
    compactChars s limit = shortenChars s limit := by
  rw [compactChars, shortenChars]
  refine if_congr Iff.rfl rfl ?_
  split
  · next small => rw [Nat.sub_eq_zero_of_le small, List.take_zero, List.nil_append]
  · rfl

theorem compact_eq_shorten (s : String) (limit : Nat) : compact s limit = shorten s limit :=
  congrArg String.ofList (compactChars_eq s.toList limit)

theorem shorten_shorten (s : String) (m n : Nat) :
    shorten (shorten s m) n = shorten s (min m n) := by
  simp only [shorten, String.toList_ofList, shortenChars_shortenChars]

/-- What is shown of a text where there is room for some characters. -/
structure Abridges (limit : Nat) (text shown : String) : Prop where
  whole : text.length ≤ limit → shown = text
  cut : limit < text.length →
    shown = String.ofList (text.toList.take (max limit 1 - 1)) ++ "…"
  fits : shown.length ≤ max limit 1

theorem shorten_abridges (text : String) (limit : Nat) :
    Abridges limit text (shorten text limit) where
  whole enough := by
    rw [shorten, shortenChars_of_le (String.length_toList ▸ enough), String.ofList_toList]
  cut short := by
    have front : max limit 1 - 1 = limit - 1 := by omega
    rw [shorten, shortenChars_of_lt (String.length_toList ▸ short), String.ofList_append, front]
  fits := by
    rw [shorten, String.length_ofList]
    exact length_shortenChars_le text.toList limit

/-- Either way the same is shown of a text, and either way it is left as it is the next time. -/
theorem shortened_alike (text : String) (limit : Nat) :
    ∃ shown, shorten text limit = shown ∧ compact text limit = shown ∧
      Abridges limit text shown ∧ shorten shown limit = shown ∧ compact shown limit = shown := by
  have again : shorten (shorten text limit) limit = shorten text limit := by
    rw [shorten_shorten, Nat.min_self]
  refine ⟨shorten text limit, rfl, compact_eq_shorten text limit, shorten_abridges text limit,
    again, ?_⟩
  rw [compact_eq_shorten, again]

/-- Where there is no room the ellipsis is shown all the same. -/
example : shorten "xyz" 0 = "…" ∧ compact "xyz" 0 = "…" ∧ shorten "…" 0 = "…" := by decide

end ClusterDashboard.Text
