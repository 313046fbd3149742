import Mathlib.Data.String.Basic
/-!
# Sorting by a key

What is sorted by a key stands in the order of the keys, and where the keys are equal it stays in
the order it came in. Once sorted, repetitions stand side by side.
-/
namespace ClusterDashboard

section Keys

variable {α κ : Type} [LinearOrder κ] {le : α → α → Bool} {key : α → κ}

/-- All objects once, in the order of their keys; those with one key as they came. -/
structure Arranges (key : α → κ) (objects arranged : List α) : Prop where
  each : arranged.Perm objects
  ordered : arranged.Pairwise fun a b => key a ≤ key b
  steady : ∀ k, arranged.filter (key · = k) = objects.filter (key · = k)

/-- Objects with one key are in order already, so sorting keeps them in a row, and there are no
others with that key. -/
theorem arranges_mergeSort (by_key : ∀ a b, le a b = true ↔ key a ≤ key b) (objects : List α) :
    Arranges key objects (objects.mergeSort le) := by
  have trans (a b c : α) (ab : le a b = true) (bc : le b c = true) : le a c = true :=
    (by_key a c).mpr (((by_key a b).mp ab).trans ((by_key b c).mp bc))
  have total (a b : α) : (le a b || le b a) = true := by
    rw [Bool.or_eq_true, by_key, by_key]
    exact le_total (key a) (key b)
  have each := List.mergeSort_perm objects le
  refine ⟨each, (List.pairwise_mergeSort trans total objects).imp (by_key _ _).mp, fun k => ?_⟩
  have alike : (objects.filter (key · = k)).Pairwise fun a b => le a b = true := by
    refine List.pairwise_of_forall_mem_list fun a ha b hb => (by_key a b).mpr ?_
    have ka : key a = k := by simpa using (List.mem_filter.mp ha).2
    have kb : key b = k := by simpa using (List.mem_filter.mp hb).2
    exact (ka.trans kb.symm).le
  have kept := (List.sublist_mergeSort trans total alike List.filter_sublist).filter (key · = k)
  rw [List.filter_filter] at kept
  simp only [Bool.and_self] at kept
  exact (kept.eq_of_length (each.filter _).length_eq.symm).symm

theorem ordered_mergeSort [DecidableLE κ] (key : α → κ) (l : List α) :
    (l.mergeSort fun a b => decide (key a ≤ key b)).Pairwise fun a b => key a ≤ key b :=
  (arranges_mergeSort (fun _ _ => decide_eq_true_iff) l).ordered

end Keys

section Repetitions

variable {α : Type} [LinearOrder α] {x : α} {l : List α}

theorem eraseReps_loop (a : α) (l done : List α) :
    List.eraseRepsBy.loop (· == ·) a l done = done.reverse ++ (a :: l).eraseReps := by
  rw [List.eraseReps, List.eraseRepsBy]
  induction l generalizing a done with
  | nil => simp [List.eraseRepsBy.loop]
  | cons b l ih =>
    simp only [List.eraseRepsBy.loop]
    split
    · exact ih a done
    · rw [ih b (a :: done), ih b [a]]
      simp

theorem eraseReps_cons_cons (a b : α) (l : List α) :
    (a :: b :: l).eraseReps = if a = b then (b :: l).eraseReps else a :: (b :: l).eraseReps := by
  rw [List.eraseReps, List.eraseRepsBy, List.eraseRepsBy.loop]
  split
  · next same =>
    obtain rfl : a = b := by simpa using same
    rw [if_pos rfl, eraseReps_loop]
    rfl
  · next other =>
    rw [if_neg (by simpa using other), eraseReps_loop]
    rfl

theorem mem_eraseReps : x ∈ l.eraseReps ↔ x ∈ l := by
  induction l with
  | nil => rfl
  | cons a l ih =>
    cases l with
    | nil => rfl
    | cons b l =>
      rw [eraseReps_cons_cons]
      split
      · next same => simp [ih, same]
      · simp only [List.mem_cons, ih]

theorem eraseReps_increasing (ordered : l.Pairwise (· ≤ ·)) : l.eraseReps.Pairwise (· < ·) := by
  induction l with
  | nil => exact .nil
  | cons a l ih =>
    obtain ⟨least, rest⟩ := List.pairwise_cons.mp ordered
    cases l with
    | nil => exact List.pairwise_singleton ..
    | cons b l =>
      rw [eraseReps_cons_cons]
      split
      · exact ih rest
      · next other =>
        refine List.pairwise_cons.mpr ⟨fun c there => ?_, ih rest⟩
        have less : a < b := lt_of_le_of_ne (least b List.mem_cons_self) other
        rcases List.mem_cons.mp (mem_eraseReps.mp there) with rfl | behind
        · exact less
        · exact lt_of_lt_of_le less ((List.pairwise_cons.mp rest).1 c behind)

end Repetitions
end ClusterDashboard
