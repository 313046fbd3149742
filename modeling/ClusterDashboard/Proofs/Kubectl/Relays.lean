import ClusterDashboard.Kubectl.Follower
import ClusterDashboard.Proofs.Text.Lines
import ClusterDashboard.Proofs.Text.Utf8
/-!
# What is heard of an output

The lines of an output are heard as texts up to the first that is not one. So every text is heard
exactly when none stands after a line that is no text. At last comes how the child ended.
-/
namespace ClusterDashboard.Kubectl

def linesOf (output : List UInt8) : List (List UInt8) :=
  Text.linesOf Follower.lineFeed Follower.carriageReturn output

def endedLines (output : List UInt8) : List (List UInt8) :=
  Text.endedLines Follower.lineFeed Follower.carriageReturn output

/-- A line that is not the writing of any text. -/
def Unreadable (line : List UInt8) : Prop := ∀ text, Utf8.encode text ≠ line

/-- Lines and the texts that are heard of them: each line that is a text is heard as that text, once
and in its place. Any other line may be heard as anything, or not at all. -/
inductive Relayed : List (List UInt8) → List String → Prop where
  | nil : Relayed [] []
  | text {text : String} {lines : List (List UInt8)} {heard : List String}
    (rest : Relayed lines heard) : Relayed (Utf8.encode text :: lines) (text :: heard)
  | skipped {line : List UInt8} {lines : List (List UInt8)} {heard : List String}
    (unreadable : Unreadable line) (rest : Relayed lines heard) : Relayed (line :: lines) heard
  | garbled {line : List UInt8} {text : String} {lines : List (List UInt8)} {heard : List String}
    (unreadable : Unreadable line) (rest : Relayed lines heard) :
    Relayed (line :: lines) (text :: heard)

/-- How the end of a child is told: without a reason if it succeeded, else with what it complained
of, else with its exit status. -/
inductive Closing (status : ExitStatus) (stderr : List UInt8) : Option String → Prop where
  | success (succeeded : status = .code 0) : Closing status stderr none
  | complaint (failed : status ≠ .code 0) (told : Text.trim (Utf8.decodeLossy stderr) ≠ "") :
    Closing status stderr (some (Text.trim (Utf8.decodeLossy stderr)))
  | silent (failed : status ≠ .code 0) (untold : Text.trim (Utf8.decodeLossy stderr) = "") :
    Closing status stderr (some ("kubectl exited with " ++ status.text))

/-- The texts of the lines before the first unreadable one. -/
def heardOf : List (List UInt8) → List String
  | [] => []
  | line :: lines =>
    match Utf8.decode? line with
    | some text => text :: heardOf lines
    | none => []

theorem unreadable_iff {line : List UInt8} : Unreadable line ↔ Utf8.decode? line = none := by
  rw [Option.eq_none_iff_forall_ne_some]
  exact forall_congr' fun text => not_congr Utf8.decode?_eq_some.symm

instance : DecidablePred Unreadable := fun _ => decidable_of_iff _ unreadable_iff.symm

theorem heardOf_encoded (text : String) (lines : List (List UInt8)) :
    heardOf (Utf8.encode text :: lines) = text :: heardOf lines := by
  rw [heardOf, Utf8.decode?_eq_some.mpr rfl]

theorem heardOf_unreadable {line : List UInt8} (h : Unreadable line)
    (lines : List (List UInt8)) : heardOf (line :: lines) = [] := by
  rw [heardOf, unreadable_iff.mp h]

theorem readable_or_not (line : List UInt8) :
    (∃ text, Utf8.encode text = line) ∨ Unreadable line := by
  cases h : Utf8.decode? line with
  | some text => exact .inl ⟨text, Utf8.decode?_eq_some.mp h⟩
  | none => exact .inr (unreadable_iff.mpr h)

/-- What is heard are the first lines, and the next line is unreadable if there is one. -/
theorem heardOf_spec (lines : List (List UInt8)) : ∃ hidden,
    lines = (heardOf lines).map Utf8.encode ++ hidden ∧ ∀ line ∈ hidden.head?, Unreadable line := by
  induction lines with
  | nil => exact ⟨[], rfl, nofun⟩
  | cons line lines ih =>
    rcases readable_or_not line with ⟨text, rfl⟩ | hu
    · obtain ⟨hidden, he, hh⟩ := ih
      refine ⟨hidden, ?_, hh⟩
      rw [heardOf_encoded, List.map_cons, List.cons_append, ← he]
    · refine ⟨line :: lines, ?_, ?_⟩
      · rw [heardOf_unreadable hu]
        rfl
      · rintro _ ⟨⟩
        exact hu

theorem heardOf_append {lines : List (List UInt8)} (h : ∀ line ∈ lines, ¬Unreadable line)
    (more : List (List UInt8)) : heardOf (lines ++ more) = heardOf lines ++ heardOf more := by
  induction lines with
  | nil => rfl
  | cons line lines ih =>
    obtain ⟨text, rfl⟩ := (readable_or_not line).resolve_right (h line List.mem_cons_self)
    rw [List.cons_append, heardOf_encoded, heardOf_encoded, List.cons_append,
      ih fun l hl => h l (List.mem_cons_of_mem _ hl)]

theorem heardOf_append_of_unreadable {lines : List (List UInt8)}
    (h : ∃ line ∈ lines, Unreadable line) (more : List (List UInt8)) :
    heardOf (lines ++ more) = heardOf lines := by
  induction lines with
  | nil =>
    obtain ⟨_, hm, -⟩ := h
    cases hm
  | cons line lines ih =>
    rcases readable_or_not line with ⟨text, rfl⟩ | hu
    · obtain ⟨other, hm, hu⟩ := h
      have hl : ∃ line ∈ lines, Unreadable line := by
        rcases List.mem_cons.mp hm with rfl | hm
        · exact absurd rfl (hu text)
        · exact ⟨other, hm, hu⟩
      rw [List.cons_append, heardOf_encoded, heardOf_encoded, ih hl]
    · rw [List.cons_append, heardOf_unreadable hu, heardOf_unreadable hu]

theorem relayed_of_unreadable {lines : List (List UInt8)} (h : ∀ line ∈ lines, Unreadable line) :
    Relayed lines [] := by
  induction lines with
  | nil => exact .nil
  | cons line lines ih =>
    exact .skipped (h line List.mem_cons_self) (ih fun l hl => h l (List.mem_cons_of_mem _ hl))

theorem unreadable_of_relayed {lines : List (List UInt8)} (h : Relayed lines []) :
    ∀ line ∈ lines, Unreadable line := by
  induction lines with
  | nil => exact nofun
  | cons line lines ih =>
    cases h with
    | skipped hu hr => exact List.forall_mem_cons.mpr ⟨hu, ih hr⟩

/-- All texts are heard exactly when none stands after an unreadable line. -/
theorem relayed_heardOf {lines : List (List UInt8)} : Relayed lines (heardOf lines) ↔
    lines.Pairwise fun line later => Unreadable line → Unreadable later := by
  induction lines with
  | nil => exact ⟨fun _ => .nil, fun _ => .nil⟩
  | cons line lines ih =>
    rw [List.pairwise_cons]
    rcases readable_or_not line with ⟨text, rfl⟩ | hu
    · have hr : ¬Unreadable (Utf8.encode text) := fun hu => hu text rfl
      rw [heardOf_encoded]
      constructor
      · intro h
        refine ⟨fun _ _ hu => absurd hu hr, ih.mp ?_⟩
        generalize he : Utf8.encode text :: lines = all at h
        cases h with
        | text rest =>
          obtain ⟨-, rfl⟩ := List.cons.inj he
          exact rest
        | skipped hu => exact absurd ((List.cons.inj he).1 ▸ hu) hr
        | garbled hu => exact absurd ((List.cons.inj he).1 ▸ hu) hr
      · rintro ⟨-, h⟩
        exact .text (ih.mpr h)
    · rw [heardOf_unreadable hu]
      constructor
      · intro h
        have hl := unreadable_of_relayed h
        refine ⟨fun l hm _ => hl l (List.mem_cons_of_mem _ hm), ?_⟩
        exact List.pairwise_of_forall_mem_list fun _ _ l hm _ => hl l (List.mem_cons_of_mem _ hm)
      · rintro ⟨h, -⟩
        exact relayed_of_unreadable (List.forall_mem_cons.mpr ⟨hu, fun l hm => h l hm hu⟩)

section Output

variable {written : List UInt8}

theorem heardOf_linesOf (h : ∃ line ∈ endedLines written, Unreadable line) :
    heardOf (linesOf written) = heardOf (endedLines written) :=
  heardOf_append_of_unreadable h _

theorem heardOf_linesOf_append (h : ∃ line ∈ endedLines written, Unreadable line)
    (more : List UInt8) : heardOf (linesOf (written ++ more)) = heardOf (linesOf written) := by
  have hm : linesOf (written ++ more) = endedLines written ++ _ := Text.linesOf_append written more
  rw [hm, heardOf_linesOf h, heardOf_append_of_unreadable h]

end Output

theorem endedLines_append (taken more : List UInt8) : endedLines (taken ++ more) =
    endedLines taken ++ endedLines (Text.openLine Follower.lineFeed taken ++ more) :=
  Text.endedLines_append taken more

def closingOf (status : ExitStatus) (stderr : List UInt8) : Option String :=
  if status.succeeded then none else some (exitReason status stderr)

theorem closing_closingOf (status : ExitStatus) (stderr : List UInt8) :
    Closing status stderr (closingOf status stderr) := by
  by_cases hs : status = .code 0
  · subst hs
    exact .success rfl
  · have hn : closingOf status stderr = some (exitReason status stderr) := by
      rw [closingOf, if_neg]
      simpa [ExitStatus.succeeded] using hs
    rw [hn]
    by_cases ht : Text.trim (Utf8.decodeLossy stderr) = ""
    · rw [show exitReason status stderr = "kubectl exited with " ++ status.text from if_pos ht]
      exact .silent hs ht
    · rw [show exitReason status stderr = Text.trim (Utf8.decodeLossy stderr) from if_neg ht]
      exact .complaint hs ht

end ClusterDashboard.Kubectl
