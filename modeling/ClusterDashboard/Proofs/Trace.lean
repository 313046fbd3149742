/-!
# Runs of events

A system is given by what an event makes of its state and by the events that can happen in it.
-/
namespace ClusterDashboard.Trace

variable {σ ε α : Type} {next : σ → ε → σ} {enabled happens kept : σ → ε → Prop} {s : σ}

def run (next : σ → ε → σ) (s : σ) : List ε → σ
  | [] => s
  | e :: es => run next (next s e) es

def Valid (enabled : σ → ε → Prop) (next : σ → ε → σ) (s : σ) : List ε → Prop
  | [] => True
  | e :: es => enabled s e ∧ Valid enabled next (next s e) es

/-- What the events of a run bring forth, in order. -/
def gather (out : σ → ε → List α) (next : σ → ε → σ) (s : σ) : List ε → List α
  | [] => []
  | e :: es => out s e ++ gather out next (next s e) es

instance decidableValid [∀ s e, Decidable (enabled s e)] (s : σ) :
    (es : List ε) → Decidable (Valid enabled next s es)
  | [] => .isTrue trivial
  | e :: es =>
    have := decidableValid (next s e) es
    inferInstanceAs (Decidable (enabled s e ∧ Valid enabled next (next s e) es))

/-- At some event of a run a thing happens, and every later event keeps it. -/
def Since (happens kept : σ → ε → Prop) (next : σ → ε → σ) (s : σ) : List ε → Prop
  | [] => False
  | e :: es =>
    happens s e ∧ Valid kept next (next s e) es ∨ Since happens kept next (next s e) es

instance decidableSince [∀ s e, Decidable (happens s e)] [∀ s e, Decidable (kept s e)] (s : σ) :
    (es : List ε) → Decidable (Since happens kept next s es)
  | [] => .isFalse id
  | e :: es =>
    have := decidableSince (next s e) es
    inferInstanceAs (Decidable (_ ∧ _ ∨ Since happens kept next (next s e) es))

theorem run_append (es fs : List ε) : run next s (es ++ fs) = run next (run next s es) fs := by
  induction es generalizing s with
  | nil => rfl
  | cons e es ih => exact ih

theorem valid_append {es fs : List ε} : Valid enabled next s (es ++ fs) ↔
    Valid enabled next s es ∧ Valid enabled next (run next s es) fs := by
  induction es generalizing s with
  | nil => simp [Valid, run]
  | cons e es ih => simp [Valid, run, ih, and_assoc]

theorem valid_of_forall {es : List ε} (h : ∀ e ∈ es, ∀ s, enabled s e) :
    Valid enabled next s es := by
  induction es generalizing s with
  | nil => trivial
  | cons e es ih =>
    exact ⟨h e List.mem_cons_self s, ih fun f hf => h f (List.mem_cons_of_mem _ hf)⟩

theorem gather_append {out : σ → ε → List α} (es fs : List ε) :
    gather out next s (es ++ fs) =
      gather out next s es ++ gather out next (run next s es) fs := by
  induction es generalizing s with
  | nil => rfl
  | cons e es ih => simp [gather, run, ih, List.append_assoc]

/-- What some events write, each anew, reads as the last of them wrote it. -/
theorem reading_run (read : σ → α) {write : ε → Option α}
    (law : ∀ s e, read (next s e) = (write e).getD (read s)) (es : List ε) :
    read (run next s es) = (es.filterMap write).getLast?.getD (read s) := by
  induction es generalizing s with
  | nil => rfl
  | cons e es ih =>
    rw [run, ih, law, List.filterMap_cons]
    cases write e with
    | none => rfl
    | some a => rw [List.getLast?_cons]; rfl

/-- A property that every event keeps holds at the end of a run. -/
theorem run_induction {motive : σ → Prop} (start : motive s)
    (step : ∀ s e, enabled s e → motive s → motive (next s e)) {es : List ε}
    (valid : Valid enabled next s es) : motive (run next s es) := by
  induction es generalizing s with
  | nil => exact start
  | cons e es ih => exact ih (step s e valid.1 start) valid.2

/-- A property holds at the end of a run exactly when it came about and was kept since, or when it
held from the start, if that is what each event does to it. -/
theorem since_iff {motive holds : σ → Prop}
    (keeps : ∀ s e, enabled s e → holds s → holds (next s e))
    (law : ∀ s e, enabled s e → holds s →
      (motive (next s e) ↔ happens s e ∨ motive s ∧ kept s e))
    (start : holds s) {es : List ε} (valid : Valid enabled next s es) :
    motive (run next s es) ↔
      Since happens kept next s es ∨ motive s ∧ Valid kept next s es := by
  induction es generalizing s with
  | nil => simp [run, Since, Valid]
  | cons e es ih =>
    rw [run, ih (keeps s e valid.1 start) valid.2, law s e valid.1 start, Since, Valid,
      or_and_right, and_assoc, or_left_comm, or_assoc]

/-- What holds at the end of a run came about and was kept since, or held from the start, if no
event brings it about in another way. -/
theorem since_of_run {motive : σ → Prop}
    (law : ∀ s e, motive (next s e) → happens s e ∨ motive s ∧ kept s e) {es : List ε}
    (h : motive (run next s es)) :
    Since happens kept next s es ∨ motive s ∧ Valid kept next s es := by
  induction es generalizing s with
  | nil => exact .inr ⟨h, trivial⟩
  | cons e es ih =>
    rcases ih h with later | ⟨came, stayed⟩
    · exact .inl (.inr later)
    · rcases law s e came with occurred | ⟨held, keeps⟩
      · exact .inl (.inl ⟨occurred, stayed⟩)
      · exact .inr ⟨held, keeps, stayed⟩

/-- What happened with something and was kept since, happened with a particular thing. -/
theorem Since.exists {occurs : α → σ → ε → Prop} {es : List ε}
    (h : Since (fun s e => ∃ x, occurs x s e) kept next s es) :
    ∃ x, Since (occurs x) kept next s es := by
  induction es generalizing s with
  | nil => exact h.elim
  | cons e es ih =>
    rcases h with ⟨⟨x, occurred⟩, since⟩ | later
    · exact ⟨x, .inl ⟨occurred, since⟩⟩
    · obtain ⟨x, hx⟩ := ih later
      exact ⟨x, .inr hx⟩

/-- What comes about when the thing happens, and is kept as long as the thing is, holds at the end
of the run. -/
theorem Since.induction {motive holds : σ → Prop}
    (keeps : ∀ s e, enabled s e → holds s → holds (next s e))
    (comes : ∀ s e, enabled s e → holds s → happens s e → motive (next s e))
    (stays : ∀ s e, enabled s e → holds s → kept s e → motive s → motive (next s e))
    {es : List ε} (h : Since happens kept next s es) (start : holds s)
    (valid : Valid enabled next s es) : motive (run next s es) := by
  have along {s : σ} {es : List ε} (hk : Valid kept next s es) (hv : Valid enabled next s es)
      (hs : holds s) (hm : motive s) : motive (run next s es) := by
    induction es generalizing s with
    | nil => exact hm
    | cons e es ih =>
      exact ih hk.2 hv.2 (keeps s e hv.1 hs) (stays s e hv.1 hs hk.1 hm)
  induction es generalizing s with
  | nil => exact h.elim
  | cons e es ih =>
    have hs := keeps s e valid.1 start
    rcases h with ⟨occurred, since⟩ | later
    · have came : motive (next s e) := comes s e valid.1 start occurred
      exact along (s := next s e) since valid.2 hs came
    · exact ih later hs valid.2

/-- Some run leads from one state to the other. -/
def Reaches (enabled : σ → ε → Prop) (next : σ → ε → σ) (s t : σ) : Prop :=
  ∃ es, Valid enabled next s es ∧ run next s es = t

namespace Reaches

variable {t u : σ} {allowed : σ → ε → Prop}

theorem refl (s : σ) : Reaches enabled next s s := ⟨[], trivial, rfl⟩

theorem step {e : ε} (h : enabled s e) : Reaches enabled next s (next s e) :=
  ⟨[e], ⟨h, trivial⟩, rfl⟩

theorem trans (h : Reaches enabled next s t) (k : Reaches enabled next t u) :
    Reaches enabled next s u := by
  obtain ⟨es, hv, rfl⟩ := h
  obtain ⟨fs, hw, rfl⟩ := k
  exact ⟨es ++ fs, valid_append.mpr ⟨hv, hw⟩, run_append es fs⟩

theorem mono (h : Reaches enabled next s t) (ha : ∀ s e, enabled s e → allowed s e) :
    Reaches allowed next s t := by
  obtain ⟨es, valid, rfl⟩ := h
  refine ⟨es, ?_, rfl⟩
  induction es generalizing s with
  | nil => trivial
  | cons e es ih => exact ⟨ha s e valid.1, ih valid.2⟩

/-- What every event keeps is there at the end. -/
theorem induction {motive : σ → Prop} (h : Reaches enabled next s t) (start : motive s)
    (step : ∀ s e, enabled s e → motive s → motive (next s e)) : motive t := by
  obtain ⟨es, valid, rfl⟩ := h
  exact run_induction start step valid

/-- What is done to one thing after the other is a run if each of the doings is. -/
theorem foldl {τ β : Type} {place : τ → σ} {act : τ → β → τ}
    (h : ∀ x y, Reaches enabled next (place x) (place (act x y))) (x : τ) (ys : List β) :
    Reaches enabled next (place x) (place (ys.foldl act x)) := by
  induction ys generalizing x with
  | nil => exact refl _
  | cons y ys ih => exact (h x y).trans (ih (act x y))

end Reaches
end ClusterDashboard.Trace
