/-!
Finite maps as lists of pairs. Writing a key drops its older entry, so every key occurs once.
-/
namespace ClusterDashboard

abbrev Keyed (κ α : Type) := List (κ × α)

namespace Keyed

variable {κ α : Type} [DecidableEq κ]

def get? (m : Keyed κ α) (key : κ) : Option α := (m.find? (fun e => decide (e.1 = key))).map (·.2)

def erase (m : Keyed κ α) (key : κ) : Keyed κ α := m.filter (fun e => !decide (e.1 = key))

def put (m : Keyed κ α) (key : κ) (value : α) : Keyed κ α := (key, value) :: m.erase key

def keys (m : Keyed κ α) : List κ := m.map (·.1)

/-- Of entries with one key the last stays. -/
def ofList (entries : List (κ × α)) : Keyed κ α := entries.foldl (fun m e => m.put e.1 e.2) []

@[simp] theorem get?_nil (key : κ) : get? ([] : Keyed κ α) key = none := rfl

theorem get?_cons (e : κ × α) (m : Keyed κ α) (key : κ) :
    get? (e :: m) key = if e.1 = key then some e.2 else get? m key := by
  simp only [get?, List.find?_cons]
  by_cases h : e.1 = key <;> simp [h]

theorem get?_erase (m : Keyed κ α) (key other : κ) :
    (m.erase key).get? other = if key = other then none else m.get? other := by
  induction m with
  | nil => simp [erase]
  | cons e m ih =>
    simp only [erase, List.filter_cons] at ih ⊢
    by_cases he : e.1 = key
    · simp only [he, decide_true, Bool.not_true, Bool.false_eq_true, if_false, ih, get?_cons]
      by_cases ho : key = other <;> simp [ho]
    · simp only [he, decide_false, Bool.not_false, if_true, ih, get?_cons]
      by_cases ho : key = other
      · subst ho; simp [he]
      · simp [ho]

@[simp] theorem get?_put_self (m : Keyed κ α) (key : κ) (value : α) :
    (m.put key value).get? key = some value := by
  simp [put, get?_cons]

theorem get?_put_of_ne (m : Keyed κ α) {key other : κ} (value : α) (h : key ≠ other) :
    (m.put key value).get? other = m.get? other := by
  simp [put, get?_cons, get?_erase, h]

theorem mem_of_mem_put {m : Keyed κ α} {key : κ} {value : α} {e : κ × α}
    (h : e ∈ m.put key value) : e = (key, value) ∨ e ∈ m := by
  rcases List.mem_cons.mp h with he | he
  · exact .inl he
  · exact .inr (List.mem_filter.mp he).1

end Keyed
end ClusterDashboard
