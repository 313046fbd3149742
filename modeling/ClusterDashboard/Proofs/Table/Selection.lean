import ClusterDashboard.Proofs.Trace
import ClusterDashboard.Table.View
/-!
# The highlighted row and column

A fetch, a filter and a move leave the highlight on a visible row, so only a restored position can
put it elsewhere, until the row is set again. The column is brought back among the headers by its
own moves alone: new headers can be too few for it.
-/
namespace ClusterDashboard

/-- The index is that of an entry of a list, or 0 when the list has none. -/
structure Within (i len : Nat) : Prop where
  empty : len = 0 → i = 0
  filled : len ≠ 0 → i < len

theorem within_iff {i len : Nat} : Within i len ↔ i ≤ len - 1 := by
  constructor
  · intro h
    by_cases none : len = 0
    · exact h.empty none ▸ Nat.zero_le _
    · exact Nat.le_sub_one_of_lt (h.filled none)
  · intro h
    constructor <;> omega

instance (i len : Nat) : Decidable (Within i len) := decidable_of_iff _ within_iff.symm

theorem within_zero (len : Nat) : Within 0 len := within_iff.mpr (Nat.zero_le _)

theorem within_nearestIndex (i : Int) (len : Nat) : Within (nearestIndex i len) len := by
  rw [within_iff, nearestIndex]
  omega

theorem nearestIndex_eq (i : Int) (len : Nat) :
    (nearestIndex i len : Int) = max 0 (min i (len - 1)) := by
  rw [nearestIndex, Int.toNat_eq_max, Int.max_comm]

/-- A signed number of 64 bits lies below this. -/
def signedLimit : Nat := Nat.pow 2 63

theorem signedWord_of_lt {i : Nat} (h : i < signedLimit) : signedWord i = i := by
  have below : i < 9223372036854775808 := h
  change Int.bmod i 18446744073709551616 = i
  exact Int.bmod_eq_of_le (by omega) (by omega)

/-- An index and a step can be added as signed numbers. -/
structure Addable (i : Nat) (delta : Int) : Prop where
  index : i < signedLimit
  least : -(signedLimit : Int) ≤ i + delta
  greatest : i + delta < signedLimit

namespace TableView

/-- What can be done to a table. -/
inductive Operation where
  | setRows (headers : List String) (rows : List Row) (stamp : TimeOfDay)
  | absorb (fresh : TableView)
  | setFilter (filter : String)
  | moveSelection (delta : Int)
  | moveColumn (delta : Int)
  | selectFirst
  | selectLast
  | restore (row column : Nat)
  deriving DecidableEq, Repr

namespace Operation

def apply (view : TableView) : Operation → TableView
  | setRows headers rows stamp => view.setRows headers rows stamp
  | absorb fresh => view.absorb fresh
  | setFilter filter => view.setFilter filter
  | moveSelection delta => view.moveSelection delta
  | moveColumn delta => view.moveColumn delta
  | selectFirst => view.selectFirst
  | selectLast => view.selectLast
  | restore row column => view.restore row column

def isRestore : Operation → Bool
  | restore .. => true
  | _ => false

/-- The operation sets the row by the rows there are. -/
def setsRow : Operation → Bool
  | setRows .. | absorb _ | setFilter _ | moveSelection _ | selectFirst | selectLast => true
  | moveColumn _ | restore .. => false

/-- The operation leaves the column and the headers as they are. -/
def leavesColumn : Operation → Bool
  | setFilter _ | moveSelection _ | selectFirst | selectLast => true
  | setRows .. | absorb _ | moveColumn _ | restore .. => false

/-- The operation brings headers that are too few for the column, or a column beyond the headers. -/
def MisplacesColumn (view : TableView) : Operation → Prop
  | setRows headers .. => ¬ Within view.column headers.length
  | absorb fresh => ¬ Within view.column fresh.headers.length
  | restore _ column => ¬ Within column view.headers.length
  | setFilter _ | moveSelection _ | moveColumn _ | selectFirst | selectLast => False

end Operation

variable {view : TableView} {op : Operation} {ops : List Operation}

/-- The highlight is on a visible row. -/
abbrev RowWithin (view : TableView) : Prop := Within view.selected view.visibleRows.length

/-- The highlight is under a header. -/
abbrev ColumnWithin (view : TableView) : Prop := Within view.column view.headers.length

theorem clampSelection_rowWithin (view : TableView) : view.clampSelection.RowWithin :=
  within_iff.mpr (Nat.min_le_right ..)

theorem apply_rowWithin (h : op.setsRow = true) : (op.apply view).RowWithin := by
  cases op with
  | setRows | absorb => exact clampSelection_rowWithin _
  | setFilter | selectFirst => exact within_zero _
  | moveSelection delta => exact within_nearestIndex ..
  | selectLast => exact within_iff.mpr (Nat.le_refl _)
  | moveColumn | restore => cases h

theorem apply_columnWithin_iff : ¬ (op.apply view).ColumnWithin ↔
    op.MisplacesColumn view ∨ ¬ view.ColumnWithin ∧ op.leavesColumn = true := by
  cases op with
  | setRows | absorb | restore => exact (or_iff_left (nofun : ¬ (_ ∧ false = true))).symm
  | setFilter | moveSelection | selectFirst | selectLast =>
    exact ((or_iff_right id).trans (and_iff_left rfl)).symm
  | moveColumn delta => exact iff_of_false (not_not_intro (within_nearestIndex ..)) nofun

/-- A position has been restored, and the row has not been set since. -/
def Displaced (ops : List Operation) : Prop :=
  Trace.Since (fun _ op => op.isRestore = true) (fun _ op => op.setsRow = false) Operation.apply {}
    ops

instance (ops : List Operation) : Decidable (Displaced ops) :=
  inferInstanceAs (Decidable (Trace.Since ..))

theorem rowWithin_of_settled (settled : ¬ Displaced ops) :
    (Trace.run Operation.apply {} ops).RowWithin := by
  refine Decidable.byContradiction fun astray => ?_
  have law (view : TableView) (op : Operation) (h : ¬ (op.apply view).RowWithin) :
      op.isRestore = true ∨ ¬ view.RowWithin ∧ op.setsRow = false := by
    cases op with
    | setRows | absorb | setFilter | moveSelection | selectFirst | selectLast =>
      exact absurd (apply_rowWithin rfl) h
    | moveColumn => exact .inr ⟨h, rfl⟩
    | restore => exact .inl rfl
  rcases Trace.since_of_run (motive := fun view => ¬ RowWithin view) law astray with restored | ⟨atStart, -⟩
  · exact settled restored
  · exact atStart (within_zero _)

theorem selectedRow?_isSome_iff (h : view.RowWithin) :
    view.selectedRow?.isSome = true ↔ ∃ row ∈ view.rows, row.passes view.filter = true := by
  have visible : view.visibleRows.length ≠ 0 ↔ ∃ row ∈ view.rows, row.passes view.filter = true := by
    rw [Ne, List.length_eq_zero_iff, visibleRows, List.filter_eq_nil_iff]
    simp
  rw [selectedRow?, isSome_getElem?, ← visible]
  constructor
  · omega
  · exact h.filled

theorem moveSelection_selected (h : view.selected < signedLimit) (delta : Int) :
    ((view.moveSelection delta).selected : Int) =
      max 0 (min (view.selected + delta) (view.visibleRows.length - 1)) := by
  rw [moveSelection, nearestIndex_eq, signedWord_of_lt h]

/-- The highlighted row is a visible one, if there is any, and moves among the visible ones. -/
structure RowInView (view : TableView) : Prop where
  within : view.RowWithin
  found : view.selectedRow?.isSome = true ↔ ∃ row ∈ view.rows, row.passes view.filter = true
  moved : ∀ delta, Addable view.selected delta →
    ((view.moveSelection delta).selected : Int) =
      max 0 (min (view.selected + delta) (view.visibleRows.length - 1))

theorem row_in_view (settled : ¬ Displaced ops) :
    RowInView (Trace.run Operation.apply {} ops) where
  within := rowWithin_of_settled settled
  found := selectedRow?_isSome_iff (rowWithin_of_settled settled)
  moved delta fits := moveSelection_selected fits.index delta

/-- Rows that go by their name alone. -/
def rowsNamed (names : List String) : List Row := names.map fun name => ⟨name, none, [name]⟩

/-- A position that was restored before the first fetch, a move beyond the end, and a fetch that
brings fewer rows for the filter. -/
def shrinkingRows : List Operation :=
  [.restore 7 3, .absorb { headers := ["Name"], rows := rowsNamed ["api", "web", "api-2", "db"] },
    .setFilter "AP", .moveSelection 5, .moveColumn 2, .absorb { rows := rowsNamed ["db", "api"] }]

theorem row_in_view_of_shrinking_rows :
    RowInView (Trace.run Operation.apply {} shrinkingRows) ∧
      (Trace.run Operation.apply {} shrinkingRows).selectedRow? = some ⟨"api", none, ["api"]⟩ :=
  ⟨row_in_view (by decide), by decide +kernel⟩

/-- The column is under a header, or at 0 without headers, unless headers have come that are too few
for it, or a position beyond the headers was restored, and since then neither has the column been
moved nor have headers come. -/
theorem column_within_iff (ops : List Operation) :
    (Trace.run Operation.apply {} ops).ColumnWithin ↔
      ¬ Trace.Since (fun view op => op.MisplacesColumn view) (fun _ op => op.leavesColumn = true)
        Operation.apply {} ops := by
  have valid : Trace.Valid (fun _ _ => True) Operation.apply {} ops :=
    Trace.valid_of_forall fun _ _ _ => trivial
  have keeps (view : TableView) (op : Operation) (_ : True) (_ : True) : True := trivial
  have since := Trace.since_iff (motive := fun view => ¬ view.ColumnWithin) keeps
    (fun _ _ _ _ => apply_columnWithin_iff) trivial valid
  rw [or_iff_left fun atStart => atStart.1 (within_zero _)] at since
  rw [← since, Decidable.not_not]

/-- A fetch with fewer headers leaves the column behind them, and so does one after a position was
restored. -/
theorem column_left_behind_headers :
    (Trace.run Operation.apply {} [.setRows ["Name", "Age"] [] ⟨12, 0, 0⟩, .moveColumn 1,
      .setRows ["Name"] [] ⟨12, 0, 1⟩]).column = 1 ∧
    ¬ (Trace.run Operation.apply {} [.setRows ["Name", "Age"] [] ⟨12, 0, 0⟩, .moveColumn 1,
      .setRows ["Name"] [] ⟨12, 0, 1⟩]).ColumnWithin ∧
    ¬ (Trace.run Operation.apply {} [.restore 0 3,
      .absorb { headers := ["Name"] }]).ColumnWithin := by
  decide

end TableView
end ClusterDashboard
