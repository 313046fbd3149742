import ClusterDashboard.Proofs.Navigation.Origins
import Mathlib.Data.List.Induction
/-!
# Where pages are put back

What is remembered for a name is the position last recorded for it, whatever happens in between. A
page is put back there when it is made, however that comes about, and never again.
-/
namespace ClusterDashboard.Navigator

variable {P : Type} {n : Navigator (Noted P)} {f : Factory P} {root name : String} {view : ViewId}

/-- The position that the operation records for the name. -/
def Operation.recorded? (name : String) : Operation P → Option Position
  | .recordPosition page position => if page = name then some position else none
  | _ => none

/-- The position last recorded for the name. -/
def lastRecorded (name : String) (operations : List (Operation P)) : Option Position :=
  (operations.filterMap (Operation.recorded? name)).getLast?

/-- The page is made when one operation comes after others, by the factory of that operation, and
is put back to the position last recorded for its name by then, if any was. -/
structure MadeBy (start : Navigator (Noted P)) (earlier : List (Operation P)) (op : Operation P)
    (view : ViewId) (v : Noted P) : Prop where
  asked : ∃ g page, op.factory? = some g ∧ g.make v.name = some page
  fresh : (start.noting earlier).views.length ≤ view
  made : (op.noted.apply (start.noting earlier)).views[view]? = some v
  restored : v.restored = (lastRecorded v.name earlier).toList

theorem lastRecorded_concat (earlier : List (Operation P)) (op : Operation P) :
    lastRecorded name (earlier ++ [op]) = (op.recorded? name).or (lastRecorded name earlier) := by
  rw [lastRecorded, List.filterMap_append, List.getLast?_append, lastRecorded]
  congr 1
  cases hr : op.recorded? name <;> simp [hr]

theorem noting_concat (n : Navigator (Noted P)) (earlier : List (Operation P))
    (op : Operation P) : n.noting (earlier ++ [op]) = op.noted.apply (n.noting earlier) := by
  rw [noting, List.map_append]
  exact Trace.run_append _ _

theorem recorded?_eq_none {op : Operation P}
    (other : ∀ page position, op ≠ .recordPosition page position) (name : String) :
    op.recorded? name = none := by
  cases op with
  | recordPosition page position => exact absurd rfl (other page position)
  | _ => rfl

/-- Only recording a position for the name changes what is remembered for it. -/
theorem apply_positions (n : Navigator (Noted P)) (op : Operation P) (name : String) :
    (op.noted.apply n).positions.get? name = (op.recorded? name).or (n.positions.get? name) := by
  by_cases records : ∃ page position, op = .recordPosition page position
  · obtain ⟨page, position, rfl⟩ := records
    change (n.positions.put page position).get? name = _
    by_cases hk : page = name
    · subst hk
      simp [Operation.recorded?]
    · simp [Operation.recorded?, hk, Keyed.get?_put_of_ne]
  · have other : ∀ page position, op.noted ≠ .recordPosition page position := by
      intro page position same
      cases op <;> cases same
      exact records ⟨page, position, rfl⟩
    have none := recorded?_eq_none (fun page position h => records ⟨page, position, h⟩) name
    rw [(op.noted.stock_step n).positions other, none, Option.none_or]

theorem positions_noting {start : Navigator (Noted P)} (opened : start? f.noted root = some start)
    (operations : List (Operation P)) (name : String) :
    (start.noting operations).positions.get? name = lastRecorded name operations := by
  induction operations using List.reverseRecOn with
  | nil =>
    obtain ⟨page, -, rfl⟩ := start_noted opened
    exact congrArg (Keyed.get? · name) (shown_same_stock _ _ _).positions
  | append_singleton earlier op ih =>
    rw [noting_concat, apply_positions, ih, lastRecorded_concat]

/-- What is known of a page that an operation adds. -/
theorem added_by {op : Operation P} {v : Noted P} (fresh : n.views.length ≤ view)
    (hv : (op.noted.apply n).views[view]? = some v) :
    (∃ g page, op.factory? = some g ∧ g.make v.name = some page) ∧
      v.restored = (n.positions.get? v.name).toList := by
  obtain ⟨pages, grown, made⟩ := (op.noted.stock_step n).grows
  rw [grown, List.getElem?_append_right fresh] at hv
  obtain ⟨g, asked, name, w, hw, rfl⟩ := made v (List.mem_of_getElem? hv)
  obtain ⟨h, asks, rfl⟩ := Operation.noted_asks asked
  obtain ⟨page, hm, rfl⟩ := noted_make_some hw
  rw [placed_noted]
  exact ⟨⟨h, page, asks, hm⟩, rfl⟩

theorem views_stay (n : Navigator (Noted P)) (op : Operation P) :
    n.views <+: (op.noted.apply n).views := by
  obtain ⟨pages, grown, -⟩ := (op.noted.stock_step n).grows
  exact ⟨pages, grown.symm⟩

/-- Every page but the first has been made by an operation. -/
theorem made_by_noting {start : Navigator (Noted P)} (opened : start? f.noted root = some start)
    (operations : List (Operation P)) {v : Noted P}
    (hv : (start.noting operations).views[view]? = some v) :
    start.views[view]? = some v ∨
      ∃ earlier op later, operations = earlier ++ op :: later ∧ MadeBy start earlier op view v := by
  induction operations using List.reverseRecOn with
  | nil => exact .inl hv
  | append_singleton earlier op ih =>
    rw [noting_concat] at hv
    by_cases old : view < (start.noting earlier).views.length
    · have there : (start.noting earlier).views[view]? = some v := by
        obtain ⟨pages, grown⟩ := views_stay (start.noting earlier) op
        rwa [← grown, List.getElem?_append_left old] at hv
      rcases ih there with first | ⟨before, other, later, rfl, made⟩
      · exact .inl first
      · exact .inr ⟨before, other, later ++ [op], by simp, made⟩
    · have fresh := Nat.le_of_not_lt old
      obtain ⟨asked, restored⟩ := added_by fresh hv
      rw [positions_noting opened] at restored
      exact .inr ⟨earlier, op, [], rfl, asked, fresh, hv, restored⟩

/-- In every run what is remembered for a name is the position last recorded for it. Each page is
put back once at most, when it is made, exactly if a position had been recorded for its name by
then, and to the last one; pages that are there stay as they are; and nothing but recording a
position changes what is remembered. -/
theorem pages_put_back_once {start : Navigator (Noted P)}
    (opened : start? f.noted root = some start) (operations : List (Operation P)) :
    let n := start.noting operations
    (start? f root = some start.plain ∧ n.plain = start.plain.after operations) ∧
      (∀ name, n.positions.get? name = lastRecorded name operations) ∧
      (∀ (view : ViewId) v, n.views[view]? = some v →
        (view = 0 ∧ v.name = root ∧ v.restored = []) ∨
        ∃ earlier op later, operations = earlier ++ op :: later ∧ MadeBy start earlier op view v) ∧
      ∀ op : Operation P, n.views <+: (op.noted.apply n).views ∧
        ((∀ page position, op ≠ .recordPosition page position) →
          ∀ name, (op.noted.apply n).positions.get? name = n.positions.get? name) := by
  intro n
  refine ⟨⟨start_plain opened, plain_noting start operations⟩, positions_noting opened operations,
    fun view v hv => ?_, fun op => ⟨views_stay n op, fun other name => ?_⟩⟩
  · rcases made_by_noting opened operations hv with first | made
    · obtain ⟨page, -, rfl⟩ := start_noted opened
      rw [(shown_same_stock _ _ _).views] at first
      obtain ⟨rfl, rfl⟩ := (getElem?_concat (l := []) first).resolve_left nofun
      exact .inl ⟨rfl, rfl, rfl⟩
    · exact .inr made
  · rw [apply_positions, recorded?_eq_none other, Option.none_or]

/-- Positions are recorded for pages that there are and for one that there is not yet; one page is
visited before anything is recorded for it. -/
def settingOut : List (Operation CountedPage) :=
  let all := CountedPage.factory []
  [.navigate all "jobs", .recordPosition "nodes" ⟨1, 0⟩, .recordPosition "pods" ⟨4, 1⟩,
    .recordPosition "nodes" ⟨2, 3⟩, .goBack all]

/-- Afterwards it is recorded for as well, and all pages are made anew. -/
def comingAgain : List (Operation CountedPage) :=
  let all := CountedPage.factory []
  [.recordPosition "nodes" ⟨9, 9⟩, .navigate all "jobs", .recordPosition "jobs" ⟨7, 0⟩,
    .reload all, .recordPosition "pods" ⟨0, 0⟩, .goBack all]

theorem pages_put_back_once_along_visits :
    ∃ start, start? (CountedPage.factory []).noted "pods" = some start ∧
      let visit := .navigate (CountedPage.factory []) "nodes"
      let operations := settingOut ++ visit :: comingAgain
      let n := start.noting operations
      n.views.map (fun v => (v.name, v.restored)) =
        [("pods", []), ("jobs", []), ("nodes", [⟨2, 3⟩]), ("pods", [⟨4, 1⟩]),
          ("jobs", [⟨7, 0⟩]), ("nodes", [⟨9, 9⟩])] ∧
        n.positions.get? "pods" = lastRecorded "pods" operations ∧
        lastRecorded "pods" operations = some ⟨0, 0⟩ ∧
        (∃ v, n.views[2]? = some v ∧ ∃ earlier op later, operations = earlier ++ op :: later ∧
          MadeBy start earlier op 2 v) ∧
        n.views <+: (visit.noted.apply n).views := by
  have opened : start? (CountedPage.factory []).noted "pods" = some _ := rfl
  obtain ⟨-, remembered, made, stay⟩ := pages_put_back_once opened
    (settingOut ++ .navigate (CountedPage.factory []) "nodes" :: comingAgain)
  refine ⟨_, opened, by decide, remembered "pods", by decide, ⟨_, rfl, ?_⟩, (stay _).1⟩
  rcases made 2 _ rfl with ⟨first, -⟩ | made
  · cases first
  · exact made

end ClusterDashboard.Navigator
