import ClusterDashboard.Proofs.Navigation.Menu
/-!
# What lies over a page leaves no trace in the history

The menu, a dismissal and a switch to the page one is on concern the newest history entry alone,
and of that only the layer. An exhausted history has no entry to concern: what is put over the root
page then becomes its first one, so that the history is longer afterwards, while what is only taken
away leaves it exhausted.
-/
namespace ClusterDashboard.Navigator

variable {P : Type} {n m : Navigator P} {op : Operation P}

/-- The operation puts something over the current page or takes it away. For a switch it counts
where the name leads to. -/
def Operation.Stays (n : Navigator P) : Operation P → Prop
  | .switchPage f name _ | .navigate f name => n.landing f name = n.current
  | .showMenu | .hideMenu | .dismissOverlay => True
  | .goBack _ | .reload _ | .recordPosition _ _ => False

instance (n : Navigator P) : (op : Operation P) → Decidable (op.Stays n)
  | .switchPage f name _ | .navigate f name =>
    inferInstanceAs (Decidable (n.landing f name = n.current))
  | .showMenu | .hideMenu | .dismissOverlay => .isTrue trivial
  | .goBack _ | .reload _ | .recordPosition _ _ => .isFalse id

/-- The operation takes away what lies over a page, and puts nothing there. -/
def Operation.uncovers : Operation P → Bool
  | .hideMenu | .dismissOverlay => true
  | .switchPage _ _ _ | .navigate _ _ | .goBack _ | .showMenu | .reload _
  | .recordPosition _ _ => false

/-- Nothing is different but the layer on top, the mark of the menu and the number of entries. -/
structure OnTop (n m : Navigator P) : Prop where
  frame : m = { n with menuShown := m.menuShown, history := m.history }
  current : m.current = n.current
  name : m.top.name = n.top.name
  below : m.history.tracks.tail = n.history.tracks.tail
  root : m.history.root = n.history.root

/-- What an operation that stays makes of the history: it leaves it alone, or it retops it with
another layer of the current page. -/
inductive StayStep (n m : Navigator P) (op : Operation P) : Prop where
  | same (idle : op.uncovers = true ∨ n.menuShown = true) (menuShown : Bool)
    (left : m = { n with menuShown })
  | retopped (entered : op.uncovers = true → n.history.tracks ≠ []) (menuShown : Bool)
    (layer : Layer)
    (put : m = { n with menuShown, history := n.history.replaceTop ⟨n.current, layer⟩ })

/-- An exhausted history shows a bare table. -/
theorem top_of_exhausted (h : n.history.tracks = []) : n.top = .table n.history.root := by
  rw [top, History.top, h]
  rfl

/-- To land on the current page no page has to be made. -/
theorem Sound.ensure_stays (h : n.Sound) {f : Factory P} {name : String}
    (stays : n.landing f name = n.current) : (n.ensure f name).1 = n := by
  cases hp : n.page? name with
  | some view => rw [ensure_registered hp]
  | none =>
    cases hf : f.make name with
    | none => rw [ensure_refused hp hf]
    | some page =>
      -- a page that is made is another one, for the current page is registered
      rw [landing, ensure_made hp hf] at stays
      obtain rfl : name = n.current := stays
      cases hp.symm.trans h.currentView_eq

theorem Sound.switchPage_stays (h : n.Sound) {f : Factory P} {name : String}
    (stays : n.landing f name = n.current) (layer : Layer) :
    (n.switchPage f name layer).1 = { n with
      menuShown := false
      history := n.history.replaceTop ⟨n.current, layer⟩ } := by
  rw [switchPage_eq, h.ensure_stays stays, stays, Navigator.shown, if_pos rfl]

theorem Sound.stay_step (h : n.Sound) (stays : op.Stays n) : StayStep n (op.apply n) op := by
  cases op with
  | switchPage f name layer => exact .retopped nofun false layer (h.switchPage_stays stays layer)
  | navigate f name => exact .retopped nofun false .table (h.switchPage_stays stays .table)
  | showMenu =>
    cases hm : n.menuShown with
    | true =>
      have idle : n.showMenu = (n, false) := if_pos hm
      exact .same (.inr hm) n.menuShown (congrArg Prod.fst idle)
    | false => exact .retopped nofun true .menu (by simp [Operation.apply, showMenu, hm])
  | hideMenu =>
    cases hm : n.menuShown with
    | false =>
      have idle : n.hideMenu = (n, false) := if_pos (by simp [hm])
      exact .same (.inl rfl) n.menuShown (congrArg Prod.fst idle)
    | true =>
      by_cases hl : n.top.layer = .menu
      · refine .retopped (fun _ empty => ?_) false .table ?_
        · rw [top_of_exhausted empty] at hl
          cases hl
        · have ht : top { n with menuShown := false } = n.top := rfl
          simp [Operation.apply, hideMenu, hm, ht, hl, Track.table]
      · refine .same (.inl rfl) false ?_
        have ht : top { n with menuShown := false } = n.top := rfl
        simp [Operation.apply, hideMenu, hm, ht, hl]
  | dismissOverlay =>
    cases hl : n.top.layer.isOverlay with
    | false => exact .same (.inl rfl) n.menuShown (by rw [Operation.apply, dismissOverlay, hl]; rfl)
    | true =>
      refine .retopped (fun _ empty => ?_) false .table ?_
      · rw [top_of_exhausted empty] at hl
        cases hl
      · rw [Operation.apply, dismissOverlay, hl]
        rfl
  | goBack f => exact absurd stays id
  | reload f => exact absurd stays id
  | recordPosition page position => exact absurd stays id

theorem StayStep.onTop (step : StayStep n m op) (h : n.Sound) : OnTop n m := by
  cases step with
  | same idle menuShown left =>
    subst left
    exact ⟨rfl, rfl, rfl, rfl, rfl⟩
  | retopped entered menuShown layer put =>
    subst put
    exact ⟨rfl, rfl, h.top_current.symm, rfl, rfl⟩

/-- On an exhausted history the menu is not marked. -/
def Unmarked (n : Navigator P) : Prop := n.history.tracks = [] → n.menuShown = false

/-- The history is only ever exhausted by a step back, which takes the mark away. -/
theorem Unmarked.apply (h : n.Unmarked) (op : Operation P) : (op.apply n).Unmarked := by
  intro empty
  have shown (m : Navigator P) (target : String) (layer : Layer) :
      (m.shown target layer).menuShown = false := (m.shown_cases target layer).1
  cases op with
  | switchPage f name layer =>
    rw [Operation.apply, switchPage_eq]
    exact shown _ _ _
  | navigate f name =>
    rw [Operation.apply, navigate, switchPage_eq]
    exact shown _ _ _
  | goBack f => exact (n.goBack_cases f).1
  | showMenu =>
    rcases n.showMenu_cases with ⟨-, idle⟩ | ⟨-, -, -, layer⟩
    · have same : Operation.showMenu.apply n = n := congrArg Prod.fst idle
      rw [same] at empty ⊢
      exact h empty
    · have bare := top_of_exhausted empty
      change n.showMenu.1.top = _ at bare
      rw [bare] at layer
      cases layer
  | hideMenu =>
    rcases n.hideMenu_cases with ⟨unmarked, idle⟩ | ⟨-, -, mark, -⟩
    · have same : Operation.hideMenu.apply n = n := congrArg Prod.fst idle
      rw [same]
      exact unmarked
    · exact mark
  | dismissOverlay =>
    cases hl : n.top.layer.isOverlay with
    | false =>
      have same : Operation.dismissOverlay.apply n = n := by
        rw [Operation.apply, dismissOverlay, hl]
        rfl
      rw [same] at empty ⊢
      exact h empty
    | true =>
      rw [Operation.apply, dismissOverlay, hl]
      rfl
  | reload f =>
    obtain ⟨mark, ⟨-, -, history⟩ | ⟨-, -, history⟩⟩ := n.reload_cases f
    · rw [Operation.apply, history] at empty
      exact mark.trans (h empty)
    · rw [Operation.apply, history] at empty
      cases empty
  | recordPosition page position => exact h empty

theorem Unmarked.after (h : n.Unmarked) (operations : List (Operation P)) :
    (n.after operations).Unmarked := by
  induction operations generalizing n with
  | nil => exact h
  | cons op operations ih => exact ih (h.apply op)

/-- After any operations, what lies over the current page comes and goes without a trace in the
history: no entry below the newest is touched, that one keeps its name, and nothing else changes.
The number of entries stays the same unless the history is exhausted and something is put over the
root page; that becomes the first entry. -/
theorem overlays_leave_history {root : String} {f : Factory P} {start : Navigator P}
    (opened : start? f root = some start) (operations : List (Operation P)) {op : Operation P}
    (stays : op.Stays (start.after operations)) :
    let n := start.after operations
    let m := op.apply n
    OnTop n m ∧
      (m.history.size = n.history.size ↔ n.history.size ≠ 0 ∨ op.uncovers = true) ∧
      (n.history.size = 0 → op.uncovers = false →
        m.history.tracks = [m.top] ∧ m.top.name = root) := by
  intro n m
  have sound : n.Sound := (start_sound opened).after operations
  have unmarked : n.Unmarked :=
    Unmarked.after (fun _ => (start_menu opened).1) operations
  have hr : n.root = root := by
    obtain ⟨page, -, rfl⟩ := start_eq opened
    exact (after_root _ operations).trans (shown_same_pages _ _ _).root
  have step : StayStep n m op := sound.stay_step stays
  have onTop : OnTop n m := step.onTop sound
  have exhausted : n.history.size = 0 ↔ n.history.tracks = [] := List.length_eq_zero_iff
  refine ⟨onTop, ?_⟩
  cases step with
  | same idle menuShown left =>
    have size : m.history.size = n.history.size := by rw [left]
    -- on an exhausted history there is no mark that could keep the menu away
    have uncovers (empty : n.history.size = 0) : op.uncovers = true :=
      idle.resolve_right fun hm => by simp [unmarked (exhausted.mp empty)] at hm
    refine ⟨iff_of_true size ?_, fun empty covers => ?_⟩
    · by_cases empty : n.history.size = 0
      · exact .inr (uncovers empty)
      · exact .inl empty
    · rw [uncovers empty] at covers
      cases covers
  | retopped entered menuShown layer put =>
    have size : m.history.size = n.history.tracks.tail.length + 1 := by rw [put]; rfl
    have covers (empty : n.history.size = 0) : op.uncovers ≠ true :=
      fun uncovers => entered uncovers (exhausted.mp empty)
    refine ⟨?_, fun empty _ => ⟨?_, ?_⟩⟩
    · rw [size, List.length_tail]
      change n.history.size - 1 + 1 = n.history.size ↔ _
      by_cases empty : n.history.size = 0
      · simp [empty, covers empty]
      · exact iff_of_true (by omega) (.inl empty)
    · have bare : m.history.tracks = m.top :: n.history.tracks.tail := by rw [put]; rfl
      rw [bare, exhausted.mp empty]
      rfl
    · rw [onTop.name, top_of_exhausted (exhausted.mp empty), sound.history_root, hr]
      rfl

/-- The way back is walked beyond its end. -/
def drained : List (Operation CountedPage) :=
  let all := CountedPage.factory []
  [.navigate all "nodes", .showMenu, .goBack all, .goBack all, .goBack all]

/-- A refused name leads to the root page, here under a text. -/
def refusedDetail : Operation CountedPage :=
  .switchPage (CountedPage.factory ["gone"]) "gone" (.detail "yaml" "kind: Node")

theorem overlays_leave_drained_history :
    ∃ start, start? (CountedPage.factory []) "root" = some start ∧
      let n := start.after drained
      let m := refusedDetail.apply n
      n.history.tracks = [] ∧ OnTop n m ∧ m.history.tracks = [m.top] ∧ m.history.size ≠ 0 ∧
        OnTop m (Operation.dismissOverlay.apply m) ∧
        (Operation.dismissOverlay.apply m).history.size = m.history.size := by
  have opened : start? (CountedPage.factory []) "root" = some _ := rfl
  have put := overlays_leave_history opened drained (show refusedDetail.Stays _ by decide)
  have taken := overlays_leave_history opened (drained ++ [refusedDetail])
    (show Operation.dismissOverlay.Stays _ from trivial)
  exact ⟨_, opened, by decide, put.1, (put.2.2 (by decide) rfl).1, by decide, taken.1,
    taken.2.1.mpr (.inr rfl)⟩

theorem menu_deepens_drained_history :
    ∃ start, start? (CountedPage.factory []) "root" = some start ∧
      let n := start.after drained
      Operation.showMenu.Stays n ∧ refusedDetail.Stays n ∧ n.history.size = 0 ∧
        (Operation.showMenu.apply n).history.size = 1 ∧
        (refusedDetail.apply n).history.size = 1 :=
  ⟨_, rfl, trivial, by decide, by decide, by decide, by decide⟩

end ClusterDashboard.Navigator
