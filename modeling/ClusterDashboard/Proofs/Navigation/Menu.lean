import ClusterDashboard.Proofs.Navigation.Fallbacks
/-!
# The menu and its mark

That the menu is shown is marked beside the history. The mark tells the truth until a reload puts
the root page in the place of a page under the menu: the mark then outlives the menu, until the
navigator moves or the menu is hidden.
-/
namespace ClusterDashboard.Navigator

variable {P : Type} {n m : Navigator P} {op : Operation P}

/-- The menu is put on the screen as a layer of a page. -/
def Operation.layersMenu : Operation P → Bool
  | .switchPage _ _ layer => layer == .menu
  | _ => false

/-- The current page has the menu over it, and cannot be made anew. -/
def Operation.LosesMenu (n : Navigator P) : Operation P → Prop
  | .reload f => n.top.layer = .menu ∧ n.Unmade f
  | _ => False

/-- Over a table, the operation leaves a mark where it is. -/
def Operation.leavesMark : Operation P → Bool
  | .showMenu | .dismissOverlay | .reload _ | .recordPosition _ _ => true
  | .switchPage _ _ _ | .navigate _ _ | .goBack _ | .hideMenu => false

instance (n : Navigator P) : (op : Operation P) → Decidable (op.LosesMenu n)
  | .reload f => inferInstanceAs (Decidable (_ ∧ n.Unmade f))
  | .switchPage .. | .navigate .. | .goBack _ | .showMenu | .hideMenu | .dismissOverlay
  | .recordPosition .. => .isFalse id

/-- The menu was lost, and nothing since has taken its mark away. -/
def MenuLost (start : Navigator P) (operations : List (Operation P)) : Prop :=
  Trace.Since Operation.LosesMenu (fun _ op => op.leavesMark = true) Operation.apply start
    operations

instance (start : Navigator P) (operations : List (Operation P)) :
    Decidable (MenuLost start operations) :=
  inferInstanceAs (Decidable (Trace.Since ..))

/-- The menu is marked exactly when it is there, comes up when it is asked for, and is closed when
it is said to be. -/
structure MenuHonest (n : Navigator P) : Prop where
  marked : n.menuShown = true ↔ n.top.layer = .menu
  comes : n.showMenu.1.top.layer = .menu
  idle : n.showMenu.2 = false → n.top.layer = .menu
  goes : n.hideMenu.2 = true → n.top.layer = .menu ∧ n.hideMenu.1.top.layer = .table

/-- The mark stands without the menu: the menu does not come up, and hiding it hides nothing. -/
structure MenuGhost (n : Navigator P) : Prop where
  marked : n.menuShown = true
  bare : n.top.layer = .table
  idle : n.showMenu = (n, false)
  goes : n.hideMenu.2 = true ∧ n.hideMenu.1.top = n.top

/-- The menu is marked when it is there; a mark is on the menu or on a table. -/
structure Marked (n : Navigator P) : Prop where
  menu (h : n.top.layer = .menu) : n.menuShown = true
  mark (h : n.menuShown = true) : n.top.layer = .menu ∨ n.top.layer = .table

/-- What an operation does to the menu and its mark. -/
inductive MenuStep (n m : Navigator P) (op : Operation P) : Prop where
  | cleared (leaves : op.leavesMark = false) (spared : ¬op.LosesMenu n)
    (mark : m.menuShown = false) (layer : m.top.layer ≠ .menu)
  | kept (leaves : op.leavesMark = true) (spared : ¬op.LosesMenu n)
    (mark : m.menuShown = n.menuShown) (layer : m.top.layer = n.top.layer)
  | raised (leaves : op.leavesMark = true) (spared : ¬op.LosesMenu n)
    (unmarked : n.menuShown = false) (mark : m.menuShown = true) (layer : m.top.layer = .menu)
  | dismissed (leaves : op.leavesMark = true) (spared : ¬op.LosesMenu n)
    (covered : n.top.layer.isOverlay = true) (mark : m.menuShown = false)
    (layer : m.top.layer = .table)
  | replaced (leaves : op.leavesMark = true) (loses : op.LosesMenu n ↔ n.top.layer = .menu)
    (mark : m.menuShown = n.menuShown) (layer : m.top.layer = .table)

theorem switchPage_menu (n : Navigator P) (f : Factory P) (name : String) (layer : Layer) :
    (n.switchPage f name layer).1.menuShown = false ∧
      (n.switchPage f name layer).1.top.layer = layer := by
  rw [switchPage_eq, shown_top]
  exact ⟨(shown_cases _ _ layer).1, rfl⟩

theorem goBack_menu (h : n.Grounded) (f : Factory P) :
    (n.goBack f).1.menuShown = false ∧ (n.goBack f).1.top.layer ≠ .menu := by
  refine ⟨(n.goBack_cases f).1, fun hl => ?_⟩
  have settled := h.goBack_settled f
  rw [hl] at settled
  cases settled

theorem showMenu_cases (n : Navigator P) :
    n.menuShown = true ∧ n.showMenu = (n, false) ∨
      n.menuShown = false ∧ n.showMenu.2 = true ∧ n.showMenu.1.menuShown = true ∧
        n.showMenu.1.top.layer = .menu := by
  cases h : n.menuShown with
  | true => exact .inl ⟨rfl, by rw [showMenu, h]; rfl⟩
  | false => exact .inr ⟨rfl, by rw [showMenu, h]; exact ⟨rfl, rfl, rfl⟩⟩

theorem hideMenu_cases (n : Navigator P) :
    n.menuShown = false ∧ n.hideMenu = (n, false) ∨
      n.menuShown = true ∧ n.hideMenu.2 = true ∧ n.hideMenu.1.menuShown = false ∧
        (n.top.layer = .menu ∧ n.hideMenu.1.top.layer = .table ∨
          n.top.layer ≠ .menu ∧ n.hideMenu.1.top = n.top) := by
  cases h : n.menuShown with
  | false => exact .inl ⟨rfl, by rw [hideMenu, h]; rfl⟩
  | true =>
    refine .inr ⟨rfl, ?_⟩
    rw [hideMenu, if_neg (by simp [h])]
    dsimp only
    split
    · next hl => exact ⟨rfl, rfl, .inl ⟨hl, rfl⟩⟩
    · next hl => exact ⟨rfl, rfl, .inr ⟨hl, rfl⟩⟩

theorem Marked.step (h : Marked n) (hg : n.Grounded) (direct : op.layersMenu = false) :
    MenuStep n (op.apply n) op := by
  cases op with
  | switchPage f name layer =>
    obtain ⟨mark, ht⟩ := switchPage_menu n f name layer
    refine .cleared rfl id mark fun hl => ?_
    rw [show ((Operation.switchPage f name layer).apply n).top.layer = layer from ht] at hl
    subst hl
    cases direct
  | navigate f name =>
    obtain ⟨mark, ht⟩ := switchPage_menu n f name .table
    exact .cleared rfl id mark fun hl => Layer.noConfusion (ht.symm.trans hl)
  | goBack f =>
    obtain ⟨mark, layer⟩ := goBack_menu hg f
    exact .cleared rfl id mark layer
  | showMenu =>
    rcases showMenu_cases n with ⟨marked, idle⟩ | ⟨unmarked, -, mark, layer⟩
    · have same : Operation.showMenu.apply n = n := congrArg Prod.fst idle
      rw [same]
      exact .kept rfl id rfl rfl
    · exact .raised rfl id unmarked mark layer
  | hideMenu =>
    rcases hideMenu_cases n with ⟨unmarked, idle⟩ | ⟨marked, -, mark, ⟨-, ht⟩ | ⟨hl, ht⟩⟩
    · have same : Operation.hideMenu.apply n = n := congrArg Prod.fst idle
      rw [same]
      refine .cleared rfl id unmarked fun hl => ?_
      exact Bool.noConfusion (unmarked.symm.trans (h.menu hl))
    · exact .cleared rfl id mark fun hl => Layer.noConfusion (ht.symm.trans hl)
    · exact .cleared rfl id mark fun hm => hl (ht ▸ hm)
  | dismissOverlay =>
    cases hl : n.top.layer.isOverlay with
    | false =>
      have same : Operation.dismissOverlay.apply n = n := by
        rw [Operation.apply, dismissOverlay, hl]
        rfl
      rw [same]
      exact .kept rfl id rfl rfl
    | true =>
      refine .dismissed rfl id hl ?_ (dismissOverlay_top n)
      rw [Operation.apply, dismissOverlay, hl]
      rfl
  | reload f =>
    obtain ⟨mark, ⟨made, -, history⟩ | ⟨unmade, -, history⟩⟩ := n.reload_cases f
    · refine .kept rfl (fun lost => made lost.2) mark ?_
      rw [Operation.apply, top, history]
      rfl
    · refine .replaced rfl ⟨fun lost => lost.1, fun hl => ⟨hl, unmade⟩⟩ mark ?_
      rw [Operation.apply, top, history]
      rfl
  | recordPosition page position => exact .kept rfl id rfl rfl

theorem MenuStep.marked (step : MenuStep n m op) (h : Marked n) : Marked m := by
  cases step with
  | cleared _ _ mark layer => exact ⟨fun hl => absurd hl layer, fun hm => by simp [mark] at hm⟩
  | kept _ _ mark layer =>
    refine ⟨?_, ?_⟩
    · rw [mark, layer]
      exact h.menu
    · rw [mark, layer]
      exact h.mark
  | raised _ _ _ mark layer => exact ⟨fun _ => mark, fun _ => .inl layer⟩
  | dismissed _ _ _ mark layer =>
    exact ⟨fun hl => by simp [layer] at hl, fun hm => by simp [mark] at hm⟩
  | replaced _ _ mark layer => exact ⟨fun hl => by simp [layer] at hl, fun _ => .inr layer⟩

/-- The menu is marked and not there. -/
def Unmenued (n : Navigator P) : Prop := n.menuShown = true ∧ n.top.layer ≠ .menu

theorem MenuStep.unmenued (step : MenuStep n m op) (h : Marked n) :
    Unmenued m ↔ op.LosesMenu n ∨ Unmenued n ∧ op.leavesMark = true := by
  cases step with
  | cleared leaves spared mark => simp [Unmenued, mark, spared, leaves]
  | kept leaves spared mark layer => simp [Unmenued, mark, layer, spared, leaves]
  | raised leaves spared unmarked mark layer => simp [Unmenued, unmarked, layer, spared]
  | dismissed leaves spared covered mark layer =>
    -- a mark without the menu is over a table, where there is nothing to dismiss
    have bare : ¬Unmenued n := by
      rintro ⟨marked, hl⟩
      rcases h.mark marked with hm | ht
      · exact hl hm
      · rw [ht] at covered
        cases covered
    have gone : ¬Unmenued m := fun hm => Bool.noConfusion (mark.symm.trans hm.1)
    simp [gone, bare, spared]
  | replaced leaves loses mark layer =>
    rw [loses, Unmenued, Unmenued, mark, layer]
    constructor
    · rintro ⟨marked, -⟩
      by_cases hl : n.top.layer = .menu
      · exact .inl hl
      · exact .inr ⟨⟨marked, hl⟩, leaves⟩
    · rintro (hl | ⟨⟨marked, -⟩, -⟩)
      · exact ⟨h.menu hl, nofun⟩
      · exact ⟨marked, nofun⟩

theorem start_menu {root : String} {f : Factory P} (h : start? f root = some n) :
    n.menuShown = false ∧ n.top.layer = .table := by
  obtain ⟨page, -, rfl⟩ := start_eq h
  exact ⟨(shown_cases _ _ _).1, by rw [shown_top]⟩

theorem MenuHonest.of_marked (h : Marked n) (bare : ¬Unmenued n) : MenuHonest n := by
  have marked : n.menuShown = true ↔ n.top.layer = .menu := by
    refine ⟨fun hm => ?_, h.menu⟩
    by_cases hl : n.top.layer = .menu
    · exact hl
    · exact absurd ⟨hm, hl⟩ bare
  refine ⟨marked, ?_, ?_, ?_⟩
  · rcases showMenu_cases n with ⟨hm, idle⟩ | ⟨-, -, -, layer⟩
    · rw [idle]
      exact marked.mp hm
    · exact layer
  · intro idle
    rcases showMenu_cases n with ⟨hm, -⟩ | ⟨-, raised, -⟩
    · exact marked.mp hm
    · exact Bool.noConfusion (raised.symm.trans idle)
  · intro goes
    rcases hideMenu_cases n with ⟨-, idle⟩ | ⟨hm, -, -, ⟨hl, table⟩ | ⟨hl, -⟩⟩
    · rw [idle] at goes
      cases goes
    · exact ⟨hl, table⟩
    · exact absurd (marked.mp hm) hl

theorem MenuGhost.of_marked (h : Marked n) (unmenued : Unmenued n) : MenuGhost n := by
  obtain ⟨hm, hl⟩ := unmenued
  refine ⟨hm, (h.mark hm).resolve_left hl, ?_, ?_⟩
  · rcases showMenu_cases n with ⟨-, idle⟩ | ⟨unmarked, -⟩
    · exact idle
    · exact Bool.noConfusion (unmarked.symm.trans hm)
  · rcases hideMenu_cases n with ⟨unmarked, -⟩ | ⟨-, hides, -, ⟨hmenu, -⟩ | ⟨-, same⟩⟩
    · exact Bool.noConfusion (unmarked.symm.trans hm)
    · exact absurd hmenu hl
    · exact ⟨hides, same⟩

/-- After any operations that do not put the menu on the screen as a layer of a page, the menu is
marked when it is there. The mark, and what the operations say of the menu, can be relied on unless
a reload has lost a page under the menu and nothing since has taken the mark away; then the mark
stands without the menu. -/
theorem menu_honest_unless_lost {root : String} {f : Factory P} {start : Navigator P}
    (opened : start? f root = some start) (operations : List (Operation P))
    (direct : ∀ op ∈ operations, op.layersMenu = false) :
    ((start.after operations).top.layer = .menu → (start.after operations).menuShown = true) ∧
      (¬MenuLost start operations → MenuHonest (start.after operations)) ∧
      (MenuLost start operations → MenuGhost (start.after operations)) := by
  obtain ⟨unmarked, table⟩ := start_menu opened
  have valid : Trace.Valid (fun _ op => op.layersMenu = false) Operation.apply start operations :=
    Trace.valid_of_forall fun op hm _ => direct op hm
  have opening : start.Sound ∧ Marked start := by
    refine ⟨start_sound opened, fun hl => ?_, fun hm => ?_⟩
    · exact Layer.noConfusion (table.symm.trans hl)
    · exact Bool.noConfusion (unmarked.symm.trans hm)
  have keeps (n : Navigator P) (op : Operation P) (hd : op.layersMenu = false)
      (h : n.Sound ∧ Marked n) : (op.apply n).Sound ∧ Marked (op.apply n) :=
    ⟨h.1.apply op, (h.2.step h.1.toGrounded hd).marked h.2⟩
  have law := Trace.since_iff keeps
    (fun n op hd h => (h.2.step h.1.toGrounded hd).unmenued h.2) opening valid
  have marked := (Trace.run_induction (motive := fun n => n.Sound ∧ Marked n)
    opening keeps valid).2
  have never : ¬Unmenued start := fun h => Bool.noConfusion (unmarked.symm.trans h.1)
  rw [or_iff_left fun h => never h.1] at law
  refine ⟨marked.menu, fun kept => ?_, fun lost => ?_⟩
  · exact .of_marked marked fun h => kept (law.mp h)
  · exact .of_marked marked (law.mpr lost)

/-- The menu comes up over a page that a reload then loses; the mark is taken away, and the menu
comes up over another page, which a reload finds again. -/
def menuUnderReloads : List (Operation CountedPage) :=
  let all := CountedPage.factory []
  let fewer := CountedPage.factory ["pods"]
  [.navigate all "pods", .showMenu, .reload fewer, .showMenu, .hideMenu, .navigate fewer "nodes",
    .switchPage fewer "nodes" (.detail "yaml" "kind: Node"), .showMenu, .reload fewer]

theorem menu_honest_after_loss :
    ∃ start, start? (CountedPage.factory []) "root" = some start ∧
      (start.after menuUnderReloads).top = ⟨"nodes", .menu⟩ ∧
      MenuHonest (start.after menuUnderReloads) := by
  have opened : start? (CountedPage.factory []) "root" = some _ := rfl
  have h := menu_honest_unless_lost opened menuUnderReloads (by decide)
  exact ⟨_, opened, by decide, h.2.1 (by decide)⟩

/-- The page under the menu is refused when the pages are reloaded. -/
def menuLosingPage : List (Operation CountedPage) :=
  [.navigate (CountedPage.factory []) "pods", .showMenu, .reload (CountedPage.factory ["pods"])]

theorem menu_key_dead_after_reload :
    (∀ op ∈ menuLosingPage, op.layersMenu = false) ∧
    ∃ start, start? (CountedPage.factory []) "root" = some start ∧
      (start.after menuLosingPage).menuShown = true ∧
      (start.after menuLosingPage).top = .table "root" ∧
      (start.after menuLosingPage).showMenu.2 = false ∧
      (start.after menuLosingPage).showMenu.1.top = .table "root" ∧
      (start.after menuLosingPage).hideMenu.2 = true :=
  ⟨by decide, _, rfl, by decide, by decide, by decide, by decide, by decide⟩

end ClusterDashboard.Navigator
