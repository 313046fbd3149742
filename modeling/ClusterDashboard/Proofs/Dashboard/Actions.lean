import ClusterDashboard.Proofs.Dashboard.Situation
/-!
# What an action does to the question

No action but `delete` opens a question, and that one asks about the row that is selected. Only
the answer yes leaves a deletion to be carried out, and it is the one that waited.
-/
namespace ClusterDashboard.Dashboard

variable {S J : Type} {d : Dashboard S J} {target : Target}

open Situation (Quiet Asking)

theorem closeQuestion_quiet (h : d.situation.Calm) : d.closeQuestion.situation.Quiet := by
  have hs : d.nav.Sound := d.nav.course_sound.mp h.sound
  have hd : d.closeQuestion.situation =
      ⟨(d.nav.dismissOverlay).1.course, d.covered, .normal, none⟩ := by
    simp only [closeQuestion, dismissOverlay, withNav, situation, nav, Session.withNav_nav]
  rw [hd]
  have hm : Mode.normal ≠ .confirm := by decide
  refine ⟨⟨(Navigator.course_sound _).mpr (hs.apply .dismissOverlay), h.covered⟩, hm, rfl, ?_⟩
  change d.nav.dismissOverlay.1.top.layer.isConfirm = false
  rw [Navigator.dismissOverlay_top]
  rfl

namespace Quiet

theorem openPage (h : d.situation.Quiet) (name : String) : (d.openPage name).situation.Quiet := by
  have hn : (d.withNav (·.navigate d.factory name)).1.situation.Quiet :=
    withNav h (.navigate d.factory name) rfl rfl
  have hs : (situation { (d.withNav (·.navigate d.factory name)).1 with scroll := 0 }).Quiet := hn
  exact say (triggerRefresh hs) _

theorem goBack (h : d.situation.Quiet) : d.goBack.situation.Quiet := by
  have hn : (d.withNav (·.goBack d.factory)).1.situation.Quiet :=
    withNav h (.goBack d.factory) rfl rfl
  have hs : (situation { (d.withNav (·.goBack d.factory)).1 with scroll := 0 }).Quiet := hn
  exact say (triggerRefresh hs) _

theorem escape (h : d.situation.Quiet) : d.escape.situation.Quiet := by
  unfold Dashboard.escape
  split
  · exact clearStatus h
  · dsimp only
    split
    · exact dismissOverlay h
    · exact goBack (dismissOverlay h)

theorem toggleMenu (h : d.situation.Quiet) : d.toggleMenu.situation.Quiet := by
  unfold Dashboard.toggleMenu
  split
  · exact withNav h .hideMenu rfl rfl
  · exact withNav h .showMenu rfl rfl

theorem goToPage (h : d.situation.Quiet) (digit : Nat) : (d.goToPage digit).situation.Quiet := by
  unfold Dashboard.goToPage
  split
  · exact openPage h _
  · exact h

theorem refresh (h : d.situation.Quiet) : d.refresh.situation.Quiet := by
  have ht := triggerRefresh h
  unfold Dashboard.refresh
  dsimp only
  split
  · exact showStatus ht _ _
  · exact ht

theorem moveOnPage (h : d.situation.Quiet) (change : TableView → TableView) :
    (d.moveOnPage change).situation.Quiet :=
  withNav (onPage h _) (.recordPosition _ _) rfl rfl

theorem moveBy (h : d.situation.Quiet) (delta : Int) : (d.moveBy delta).situation.Quiet := by
  unfold Dashboard.moveBy
  split
  · exact h
  · exact moveOnPage h _

theorem toTop (h : d.situation.Quiet) : d.toTop.situation.Quiet := by
  unfold Dashboard.toTop
  split
  · exact h
  · exact moveOnPage h _

theorem toBottom (h : d.situation.Quiet) : d.toBottom.situation.Quiet := by
  unfold Dashboard.toBottom
  split
  · exact h
  · exact moveOnPage h _

theorem selectedTarget (h : d.situation.Quiet) : d.selectedTarget.1.situation.Quiet := by
  unfold Dashboard.selectedTarget
  split
  · exact showError h _
  · split
    · exact h
    · exact showError h _

theorem selectedPod (h : d.situation.Quiet) : d.selectedPod.1.situation.Quiet := by
  unfold Dashboard.selectedPod
  split
  · exact selectedTarget h
  · exact showError h _

/-- What is done with a target, if there is one. -/
theorem withTarget {found : Dashboard S J × Option Target} (h : found.1.situation.Quiet)
    {act : Dashboard S J → Target → Dashboard S J} {effect : Target → Effect}
    (ha : ∀ d target, d.situation.Quiet → (act d target).situation.Quiet) :
    (match found with
      | (d, some target) => (act d target, effect target)
      | (d, none) => (d, .none)).1.situation.Quiet := by
  obtain ⟨d, target⟩ := found
  cases target with
  | none => exact h
  | some target => exact ha d target h

theorem loadDetail (h : d.situation.Quiet) (verb : DetailVerb) :
    (d.loadDetail verb).1.situation.Quiet :=
  withTarget (selectedTarget h) fun _ _ hq => say hq _

theorem followLogs (h : d.situation.Quiet) : d.followLogs.1.situation.Quiet :=
  withTarget (selectedPod h) fun _ _ hq => say hq _

theorem openRow (h : d.situation.Quiet) : d.openRow.1.situation.Quiet := by
  unfold Dashboard.openRow
  split
  · exact loadDetail h _
  · split
    · exact showError h _
    · split
      · exact openPage h _
      · exact showError h _

theorem setMode (h : d.situation.Quiet) {mode : Mode} (hm : mode ≠ .confirm) (input : String) :
    (situation { d with mode, input }).Quiet :=
  ⟨⟨h.sound, h.covered⟩, hm, h.pending, h.top⟩

theorem confirmNo (h : d.situation.Quiet) : d.confirmNo.situation.Quiet := by
  unfold Dashboard.confirmNo
  split <;> exact closeQuestion_quiet h.toCalm

theorem applyFilter (h : d.situation.Quiet) : d.applyFilter.situation.Quiet := by
  unfold Dashboard.applyFilter
  split
  · exact onPage h _
  · exact h

theorem cancelInput (h : d.situation.Quiet) : d.cancelInput.situation.Quiet := by
  unfold Dashboard.cancelInput
  dsimp only
  split
  · exact setMode (onPage h _) (by decide) _
  · exact setMode h (by decide) _

theorem setScope (h : d.situation.Quiet) (scope : Scope) : (d.setScope scope).situation.Quiet := by
  unfold Dashboard.setScope
  split
  · exact h
  · have hs : (situation { d with scope }).Quiet := h
    have hn : (Dashboard.withNav (fun nav => (nav.reload (factory { d with scope }), ()))
        { d with scope }).1.situation.Quiet :=
      withNav hs (.reload (factory { d with scope })) rfl rfl
    exact say (triggerRefresh hn) _

theorem openWord (h : d.situation.Quiet) (word : String) :
    (d.openWord word).situation.Quiet := by
  unfold Dashboard.openWord
  dsimp only
  split
  · exact openPage h _
  · exact showError h _

theorem runCommand (h : d.situation.Quiet) (line : String) :
    (d.runCommand line).situation.Quiet := by
  unfold Dashboard.runCommand
  split
  · exact h
  split
  · exact h
  split
  · exact openPage h _
  split
  · split
    · exact setScope h _
    · exact openWord h _
  · exact openWord h _

theorem submitInput (h : d.situation.Quiet) : d.submitInput.situation.Quiet := by
  have hs : (situation { d with input := "", mode := .normal }).Quiet := setMode h (by decide) ""
  unfold Dashboard.submitInput
  dsimp only
  split
  · exact say (onPage hs _) _
  · exact runCommand hs _
  · exact hs
  · exact hs

/-- Every action but the one that asks. -/
theorem dispatch (h : d.situation.Quiet) {action : Action} (ha : action ≠ .delete) :
    (d.dispatch action).1.situation.Quiet := by
  cases action with
  | delete => exact absurd rfl ha
  | quit => exact h
  | goToPage digit => exact goToPage h digit
  | toggleMenu => exact toggleMenu h
  | escape => exact escape h
  | back => exact goBack h
  | refresh => exact refresh h
  | down | up | pageDown | pageUp => exact moveBy h _
  | left | right => exact moveOnPage h _
  | top => exact toTop h
  | bottom => exact toBottom h
  | openRow => exact openRow h
  | showYaml | describe => exact loadDetail h _
  | logs => exact followLogs h
  | edit => exact withTarget (selectedTarget h) fun _ _ hq => hq
  | shell => exact withTarget (selectedPod h) fun _ _ hq => hq
  | confirmYes => exact closeQuestion_quiet h.toCalm
  | confirmNo => exact confirmNo h
  | startSearch | startCommand => exact setMode h (by decide) _
  | inputChar c => exact applyFilter h
  | backspace => exact applyFilter h
  | cancelInput => exact cancelInput h
  | submitInput => exact submitInput h

end Quiet

theorem selectedTarget_cases (d : Dashboard S J) :
    d.selectedTarget.2 = none ∨ ∃ row target, d.page.view.selectedRow? = some row ∧
      Target.ofRow? d.page.kind row = some target ∧ d.selectedTarget = (d, some target) := by
  unfold selectedTarget
  split
  · exact .inl rfl
  · next row hr =>
    split
    · next target ht => exact .inr ⟨row, target, hr, ht, rfl⟩
    · exact .inl rfl

theorem askDelete_situation (hs : d.selectedTarget = (d, some target)) :
    d.askDelete.situation = ⟨(d.nav.switchPage d.factory d.currentName
      (.confirm (deletePrompt target))).1.course, d.covered, .confirm, some target⟩ := by
  simp only [askDelete, hs]
  simp only [situation, showLayer, withNav, nav, Session.withNav_nav]

/-- Asking opens the question for the selected row, if that is a target at all. -/
theorem askDelete_cases (h : d.situation.Quiet) :
    d.askDelete.situation.Quiet ∨ ∃ row target, d.page.view.selectedRow? = some row ∧
      Target.ofRow? d.page.kind row = some target ∧ d.askDelete.situation.Asking target := by
  rcases selectedTarget_cases d with hn | ⟨row, target, hr, ht, hs⟩
  · have hq := Quiet.selectedTarget h
    unfold askDelete
    cases hs : d.selectedTarget with
    | mk e target =>
      rw [hs] at hn hq
      obtain rfl : target = none := hn
      exact .inl hq
  · refine .inr ⟨row, target, hr, ht, ?_⟩
    have hd : d.nav.Sound := d.nav.course_sound.mp h.sound
    have hl := hd.apply (.switchPage d.factory d.currentName (.confirm (deletePrompt target)))
    rw [askDelete_situation hs]
    refine ⟨⟨(Navigator.course_sound _).mpr hl, h.covered⟩, rfl, rfl, ?_⟩
    change (d.nav.switchPage _ _ _).1.top.layer = _
    rw [Navigator.switchPage_eq, Navigator.shown_top]

theorem loadDetail_effect (verb : DetailVerb) (d : Dashboard S J) (target : Target) :
    (d.loadDetail verb).2 ≠ .delete target := by
  unfold loadDetail
  split <;> nofun

theorem followLogs_effect (d : Dashboard S J) (target : Target) :
    d.followLogs.2 ≠ .delete target := by
  unfold followLogs
  split <;> nofun

theorem openRow_effect (d : Dashboard S J) (target : Target) : d.openRow.2 ≠ .delete target := by
  unfold openRow
  split
  · exact loadDetail_effect _ d target
  · split
    · nofun
    · split <;> nofun

/-- Only the answer yes has a target deleted, and it is the one that waits. -/
theorem dispatch_delete {action : Action} (h : (d.dispatch action).2 = .delete target) :
    action = .confirmYes ∧ d.pendingDelete = some target := by
  cases action with
  | confirmYes =>
    refine ⟨rfl, ?_⟩
    simp only [dispatch, confirmYes] at h
    cases hp : d.pendingDelete with
    | none =>
      rw [hp] at h
      cases h
    | some waiting =>
      rw [hp] at h
      cases h
      rfl
  | showYaml | describe => exact absurd h (loadDetail_effect _ d target)
  | logs => exact absurd h (followLogs_effect d target)
  | openRow => exact absurd h (openRow_effect d target)
  | edit | shell =>
    simp only [dispatch] at h
    split at h <;> cases h
  | _ => cases h

theorem press_delete {key : Key} (h : (d.press key).2 = .delete target) :
    key.action? d.mode = some .confirmYes ∧ d.pendingDelete = some target := by
  unfold press at h
  split at h
  · rename_i action ha
    obtain ⟨rfl, hp⟩ := dispatch_delete h
    exact ⟨ha, hp⟩
  · cases h

theorem act_situation (action : Action) (d : Dashboard S J) :
    (d.act action).1.situation = (d.dispatch action).1.situation :=
  syncStream_situation _

end ClusterDashboard.Dashboard
