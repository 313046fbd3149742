import ClusterDashboard.Proofs.Dashboard.Situation
import ClusterDashboard.Proofs.Text.Trimming
/-!
# What actions are made of

An action is a chain of a few kinds of deeds: going to a page or back, what is shown on top, the
question and the mode, a request for a refresh, a change of the page in view, and whatever concerns
none of these. What each of them keeps, every action keeps.
-/
namespace ClusterDashboard.Dashboard

variable {S J : Type} {d e : Dashboard S J}

/-- The change puts no blanks around the filter. -/
def Neat (change : TableView → TableView) : Prop :=
  ∀ view, Text.Trimmed view.filter.toList → Text.Trimmed (change view).filter.toList

theorem neat_of_keeps {change : TableView → TableView}
    (h : ∀ view, (change view).filter = view.filter) : Neat change :=
  fun view trimmed => (h view).symm ▸ trimmed

theorem neat_setFilter (text : String) : Neat (·.setFilter (Text.trim text)) :=
  fun _ _ => (Text.trimsTo_trim text).trimmed

/-- One deed after the other leads from `d` on. -/
inductive Leads (d : Dashboard S J) : Dashboard S J → Prop where
  | refl : Leads d d
  | openPage {e : Dashboard S J} (h : Leads d e) (name : String) : Leads d (e.openPage name)
  | goBack {e : Dashboard S J} (h : Leads d e) : Leads d e.goBack
  | showMenu {e : Dashboard S J} (h : Leads d e) : Leads d (e.withNav (·.showMenu)).1
  | hideMenu {e : Dashboard S J} (h : Leads d e) : Leads d (e.withNav (·.hideMenu)).1
  | dismissOverlay {e : Dashboard S J} (h : Leads d e) : Leads d e.dismissOverlay.1
  | recordPosition {e : Dashboard S J} (h : Leads d e) (page : String) (position : Position) :
    Leads d (e.withNav fun nav => (nav.recordPosition page position, ())).1
  | setScope {e : Dashboard S J} (h : Leads d e) (scope : Scope) : Leads d (e.setScope scope)
  | ask {e : Dashboard S J} (h : Leads d e) (target : Target) :
    Leads d { e.showLayer (.confirm (deletePrompt target)) with
      pendingDelete := some target
      mode := .confirm }
  | closeQuestion {e : Dashboard S J} (h : Leads d e) : Leads d e.closeQuestion
  | setMode {e : Dashboard S J} (h : Leads d e) (mode : Mode) (input : String)
    (unasked : mode ≠ .confirm) : Leads d { e with mode, input }
  | showStatus {e : Dashboard S J} (h : Leads d e) (message : String) (kind : StatusKind) :
    Leads d (e.showStatus message kind)
  | clearStatus {e : Dashboard S J} (h : Leads d e) : Leads d e.clearStatus
  | triggerRefresh {e : Dashboard S J} (h : Leads d e) : Leads d e.triggerRefresh.1
  | onPage {e : Dashboard S J} (h : Leads d e) (change : TableView → TableView)
    (neat : Neat change) : Leads d (e.onPage (·.onView change))
  /-- What is typed, what is reported, how a text is scrolled. -/
  | jot {e : Dashboard S J} (h : Leads d e) (running : Bool) (input status : String) (scroll : Nat)
    (following : Bool) : Leads d { e with running, input, status, scroll, following }

/-- Everything about log streams but how their output is scrolled. -/
structure Streams where
  held : Option Nat
  last : Nat
  lines : List String
  readers : Keyed Nat Kubectl.Follower

def streams (d : Dashboard S J) : Streams := ⟨d.stream, d.streamId, d.logLines, d.followers⟩

theorem showStatus_streams (d : Dashboard S J) (message : String) (kind : StatusKind) :
    (d.showStatus message kind).streams = d.streams := by
  rw [showStatus]
  dsimp only
  split <;> rfl

theorem clearStatus_streams (d : Dashboard S J) : d.clearStatus.streams = d.streams := by
  rw [clearStatus]
  split
  · split <;> rfl
  · rfl

theorem sound_of_situation (h : e.situation = d.situation) (hs : d.nav.Sound) : e.nav.Sound :=
  hs.of_course (congrArg Situation.course h)

theorem withNav_sound {α : Type} (h : d.nav.Sound)
    (op : Navigator.Operation (View TablePage))
    {act : Navigator (View TablePage) → Navigator (View TablePage) × α}
    (ha : (act d.nav).1 = op.apply d.nav) : (d.withNav act).1.nav.Sound := by
  rw [withNav_nav]
  exact ha ▸ h.apply op

theorem showLayer_sound (h : d.nav.Sound) (layer : Layer) : (d.showLayer layer).nav.Sound :=
  withNav_sound h (.switchPage d.factory d.currentName layer) rfl

theorem showLayer_nav (h : d.nav.Sound) (layer : Layer) :
    (d.showLayer layer).nav = { d.nav with
      menuShown := false
      history := d.nav.history.replaceTop ⟨d.currentName, layer⟩ } := by
  have hn : (d.showLayer layer).nav = (d.nav.switchPage d.factory d.nav.current layer).1 :=
    withNav_nav _ d
  rw [hn, Navigator.switchPage_eq, h.landing_current,
    Navigator.ensure_registered h.currentView_eq, Navigator.shown, if_pos rfl]
  rfl

theorem showLayer_top (h : d.nav.Sound) (layer : Layer) :
    (d.showLayer layer).top = ⟨d.currentName, layer⟩ := by
  rw [top, showLayer_nav h]
  rfl

theorem dismissOverlay_nav (d : Dashboard S J) :
    d.dismissOverlay.1.nav = d.nav.dismissOverlay.1 :=
  withNav_nav (·.dismissOverlay) d

theorem dismissOverlay_sound (h : d.nav.Sound) : d.dismissOverlay.1.nav.Sound :=
  withNav_sound h .dismissOverlay rfl

/-- Over a table there is nothing to dismiss. -/
theorem escape_bare (bare : d.top.layer.isOverlay = false) :
    d.dismissOverlay.1.nav = d.nav ∧ d.escape = d.dismissOverlay.1.goBack := by
  have idle : d.nav.dismissOverlay = (d.nav, false) := Navigator.dismissOverlay_bare bare
  have unheld : d.dismissOverlay.2 = false := congrArg Prod.snd idle
  have plain : d.top.layer.isStatus = false := by
    cases ht : d.top.layer with
    | status message kind =>
      rw [ht] at bare
      cases bare
    | _ => rfl
  refine ⟨(dismissOverlay_nav d).trans (congrArg Prod.fst idle), ?_⟩
  rw [escape, plain]
  simp [unheld]

theorem showStatus_sound (h : d.nav.Sound) (message : String) (kind : StatusKind) :
    (d.showStatus message kind).nav.Sound := by
  rw [showStatus]
  dsimp only
  split
  · exact h
  · have hc : nav { d.say message with covered := d.coveredBy d.top } |>.Sound := h
    exact showLayer_sound hc _

theorem clearStatus_sound (h : d.nav.Sound) : d.clearStatus.nav.Sound := by
  have hc : nav { d with covered := none } |>.Sound := h
  rw [clearStatus]
  split
  · split
    · exact showLayer_sound hc _
    · exact dismissOverlay_sound hc
  · exact dismissOverlay_sound hc

theorem triggerRefresh_sound (h : d.nav.Sound) : d.triggerRefresh.1.nav.Sound :=
  sound_of_situation (triggerRefresh_situation d) h

theorem openPage_sound (h : d.nav.Sound) (name : String) : (d.openPage name).nav.Sound := by
  have hn : (d.withNav (·.navigate d.factory name)).1.nav.Sound :=
    withNav_sound h (.navigate d.factory name) rfl
  have hs : (nav { (d.withNav (·.navigate d.factory name)).1 with scroll := 0 }).Sound := hn
  exact triggerRefresh_sound hs

theorem goBack_sound (h : d.nav.Sound) : d.goBack.nav.Sound := by
  have hn : (d.withNav (·.goBack d.factory)).1.nav.Sound := withNav_sound h (.goBack _) rfl
  have hs : (nav { (d.withNav (·.goBack d.factory)).1 with scroll := 0 }).Sound := hn
  exact triggerRefresh_sound hs

theorem setScope_sound (h : d.nav.Sound) (scope : Scope) : (d.setScope scope).nav.Sound := by
  rw [setScope]
  split
  · exact h
  · have hd : (nav { d with scope }).Sound := h
    exact triggerRefresh_sound (withNav_sound hd (.reload _) rfl)

namespace Leads

theorem sound (h : Leads d e) (hs : d.nav.Sound) : e.nav.Sound := by
  induction h with
  | refl => exact hs
  | openPage _ name ih => exact openPage_sound ih name
  | goBack _ ih => exact goBack_sound ih
  | showMenu _ ih => exact withNav_sound ih .showMenu rfl
  | hideMenu _ ih => exact withNav_sound ih .hideMenu rfl
  | dismissOverlay _ ih => exact dismissOverlay_sound ih
  | recordPosition _ page position ih => exact withNav_sound ih (.recordPosition page position) rfl
  | setScope _ scope ih => exact setScope_sound ih scope
  | ask _ target ih => exact showLayer_sound ih _
  | showStatus _ message kind ih => exact showStatus_sound ih message kind
  | clearStatus _ ih => exact clearStatus_sound ih
  | triggerRefresh _ ih => exact triggerRefresh_sound ih
  | onPage _ change _ ih => exact sound_of_situation (onPage_situation _ _) ih
  | @closeQuestion e _ ih =>
    have he : (nav { e with mode := .normal }).Sound := ih
    exact dismissOverlay_sound he
  | setMode _ _ _ _ ih => exact ih
  | jot _ _ _ _ _ _ ih => exact ih

theorem streams (h : Leads d e) : e.streams = d.streams := by
  induction h with
  | refl => rfl
  | showStatus _ message kind ih => exact (showStatus_streams _ message kind).trans ih
  | clearStatus _ ih => exact (clearStatus_streams _).trans ih
  | @setScope e _ scope ih =>
    rw [Dashboard.setScope]
    split <;> exact ih
  | _ => assumption

theorem say (h : Leads d e) (status : String) : Leads d (e.say status) := h.jot _ _ _ _ _

theorem scrollTo (h : Leads d e) (scroll : Nat) : Leads d { e with scroll } := h.jot _ _ _ _ _

theorem escape (h : Leads d e) : Leads d e.escape := by
  rw [Dashboard.escape]
  split
  · exact h.clearStatus
  · dsimp only
    split
    · exact h.dismissOverlay.scrollTo 0
    · exact h.dismissOverlay.goBack

theorem toggleMenu (h : Leads d e) : Leads d e.toggleMenu := by
  rw [Dashboard.toggleMenu]
  split
  · exact h.hideMenu
  · exact h.showMenu

theorem goToPage (h : Leads d e) (digit : Nat) : Leads d (e.goToPage digit) := by
  rw [Dashboard.goToPage]
  split
  · exact h.openPage _
  · exact h.say _

theorem refresh (h : Leads d e) : Leads d e.refresh := by
  rw [Dashboard.refresh]
  dsimp only
  split
  · exact h.triggerRefresh.showStatus _ _
  · exact h.triggerRefresh.say _

theorem moveOnPage (h : Leads d e) {change : TableView → TableView}
    (kept : ∀ view, (change view).filter = view.filter) : Leads d (e.moveOnPage change) :=
  (h.onPage _ (neat_of_keeps kept)).recordPosition _ _

theorem moveBy (h : Leads d e) (delta : Int) : Leads d (e.moveBy delta) := by
  rw [Dashboard.moveBy]
  split
  · exact h.jot _ _ _ _ _
  · exact h.moveOnPage fun _ => rfl

theorem toTop (h : Leads d e) : Leads d e.toTop := by
  rw [Dashboard.toTop]
  split
  · exact h.jot _ _ _ _ _
  · exact h.moveOnPage fun _ => rfl

theorem toBottom (h : Leads d e) : Leads d e.toBottom := by
  rw [Dashboard.toBottom]
  split
  · exact h.jot _ _ _ _ _
  · exact h.moveOnPage fun _ => rfl

theorem selectedTarget (h : Leads d e) : Leads d e.selectedTarget.1 := by
  rw [Dashboard.selectedTarget]
  split
  · exact h.showStatus _ _
  · split
    · exact h
    · exact h.showStatus _ _

theorem selectedPod (h : Leads d e) : Leads d e.selectedPod.1 := by
  rw [Dashboard.selectedPod]
  split
  · exact h.selectedTarget
  · exact h.showStatus _ _

/-- What is done with a target, if there is one. -/
theorem withTarget {α : Type} {found : Dashboard S J × Option Target} (h : Leads d found.1)
    {act : Dashboard S J → Target → Dashboard S J} {effect : Target → α} {nothing : α}
    (ha : ∀ e target, Leads d e → Leads d (act e target)) :
    Leads d (match found with
      | (e, some target) => (act e target, effect target)
      | (e, none) => (e, nothing)).1 := by
  obtain ⟨e, target⟩ := found
  cases target with
  | none => exact h
  | some target => exact ha e target h

theorem loadDetail (h : Leads d e) (verb : DetailVerb) : Leads d (e.loadDetail verb).1 :=
  withTarget h.selectedTarget fun _ _ he => he.say _

theorem followLogs (h : Leads d e) : Leads d e.followLogs.1 :=
  withTarget h.selectedPod fun _ _ he => he.say _

theorem openRow (h : Leads d e) : Leads d e.openRow.1 := by
  rw [Dashboard.openRow]
  split
  · exact h.loadDetail _
  · split
    · exact h.showStatus _ _
    · split
      · exact h.openPage _
      · exact h.showStatus _ _

theorem askDelete (h : Leads d e) : Leads d e.askDelete := by
  have ht := h.selectedTarget
  rw [Dashboard.askDelete]
  split
  · next hs =>
    rw [hs] at ht
    exact ht
  · next target hs =>
    rw [hs] at ht
    exact ht.ask target

theorem confirmNo (h : Leads d e) : Leads d e.confirmNo := by
  rw [Dashboard.confirmNo]
  split
  · exact h.closeQuestion.say _
  · exact h.closeQuestion

theorem applyFilter (h : Leads d e) : Leads d e.applyFilter := by
  rw [Dashboard.applyFilter]
  split
  · exact h.onPage _ (neat_setFilter _)
  · exact h

theorem cancelInput (h : Leads d e) : Leads d e.cancelInput := by
  rw [Dashboard.cancelInput]
  split
  · exact (h.onPage _ (neat_setFilter _)).setMode _ _ (by decide)
  · exact h.setMode _ _ (by decide)

theorem openWord (h : Leads d e) (word : String) : Leads d (e.openWord word) := by
  rw [Dashboard.openWord]
  split
  · exact h.openPage _
  · exact h.showStatus _ _

theorem runCommand (h : Leads d e) (line : String) : Leads d (e.runCommand line) := by
  rw [Dashboard.runCommand]
  split
  · exact h
  split
  · exact h.jot _ _ _ _ _
  split
  · exact h.openPage _
  split
  · split
    · exact h.setScope _
    · exact h.openWord _
  · exact h.openWord _

theorem submitInput (h : Leads d e) : Leads d e.submitInput := by
  have hs : Leads d { e with input := "", mode := .normal } :=
    h.setMode .normal "" (by decide)
  rw [Dashboard.submitInput]
  dsimp only
  split
  · exact (hs.onPage _ (neat_setFilter _)).say _
  · exact hs.runCommand _
  · exact hs
  · exact hs

theorem dispatch (h : Leads d e) (action : Action) : Leads d (e.dispatch action).1 := by
  cases action with
  | quit => exact h.jot _ _ _ _ _
  | goToPage digit => exact h.goToPage digit
  | toggleMenu => exact h.toggleMenu
  | escape => exact h.escape
  | back => exact h.goBack
  | refresh => exact h.refresh
  | down | up | pageDown | pageUp => exact h.moveBy _
  | left | right => exact h.moveOnPage fun _ => rfl
  | top => exact h.toTop
  | bottom => exact h.toBottom
  | openRow => exact h.openRow
  | showYaml | describe => exact h.loadDetail _
  | logs => exact h.followLogs
  | edit => exact withTarget h.selectedTarget fun _ _ he => he
  | shell => exact withTarget h.selectedPod fun _ _ he => he
  | delete => exact h.askDelete
  | confirmYes => exact h.closeQuestion
  | confirmNo => exact h.confirmNo
  | startSearch | startCommand => exact h.setMode _ _ (by decide)
  | inputChar c => exact (h.jot _ _ _ _ _).applyFilter
  | backspace => exact (h.jot _ _ _ _ _).applyFilter
  | cancelInput => exact h.cancelInput
  | submitInput => exact h.submitInput

end Leads
end ClusterDashboard.Dashboard
