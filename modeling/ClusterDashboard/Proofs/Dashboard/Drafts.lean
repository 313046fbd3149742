import ClusterDashboard.Proofs.Dashboard.Steps
import ClusterDashboard.Proofs.Refresh.Readings
/-!
# What is typed

A line is typed in a mode of its own, and only the keys of that mode work on it. Whatever else comes
up, a refresh, a message, a log or the end of a change, leaves the line, the page in view and the
filters of all pages as they are.
-/
namespace ClusterDashboard

/-- Actions that work on what is typed. -/
def Action.isTyping : Action → Bool
  | .submitInput | .cancelInput | .backspace | .inputChar _ => true
  | _ => false

/-- The modes in which a line is typed. -/
def Mode.isTyping : Mode → Bool
  | .search | .command => true
  | .normal | .confirm => false

namespace Key

variable {key : Key} {mode : Mode} {action : Action}

theorem inputAction?_typing (h : key.inputAction? = some action) : action.isTyping = true := by
  obtain ⟨code, modifiers⟩ := key
  cases code with
  | esc | enter | backspace =>
    cases h
    rfl
  | char c =>
    simp only [inputAction?] at h
    split at h
    · cases h
      rfl
    · split at h <;> cases h
      rfl
  | _ => cases h

theorem confirmAction?_plain (h : key.confirmAction? = some action) : action.isTyping = false := by
  rw [confirmAction?] at h
  split at h <;> cases h <;> rfl

theorem normalAction?_plain : ∀ action ∈ key.normalAction?, action.isTyping = false := by
  rw [normalAction?]
  split
  · split <;> simp [Action.isTyping]
  · split <;> simp [Action.isTyping]

theorem action?_typing (h : key.action? mode = some action) : action.isTyping = mode.isTyping := by
  cases mode with
  | normal => exact normalAction?_plain action h
  | search | command => exact inputAction?_typing h
  | confirm => exact confirmAction?_plain h

end Key

/-- The mode, and the line that is typed in it. -/
structure Draft where
  mode : Mode
  input : String
  deriving DecidableEq, Repr

/-- Nothing is being typed. -/
structure Draft.Idle (draft : Draft) : Prop where
  mode : draft.mode.isTyping = false
  input : draft.input = ""

namespace Dashboard

variable {S J : Type} {b : Backend S TablePage J} {d e f : Dashboard S J}

def draft (d : Dashboard S J) : Draft := ⟨d.mode, d.input⟩

theorem showStatus_draft (message : String) (kind : StatusKind) (d : Dashboard S J) :
    (d.showStatus message kind).draft = d.draft := by
  rw [showStatus]
  dsimp only
  split <;> rfl

theorem clearStatus_draft (d : Dashboard S J) : d.clearStatus.draft = d.draft := by
  rw [clearStatus]
  split
  · split <;> rfl
  · rfl

theorem escape_draft (d : Dashboard S J) : d.escape.draft = d.draft := by
  rw [escape]
  split
  · exact clearStatus_draft d
  · dsimp only
    split <;> rfl

theorem toggleMenu_draft (d : Dashboard S J) : d.toggleMenu.draft = d.draft := by
  rw [toggleMenu]
  split <;> rfl

theorem goToPage_draft (digit : Nat) (d : Dashboard S J) : (d.goToPage digit).draft = d.draft := by
  rw [goToPage]
  split <;> rfl

theorem refresh_draft (d : Dashboard S J) : d.refresh.draft = d.draft := by
  rw [refresh]
  dsimp only
  split
  · exact showStatus_draft ..
  · rfl

theorem moveBy_draft (delta : Int) (d : Dashboard S J) : (d.moveBy delta).draft = d.draft := by
  rw [moveBy]
  split <;> rfl

theorem toTop_draft (d : Dashboard S J) : d.toTop.draft = d.draft := by
  rw [toTop]
  split <;> rfl

theorem toBottom_draft (d : Dashboard S J) : d.toBottom.draft = d.draft := by
  rw [toBottom]
  split <;> rfl

theorem selectedTarget_draft (d : Dashboard S J) : d.selectedTarget.1.draft = d.draft := by
  rw [selectedTarget]
  split
  · exact showStatus_draft ..
  · split
    · rfl
    · exact showStatus_draft ..

theorem selectedPod_draft (d : Dashboard S J) : d.selectedPod.1.draft = d.draft := by
  rw [selectedPod]
  split
  · exact selectedTarget_draft d
  · exact showStatus_draft ..

/-- What is done with a target, if there is one. -/
theorem withTarget_draft {α : Type} {found : Dashboard S J × Option Target}
    (h : found.1.draft = d.draft) {act : Dashboard S J → Target → Dashboard S J}
    {effect : Target → α} {nothing : α} (ha : ∀ e target, (act e target).draft = e.draft) :
    (match found with
      | (e, some target) => (act e target, effect target)
      | (e, none) => (e, nothing)).1.draft = d.draft := by
  obtain ⟨e, target⟩ := found
  cases target with
  | none => exact h
  | some target => exact (ha e target).trans h

theorem loadDetail_draft (verb : DetailVerb) (d : Dashboard S J) :
    (d.loadDetail verb).1.draft = d.draft :=
  withTarget_draft (selectedTarget_draft d) fun _ _ => rfl

theorem followLogs_draft (d : Dashboard S J) : d.followLogs.1.draft = d.draft :=
  withTarget_draft (selectedPod_draft d) fun _ _ => rfl

theorem openRow_draft (d : Dashboard S J) : d.openRow.1.draft = d.draft := by
  rw [openRow]
  split
  · exact loadDetail_draft ..
  · split
    · exact showStatus_draft ..
    · split
      · rfl
      · exact showStatus_draft ..

theorem setScope_draft (scope : Scope) (d : Dashboard S J) : (d.setScope scope).draft = d.draft := by
  rw [setScope]
  split <;> rfl

theorem openWord_draft (word : String) (d : Dashboard S J) : (d.openWord word).draft = d.draft := by
  rw [openWord]
  split
  · rfl
  · exact showStatus_draft ..

theorem runCommand_draft (line : String) (d : Dashboard S J) :
    (d.runCommand line).draft = d.draft := by
  rw [runCommand]
  split
  · rfl
  split
  · rfl
  split
  · rfl
  split
  · split
    · exact setScope_draft ..
    · exact openWord_draft ..
  · exact openWord_draft ..

/-- A question is asked or answered when nothing is typed. -/
theorem askDelete_idle (h : d.draft.Idle) : d.askDelete.draft.Idle := by
  have same := selectedTarget_draft d
  rw [askDelete]
  split
  · next found =>
    rw [found] at same
    exact same ▸ h
  · next found =>
    rw [found] at same
    exact ⟨rfl, (congrArg Draft.input same).trans h.input⟩

theorem closeQuestion_idle (h : d.draft.Idle) : d.closeQuestion.draft.Idle := ⟨rfl, h.input⟩

theorem confirmNo_idle (h : d.draft.Idle) : d.confirmNo.draft.Idle := by
  have closed : d.closeQuestion.draft.Idle := closeQuestion_idle h
  rw [confirmNo]
  split <;> exact closed

theorem cancelInput_idle (d : Dashboard S J) : d.cancelInput.draft.Idle := ⟨rfl, rfl⟩

theorem submitInput_idle (d : Dashboard S J) : d.submitInput.draft.Idle := by
  have cleared : (draft { d with input := "", mode := .normal }).Idle := ⟨rfl, rfl⟩
  rw [submitInput]
  dsimp only
  split
  · exact cleared
  · rw [runCommand_draft]
    exact cleared
  · exact cleared
  · exact cleared

/-- What no key of a line does leaves no line behind, unless it begins one. -/
theorem dispatch_idle (h : d.draft.Idle) {action : Action} (plain : action.isTyping = false)
    (search : action ≠ .startSearch) (command : action ≠ .startCommand) :
    (d.dispatch action).1.draft.Idle := by
  have kept {e : Dashboard S J} (same : e.draft = d.draft) : e.draft.Idle := same ▸ h
  cases action with
  | submitInput | cancelInput | backspace | inputChar => cases plain
  | startSearch => exact absurd rfl search
  | startCommand => exact absurd rfl command
  | quit | back | left | right => exact kept rfl
  | goToPage digit => exact kept (goToPage_draft digit d)
  | toggleMenu => exact kept (toggleMenu_draft d)
  | escape => exact kept (escape_draft d)
  | refresh => exact kept (refresh_draft d)
  | down | up | pageDown | pageUp => exact kept (moveBy_draft _ d)
  | top => exact kept (toTop_draft d)
  | bottom => exact kept (toBottom_draft d)
  | openRow => exact kept (openRow_draft d)
  | showYaml | describe => exact kept (loadDetail_draft _ d)
  | logs => exact kept (followLogs_draft d)
  | edit => exact kept (withTarget_draft (selectedTarget_draft d) fun _ _ => rfl)
  | shell => exact kept (withTarget_draft (selectedPod_draft d) fun _ _ => rfl)
  | delete => exact askDelete_idle h
  | confirmYes => exact closeQuestion_idle h
  | confirmNo => exact confirmNo_idle h

/-- The filters of all pages there are. -/
def filters (d : Dashboard S J) : List String :=
  d.session.readings fun page => page.view.filter

/-- What is typed, the page in view and all filters stay as they are. -/
structure Unmoved (d e : Dashboard S J) : Prop where
  draft : e.draft = d.draft
  view : e.nav.currentView = d.nav.currentView
  filters : e.filters = d.filters

namespace Unmoved

theorem refl (d : Dashboard S J) : Unmoved d d := ⟨rfl, rfl, rfl⟩

theorem trans (h : Unmoved d e) (k : Unmoved e f) : Unmoved d f :=
  ⟨k.draft.trans h.draft, k.view.trans h.view, k.filters.trans h.filters⟩

theorem of_session (session : e.session = d.session) (draft : e.draft = d.draft) : Unmoved d e :=
  ⟨draft, congrArg (fun s : Session S TablePage J => s.nav.currentView) session,
    congrArg (Session.readings _) session⟩

theorem aside (h : Unmoved d e) (session : f.session = e.session) (draft : f.draft = e.draft) :
    Unmoved d f :=
  h.trans (of_session session draft)

/-- The course of navigation and the filters are the same. -/
theorem of_course (course : e.nav.course = d.nav.course) (filters : e.filters = d.filters)
    (draft : e.draft = d.draft) : Unmoved d e :=
  ⟨draft, congrArg (fun n : Navigator Unit => n.currentView) course, filters⟩

theorem showLayer (h : d.nav.Sound) (layer : Layer) : Unmoved d (d.showLayer layer) where
  draft := rfl
  view := by
    rw [showLayer_nav h]
    rfl
  filters := by
    have views : (d.showLayer layer).nav.views = d.nav.views := by
      rw [showLayer_nav h]
    exact Session.readings_of_nav views

theorem dismissOverlay (d : Dashboard S J) : Unmoved d d.dismissOverlay.1 := by
  have same := d.nav.dismissOverlay_same_stock
  have current : d.nav.dismissOverlay.1.current = d.nav.current := by
    rw [Navigator.dismissOverlay]
    split <;> rfl
  refine ⟨rfl, ?_, Session.readings_of_nav ?_⟩
  · rw [dismissOverlay_nav, Navigator.currentView, Navigator.page?, current, same.pages,
      same.rootView]
    rfl
  · exact (congrArg Navigator.views (dismissOverlay_nav d)).trans same.views

theorem triggerRefresh (d : Dashboard S J) : Unmoved d d.triggerRefresh.1 :=
  of_course (congrArg Situation.course (triggerRefresh_situation d))
    (Session.trigger_readings ..) rfl

theorem stopStream (d : Dashboard S J) : Unmoved d d.stopStream := by
  rw [Dashboard.stopStream]
  split <;> exact of_session rfl rfl

theorem syncStream (h : Unmoved d e) : Unmoved d e.syncStream := by
  rw [Dashboard.syncStream]
  split
  · exact h.trans (stopStream e)
  · exact h

theorem showStatus (h : d.nav.Sound) (message : String) (kind : StatusKind) :
    Unmoved d (d.showStatus message kind) := by
  let covering := { d.say message with covered := d.coveredBy d.top }
  have sound : covering.nav.Sound := h
  have said : Unmoved d covering := of_session rfl rfl
  rw [Dashboard.showStatus]
  dsimp only
  split
  · exact of_session rfl rfl
  · exact (said.trans (showLayer sound (.status message kind))).aside rfl rfl

theorem clearStatus (h : d.nav.Sound) : Unmoved d d.clearStatus := by
  let bare := { d with covered := none }
  have sound : bare.nav.Sound := h
  have uncovered : Unmoved d bare := of_session rfl rfl
  have dismissed := uncovered.trans (dismissOverlay bare)
  rw [Dashboard.clearStatus]
  split
  · split
    · exact uncovered.trans (showLayer sound _)
    · exact dismissed
  · exact dismissed

theorem tick (d : Dashboard S J) : Unmoved d d.tick.1 := by
  rw [Dashboard.tick]
  split
  · exact triggerRefresh d
  · exact refl d

theorem onUiEvent (h : d.nav.Sound) (event : UiEvent) : Unmoved d (d.onUiEvent event) := by
  cases event with
  | statusExpired ticket =>
    rw [Dashboard.onUiEvent]
    split
    · exact refl d
    · split
      · exact (clearStatus h).syncStream
      · exact (refl d).syncStream
  | log stream feed =>
    rw [Dashboard.onUiEvent]
    split <;> exact of_session rfl rfl

theorem onRefreshEvent (h : d.nav.Sound) (event : RefreshEvent) :
    Unmoved d (d.onRefreshEvent event) := by
  cases event with
  | rendered page => exact refl d
  | failed page error =>
    rw [Dashboard.onRefreshEvent]
    split
    · exact showStatus h _ _
    · exact refl d

theorem setDetail (h : d.nav.Sound) (verb : DetailVerb) (target : Target) (body : String) :
    Unmoved d (d.setDetail verb target body) := by
  let bare := { d with covered := none }
  let detail : Layer := .detail (verb.title ++ " " ++ target.label) body
  have sound : bare.nav.Sound := h
  have uncovered : Unmoved d bare := of_session rfl rfl
  have shown : Unmoved d { bare.showLayer detail with scroll := 0 } :=
    (uncovered.trans (showLayer sound detail)).aside rfl rfl
  exact shown.syncStream

theorem attachLogs (h : d.nav.Sound) (title : String)
    (started : Except Failure Kubectl.Follower) : Unmoved d (d.attachLogs title started) := by
  let counted := { d.stopStream with streamId := d.stopStream.streamId + 1 }
  have sound : counted.nav.Sound := stopStream_sound h
  have stopped : Unmoved d counted := (stopStream d).aside rfl rfl
  cases started with
  | error failure => exact stopped.trans (showStatus sound failure.oneLine .error)
  | ok follower =>
    let streaming := { counted with
      stream := some counted.streamId
      followers := counted.followers.put counted.streamId follower
      logLines := []
      following := true
      scroll := scrollEnd
      covered := none
      status := "Following " ++ title }
    have steady : streaming.nav.Sound := sound
    have opened : Unmoved d streaming := stopped.aside rfl rfl
    exact opened.trans (showLayer steady (.logs title))

theorem startLogs (h : d.nav.Sound) (program : Kubectl.Program) (target : Target) :
    Unmoved d (d.startLogs program target) := by
  rw [Dashboard.startLogs]
  split
  · exact showStatus h _ _
  · exact attachLogs h _ _

theorem finishChange (h : d.nav.Sound) (verb : String) (target : Target)
    (outcome : Except Failure Unit) : Unmoved d (d.finishChange verb target outcome) := by
  cases outcome with
  | error failure => exact showStatus h _ _
  | ok done => exact (showStatus h _ _).trans (triggerRefresh _)

theorem perform (h : d.nav.Sound) (program : Kubectl.Program) (editors : Kubectl.Editors)
    (effect : Effect) : Unmoved d (d.perform program editors effect).1 := by
  cases effect with
  | none => exact refl d
  | loadDetail verb target =>
    rw [Dashboard.perform]
    dsimp only
    split
    · exact setDetail h _ _ _
    · exact showStatus h _ _
  | followLogs target => exact startLogs h program target
  | edit target | delete target => exact finishChange h _ _ _
  | shell target =>
    rw [Dashboard.perform]
    split
    · exact showStatus h _ _
    · dsimp only
      split
      · exact refl d
      · exact showStatus h _ _

theorem background {event : Session.Event S TablePage} (hb : b.Keeps fun page => page.view.filter)
    (steady : event.navigates = false) (keeps : event.Keeps fun page => page.view.filter) :
    Unmoved d { d with session := Session.next b d.session event } :=
  of_course (Session.next_course steady) (Session.next_readings hb steady keeps) rfl

end Unmoved
end Dashboard
end ClusterDashboard
