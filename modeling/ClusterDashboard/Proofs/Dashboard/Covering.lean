import ClusterDashboard.Proofs.Dashboard.Messages
import ClusterDashboard.Proofs.Navigation.Overlays
/-!
# What a message has come over

A message remembers the text it covers and nothing else. No step brings more than one message on
top, and what that one covers is what was on top before the step; so what is remembered is the
text that was on top before the first of the messages that have been there since.
-/
namespace ClusterDashboard.Dashboard

variable {S J : Type} {b : Backend S TablePage J} {d e f : Dashboard S J} {step : Step S}
  {track : Track}

/-- Nothing has happened to what is on top, or to what that covers. -/
structure Level (d e : Dashboard S J) : Prop where
  top : e.top = d.top
  covered : e.covered = d.covered
  current : e.currentName = d.currentName

/-- A message that is on top covers what was on top before, on the same page. -/
def Overlies (d e : Dashboard S J) : Prop :=
  e.top.layer.isStatus = true → e.currentName = d.currentName ∧ e.covered = d.coveredBy d.top

/-- Messages do not cover each other. -/
theorem coveredBy_message {top : Track} (h : top.layer.isStatus = true) :
    d.coveredBy top = d.covered := by
  rw [coveredBy]
  cases hl : top.layer with
  | status message kind => rfl
  | _ =>
    rw [hl] at h
    cases h

theorem coveredBy_plain {top : Track} (h : top.layer.isStatus = false) :
    d.coveredBy top = if top.layer.isScrollable then some top else none := by
  rw [coveredBy]
  cases hl : top.layer with
  | status message kind =>
    rw [hl] at h
    cases h
  | _ => rfl

theorem openPage_plain (name : String) (d : Dashboard S J) :
    (d.openPage name).top.layer.isStatus = false := by
  have arrived : (d.openPage name).top = (d.nav.navigate d.factory name).1.top :=
    congrArg (fun q : Situation => q.course.top) (openPage_situation name d)
  rw [arrived, Navigator.navigate, Navigator.switchPage_eq, Navigator.shown_top]
  rfl

theorem goBack_plain (hs : d.nav.Sound) : d.goBack.top.layer.isStatus = false := by
  have arrived : d.goBack.top = (d.nav.goBack d.factory).1.top :=
    congrArg (fun q : Situation => q.course.top) (goBack_situation d)
  rw [arrived]
  exact Layer.not_status_of_lasting (hs.toGrounded.goBack_settled d.factory)

theorem dismissOverlay_plain (d : Dashboard S J) :
    d.dismissOverlay.1.top.layer.isStatus = false := by
  rw [top, dismissOverlay_nav, Navigator.dismissOverlay_top]
  rfl

/-- The escape key takes a message away and brings none. -/
theorem escape_plain (hs : d.nav.Sound) (hc : d.CoversText) :
    d.escape.top.layer.isStatus = false := by
  rw [escape]
  split
  · exact clearStatus_unmessaged hs hc
  · dsimp only
    split
    · exact dismissOverlay_plain d
    · exact goBack_plain (dismissOverlay_sound hs)

namespace Level

theorem refl (d : Dashboard S J) : Level d d := ⟨rfl, rfl, rfl⟩

theorem trans (h : Level d e) (k : Level e f) : Level d f :=
  ⟨k.top.trans h.top, k.covered.trans h.covered, k.current.trans h.current⟩

theorem of_situation (h : e.situation = d.situation) : Level d e :=
  ⟨top_of_situation h, congrArg Situation.covered h,
    congrArg (fun q : Situation => q.course.current) h⟩

theorem say (h : Level d e) (status : String) : Level d (e.say status) := h.trans ⟨rfl, rfl, rfl⟩

theorem triggerRefresh (d : Dashboard S J) : Level d d.triggerRefresh.1 :=
  of_situation (triggerRefresh_situation d)

theorem onPage (change : TablePage → TablePage) (d : Dashboard S J) : Level d (d.onPage change) :=
  of_situation (onPage_situation change d)

theorem syncStream (d : Dashboard S J) : Level d d.syncStream :=
  of_situation (syncStream_situation d)

theorem withNav {α : Type} {act : Navigator (View TablePage) → Navigator (View TablePage) × α}
    (top : (act d.nav).1.top = d.nav.top) (current : (act d.nav).1.current = d.nav.current) :
    Level d (d.withNav act).1 where
  top := (congrArg Navigator.top (withNav_nav act d)).trans top
  covered := rfl
  current := (congrArg Navigator.current (withNav_nav act d)).trans current

theorem moveOnPage (change : TableView → TableView) (d : Dashboard S J) :
    Level d (d.moveOnPage change) :=
  (onPage (·.onView change) d).trans (withNav rfl rfl)

theorem moveBy (delta : Int) (d : Dashboard S J) : Level d (d.moveBy delta) := by
  rw [Dashboard.moveBy]
  split
  · exact ⟨rfl, rfl, rfl⟩
  · exact moveOnPage _ d

theorem toTop (d : Dashboard S J) : Level d d.toTop := by
  rw [Dashboard.toTop]
  split
  · exact ⟨rfl, rfl, rfl⟩
  · exact moveOnPage _ d

theorem toBottom (d : Dashboard S J) : Level d d.toBottom := by
  rw [Dashboard.toBottom]
  split
  · exact ⟨rfl, rfl, rfl⟩
  · exact moveOnPage _ d

theorem applyFilter (d : Dashboard S J) : Level d d.applyFilter := by
  rw [Dashboard.applyFilter]
  split
  · exact onPage _ d
  · exact refl d

theorem cancelInput (d : Dashboard S J) : Level d d.cancelInput := by
  rw [Dashboard.cancelInput]
  split
  · exact (onPage _ d).trans ⟨rfl, rfl, rfl⟩
  · exact ⟨rfl, rfl, rfl⟩

/-- The one message that comes. -/
theorem showStatus (h : Level d e) (hs : e.nav.Sound) (message : String) (kind : StatusKind) :
    Overlies d (e.showStatus message kind) := by
  have same : e.coveredBy e.top = d.coveredBy d.top := by
    rw [coveredBy, coveredBy, h.top, h.covered]
  have covering : (nav { e.say message with covered := e.coveredBy e.top }).Sound := hs
  intro ht
  rw [Dashboard.showStatus] at ht ⊢
  dsimp only at ht ⊢
  split at ht
  · -- a question is open, so that the message is on the status line only
    next asking =>
    rw [if_pos asking]
    have hd : d.top.layer.isStatus = true := h.top ▸ ht
    exact ⟨h.current, h.covered.trans (coveredBy_message hd).symm⟩
  · next unasked =>
    rw [if_neg unasked]
    refine ⟨?_, same⟩
    have shown := showLayer_nav covering (.status message kind)
    exact (congrArg Navigator.current shown).trans h.current

end Level

namespace Overlies

theorem of_level (h : Level d e) : Overlies d e := by
  intro ht
  rw [h.top] at ht
  exact ⟨h.current, h.covered.trans (coveredBy_message ht).symm⟩

theorem of_plain (h : e.top.layer.isStatus = false) : Overlies d e := by
  intro ht
  cases h.symm.trans ht

theorem level (h : Overlies d e) (k : Level e f) : Overlies d f := by
  intro ht
  obtain ⟨current, covered⟩ := h (k.top ▸ ht)
  exact ⟨k.current.trans current, k.covered.trans covered⟩

theorem selectedTarget (hs : d.nav.Sound) : Overlies d d.selectedTarget.1 := by
  rw [Dashboard.selectedTarget]
  split
  · exact (Level.refl d).showStatus hs _ _
  · split
    · exact of_level (.refl d)
    · exact (Level.refl d).showStatus hs _ _

theorem selectedPod (hs : d.nav.Sound) : Overlies d d.selectedPod.1 := by
  rw [Dashboard.selectedPod]
  split
  · exact selectedTarget hs
  · exact (Level.refl d).showStatus hs _ _

/-- What is done with a target, if there is one. -/
theorem withTarget {found : Dashboard S J × Option Target} (h : Overlies d found.1)
    {act : Dashboard S J → Target → Dashboard S J} {effect : Target → Effect}
    (ha : ∀ e target, Overlies d e → Overlies d (act e target)) :
    Overlies d (match found with
      | (e, some target) => (act e target, effect target)
      | (e, none) => (e, .none)).1 := by
  obtain ⟨e, target⟩ := found
  cases target with
  | none => exact h
  | some target => exact ha e target h

theorem loadDetail (hs : d.nav.Sound) (verb : DetailVerb) : Overlies d (d.loadDetail verb).1 :=
  withTarget (selectedTarget hs) fun _ _ he => he.level ((Level.refl _).say _)

theorem followLogs (hs : d.nav.Sound) : Overlies d d.followLogs.1 :=
  withTarget (selectedPod hs) fun _ _ he => he.level ((Level.refl _).say _)

/-- What puts something over the page, or takes it away, brings no message. -/
theorem stays (hs : d.nav.Sound) (op : Navigator.Operation (View TablePage))
    {act : Navigator (View TablePage) → Navigator (View TablePage) × Bool}
    (ha : (act d.nav).1 = op.apply d.nav) (ho : op.informs = false) (stays : op.Stays d.nav) :
    Overlies d (d.withNav act).1 := by
  intro ht
  have message : d.top.layer.isStatus = true := withNav_stays hs op ha ho ht
  have current : (op.apply d.nav).current = d.nav.current :=
    ((hs.stay_step stays).onTop hs).current
  refine ⟨?_, (coveredBy_message message).symm⟩
  rw [currentName, withNav_nav, ha]
  exact current

theorem toggleMenu (hs : d.nav.Sound) : Overlies d d.toggleMenu := by
  rw [Dashboard.toggleMenu]
  split
  · exact stays hs .hideMenu rfl rfl trivial
  · exact stays hs .showMenu rfl rfl trivial

theorem reload (f : Factory (View TablePage)) (d : Dashboard S J) :
    Overlies d (d.withNav fun nav => (nav.reload f, ())).1 := by
  obtain ⟨-, ⟨-, current, history⟩ | ⟨-, -, history⟩⟩ := d.nav.reload_cases f
  · exact of_level (.withNav (congrArg History.top history) current)
  · refine of_plain ?_
    rw [top, withNav_nav, Navigator.top, history]
    rfl

theorem setScope (scope : Scope) (d : Dashboard S J) : Overlies d (d.setScope scope) := by
  rw [Dashboard.setScope]
  split
  · exact of_level ((Level.refl d).say _)
  · let there : Dashboard S J := { d with scope }
    have reloaded : Overlies d (there.withNav fun nav => (nav.reload there.factory, ())).1 :=
      reload there.factory there
    exact reloaded.level ((Level.triggerRefresh _).say _)

theorem openPage (name : String) (d : Dashboard S J) : Overlies d (d.openPage name) :=
  of_plain (openPage_plain name d)

theorem openRow (hs : d.nav.Sound) : Overlies d d.openRow.1 := by
  have same : Level d d := .refl d
  rw [Dashboard.openRow]
  split
  · exact loadDetail hs _
  · split
    · exact same.showStatus hs _ _
    · split
      · exact openPage _ d
      · exact same.showStatus hs _ _

theorem askDelete (hs : d.nav.Sound) : Overlies d d.askDelete := by
  have asked : Overlies d d.selectedTarget.1 := selectedTarget hs
  have sound : d.selectedTarget.1.nav.Sound := (Leads.refl (d := d)).selectedTarget.sound hs
  rw [Dashboard.askDelete]
  split
  · next found =>
    rw [found] at asked
    exact asked
  · next target found =>
    rw [found] at sound
    have question := showLayer_top sound (.confirm (deletePrompt target))
    exact of_plain (congrArg (·.layer.isStatus) question)

theorem closeQuestion (d : Dashboard S J) : Overlies e d.closeQuestion :=
  of_plain (dismissOverlay_plain { d with mode := .normal })

theorem confirmNo (d : Dashboard S J) : Overlies e d.confirmNo := by
  rw [Dashboard.confirmNo]
  split
  · exact (closeQuestion d).level ((Level.refl _).say _)
  · exact closeQuestion d

theorem goToPage (digit : Nat) (d : Dashboard S J) : Overlies d (d.goToPage digit) := by
  rw [Dashboard.goToPage]
  split
  · exact openPage _ d
  · exact of_level ((Level.refl d).say _)

theorem refresh (hs : d.nav.Sound) : Overlies d d.refresh := by
  have asked : Level d d.triggerRefresh.1 := .triggerRefresh d
  rw [Dashboard.refresh]
  dsimp only
  split
  · exact asked.showStatus (triggerRefresh_sound hs) _ _
  · exact of_level (asked.say _)

theorem runCommand (hs : d.nav.Sound) (line : String) : Overlies d (d.runCommand line) := by
  have openWord (word : String) : Overlies d (d.openWord word) := by
    rw [Dashboard.openWord]
    split
    · exact openPage _ d
    · exact (Level.refl d).showStatus hs _ _
  rw [Dashboard.runCommand]
  split
  · exact of_level (.refl d)
  split
  · exact of_level ⟨rfl, rfl, rfl⟩
  split
  · exact openPage _ d
  split
  · split
    · exact setScope _ d
    · exact openWord _
  · exact openWord _

theorem submitInput (hs : d.nav.Sound) : Overlies d d.submitInput := by
  let there : Dashboard S J := { d with input := "", mode := .normal }
  have same : Level d there := ⟨rfl, rfl, rfl⟩
  rw [Dashboard.submitInput]
  dsimp only
  split
  · exact of_level ((same.trans (.onPage _ there)).say _)
  · have sound : there.nav.Sound := hs
    have run : Overlies there (there.runCommand d.input) := runCommand sound d.input
    exact run
  · exact of_level same
  · exact of_level same

theorem dispatch (hs : d.nav.Sound) (hc : d.CoversText) (action : Action) :
    Overlies d (d.dispatch action).1 := by
  have typed (input : String) : Overlies d (applyFilter { d with input }) := by
    have same : Level d { d with input } := ⟨rfl, rfl, rfl⟩
    exact of_level (same.trans (.applyFilter _))
  cases action with
  | quit => exact of_level ⟨rfl, rfl, rfl⟩
  | goToPage digit => exact goToPage digit d
  | toggleMenu => exact toggleMenu hs
  | escape => exact of_plain (escape_plain hs hc)
  | back => exact of_plain (goBack_plain hs)
  | refresh => exact refresh hs
  | down | up | pageDown | pageUp => exact of_level (.moveBy _ d)
  | left | right => exact of_level (.moveOnPage _ d)
  | top => exact of_level (.toTop d)
  | bottom => exact of_level (.toBottom d)
  | openRow => exact openRow hs
  | showYaml | describe => exact loadDetail hs _
  | logs => exact followLogs hs
  | edit => exact withTarget (selectedTarget hs) fun _ _ he => he
  | shell => exact withTarget (selectedPod hs) fun _ _ he => he
  | delete => exact askDelete hs
  | confirmYes => exact closeQuestion d
  | confirmNo => exact confirmNo d
  | startSearch | startCommand => exact of_level ⟨rfl, rfl, rfl⟩
  | inputChar c => exact typed _
  | backspace => exact typed _
  | cancelInput => exact of_level (.cancelInput d)
  | submitInput => exact submitInput hs

theorem attachLogs (hs : d.nav.Sound) (title : String)
    (started : Except Failure Kubectl.Follower) : Overlies d (d.attachLogs title started) := by
  have stopped : Level d d.stopStream := .of_situation (stopStream_situation d)
  have sound : d.stopStream.nav.Sound := stopStream_sound hs
  cases started with
  | error failure =>
    exact Level.showStatus (e := { d.stopStream with streamId := d.stopStream.streamId + 1 })
      (stopped.trans ⟨rfl, rfl, rfl⟩) sound _ _
  | ok follower =>
    refine of_plain (congrArg (·.layer.isStatus) (showLayer_top ?_ (.logs title)))
    exact sound

theorem startLogs (hs : d.nav.Sound) (program : Kubectl.Program) (target : Target) :
    Overlies d (d.startLogs program target) := by
  rw [Dashboard.startLogs]
  split
  · exact (Level.refl d).showStatus hs _ _
  · exact attachLogs hs _ _

theorem setDetail (hs : d.nav.Sound) (verb : DetailVerb) (target : Target) (body : String) :
    Overlies d (d.setDetail verb target body) := by
  let layer : Layer := .detail (verb.title ++ " " ++ target.label) body
  let shown : Dashboard S J := { showLayer layer { d with covered := none } with scroll := 0 }
  have hd : (nav { d with covered := none }).Sound := hs
  have text : shown.top.layer = layer := congrArg Track.layer (showLayer_top hd layer)
  have plain : Overlies d shown := of_plain (congrArg Layer.isStatus text)
  exact plain.level (.syncStream shown)

theorem onUiEvent (hs : d.nav.Sound) (hc : d.CoversText) (event : UiEvent) :
    Overlies d (d.onUiEvent event) := by
  cases event with
  | statusExpired ticket =>
    rw [Dashboard.onUiEvent]
    split
    · exact of_level (.refl d)
    · split
      · exact (of_plain (clearStatus_unmessaged hs hc)).level (.syncStream _)
      · exact of_level (.syncStream d)
  | log stream feed =>
    rw [Dashboard.onUiEvent]
    split
    · exact of_level (.refl d)
    · exact of_level ⟨rfl, rfl, rfl⟩

theorem onRefreshEvent (hs : d.nav.Sound) (event : RefreshEvent) :
    Overlies d (d.onRefreshEvent event) := by
  cases event with
  | rendered page => exact of_level (.refl d)
  | failed page error =>
    rw [Dashboard.onRefreshEvent]
    split
    · exact (Level.refl d).showStatus hs _ _
    · exact of_level (.refl d)

/-- No step brings more than one message. -/
theorem next (hs : d.nav.Sound) (hc : d.CoversText) (he : step.Enabled d) :
    Overlies d (step.next b d) := by
  cases step with
  | act action => exact (dispatch hs hc action).level (.syncStream _)
  | uiEvent event => exact onUiEvent hs hc event
  | refreshEvent event => exact onRefreshEvent hs event
  | message text kind => exact (Level.refl d).showStatus hs text kind
  | setDetail verb target body => exact setDetail hs verb target body
  | startLogs program target => exact startLogs hs program target
  | attachLogs title refusal => exact attachLogs hs title _
  | tick => exact of_level (.of_situation (tick_situation d))
  | background event => exact of_level (.of_situation (background_situation he.2))
  | child | runFollowers | runTimers | wait | scrollTo | emptyQueue | discover | identify =>
    exact of_level ⟨rfl, rfl, rfl⟩

end Overlies

/-- What the message on top covers is the text of the track, if that shows one. -/
structure Covers (track : Track) (d : Dashboard S J) : Prop where
  message : d.top.layer.isStatus = true
  name : track.name = d.currentName
  covered : d.covered = if track.layer.isScrollable then some track else none

namespace Step

/-- A message has come over the track, and there has been a message on top ever since. -/
def CameOver (b : Backend S TablePage J) (track : Track) (start : Dashboard S J)
    (steps : List (Step S)) : Prop :=
  Trace.Since
    (fun d step => (d.top = track ∧ track.layer.isStatus = false) ∧
      (next b d step).top.layer.isStatus = true)
    (fun d step => (next b d step).top.layer.isStatus = true) (next b) start steps

instance (b : Backend S TablePage J) (track : Track) (start : Dashboard S J)
    (steps : List (Step S)) : Decidable (CameOver b track start steps) :=
  inferInstanceAs (Decidable (Trace.Since ..))

/-- A message that is on top has come over something. -/
theorem exists_cameOver {steps : List (Step S)} (plain : d.top.layer.isStatus = false)
    (message : (runTrace b d steps).top.layer.isStatus = true) :
    ∃ track, CameOver b track d steps := by
  have law (d : Dashboard S J) (step : Step S) (_ : True) (_ : True) :
      (next b d step).top.layer.isStatus = true ↔
        (∃ track, (d.top = track ∧ track.layer.isStatus = false) ∧
          (next b d step).top.layer.isStatus = true) ∨
        d.top.layer.isStatus = true ∧ (next b d step).top.layer.isStatus = true := by
    constructor
    · intro comes
      cases hd : d.top.layer.isStatus with
      | false => exact .inl ⟨d.top, ⟨rfl, hd⟩, comes⟩
      | true => exact .inr ⟨rfl, comes⟩
    · rintro (⟨track, -, comes⟩ | ⟨-, stays⟩)
      · exact comes
      · exact stays
  have valid : Trace.Valid (fun _ _ => True) (next b) d steps :=
    Trace.valid_of_forall fun _ _ _ => trivial
  have keeps (d : Dashboard S J) (step : Step S) (_ : True) (_ : True) : True := trivial
  have since := Trace.since_iff (motive := fun d : Dashboard S J => d.top.layer.isStatus = true)
    keeps law trivial valid
  rcases since.mp message with came | ⟨stood, -⟩
  · exact came.exists
  · cases plain.symm.trans stood

/-- Whatever messages come after it, the first one is what decides. -/
theorem CameOver.covers {steps : List (Step S)} (h : CameOver b track d steps)
    (hs : d.nav.Sound) (hc : d.CoversText) (valid : ValidTrace b d steps) :
    Covers track (runTrace b d steps) := by
  have keeps (d : Dashboard S J) (step : Step S) (he : Enabled d step)
      (h : d.nav.Sound ∧ d.CoversText) : (next b d step).nav.Sound ∧ (next b d step).CoversText :=
    ⟨sound he h.1, coversText h.2 step⟩
  refine Trace.Since.induction (motive := Covers track) keeps ?_ ?_ h ⟨hs, hc⟩ valid
  · rintro d step he ⟨hs, hc⟩ ⟨⟨rfl, plain⟩, message⟩
    obtain ⟨current, covered⟩ := Overlies.next hs hc he message
    exact ⟨message, hs.top_current.trans current.symm, covered.trans (coveredBy_plain plain)⟩
  · rintro d step he ⟨hs, hc⟩ message before
    obtain ⟨current, covered⟩ := Overlies.next hs hc he message
    rw [coveredBy_message before.message] at covered
    exact ⟨message, before.name.trans current.symm, covered.trans before.covered⟩

end Step

section Runs

variable {settings : Settings} {catalog : Catalog} {scope : Scope} {cluster context : String}
  {source : S} {start : Dashboard S J} {steps : List (Step S)}

/-- Wherever a message is on top, it has come over something, and knows what. -/
theorem message_covers (opened : start? settings catalog scope cluster context source = some start)
    (valid : Step.ValidTrace b start steps)
    (message : (Step.runTrace b start steps).top.layer.isStatus = true) :
    ∃ track, Step.CameOver b track start steps ∧ Covers track (Step.runTrace b start steps) := by
  have plain : start.top.layer.isStatus = false := by
    rw [start_top opened]
    rfl
  obtain ⟨track, came⟩ := Step.exists_cameOver plain message
  exact ⟨track, came, came.covers (start_sound opened) (start_coversText opened) valid⟩

end Runs

end ClusterDashboard.Dashboard
