import ClusterDashboard.Proofs.Dashboard.Ensuing
import ClusterDashboard.Proofs.Refresh.Handover
/-!
# What a step does to the session

Whatever a dashboard does by itself it does to its session by operations of the navigator, requests
and changes of pages; so what holds along the runs of sessions holds along its own. And it never
leaves a page for another one without asking for a refresh of that.
-/
namespace ClusterDashboard

namespace Session

variable {S P J : Type} {b : Backend S P J} {s t u : Session S P J} {view : ViewId}

/-- What a dashboard does to its session by itself. -/
def Event.isDeed : Event S P → Bool
  | .operate _ | .trigger _ | .edit _ _ => true
  | _ => false

theorem Event.not_direct_of_deed {e : Event S P} (h : e.isDeed = true) : e.isDirect = false := by
  cases e with
  | attach | cancel | shutdown | closeEvents => cases h
  | _ => rfl

/-- A request for the page in view waits. -/
def Asked (s : Session S P J) : Prop := (s.channel s.nav.currentView).pending = true

/-- Another page comes into view only together with a request, and on the same page a request
goes on waiting. -/
def Freshly (s t : Session S P J) : Prop :=
  (t.nav.currentView = s.nav.currentView ∧ (s.Asked → t.Asked)) ∨ t.Asked

theorem Freshly.trans (h : Freshly s t) (k : Freshly t u) : Freshly s u := by
  rcases k with ⟨hv, ha⟩ | ha
  · rcases h with ⟨hw, hb⟩ | hb
    · exact .inl ⟨hv.trans hw, fun hs => ha (hb hs)⟩
    · exact .inr (ha hb)
  · exact .inr ha

/-- Deeds lead from one session to the other. -/
abbrev Deeds (b : Backend S P J) : Session S P J → Session S P J → Prop :=
  Trace.Reaches (fun s e => Enabled s e ∧ e.isDeed = true) (next b)

structure Handles (b : Backend S P J) (s t : Session S P J) : Prop where
  reaches : Deeds b s t
  freshly : Freshly s t

/-- Deeds that end with a request for the page they lead to. -/
structure Visits (b : Backend S P J) (s t : Session S P J) : Prop where
  reaches : Deeds b s t
  asked : t.Asked

theorem Visits.handles (h : Visits b s t) : Handles b s t := ⟨h.reaches, .inr h.asked⟩

theorem Handles.visits (h : Handles b s t) (k : Visits b t u) : Visits b s u :=
  ⟨h.reaches.trans k.reaches, k.asked⟩

theorem deed_reaches (b : Backend S P J) (e : Event S P) (he : Enabled s e)
    (hd : e.isDeed = true) : Deeds b s (next b s e) :=
  .step ⟨he, hd⟩

namespace Handles

theorem refl (s : Session S P J) : Handles b s s := ⟨.refl s, .inl ⟨rfl, id⟩⟩

theorem trans (h : Handles b s t) (k : Handles b t u) : Handles b s u :=
  ⟨h.reaches.trans k.reaches, h.freshly.trans k.freshly⟩

/-- The page in view stays the same, and so do the requests. -/
theorem of_same_view {e : Event S P} (he : Enabled s e) (hd : e.isDeed = true)
    (hv : (next b s e).nav.currentView = s.nav.currentView)
    (hc : ∀ v, (next b s e).channel v = s.channel v) : Handles b s (next b s e) := by
  refine ⟨deed_reaches b e he hd, .inl ⟨hv, fun ha => ?_⟩⟩
  rw [Asked, hv, hc]
  exact ha

theorem edit (view : ViewId) (change : P → P) (s : Session S P J) :
    Handles b s (s.modifyPage view change) :=
  of_same_view (b := b) (e := .edit view change) trivial rfl rfl fun _ => modifyPage_channel ..

theorem operate (hs : s.nav.Sound) {op : Navigator.Operation P} (hr : op.isReload = false)
    (hc : (op.views.apply s.nav).current = s.nav.current) :
    Handles b s (next b s (.operate op)) := by
  have hu := (hs.announced op.views).untold (op.views_isReload.trans hr) hc
  refine of_same_view trivial rfl ?_ (Kept.operate op s).channels
  rw [operate_nav]
  exact hu.currentView

end Handles

theorem trigger_currentView (view : ViewId) (s : Session S P J) :
    (s.trigger view).1.nav.currentView = s.nav.currentView :=
  congrArg (fun o : Outline => o.nav.currentView) (trigger_outline view s)

theorem trigger_asked (hs : s.nav.Sound) : (s.trigger s.nav.currentView).1.Asked := by
  rw [Asked, trigger_currentView, (trigger_requested hs.currentView_made).here]

theorem Visits.trigger (hs : s.nav.Sound) : Visits b s (s.trigger s.nav.currentView).1 :=
  ⟨deed_reaches b (.trigger s.nav.currentView) hs.currentView_made rfl, trigger_asked hs⟩

/-- Wherever an operation leads, the page that comes into view is asked for a refresh. -/
theorem Visits.operate (hs : s.nav.Sound) (op : Navigator.Operation P) :
    Visits b s
      ((next b s (.operate op)).trigger (next b s (.operate op)).nav.currentView).1 := by
  have hn : (next b s (.operate op)).nav.Sound := by
    rw [operate_nav]
    exact hs.apply op.views
  have hr := deed_reaches b (.operate op) (s := s) trivial rfl
  exact ⟨hr.trans (trigger hn).reaches, trigger_asked hn⟩

end Session

namespace Dashboard

open Session (Handles Visits)

variable {S J : Type} {b : Backend S TablePage J} {d e : Dashboard S J} {step : Step S}

theorem withNav_session {α : Type} (b : Backend S TablePage J)
    (op : Navigator.Operation TablePage)
    {act : Navigator (View TablePage) → Navigator (View TablePage) × α}
    (ha : (act d.nav).1 = op.views.apply d.nav) :
    (d.withNav act).1.session = Session.next b d.session (.operate op) := by
  have hn : (act d.session.nav).1 = op.views.apply d.session.nav := ha
  simp only [withNav, Session.withNav, Session.next, hn]

theorem withNav_handles {α : Type} (hs : d.nav.Sound) (op : Navigator.Operation TablePage)
    {act : Navigator (View TablePage) → Navigator (View TablePage) × α}
    (ha : (act d.nav).1 = op.views.apply d.nav) (hr : op.isReload = false)
    (hc : (op.views.apply d.nav).current = d.nav.current) :
    Handles b d.session (d.withNav act).1.session := by
  rw [withNav_session b op ha]
  exact .operate hs hr hc

theorem showLayer_handles (hs : d.nav.Sound) (layer : Layer) :
    Handles b d.session (d.showLayer layer).session := by
  refine withNav_handles hs (.switchPage (TablePage.factory d.catalog d.scope) d.currentName layer)
    rfl rfl ?_
  have hn : (d.showLayer layer).nav.current = d.nav.current := by rw [showLayer_nav hs]
  rw [showLayer, withNav_nav] at hn
  exact hn

theorem dismissOverlay_handles (hs : d.nav.Sound) :
    Handles b d.session d.dismissOverlay.1.session := by
  refine withNav_handles hs .dismissOverlay rfl rfl ?_
  change d.nav.dismissOverlay.1.current = d.nav.current
  rw [Navigator.dismissOverlay]
  split <;> rfl

theorem triggerRefresh_visits (hs : d.nav.Sound) :
    Visits b d.session d.triggerRefresh.1.session := .trigger hs

/-- An operation and then a request for the page it leads to. -/
theorem withNav_visits {α : Type} (hs : d.nav.Sound) (op : Navigator.Operation TablePage)
    {act : Navigator (View TablePage) → Navigator (View TablePage) × α}
    (ha : (act d.nav).1 = op.views.apply d.nav) :
    Visits b d.session
      ((d.withNav act).1.session.trigger (d.withNav act).1.session.nav.currentView).1 := by
  rw [withNav_session b op ha]
  exact .operate hs op

theorem openPage_visits (hs : d.nav.Sound) (name : String) :
    Visits b d.session (d.openPage name).session := by
  let there := (d.withNav (·.navigate d.factory name)).1.session
  have hv : Visits b d.session (there.trigger there.nav.currentView).1 :=
    withNav_visits hs (.navigate (TablePage.factory d.catalog d.scope) name) rfl
  exact hv

theorem goBack_visits (hs : d.nav.Sound) : Visits b d.session d.goBack.session := by
  let there := (d.withNav (·.goBack d.factory)).1.session
  have hv : Visits b d.session (there.trigger there.nav.currentView).1 :=
    withNav_visits hs (.goBack (TablePage.factory d.catalog d.scope)) rfl
  exact hv

theorem setScope_visits (hs : d.nav.Sound) {scope : Scope} (h : d.scope ≠ scope) :
    Visits b d.session (d.setScope scope).session := by
  have hd : (nav { d with scope }).Sound := hs
  rw [setScope, if_neg h]
  exact withNav_visits hd (.reload (TablePage.factory d.catalog scope)) rfl

theorem setScope_handles (hs : d.nav.Sound) (scope : Scope) :
    Handles b d.session (d.setScope scope).session := by
  by_cases h : d.scope = scope
  · rw [setScope, if_pos h]
    exact .refl _
  · exact (setScope_visits hs h).handles

theorem showStatus_handles (hs : d.nav.Sound) (message : String) (kind : StatusKind) :
    Handles b d.session (d.showStatus message kind).session := by
  rw [showStatus]
  dsimp only
  split
  · exact .refl _
  · have hc : (nav { d.say message with covered := d.coveredBy d.top }).Sound := hs
    exact showLayer_handles hc _

theorem clearStatus_handles (hs : d.nav.Sound) : Handles b d.session d.clearStatus.session := by
  have hc : (nav { d with covered := none }).Sound := hs
  rw [clearStatus]
  split
  · split
    · exact showLayer_handles hc _
    · exact dismissOverlay_handles hc
  · exact dismissOverlay_handles hc

theorem closeQuestion_handles (hs : d.nav.Sound) :
    Handles b d.session d.closeQuestion.session := by
  have hc : (nav { d with mode := .normal }).Sound := hs
  exact dismissOverlay_handles hc

theorem showMenu_handles (hs : d.nav.Sound) :
    Handles b d.session (d.withNav (·.showMenu)).1.session := by
  refine withNav_handles hs .showMenu rfl rfl ?_
  change d.nav.showMenu.1.current = d.nav.current
  rw [Navigator.showMenu]
  split <;> rfl

theorem hideMenu_handles (hs : d.nav.Sound) :
    Handles b d.session (d.withNav (·.hideMenu)).1.session := by
  refine withNav_handles hs .hideMenu rfl rfl ?_
  change d.nav.hideMenu.1.current = d.nav.current
  rw [Navigator.hideMenu]
  split
  · rfl
  · dsimp only
    split <;> rfl

theorem Leads.handles (h : Leads d e) (hs : d.nav.Sound) : Handles b d.session e.session := by
  induction h with
  | refl => exact .refl _
  | openPage k name ih => exact ih.trans (openPage_visits (k.sound hs) name).handles
  | goBack k ih => exact ih.trans (goBack_visits (k.sound hs)).handles
  | showMenu k ih => exact ih.trans (showMenu_handles (k.sound hs))
  | hideMenu k ih => exact ih.trans (hideMenu_handles (k.sound hs))
  | dismissOverlay k ih => exact ih.trans (dismissOverlay_handles (k.sound hs))
  | recordPosition k page position ih =>
    exact ih.trans (withNav_handles (k.sound hs) (.recordPosition page position) rfl rfl rfl)
  | setScope k scope ih => exact ih.trans (setScope_handles (k.sound hs) scope)
  | ask k target ih => exact ih.trans (showLayer_handles (k.sound hs) _)
  | closeQuestion k ih => exact ih.trans (closeQuestion_handles (k.sound hs))
  | setMode _ _ _ _ ih => exact ih
  | showStatus k message kind ih => exact ih.trans (showStatus_handles (k.sound hs) message kind)
  | clearStatus k ih => exact ih.trans (clearStatus_handles (k.sound hs))
  | triggerRefresh k ih => exact ih.trans (triggerRefresh_visits (k.sound hs)).handles
  | @onPage e _ change _ ih =>
    have he : Handles b e.session (e.onPage (·.onView change)).session :=
      .edit e.nav.currentView (·.onView change) e.session
    exact ih.trans he
  | jot _ _ _ _ _ _ ih => exact ih

theorem Ensues.handles (h : Ensues d e) (hs : d.nav.Sound) : Handles b d.session e.session := by
  induction h with
  | refl => exact .refl _
  | leads k deeds ih => exact ih.trans (deeds.handles (k.sound hs))
  | @reveal e k layer _ ih =>
    have he : (nav { e with covered := none }).Sound := k.sound hs
    exact ih.trans (showLayer_handles he layer)
  | @aside e f _ same ih =>
    have hf : f.session = e.session := congrArg Bearing.session same
    rw [hf]
    exact ih

namespace Step

/-- Only a user of the coordinator itself can do so much. -/
def isDirect : Step S → Bool
  | .background event => event.isDirect
  | _ => false

/-- The refreshes that a step begins. -/
def begun (b : Backend S TablePage J) (d : Dashboard S J) : Step S → StartLog
  | .background event => Session.begun b d.session event
  | _ => []

abbrev begunAlong (b : Backend S TablePage J) : Dashboard S J → List (Step S) → StartLog :=
  Trace.gather (begun b) (next b)

/-- A step of the dashboard is a run of its session. -/
theorem session_reaches (he : Enabled d step) (hs : d.nav.Sound) (hd : step.isDirect = false) :
    Trace.Reaches (fun s e => Session.Enabled s e ∧ e.isDirect = false) (Session.next b)
      d.session (next b d step).session := by
  cases hw : step.isWork with
  | false =>
    have hk : Handles b d.session (next b d step).session := (ensues b d hw).handles hs
    exact hk.reaches.mono fun _ _ h => ⟨h.1, Session.Event.not_direct_of_deed h.2⟩
  | true =>
    cases step with
    | background event => exact .step ⟨he.1, hd⟩
    | runTimers => exact .refl _
    | _ => cases hw

theorem trace_session_reaches {steps : List (Step S)} (hs : d.nav.Sound)
    (valid : ValidTrace b d steps) (driven : ∀ step ∈ steps, step.isDirect = false) :
    Trace.Reaches (fun s e => Session.Enabled s e ∧ e.isDirect = false) (Session.next b)
      d.session (runTrace b d steps).session := by
  induction steps generalizing d with
  | nil => exact .refl _
  | cons step steps ih =>
    obtain ⟨hd, hds⟩ := List.forall_mem_cons.mp driven
    exact (session_reaches valid.1 hs hd).trans (ih (sound valid.1 hs) valid.2 hds)

end Step

/-- The loops are where they should be, and a page has been announced to them. -/
structure Attended (s : Session S TablePage J) : Prop where
  supervised : s.Supervised
  lined : s.Lined
  told : s.outline.Told

theorem Attended.reach {s t : Session S TablePage J} (h : Attended s)
    (hr : Trace.Reaches (fun s e => Session.Enabled s e ∧ e.isDirect = false) (Session.next b) s t) :
    Attended t := by
  refine hr.induction h ?_
  rintro s e ⟨he, hd⟩ hs
  have hi := hs.supervised.toInvariant
  refine ⟨hs.supervised.next he hd, hs.lined.next hi he, ?_⟩
  exact (Session.next_told hs.supervised.following hi.sound hd).mpr (.inl hs.told)

theorem Attended.next (h : Attended d.session) (he : step.Enabled d)
    (hd : step.isDirect = false) : Attended (step.next b d).session :=
  h.reach (Step.session_reaches he h.supervised.sound hd)

section Runs

variable {settings : Settings} {catalog : Catalog} {scope : Scope} {cluster context : String}
  {source : S} {start : Dashboard S J} {steps : List (Step S)}

theorem start_attended
    (b : Backend S TablePage J)
    (opened : start? settings catalog scope cluster context source = some start) :
    Attended start.session := by
  have named : start.currentName ≠ "" := by
    have hs : start.nav.Sound := start_sound opened
    have hn : start.currentName = settings.rootPage.token :=
      hs.top_current.symm.trans (congrArg Track.name (start_top opened))
    rw [hn]
    exact settings.rootPage.token_ne_empty
  obtain ⟨session, hs, rfl⟩ := Option.map_eq_some_iff.mp opened
  have hc : (session.trigger session.nav.currentView).1.nav.current = session.nav.current :=
    congrArg (fun o : Session.Outline => o.nav.current) (Session.trigger_outline _ session)
  have told : session.outline.Told := (Session.start_told hs).mpr (hc ▸ named)
  have h : Attended session := ⟨Session.start_supervised hs, Session.start_lined hs, told⟩
  have hm := (Session.start_invariant hs).sound.currentView_made
  have hr := Session.deed_reaches b (.trigger session.nav.currentView) (s := session) hm rfl
  exact h.reach (hr.mono fun _ _ hd => ⟨hd.1, Session.Event.not_direct_of_deed hd.2⟩)

theorem run_attended
    (opened : start? settings catalog scope cluster context source = some start)
    (valid : Step.ValidTrace b start steps) (driven : ∀ step ∈ steps, step.isDirect = false) :
    Attended (Step.runTrace b start steps).session := by
  have hs : start.nav.Sound := start_sound opened
  exact (start_attended b opened).reach (Step.trace_session_reaches hs valid driven)

end Runs

end Dashboard
end ClusterDashboard
