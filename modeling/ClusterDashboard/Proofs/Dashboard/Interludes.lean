import ClusterDashboard.Proofs.Dashboard.Covering
import ClusterDashboard.Proofs.Dashboard.Sight
/-!
# Messages leave no trace

However many messages come over a table, a detail or a log, and whatever else arrives meanwhile,
once the last of them is dismissed everything is as it was: what shows on top, the page below it,
the history, and the stream that is held.
-/
namespace ClusterDashboard.Dashboard

variable {S J : Type} {b : Backend S TablePage J} {d e f : Dashboard S J} {step : Step S}

theorem dismissOverlay_retops (h : d.top.layer.isOverlay = true) :
    d.dismissOverlay.1.nav = { d.nav with
      menuShown := false
      history := d.nav.history.replaceTop (.table d.nav.current) } :=
  (dismissOverlay_nav d).trans (congrArg Prod.fst (Navigator.dismissOverlay_overlaid h))

/-- The page in view, the history below the top, the mode and the stream are as they were. -/
structure Remains (d e : Dashboard S J) : Prop where
  current : e.currentName = d.currentName
  view : e.nav.currentView = d.nav.currentView
  page : e.page = d.page
  below : e.nav.history.tracks.tail = d.nav.history.tracks.tail
  size : d.nav.history.tracks ≠ [] → e.nav.history.size = d.nav.history.size
  mode : e.mode = d.mode
  stream : e.stream = d.stream
  followers : e.followers = d.followers

namespace Remains

theorem refl (d : Dashboard S J) : Remains d d := ⟨rfl, rfl, rfl, rfl, fun _ => rfl, rfl, rfl, rfl⟩

theorem trans (h : Remains d e) (k : Remains e f) : Remains d f where
  current := k.current.trans h.current
  view := k.view.trans h.view
  page := k.page.trans h.page
  below := k.below.trans h.below
  size hn := by
    have hs := h.size hn
    have he : e.nav.history.tracks ≠ [] := by
      intro hx
      rw [History.size, hx] at hs
      exact hn (List.length_eq_zero_iff.mp hs.symm)
    exact (k.size he).trans hs
  mode := k.mode.trans h.mode
  stream := k.stream.trans h.stream
  followers := k.followers.trans h.followers

/-- Nothing but the top of the history and the menu changes, if those do. -/
theorem of_retopped {menuShown : Bool} {top : Track}
    (hn : e.nav = { d.nav with menuShown, history := d.nav.history.replaceTop top })
    (mode : e.mode = d.mode) (stream : e.stream = d.stream)
    (followers : e.followers = d.followers) : Remains d e where
  current := by
    rw [currentName, hn]
    rfl
  view := by
    rw [hn]
    rfl
  page := by
    have hs : e.session.nav = _ := hn
    rw [Dashboard.page, Session.page?, hs, hn]
    rfl
  below := by
    rw [hn]
    rfl
  size hne := by
    rw [hn]
    change d.nav.history.tracks.tail.length + 1 = d.nav.history.tracks.length
    cases ht : d.nav.history.tracks with
    | nil => exact absurd ht hne
    | cons track below => rfl
  mode := mode
  stream := stream
  followers := followers

theorem showLayer (h : d.nav.Sound) (layer : Layer) : Remains d (d.showLayer layer) :=
  of_retopped (showLayer_nav h layer) rfl rfl rfl

theorem dismissOverlay (h : d.top.layer.isOverlay = true) : Remains d d.dismissOverlay.1 :=
  of_retopped (dismissOverlay_retops h) rfl rfl rfl

theorem triggerRefresh (d : Dashboard S J) : Remains d d.triggerRefresh.1 := by
  have hq : d.triggerRefresh.1.nav.course = d.nav.course :=
    congrArg Situation.course (triggerRefresh_situation d)
  have hv : d.triggerRefresh.1.nav.currentView = d.nav.currentView :=
    congrArg (fun n : Navigator Unit => n.currentView) hq
  have hh : d.triggerRefresh.1.nav.history = d.nav.history :=
    congrArg (fun n : Navigator Unit => n.history) hq
  refine ⟨congrArg (fun n : Navigator Unit => n.current) hq, hv, ?_, ?_, fun _ => ?_, rfl, rfl, rfl⟩
  · rw [Dashboard.page, hv]
    exact congrArg (·.getD (default : TablePage)) (Session.trigger_page? ..)
  · rw [hh]
  · rw [hh]

end Remains

/-- What may arrive while messages are on the screen; a dismissal only if its message is not the
last one. -/
def Step.Passing (d : Dashboard S J) : Step S → Prop
  | .message _ _ | .refreshEvent _ | .uiEvent (.log _ _) | .tick => True
  | .uiEvent (.statusExpired ticket) => ticket ≠ d.ticket
  | _ => False

instance (d : Dashboard S J) : (step : Step S) → Decidable (step.Passing d)
  | .message _ _ | .refreshEvent _ | .uiEvent (.log _ _) | .tick => .isTrue trivial
  | .uiEvent (.statusExpired ticket) => inferInstanceAs (Decidable (ticket ≠ d.ticket))
  | .act _ | .setDetail _ _ _ | .startLogs _ _ | .attachLogs _ _ | .background _ | .child _ _
  | .runFollowers | .runTimers | .wait _ | .scrollTo _ | .emptyQueue | .discover _ | .identify _ =>
    .isFalse id

/-- A message lies over what was there. -/
structure Overlaid (d e : Dashboard S J) : Prop extends Remains d e where
  message : e.top.layer.isStatus = true
  covered : e.covered = d.coveredBy d.top

/-- Nothing has come over what was there yet. -/
structure Bare (d e : Dashboard S J) : Prop extends Remains d e where
  top : e.top = d.top
  covered : e.covered = d.covered

theorem showStatus_eq (h : d.mode ≠ .confirm) (message : String) (kind : StatusKind) :
    d.showStatus message kind =
      let shown := showLayer (.status message kind)
        { d.say message with covered := d.coveredBy d.top }
      { shown with ticket := d.ticket + 1, timers := d.timers ++ [{ ticket := d.ticket + 1 }] } := by
  rw [showStatus]
  exact if_neg h

/-- Every message covers what the first one covered. -/
theorem showStatus_overlaid (hs : e.nav.Sound) (hm : e.mode ≠ .confirm) (h : Remains d e)
    (hc : e.coveredBy e.top = d.coveredBy d.top) (message : String) (kind : StatusKind) :
    Overlaid d (e.showStatus message kind) := by
  let covering := { e.say message with covered := e.coveredBy e.top }
  have hn : covering.nav.Sound := hs
  have ht := showLayer_top hn (.status message kind)
  have hr : Remains e (covering.showLayer (.status message kind)) :=
    .of_retopped (showLayer_nav hn (.status message kind)) rfl rfl rfl
  have hk := h.trans hr
  rw [showStatus_eq hm]
  refine ⟨⟨hk.current, hk.view, hk.page, hk.below, hk.size, hk.mode, hk.stream, hk.followers⟩,
    ?_, hc⟩
  change (covering.showLayer (.status message kind)).top.layer.isStatus = true
  rw [ht]
  rfl

theorem Overlaid.showStatus (h : Overlaid d e) (hs : e.nav.Sound) (hm : d.mode ≠ .confirm)
    (message : String) (kind : StatusKind) : Overlaid d (e.showStatus message kind) := by
  refine showStatus_overlaid hs (h.mode ▸ hm) h.toRemains ?_ message kind
  rw [coveredBy_message h.message, h.covered]

theorem Bare.showStatus (h : Bare d e) (hs : e.nav.Sound) (hm : d.mode ≠ .confirm)
    (message : String) (kind : StatusKind) : Overlaid d (e.showStatus message kind) := by
  refine showStatus_overlaid hs (h.mode ▸ hm) h.toRemains ?_ message kind
  rw [coveredBy, coveredBy, h.top, h.covered]

def Step.isMessage : Step S → Bool
  | .message _ _ => true
  | _ => false

/-- A passing step shows a message, or nobody sees it. -/
theorem passing_cases (b : Backend S TablePage J) (h : step.Passing d) :
    (∃ message kind, step.next b d = d.showStatus message kind) ∨
    (step.isMessage = false ∧ Remains d (step.next b d) ∧
      (step.next b d).top = d.top ∧ (step.next b d).covered = d.covered) := by
  have same : Remains d d := .refl d
  cases step with
  | message message kind => exact .inl ⟨message, kind, rfl⟩
  | refreshEvent event =>
    cases event with
    | rendered page => exact .inr ⟨rfl, same, rfl, rfl⟩
    | failed page error =>
      by_cases hp : page = d.currentName
      · exact .inl ⟨error, .error, if_pos hp⟩
      · have hn : Step.next b d (.refreshEvent (.failed page error)) = d := if_neg hp
        rw [hn]
        exact .inr ⟨rfl, same, rfl, rfl⟩
  | uiEvent event =>
    cases event with
    | statusExpired ticket =>
      have hn : Step.next b d (.uiEvent (.statusExpired ticket)) = d := if_pos h
      rw [hn]
      exact .inr ⟨rfl, same, rfl, rfl⟩
    | log stream feed =>
      refine .inr ⟨rfl, ?_⟩
      rw [Step.next, onUiEvent]
      split
      · exact ⟨same, rfl, rfl⟩
      · exact ⟨⟨rfl, rfl, rfl, rfl, fun _ => rfl, rfl, rfl, rfl⟩, rfl, rfl⟩
  | tick =>
    refine .inr ⟨rfl, ?_⟩
    rw [Step.next, tick]
    split
    · exact ⟨.triggerRefresh d, top_of_situation (triggerRefresh_situation d), rfl⟩
    · exact ⟨same, rfl, rfl⟩
  | _ => exact h.elim

theorem passing_enabled (h : step.Passing d) : step.Enabled d := by
  cases step with
  | background event => exact h.elim
  | _ => trivial

theorem Overlaid.along (h : Overlaid d e) (hs : e.nav.Sound) (hm : d.mode ≠ .confirm)
    {interlude : List (Step S)} (passing : Trace.Valid Step.Passing (Step.next b) e interlude) :
    Overlaid d (Step.runTrace b e interlude) := by
  induction interlude generalizing e with
  | nil => exact h
  | cons step interlude ih =>
    have hn : (step.next b e).nav.Sound := Step.sound (passing_enabled passing.1) hs
    refine ih ?_ hn passing.2
    rcases passing_cases b passing.1 with ⟨message, kind, hx⟩ | ⟨-, hr, ht, hc⟩
    · rw [hx]
      exact h.showStatus hs hm message kind
    · exact ⟨h.toRemains.trans hr, by rw [ht]; exact h.message, hc.trans h.covered⟩

/-- Once a message has come there is one. -/
theorem Bare.along (h : Bare d e) (hs : e.nav.Sound) (hm : d.mode ≠ .confirm)
    {interlude : List (Step S)} (passing : Trace.Valid Step.Passing (Step.next b) e interlude)
    (shown : ∃ message kind, .message message kind ∈ interlude) :
    Overlaid d (Step.runTrace b e interlude) := by
  induction interlude generalizing e with
  | nil =>
    obtain ⟨message, kind, hx⟩ := shown
    cases hx
  | cons step interlude ih =>
    have hn : (step.next b e).nav.Sound := Step.sound (passing_enabled passing.1) hs
    rcases passing_cases b passing.1 with ⟨message, kind, hx⟩ | ⟨hne, hr, ht, hc⟩
    · have ho : Overlaid d (step.next b e) := by
        rw [hx]
        exact h.showStatus hs hm message kind
      exact ho.along hn hm passing.2
    · refine ih ⟨h.toRemains.trans hr, ht.trans h.top, hc.trans h.covered⟩ hn passing.2 ?_
      obtain ⟨message, kind, hx⟩ := shown
      rcases List.mem_cons.mp hx with rfl | hx
      · cases hne
      · exact ⟨message, kind, hx⟩

/-- The layer that a dismissal leaves. -/
def uncoveredLayer (d : Dashboard S J) : Layer :=
  match d.covered with
  | some track => if track.name = d.currentName then track.layer else .table
  | none => .table

/-- A dismissal concerns the message alone. -/
theorem clearStatus_remains (hs : d.nav.Sound) (message : d.top.layer.isStatus = true) :
    Remains d d.clearStatus ∧ d.clearStatus.top = ⟨d.currentName, d.uncoveredLayer⟩ := by
  have hu : (nav { d with covered := none }).Sound := hs
  have uncovered : Remains d { d with covered := none } :=
    ⟨rfl, rfl, rfl, rfl, fun _ => rfl, rfl, rfl, rfl⟩
  have overlaid : (top { d with covered := none }).layer.isOverlay = true :=
    Layer.overlay_of_status message
  have bare : (dismissOverlay { d with covered := none }).1.top = .table d.currentName := by
    rw [top, dismissOverlay_retops overlaid]
    rfl
  have dismissed := uncovered.trans (.dismissOverlay overlaid)
  cases hc : d.covered with
  | none =>
    have gone : d.clearStatus = (dismissOverlay { d with covered := none }).1 := by
      rw [clearStatus, hc]
    rw [gone, uncoveredLayer, hc]
    exact ⟨dismissed, bare⟩
  | some track =>
    by_cases here : track.name = d.currentName
    · have back : d.clearStatus = showLayer track.layer { d with covered := none } := by
        rw [clearStatus, hc]
        exact if_pos here
      simp only [back, uncoveredLayer, hc, if_pos here]
      exact ⟨uncovered.trans (.showLayer hu _), showLayer_top hu _⟩
    · have gone : d.clearStatus = (dismissOverlay { d with covered := none }).1 := by
        rw [clearStatus, hc]
        exact if_neg here
      simp only [gone, uncoveredLayer, hc, if_neg here]
      exact ⟨dismissed, bare⟩

/-- Under the message lies what was there. -/
theorem Overlaid.cleared (h : Overlaid d e) (hs : e.nav.Sound) (hd : d.nav.Sound)
    (legible : d.top.layer = .table ∨ d.top.layer.isScrollable = true) :
    Remains d e.clearStatus ∧ e.clearStatus.top = d.top := by
  obtain ⟨remains, top⟩ := clearStatus_remains hs h.message
  refine ⟨h.toRemains.trans remains, top.trans ?_⟩
  have name : d.top.name = e.currentName := hd.top_current.trans h.current.symm
  have layer : e.uncoveredLayer = d.top.layer := by
    rw [uncoveredLayer, h.covered]
    rcases legible with table | legible
    · rw [coveredBy, table]
    · have covered : d.coveredBy d.top = some d.top := by
        rw [coveredBy_plain (Layer.not_status_of_scrollable legible), if_pos legible]
      rw [covered]
      exact if_pos name
  rw [← name, layer]

theorem not_status_of_legible (h : d.top.layer = .table ∨ d.top.layer.isScrollable = true) :
    d.top.layer.isStatus = false := by
  rcases h with hl | hl
  · rw [hl]
    rfl
  · exact Layer.not_status_of_scrollable hl

theorem syncStream_self (h : d.InSight) : d.syncStream = d := by
  rw [syncStream]
  split
  · next hs =>
    obtain ⟨held, unseen⟩ := Bool.and_eq_true_iff.mp hs
    rw [h.seen held] at unseen
    cases unseen
  · rfl

/-- The stream that was held under the messages is in sight again. -/
theorem Overlaid.cleared_inSight (h : Overlaid d e) (hs : e.nav.Sound) (hd : d.InSight)
    (legible : d.top.layer = .table ∨ d.top.layer.isScrollable = true) :
    e.clearStatus.InSight where
  sound := clearStatus_sound hs
  seen held := by
    obtain ⟨hr, ht⟩ := h.cleared hs hd.sound legible
    rw [hr.stream] at held
    rcases onScreen_iff.mp (hd.seen held) with ⟨title, hl⟩ | ⟨message, kind, title, hl, -⟩
    · refine onScreen_iff.mpr (.inl ⟨title, ?_⟩)
      rw [ht]
      exact hl
    · have hn := not_status_of_legible legible
      rw [hl] at hn
      cases hn

/-- The last dismissal and the escape key do the same. -/
theorem dismissed_eq (h : d.top.layer.isStatus = true) {last : Step S}
    (dismisses : last = .uiEvent (.statusExpired d.ticket) ∨ last = .act .escape) :
    last.next b d = d.clearStatus.syncStream := by
  rcases dismisses with rfl | rfl
  · rw [Step.next, onUiEvent, if_neg fun hn => hn rfl, if_pos h]
  · have he : d.escape = d.clearStatus := if_pos h
    rw [Step.next, act, dispatch, he]

section Runs

variable {settings : Settings} {catalog : Catalog} {scope : Scope} {cluster context : String}
  {source : S} {start : Dashboard S J} {steps interlude : List (Step S)} {last : Step S}

/-- Messages over a table, a detail or a log, however many and whatever else arrives between them,
leave no trace once the last one has been dismissed, by its own dismissal or by the escape key. -/
theorem messages_transparent
    (opened : start? settings catalog scope cluster context source = some start)
    (valid : Step.ValidTrace b start steps)
    (unasked : (Step.runTrace b start steps).mode ≠ .confirm)
    (legible : (Step.runTrace b start steps).top.layer = .table ∨
      (Step.runTrace b start steps).top.layer.isScrollable = true)
    (passing : Trace.Valid Step.Passing (Step.next b) (Step.runTrace b start steps) interlude)
    (shown : ∃ message kind, .message message kind ∈ interlude) :
    let d := Step.runTrace b start steps
    let e := Step.runTrace b d interlude
    (last = .uiEvent (.statusExpired e.ticket) ∨ last = .act .escape) →
      let f := last.next b e
      f.top = d.top ∧ Remains d f ∧ f.top.layer.isStatus = false := by
  intro d e dismisses f
  have hd : d.InSight :=
    Trace.run_induction (start_inSight opened) (fun _ _ he hi => hi.next he) valid
  have rests : Bare d d := ⟨.refl d, rfl, rfl⟩
  have he : Overlaid d e := rests.along hd.sound unasked passing shown
  have hs : e.nav.Sound := by
    refine Trace.run_induction (motive := fun e => e.nav.Sound) hd.sound ?_ passing
    exact fun _ _ hp => Step.sound (passing_enabled hp)
  have hf : f = e.clearStatus := by
    have hx : f = e.clearStatus.syncStream := dismissed_eq he.message dismisses
    rw [hx, syncStream_self (he.cleared_inSight hs hd legible)]
  obtain ⟨hr, ht⟩ := he.cleared hs hd.sound legible
  rw [hf]
  exact ⟨ht, hr, by rw [ht]; exact not_status_of_legible legible⟩

end Runs

def reading : List (Step TableSource) := [.attachLogs "logs pods/web" none]

/-- Two messages and a failure come over the log; the dismissal of the first comes too late. -/
def chatter : List (Step TableSource) :=
  [.tick, .message "Refreshing Pods" .progress, .refreshEvent (.failed "pods" "timed out"),
    .uiEvent (.statusExpired 1), .uiEvent (.log 1 (.line "ready")), .message "gone" .error]

theorem messages_transparent_over_log :
    ∃ start : Dashboard TableSource (Except Failure TableView),
      start? {} [] .all "kind" "kind" {} = some start ∧
      let d := Step.runTrace TableSource.backend start reading
      let e := Step.runTrace TableSource.backend d chatter
      d.top = ⟨"pods", .logs "logs pods/web"⟩ ∧ d.stream = some 1 ∧ e.ticket = 3 ∧
        Trace.Valid Step.Passing (Step.next TableSource.backend) d chatter ∧
        ∀ last : Step TableSource, last = .uiEvent (.statusExpired 3) ∨ last = .act .escape →
          let f := last.next TableSource.backend e
          f.top = d.top ∧ Remains d f ∧ f.top.layer.isStatus = false := by
  have opened : start? {} [] .all "kind" "kind" {} =
    some (_ : Dashboard TableSource (Except Failure TableView)) := rfl
  have shown : ∃ message kind, Step.message message kind ∈ chatter :=
    ⟨"Refreshing Pods", .progress, .tail _ (.head _)⟩
  refine ⟨_, opened, by decide, by decide, by decide, by decide, fun last dismisses => ?_⟩
  exact messages_transparent opened (by decide) (by decide) (.inr (by decide)) (by decide) shown
    dismisses

end ClusterDashboard.Dashboard
