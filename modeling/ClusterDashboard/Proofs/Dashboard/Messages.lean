import ClusterDashboard.Proofs.Dashboard.Ensuing
/-!
# Messages and their dismissals

A message that comes on top takes the next ticket and schedules its own dismissal; nothing else
brings a message on top, and what a message covers is a text, never another message. So the ticket
of the message on top has not been spent, and when it is, the message goes.
-/
namespace ClusterDashboard

theorem Layer.not_status_of_lasting {layer : Layer} (h : layer.isTransient = false) :
    layer.isStatus = false := by
  cases layer with
  | status message kind => cases h
  | _ => rfl

theorem Layer.not_status_of_scrollable {layer : Layer} (h : layer.isScrollable = true) :
    layer.isStatus = false := by
  cases layer with
  | status message kind => cases h
  | _ => rfl

theorem Layer.overlay_iff {layer : Layer} : layer.isOverlay = true ↔ layer ≠ .table := by
  cases layer <;> simp [Layer.isOverlay]

theorem Layer.overlay_of_status {layer : Layer} (h : layer.isStatus = true) :
    layer.isOverlay = true := by
  refine Layer.overlay_iff.mpr ?_
  rintro rfl
  cases h

/-- Only showing a layer can put a message on the screen. -/
def Navigator.Operation.informs {P : Type} : Operation P → Bool
  | .switchPage _ _ layer => layer.isStatus
  | _ => false

namespace Dashboard

variable {S J : Type} {b : Backend S TablePage J} {d e f : Dashboard S J} {step : Step S}
  {ticket : Nat}

/-- What a message covers is a text that can be scrolled. -/
def CoversText (d : Dashboard S J) : Prop :=
  ∀ track, d.covered = some track → track.layer.isScrollable = true

theorem coversText_of_none (h : d.covered = none) : d.CoversText := by
  intro track ht
  cases h.symm.trans ht

theorem coversText_of_same (h : d.CoversText) (hc : e.covered = d.covered) : e.CoversText := by
  intro track ht
  exact h track (hc.symm.trans ht)

theorem coveredBy_scrollable (h : d.CoversText) (top : Track) :
    ∀ track, d.coveredBy top = some track → track.layer.isScrollable = true := by
  intro track ht
  rw [coveredBy] at ht
  cases hl : top.layer with
  | status message kind =>
    rw [hl] at ht
    exact h track ht
  | detail | logs =>
    rw [hl] at ht
    cases ht
    rw [hl]
    rfl
  | table | menu | confirm =>
    rw [hl] at ht
    cases ht

theorem showStatus_coversText (h : d.CoversText) (message : String) (kind : StatusKind) :
    (d.showStatus message kind).CoversText := by
  rw [showStatus]
  dsimp only
  split
  · exact h
  · exact coveredBy_scrollable h _

theorem clearStatus_covered (d : Dashboard S J) : d.clearStatus.covered = none := by
  rw [clearStatus]
  split
  · split <;> rfl
  · rfl

theorem setScope_covered (scope : Scope) (d : Dashboard S J) :
    (d.setScope scope).covered = d.covered := by
  rw [setScope]
  split <;> rfl

theorem Leads.coversText (h : Leads d e) (hc : d.CoversText) : e.CoversText := by
  induction h with
  | refl => exact hc
  | showStatus _ message kind ih => exact showStatus_coversText ih message kind
  | clearStatus _ ih => exact coversText_of_none (clearStatus_covered _)
  | setScope _ scope ih => exact coversText_of_same ih (setScope_covered scope _)
  | _ => assumption

theorem Ensues.coversText (h : Ensues d e) (hc : d.CoversText) : e.CoversText := by
  induction h with
  | refl => exact hc
  | leads _ deeds ih => exact deeds.coversText ih
  | reveal _ layer _ _ => exact coversText_of_none rfl
  | aside _ same ih => exact coversText_of_same ih (congrArg Bearing.covered same)

/-- Messages that have come since each have a ticket of their own and a timer that runs. -/
structure Posts (d e : Dashboard S J) : Prop where
  later : d.ticket ≤ e.ticket
  timers : ∃ new, e.timers = d.timers ++ new ∧
    ∀ ticket, ticket ∈ new.map (·.ticket) ↔ d.ticket < ticket ∧ ticket ≤ e.ticket
  stays : e.top.layer.isStatus = true → e.ticket = d.ticket → d.top.layer.isStatus = true

namespace Posts

theorem of_same (ticket : e.ticket = d.ticket) (timers : e.timers = d.timers)
    (stays : e.top.layer.isStatus = true → d.top.layer.isStatus = true) : Posts d e where
  later := Nat.le_of_eq ticket.symm
  timers := by
    refine ⟨[], ?_, ?_⟩
    · rw [timers, List.append_nil]
    · intro t
      rw [ticket]
      simp only [List.map_nil, List.not_mem_nil, false_iff]
      omega
  stays ht _ := stays ht

theorem refl (d : Dashboard S J) : Posts d d := of_same rfl rfl id

theorem trans (h : Posts d e) (k : Posts e f) : Posts d f where
  later := Nat.le_trans h.later k.later
  timers := by
    obtain ⟨first, hf, hft⟩ := h.timers
    obtain ⟨second, hs, hst⟩ := k.timers
    refine ⟨first ++ second, by rw [hs, hf, List.append_assoc], ?_⟩
    intro t
    have := h.later
    have := k.later
    rw [List.map_append, List.mem_append, hft, hst]
    omega
  stays ht hk := by
    have := h.later
    have := k.later
    exact h.stays (k.stays ht (by omega)) (by omega)

theorem scrollTo (h : Posts d e) (scroll : Nat) : Posts d { e with scroll } :=
  ⟨h.later, h.timers, h.stays⟩

/-- The status line is no message. -/
theorem say (h : Posts d e) (status : String) : Posts d (e.say status) :=
  ⟨h.later, h.timers, h.stays⟩

end Posts

/-- No message comes on top but by being shown. -/
theorem withNav_stays {α : Type} (h : d.nav.Sound) (op : Navigator.Operation (View TablePage))
    {act : Navigator (View TablePage) → Navigator (View TablePage) × α}
    (ha : (act d.nav).1 = op.apply d.nav)
    (ho : op.informs = false) (ht : (d.withNav act).1.top.layer.isStatus = true) :
    d.top.layer.isStatus = true := by
  have hn : (d.withNav act).1.top = (op.apply d.nav).top := by
    rw [top, withNav_nav]
    exact congrArg Navigator.top ha
  rw [hn] at ht
  rcases h.toGrounded.apply_layer op with hl | hl | hl | ⟨f, name, hl⟩
  · rw [hl] at ht
    exact ht
  · cases (Layer.not_status_of_lasting hl).symm.trans ht
  · rw [hl] at ht
    cases ht
  · rw [hl] at ho
    cases ho.symm.trans ht

theorem triggerRefresh_top (d : Dashboard S J) : d.triggerRefresh.1.top = d.top :=
  top_of_situation (triggerRefresh_situation d)

theorem showLayer_posts (h : d.nav.Sound) {layer : Layer} (hl : layer.isStatus = false) :
    Posts d (d.showLayer layer) := by
  refine .of_same rfl rfl fun ht => ?_
  rw [showLayer_top h] at ht
  cases hl.symm.trans ht

theorem dismissOverlay_posts (h : d.nav.Sound) : Posts d d.dismissOverlay.1 :=
  .of_same rfl rfl (withNav_stays h .dismissOverlay rfl rfl)

theorem triggerRefresh_posts (d : Dashboard S J) : Posts d d.triggerRefresh.1 := by
  refine .of_same rfl rfl fun ht => ?_
  rw [triggerRefresh_top] at ht
  exact ht

theorem openPage_posts (h : d.nav.Sound) (name : String) : Posts d (d.openPage name) := by
  have hn : Posts d (d.withNav (·.navigate d.factory name)).1 :=
    .of_same rfl rfl (withNav_stays h (.navigate d.factory name) rfl rfl)
  exact ((hn.scrollTo 0).trans (triggerRefresh_posts _)).say _

theorem goBack_posts (h : d.nav.Sound) : Posts d d.goBack := by
  have hn : Posts d (d.withNav (·.goBack d.factory)).1 :=
    .of_same rfl rfl (withNav_stays h (.goBack d.factory) rfl rfl)
  exact ((hn.scrollTo 0).trans (triggerRefresh_posts _)).say _

theorem setScope_posts (h : d.nav.Sound) (scope : Scope) : Posts d (d.setScope scope) := by
  rw [setScope]
  split
  · exact .of_same rfl rfl id
  · have hd : (nav { d with scope }).Sound := h
    have hn : Posts d (withNav (fun nav => (nav.reload (factory { d with scope }), ()))
        { d with scope }).1 :=
      .of_same rfl rfl (withNav_stays hd (.reload (factory { d with scope })) rfl rfl)
    exact (hn.trans (triggerRefresh_posts _)).say _

theorem closeQuestion_posts (h : d.nav.Sound) : Posts d d.closeQuestion := by
  have hd : (nav { d with mode := .normal }).Sound := h
  have hm : Posts d { d with mode := .normal } := .of_same rfl rfl id
  exact (hm.trans (dismissOverlay_posts hd)).trans (.of_same rfl rfl id)

theorem showStatus_posts (message : String) (kind : StatusKind) (d : Dashboard S J) :
    Posts d (d.showStatus message kind) := by
  rw [showStatus]
  dsimp only
  split
  · exact .of_same rfl rfl id
  · have numbered : ∀ t, t ∈ [d.ticket + 1] ↔ d.ticket < t ∧ t ≤ d.ticket + 1 := by
      intro t
      rw [List.mem_singleton]
      omega
    refine ⟨Nat.le_succ _, ⟨[{ ticket := d.ticket + 1 }], rfl, numbered⟩, ?_⟩
    intro _ hk
    exact absurd hk (Nat.succ_ne_self _)

theorem clearStatus_unmessaged (h : d.nav.Sound) (hc : d.CoversText) :
    d.clearStatus.top.layer.isStatus = false := by
  have hd : (nav { d with covered := none }).Sound := h
  have dismissed : (dismissOverlay { d with covered := none }).1.top.layer.isStatus = false := by
    rw [top, dismissOverlay_nav, Navigator.dismissOverlay_top]
    rfl
  rw [clearStatus]
  split
  · next track ht =>
    split
    · rw [showLayer_top hd]
      exact Layer.not_status_of_scrollable (hc track ht)
    · exact dismissed
  · exact dismissed

theorem clearStatus_posts (h : d.nav.Sound) (hc : d.CoversText) : Posts d d.clearStatus := by
  have hk : d.clearStatus.ticket = d.ticket ∧ d.clearStatus.timers = d.timers := by
    rw [clearStatus]
    split
    · split <;> exact ⟨rfl, rfl⟩
    · exact ⟨rfl, rfl⟩
  refine .of_same hk.1 hk.2 fun ht => ?_
  cases (clearStatus_unmessaged h hc).symm.trans ht

theorem Leads.posts (h : Leads d e) (hs : d.nav.Sound) (hc : d.CoversText) : Posts d e := by
  induction h with
  | refl => exact .refl d
  | openPage k name ih => exact ih.trans (openPage_posts (k.sound hs) name)
  | goBack k ih => exact ih.trans (goBack_posts (k.sound hs))
  | showMenu k ih =>
    exact ih.trans (.of_same rfl rfl (withNav_stays (k.sound hs) .showMenu rfl rfl))
  | hideMenu k ih =>
    exact ih.trans (.of_same rfl rfl (withNav_stays (k.sound hs) .hideMenu rfl rfl))
  | dismissOverlay k ih => exact ih.trans (dismissOverlay_posts (k.sound hs))
  | @recordPosition e k page position ih =>
    have hr : Posts e (e.withNav fun nav => (nav.recordPosition page position, ())).1 :=
      .of_same rfl rfl (withNav_stays (k.sound hs) (.recordPosition page position) rfl rfl)
    exact ih.trans hr
  | setScope k scope ih => exact ih.trans (setScope_posts (k.sound hs) scope)
  | ask k target ih => exact (ih.trans (showLayer_posts (k.sound hs) rfl)).trans (.of_same rfl rfl id)
  | closeQuestion k ih => exact ih.trans (closeQuestion_posts (k.sound hs))
  | setMode _ _ _ _ ih => exact ih.trans (.of_same rfl rfl id)
  | showStatus _ message kind ih => exact ih.trans (showStatus_posts message kind _)
  | clearStatus k ih => exact ih.trans (clearStatus_posts (k.sound hs) (k.coversText hc))
  | triggerRefresh _ ih => exact ih.trans (triggerRefresh_posts _)
  | onPage _ change _ ih =>
    refine ih.trans (.of_same rfl rfl fun ht => ?_)
    rw [top_of_situation (onPage_situation _ _)] at ht
    exact ht
  | jot _ _ _ _ _ _ ih => exact ih.trans (.of_same rfl rfl id)

theorem Ensues.posts (h : Ensues d e) (hs : d.nav.Sound) (hc : d.CoversText) : Posts d e := by
  induction h with
  | refl => exact .refl d
  | leads k deeds ih => exact ih.trans (deeds.posts (k.sound hs) (k.coversText hc))
  | @reveal e k layer legible ih =>
    have he : (nav { e with covered := none }).Sound := k.sound hs
    have hu : Posts e { e with covered := none } := .of_same rfl rfl id
    exact (ih.trans hu).trans (showLayer_posts he (Layer.not_status_of_scrollable legible))
  | @aside e f _ same ih =>
    have hn : f.nav = e.nav := congrArg (fun k : Bearing S J => k.session.nav) same
    refine ih.trans (.of_same (congrArg Bearing.ticket same) (congrArg Bearing.timers same) ?_)
    rw [top, hn]
    exact id

theorem expiry_unmessages (h : d.nav.Sound) (hc : d.CoversText) :
    (d.onUiEvent (.statusExpired d.ticket)).top.layer.isStatus = false := by
  rw [onUiEvent, if_neg fun hn => hn rfl, top_of_situation (syncStream_situation _)]
  split
  · exact clearStatus_unmessaged h hc
  · next ht => exact eq_false_of_ne_true ht

theorem runTimers_timers (d : Dashboard S J) (h : ticket ∈ d.timers.map (·.ticket)) :
    ticket ∈ d.runTimers.timers.map (·.ticket) ∨
      .statusExpired ticket ∈ d.runTimers.uiEvents.drop d.uiEvents.length := by
  obtain ⟨t, ht, rfl⟩ := List.mem_map.mp h
  let started : Timer := { t with due := some (t.due.getD (d.clock + d.settings.statusDelayMs)) }
  have hs : started ∈ d.timers.map fun t =>
      { t with due := some (t.due.getD (d.clock + d.settings.statusDelayMs)) } :=
    List.mem_map.mpr ⟨t, ht, rfl⟩
  simp only [runTimers, List.partition_eq_filter_filter, List.drop_left]
  by_cases hd : started.due.any (· ≤ d.clock) = true
  · refine .inr (List.mem_map.mpr ⟨started, List.mem_filter.mpr ⟨hs, hd⟩, rfl⟩)
  · refine .inl (List.mem_map.mpr ⟨started, List.mem_filter.mpr ⟨hs, ?_⟩, rfl⟩)
    simpa using hd

theorem runTimers_length (d : Dashboard S J) : d.runTimers.timers.length ≤ d.timers.length := by
  simp only [runTimers, List.partition_eq_filter_filter]
  exact Nat.le_trans (List.length_filter_le _ _) (Nat.le_of_eq (List.length_map _))

namespace Step

/-- The tickets of the dismissals that a step schedules. -/
def scheduled (b : Backend S TablePage J) (d : Dashboard S J) (step : Step S) : List Nat :=
  ((step.next b d).timers.drop d.timers.length).map (·.ticket)

/-- What the timers report when their turn comes. -/
def reported (d : Dashboard S J) : Step S → List UiEvent
  | .runTimers => d.runTimers.uiEvents.drop d.uiEvents.length
  | _ => []

abbrev reportedAlong (b : Backend S TablePage J) :
    Dashboard S J → List (Step S) → List UiEvent :=
  Trace.gather reported (next b)

/-- The dismissal with the ticket has been scheduled and has not been delivered since; its timer
runs, or has reported that its time is over. -/
def Awaited (b : Backend S TablePage J) (start : Dashboard S J) (steps : List (Step S))
    (ticket : Nat) : Prop :=
  ∃ earlier step later, steps = earlier ++ step :: later ∧
    ticket ∈ scheduled b (runTrace b start earlier) step ∧
    .uiEvent (.statusExpired ticket) ∉ later ∧
    (ticket ∈ (runTrace b start steps).timers.map (·.ticket) ∨
      .statusExpired ticket ∈ reportedAlong b (runTrace b start (earlier ++ [step])) later)

theorem Awaited.cons {steps : List (Step S)} (h : Awaited b (next b d step) steps ticket) :
    Awaited b d (step :: steps) ticket := by
  obtain ⟨earlier, scheduling, later, rfl, hs, hn, ht⟩ := h
  exact ⟨step :: earlier, scheduling, later, rfl, hs, hn, ht⟩

theorem coversText (h : d.CoversText) (step : Step S) : (next b d step).CoversText := by
  cases hw : step.isWork with
  | false => exact (ensues b d hw).coversText h
  | true =>
    cases step with
    | background event => exact coversText_of_same h rfl
    | runTimers => exact coversText_of_same h rfl
    | _ => cases hw

theorem trace_coversText (h : d.CoversText) (steps : List (Step S)) :
    (runTrace b d steps).CoversText := by
  induction steps generalizing d with
  | nil => exact h
  | cons step steps ih => exact ih (coversText h step)

theorem running_of_scheduled (h : ticket ∈ scheduled b d step) :
    ticket ∈ (next b d step).timers.map (·.ticket) := by
  obtain ⟨t, ht, rfl⟩ := List.mem_map.mp h
  exact List.mem_map_of_mem (List.mem_of_mem_drop ht)

/-- What a step does about messages. -/
structure Posted (b : Backend S TablePage J) (d : Dashboard S J) (step : Step S) : Prop where
  later : d.ticket ≤ (next b d step).ticket
  scheduled : ∀ ticket, ticket ∈ scheduled b d step ↔
    d.ticket < ticket ∧ ticket ≤ (next b d step).ticket
  running : ∀ ticket, ticket ∈ d.timers.map (·.ticket) →
    ticket ∈ (next b d step).timers.map (·.ticket) ∨ .statusExpired ticket ∈ reported d step
  stays : (next b d step).top.layer.isStatus = true → (next b d step).ticket = d.ticket →
    d.top.layer.isStatus = true

theorem posted_of_posts (h : Posts d (next b d step)) : Posted b d step := by
  obtain ⟨new, hn, numbered⟩ := h.timers
  have hs : scheduled b d step = new.map (·.ticket) := by rw [scheduled, hn, List.drop_left]
  refine ⟨h.later, ?_, ?_, h.stays⟩
  · intro ticket
    rw [hs]
    exact numbered ticket
  · intro ticket ht
    rw [hn, List.map_append]
    exact .inl (List.mem_append_left _ ht)

theorem posted (he : Enabled d step) (h : d.nav.Sound) (hc : d.CoversText) :
    Posted b d step := by
  cases hw : step.isWork with
  | false => exact posted_of_posts ((ensues b d hw).posts h hc)
  | true =>
    cases step with
    | background event =>
      refine posted_of_posts (.of_same rfl rfl fun ht => ?_)
      rw [next, top_of_situation (background_situation he.2)] at ht
      exact ht
    | runTimers =>
      have nothing : scheduled b d .runTimers = [] := by
        rw [scheduled, next, List.drop_eq_nil_of_le (runTimers_length d)]
        rfl
      refine ⟨Nat.le_refl _, ?_, ?_, fun ht _ => ht⟩
      · intro ticket
        rw [nothing, next]
        simp only [List.not_mem_nil, false_iff]
        change ¬(d.ticket < ticket ∧ ticket ≤ d.ticket)
        omega
      · intro ticket ht
        exact runTimers_timers d ht
    | _ => cases hw

/-- A timer runs until it has reported. -/
theorem running_along (h : d.nav.Sound) (hc : d.CoversText) {steps : List (Step S)}
    (valid : ValidTrace b d steps) (ht : ticket ∈ d.timers.map (·.ticket)) :
    ticket ∈ (runTrace b d steps).timers.map (·.ticket) ∨
      .statusExpired ticket ∈ reportedAlong b d steps := by
  induction steps generalizing d with
  | nil => exact .inl ht
  | cons step steps ih =>
    rcases (posted valid.1 h hc).running ticket ht with hr | hr
    · rcases ih (sound valid.1 h) (coversText hc step) valid.2 hr with hx | hx
      · exact .inl hx
      · exact .inr (List.mem_append_right _ hx)
    · exact .inr (List.mem_append_left _ hr)

/-- A message that is on top at the end of a run has come in the run, or was there all along. -/
theorem awaited_or_stood (h : d.nav.Sound) (hc : d.CoversText) {steps : List (Step S)}
    (valid : ValidTrace b d steps) (ht : (runTrace b d steps).top.layer.isStatus = true) :
    Awaited b d steps (runTrace b d steps).ticket ∨
      (runTrace b d steps).ticket = d.ticket ∧ d.top.layer.isStatus = true ∧
        .uiEvent (.statusExpired d.ticket) ∉ steps := by
  induction steps generalizing d with
  | nil => exact .inr ⟨rfl, ht, List.not_mem_nil⟩
  | cons step steps ih =>
    have hn := sound valid.1 h (b := b)
    have hcn : (next b d step).CoversText := coversText hc step
    have hp : Posted b d step := posted valid.1 h hc
    rcases ih hn hcn valid.2 ht with ha | ⟨hk, hs, hu⟩
    · exact .inl ha.cons
    have hr : (runTrace b d (step :: steps)).ticket = (next b d step).ticket := hk
    by_cases hd : (next b d step).ticket = d.ticket
    · -- the message stood before the step, and the step did not take it away
      refine .inr ⟨hr.trans hd, hp.stays hs hd, ?_⟩
      intro hm
      rcases List.mem_cons.mp hm with rfl | hm
      · cases (expiry_unmessages h hc).symm.trans hs
      · exact hu (hd ▸ hm)
    · have hx : (next b d step).ticket ∈ scheduled b d step := by
        have := hp.later
        exact (hp.scheduled _).mpr (by omega)
      refine .inl ⟨[], step, steps, rfl, hr ▸ hx, hr ▸ hu, ?_⟩
      rw [hr]
      exact running_along hn hcn valid.2 (running_of_scheduled hx)

end Step

section Runs

variable {settings : Settings} {catalog : Catalog} {scope : Scope} {cluster context : String}
  {source : S} {start : Dashboard S J} {steps : List (Step S)}

theorem start_coversText
    (opened : start? settings catalog scope cluster context source = some start) :
    start.CoversText := by
  obtain ⟨session, -, rfl⟩ := Option.map_eq_some_iff.mp opened
  exact coversText_of_none rfl

/-- At every moment of every run, the dismissal of a message that is on top has been scheduled and
not been delivered since, its timer runs or has reported, and it will take the message away; and a
dismissal with any other ticket changes nothing. -/
theorem messages_dismissed
    (opened : start? settings catalog scope cluster context source = some start)
    (valid : Step.ValidTrace b start steps) :
    let d := Step.runTrace b start steps
    (d.top.layer.isStatus = true → Step.Awaited b start steps d.ticket ∧
      (d.onUiEvent (.statusExpired d.ticket)).top.layer.isStatus = false) ∧
    ∀ ticket, ticket ≠ d.ticket → d.onUiEvent (.statusExpired ticket) = d := by
  intro d
  have hs : start.nav.Sound := start_sound opened
  have hc := start_coversText opened
  constructor
  · intro ht
    constructor
    · rcases Step.awaited_or_stood hs hc valid ht with ha | ⟨-, hm, -⟩
      · exact ha
      · rw [start_top opened] at hm
        cases hm
    · have hd : d.nav.Sound := Step.trace_sound hs valid
      exact expiry_unmessages hd (Step.trace_coversText hc steps)
  · intro ticket hn
    rw [onUiEvent, if_pos hn]

end Runs

/-- The first dismissal comes while the menu is on top, and does nothing; the second message comes on
another page, and its time is over before its dismissal is delivered. -/
def overtaken : List (Step TableSource) :=
  [.message "Refreshing Pods" .progress, .act .toggleMenu, .uiEvent (.statusExpired 1),
    .act (.goToPage 2), .message "timed out" .error, .runTimers, .wait 1000, .runTimers]

theorem messages_dismissed_when_overtaken :
    ∃ start : Dashboard TableSource (Except Failure TableView),
      start? {} [] .all "kind" "kind" {} = some start ∧
      Step.ValidTrace TableSource.backend start overtaken ∧
      let d := Step.runTrace TableSource.backend start overtaken
      d.top = ⟨"deployments", .status "timed out" .error⟩ ∧ d.timers = [] ∧
        Step.Awaited TableSource.backend start overtaken 2 ∧
        (d.onUiEvent (.statusExpired 2)).top.layer.isStatus = false ∧
        d.onUiEvent (.statusExpired 1) = d := by
  have opened : start? {} [] .all "kind" "kind" {} =
    some (_ : Dashboard TableSource (Except Failure TableView)) := rfl
  have valid : ∀ start, start? {} [] .all "kind" "kind" {} = some start →
      Step.ValidTrace TableSource.backend start overtaken := by
    intro start hs
    obtain rfl := Option.some.inj (opened.symm.trans hs)
    decide
  obtain ⟨dismissed, spent⟩ := messages_dismissed opened (valid _ opened)
  have hd := dismissed (by decide)
  exact ⟨_, opened, valid _ opened, by decide, by decide, hd.1, hd.2, spent 1 (by decide)⟩

end Dashboard
end ClusterDashboard
