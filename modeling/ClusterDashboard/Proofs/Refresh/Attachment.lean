import ClusterDashboard.Proofs.Refresh.Following
/-!
# Exactly one loop, on the page in view

When no task has anything left to do, the attached loop serves the page in view and every other
loop is cancelled: it has ended, or waits inside a refresh that it began in time.
-/
namespace ClusterDashboard
namespace Session

variable {S P J : Type} {b : Backend S P J} {s : Session S P J} {id : LoopId} {view : ViewId}

/-- No background task can take a step. -/
def Quiescent (b : Backend S P J) (s : Session S P J) : Prop := ∀ task, poll b task s = s

/-- The last refresh that the loop began was begun on the page, and before it was cancelled. -/
def LastBegan (b : Backend S P J) (s : Session S P J) (events : List (Event S P)) (id : LoopId)
    (view : ViewId) : Prop :=
  ∃ earlier later, events = earlier ++ .poll (.loop id) :: later ∧
    (runTrace b s earlier).isCancelled id = false ∧
    (id, view) ∈ begun b (runTrace b s earlier) (.poll (.loop id)) ∧
    ∀ v, (id, v) ∉ begunAlong b (runTrace b s (earlier ++ [.poll (.loop id)])) later

/-- The attached loop is the one that is not cancelled, and it serves the page in view. -/
def Attached (b : Backend S P J) (start : Session S P J) (events : List (Event S P)) : Prop :=
  let s := runTrace b start events
  ∃ (id : LoopId) (l : Loop J), s.active = some id ∧ s.loops[id]? = some l ∧
    l.cancelled = false ∧ l.phase.isEnded = false ∧ l.view = s.nav.currentView ∧
    ∀ (other : LoopId) m, other ≠ id → s.loops[other]? = some m → m.cancelled = true ∧
      (m.phase.isEnded = true ∨
        (∃ job, m.phase = .refreshing job true) ∧ LastBegan b start events other m.view)

/-- A loop that refreshes a page has just begun to, or has been at it. -/
theorem Invariant.refreshing_cases (h : Invariant s) {e : Event S P} (he : Enabled s e)
    {m : Loop J} (hm : (Session.next b s e).loops[id]? = some m)
    (hr : m.phase.isRefreshing = true) :
    (id, m.view) ∈ begun b s e ∨ ((∀ v, (id, v) ∉ begun b s e) ∧
      ∃ l, s.loops[id]? = some l ∧ l.view = m.view ∧ l.phase.isRefreshing = true) := by
  rcases next_cases b h.sound h.only_active he with ⟨v, rfl, hv⟩ | ⟨other, k, rfl, hk⟩ | ⟨-, hb, hk⟩
  · change (s.trigger v).1.loops[id]? = some m at hm
    rw [(trigger_requested hv).loops] at hm
    exact .inr ⟨fun _ => List.not_mem_nil, m, hm, rfl, hr⟩
  · obtain ⟨now, ht, ho⟩ := h.turn b hk
    by_cases hi : id = other
    · subst hi
      obtain ⟨l, hl, hv, -⟩ := loop_of_outline ht.outline hm
      obtain rfl : k = l := Option.some.inj (hk.symm.trans hl)
      cases hb : begun b s (.poll (.loop id)) with
      | nil =>
        refine .inr ⟨fun _ => List.not_mem_nil, k, hk, hv.symm, ?_⟩
        exact ho.refreshing (ho.phase m hm ▸ hr) hb
      | cons entry rest =>
        have hent := ht.own entry (hb ▸ List.mem_cons_self)
        rw [hent, hv]
        exact .inl List.mem_cons_self
    · rw [ht.others id hi] at hm
      refine .inr ⟨fun v hv => ?_, m, hm, rfl, hr⟩
      exact hi (Prod.mk.inj (ht.own _ hv)).1
  · rw [hb]
    cases hl : s.loops[id]? with
    | none =>
      rw [(hk.attached id m hl hm).1] at hr
      cases hr
    | some l =>
      obtain ⟨m', hm', hs⟩ := hk.loops id l hl
      obtain rfl : m' = m := Option.some.inj (hm'.symm.trans hm)
      refine .inr ⟨fun _ => List.not_mem_nil, l, rfl, hs.view.symm, ?_⟩
      rcases hs.phase with hx | hx <;> simpa [hx] using hr

theorem LastBegan.cons {e : Event S P} {events : List (Event S P)}
    (h : LastBegan b (Session.next b s e) events id view) :
    LastBegan b s (e :: events) id view := by
  obtain ⟨earlier, later, rfl, hc, hb, hn⟩ := h
  exact ⟨e :: earlier, later, rfl, hc, hb, hn⟩

theorem Invariant.refreshing_since (h : Invariant s) {events : List (Event S P)}
    (valid : ValidTrace b s events) {m : Loop J}
    (hm : (Session.runTrace b s events).loops[id]? = some m)
    (hr : m.phase.isRefreshing = true) :
    LastBegan b s events id m.view ∨ ((∀ v, (id, v) ∉ begunAlong b s events) ∧
      ∃ l, s.loops[id]? = some l ∧ l.view = m.view ∧ l.phase.isRefreshing = true) := by
  induction events generalizing s with
  | nil => exact .inr ⟨fun _ => List.not_mem_nil, m, hm, rfl, hr⟩
  | cons e events ih =>
    -- the last refresh begun is one of the later events, or else this very event
    rcases ih (h.next valid.1) valid.2 hm with hb | ⟨hn, l, hl, hv, hlr⟩
    · exact .inl hb.cons
    · rcases h.refreshing_cases valid.1 hl hlr with hb | ⟨hx, k, hk, hkv, hkr⟩
      · obtain ⟨k, rfl, hk, -, hc, -⟩ := h.begun_cases valid.1 hb
        exact .inl ⟨[], events, rfl, (isCancelled_eq hk).trans hc, hv ▸ hb, hn⟩
      · refine .inr ⟨fun v hmem => ?_, k, hk, hkv.trans hv, hkr⟩
        exact (List.mem_append.mp hmem).elim (hx v) (hn v)

/-- A loop that refreshes a page began to after the session was opened. -/
theorem start_last_began {f : Factory P} {root : String} {source : S} {start : Session S P J}
    (opened : Session.start? f root source = some start) {events : List (Event S P)}
    (valid : ValidTrace b start events) {m : Loop J}
    (hm : (runTrace b start events).loops[id]? = some m) (hr : m.phase.isRefreshing = true) :
    LastBegan b start events id m.view := by
  rcases (start_invariant opened).refreshing_since valid hm hr with hb | ⟨-, k, hk, -⟩
  · exact hb
  · rw [start_loops opened] at hk
    cases hk

/-- The turn of a cancelled loop is its last, unless it waits for an answer. -/
theorem poll_stops {l : Loop J} (hl : s.loops[id]? = some l) (hm : l.view < s.nav.views.length)
    (hc : l.cancelled = true) {m : Loop J} (hn : (s.pollLoop b id).loops[id]? = some m) :
    m.phase.isEnded = true ∨ ∃ job, m.phase = .refreshing job true := by
  have hi : s.isCancelled id = true := (isCancelled_eq hl).trans hc
  have ends : m.phase = .ended → m.phase.isEnded = true ∨ ∃ job, m.phase = .refreshing job true :=
    fun he => .inl (he ▸ rfl)
  have gone (live : l.cancelled = false) : False := nomatch hc.symm.trans live
  cases poll_step b hl with
  | rested rests same =>
    obtain rfl : m = l := Option.some.inj (hn.symm.trans (same.symm ▸ hl))
    cases hp : m.phase with
    | ended => exact .inl rfl
    | refreshing job parked =>
      cases parked with
      | true => exact .inr ⟨job, rfl⟩
      | false => simp [restsIn, hp] at rests
    | starting | queued | listening => simp [restsIn, hp, hc] at rests
  | ended _ he =>
    rw [he] at hn
    exact ends (endLoop_phase hn)
  | listened _ listens =>
    rw [listens, listen, if_pos hi] at hn
    exact ends (endLoop_phase hn)
  | claimed _ live _ => exact (gone live).elim
  | queued _ live _ _ => exact (gone live).elim
  | answered job _ answers =>
    rcases conclude_cases b id hm job with ⟨-, hx⟩ | ⟨hu, -⟩
    · rw [answers, if_pos (hasEnded_of_phase hx)] at hn
      exact ends (hx m hn)
    · cases hi.symm.trans hu

theorem quiet_cancelled {l : Loop J} (hl : s.loops[id]? = some l)
    (hm : l.view < s.nav.views.length) (hc : l.cancelled = true)
    (hq : s.pollLoop b id = s) :
    l.phase.isEnded = true ∨ ∃ job, l.phase = .refreshing job true :=
  poll_stops hl hm hc (hq.symm ▸ hl)

theorem quiet_notices (alive : s.inUse = true) (watching : s.watching = true)
    (quiet : Quiescent b s) : s.nav.notices = [] := by
  have hq : s.pollWatcher.nav.notices = s.nav.notices :=
    congrArg (fun s => s.nav.notices) (quiet .watcher)
  rw [pollWatcher_nav, if_pos ⟨watching, alive⟩] at hq
  exact hq.symm

theorem Supervised.attached_of_told (h : Supervised s) (alive : s.inUse = true)
    (quiet : Quiescent b s) (told : s.outline.Told) :
    ∃ (id : LoopId) (l : Loop J), s.active = some id ∧ s.loops[id]? = some l ∧
      l.cancelled = false ∧ l.phase.isEnded = false ∧ l.view = s.nav.currentView := by
  have hn : s.nav.notices = [] := quiet_notices alive (h.following.watching alive) quiet
  have hl : s.outline.loops ≠ [] := told.elim (absurd hn) id
  obtain ⟨id, ha, hv⟩ := h.following.attached alive hn hl
  obtain ⟨l, hs, hlv, hlc⟩ := outline_loop.mp hv
  refine ⟨id, l, ha, hs, hlc, ?_, hlv⟩
  apply eq_false_of_ne_true
  intro hx
  cases hlc.symm.trans (h.ended_cancelled id l hs hx)

/-- A run that nobody meddles with, up to a moment when no task has anything left to do. -/
structure Settled (b : Backend S P J) (start : Session S P J) (events : List (Event S P)) :
    Prop where
  valid : ValidTrace b start events
  driven : ∀ e ∈ events, e.isDirect = false
  alive : (runTrace b start events).inUse = true
  quiet : Quiescent b (runTrace b start events)

/-- Once all notices have been read, only the page in view is refreshed. -/
theorem Supervised.begun_in_view (h : Supervised s) (alive : s.inUse = true)
    (read : s.nav.notices = []) {e : Event S P} (he : Enabled s e) (hb : (id, view) ∈ begun b s e) :
    view = s.nav.currentView := by
  obtain ⟨l, -, hl, hv, hc, -⟩ := h.begun_cases he hb
  have ha : s.active = some id := h.only_active id ((isCancelled_eq hl).trans hc)
  have hn : s.outline.loops ≠ [] := by
    intro hn
    rw [outline_loops_nil.mp hn] at hl
    cases hl
  obtain ⟨other, ho, hw⟩ := h.following.attached alive read hn
  obtain rfl : id = other := Option.some.inj (ha.symm.trans ho)
  obtain ⟨m, hm, hmv, -⟩ := outline_loop.mp hw
  obtain rfl : l = m := Option.some.inj (hl.symm.trans hm)
  exact hv.symm.trans hmv

/-- When nothing is left to do, a cancelled loop has ended, or waits for the answer to a refresh
that it began while it was attached. -/
theorem retired_of_cancelled {f : Factory P} {root : String} {source : S} {start : Session S P J}
    (opened : Session.start? f root source = some start) {events : List (Event S P)}
    (valid : ValidTrace b start events) (quiet : Quiescent b (runTrace b start events))
    {l : Loop J} (hl : (runTrace b start events).loops[id]? = some l)
    (cancelled : l.cancelled = true) :
    l.phase.isEnded = true ∨
      (∃ job, l.phase = .refreshing job true) ∧ LastBegan b start events id l.view := by
  have made := ((start_invariant opened).runTrace valid).view_made id l hl
  rcases quiet_cancelled hl made cancelled (quiet (.loop id)) with ended | ⟨job, parked⟩
  · exact .inl ended
  · exact .inr ⟨⟨job, parked⟩, start_last_began opened valid hl (parked ▸ rfl)⟩

/-- In a quiescent moment of a run that nobody else meddles with, exactly one loop is not
cancelled, and it serves the page in view. The root page lists a built-in kind and is named by its
token, so the name is not empty. -/
theorem page_in_view_attended {f : Factory P} {root : String} {source : S} {start : Session S P J}
    (named : root ≠ "") (opened : Session.start? f root source = some start)
    {events : List (Event S P)} (valid : ValidTrace b start events)
    (driven : ∀ e ∈ events, e.isDirect = false) (alive : (runTrace b start events).inUse = true)
    (quiet : Quiescent b (runTrace b start events)) : Attached b start events := by
  have opening := start_supervised opened
  have told := opening.told_along (b := b) (start_announced opened named) valid driven
  have h := opening.along valid driven
  obtain ⟨id, l, active, there, live, running, shown⟩ := h.attached_of_told alive quiet told
  refine ⟨id, l, active, there, live, running, shown, fun other m apart found => ?_⟩
  have cancelled : m.cancelled = true := by
    rw [← isCancelled_eq found, ← Bool.not_eq_false]
    intro uncancelled
    exact apart (Option.some.inj ((h.only_active other uncancelled).symm.trans active))
  exact ⟨cancelled, retired_of_cancelled opened valid quiet found cancelled⟩

/-- A page is left while its refresh waits, and found again before the answer is there: its first
loop is still inside the refresh, and its second waits for the receiver. -/
def returning : List (Event (Gates ViewId) CountedPage) :=
  [.poll .watcher, .edit 0 fun page => { page with gated := true }, .trigger 0, .poll (.loop 0),
    .operate (.navigate (CountedPage.factory []) "nodes"), .poll .watcher,
    .operate (.navigate (CountedPage.factory ["nodes"]) "pods"), .poll .watcher,
    .poll (.loop 1), .poll (.loop 2)]

theorem page_in_view_attended_after_returning : "pods" ≠ "" ∧ ∃ start : Rehearsal,
    Session.start? (CountedPage.factory []) "pods" [] = some start ∧
    ValidTrace CountedPage.backend start returning ∧
    (∀ e ∈ returning, e.isDirect = false) ∧
    (runTrace CountedPage.backend start returning).inUse = true ∧
    Quiescent CountedPage.backend (runTrace CountedPage.backend start returning) ∧
    (runTrace CountedPage.backend start returning).active = some 2 ∧
    Attached CountedPage.backend start returning := by
  have named : "pods" ≠ "" := by decide
  have opened : Session.start? (CountedPage.factory []) "pods" [] = some (_ : Rehearsal) := rfl
  have quiet : ∀ start, Session.start? (CountedPage.factory []) "pods" [] = some start →
      Quiescent CountedPage.backend (runTrace CountedPage.backend start returning) := by
    intro start hs
    obtain rfl := Option.some.inj (opened.symm.trans hs)
    rintro (_ | _ | _ | _ | id) <;> rfl
  refine ⟨named, _, opened, by decide, by decide, rfl, quiet _ opened, rfl, ?_⟩
  exact page_in_view_attended named opened (by decide) (by decide) rfl (quiet _ opened)

end Session
end ClusterDashboard
