import ClusterDashboard.Proofs.Refresh.Steps
import ClusterDashboard.Refresh.Gate
/-!
# The discipline of refresh loops

Only the attached loop is uncancelled, and a loop that listens or refreshes holds the receiver of
its page. So no page is ever refreshed by two loops at once, a cancelled loop begins and reports
nothing, and no failure ends a loop.
-/
namespace ClusterDashboard
namespace Session

variable {S P J : Type} {b : Backend S P J} {s t : Session S P J}
variable {id : LoopId} {view : ViewId}

structure Invariant (s : Session S P J) : Prop where
  sound : s.nav.Sound
  only_active : s.OnlyActive
  view_made : ∀ (id : LoopId) l, s.loops[id]? = some l → l.view < s.nav.views.length
  receiver_held : ∀ (id : LoopId) l, s.loops[id]? = some l → l.phase.holdsReceiver = true →
    (s.channel l.view).holder = some id

theorem loop_of_outline (h : t.outline = s.outline) {m : Loop J} (hm : t.loops[id]? = some m) :
    ∃ l, s.loops[id]? = some l ∧ m.view = l.view ∧ m.cancelled = l.cancelled := by
  have hl := congrArg (fun o => o.loops[id]?) h
  simp only [outline, List.getElem?_map, hm, Option.map_some] at hl
  obtain ⟨l, hs, he⟩ := Option.map_eq_some_iff.mp hl.symm
  obtain ⟨hv, hc⟩ := Prod.mk.inj he
  exact ⟨l, hs, hv.symm, hc.symm⟩

theorem only_active_of_outline (h : t.outline = s.outline) (ho : s.OnlyActive) :
    t.OnlyActive := by
  intro id hu
  rw [isCancelled_of_outline h] at hu
  exact (congrArg Outline.active h).trans (ho id hu)

theorem view_made_of_outline (h : t.outline = s.outline) (hi : Invariant s) {m : Loop J}
    (hm : t.loops[id]? = some m) : m.view < t.nav.views.length := by
  obtain ⟨l, hl, hv, -⟩ := loop_of_outline h hm
  rw [hv, made_of_outline h]
  exact hi.view_made id l hl

theorem Invariant.of_kept (h : Invariant s) (k : Kept s t) : Invariant t := by
  refine ⟨k.sound h.sound, k.active h.only_active, ?_, ?_⟩
  · intro id m hm
    cases hl : s.loops[id]? with
    | none => exact (k.attached id m hl hm).2
    | some l =>
      obtain ⟨m', hm', hk⟩ := k.loops id l hl
      obtain rfl : m' = m := Option.some.inj (hm'.symm.trans hm)
      rw [hk.view]
      exact Nat.lt_of_lt_of_le (h.view_made id l hl) k.made
  · intro id m hm hp
    cases hl : s.loops[id]? with
    -- a loop that was not there has only just been attached, and holds nothing
    | none =>
      rw [(k.attached id m hl hm).1] at hp
      cases hp
    | some l =>
      obtain ⟨m', hm', hk⟩ := k.loops id l hl
      obtain rfl : m' = m := Option.some.inj (hm'.symm.trans hm)
      rw [hk.view, k.channels]
      apply h.receiver_held id l hl
      rcases hk.phase with he | he <;> simpa [he] using hp

theorem Invariant.of_requested (h : Invariant s) (r : Requested view s t) : Invariant t := by
  refine ⟨sound_of_outline r.outline h.sound, only_active_of_outline r.outline h.only_active,
    fun _ _ => view_made_of_outline r.outline h, ?_⟩
  intro id l hl hp
  rw [r.loops] at hl
  have hh := h.receiver_held id l hl hp
  by_cases hv : l.view = view
  · subst hv
    rw [r.here]
    exact hh
  · rw [r.elsewhere l.view hv]
    exact hh

theorem Invariant.of_turn (h : Invariant s) {starts : StartLog} {was now : Phase J}
    (ht : Turn id view starts s t) (ho : Outcome id view starts was now s t)
    (hv : ∀ l, s.loops[id]? = some l → l.view = view) : Invariant t := by
  refine ⟨sound_of_outline ht.outline h.sound, only_active_of_outline ht.outline h.only_active,
    fun _ _ => view_made_of_outline ht.outline h, ?_⟩
  intro other m hm hp
  by_cases he : other = id
  · subst he
    obtain ⟨l, hl, hmv, -⟩ := loop_of_outline ht.outline hm
    rw [hmv, hv l hl]
    exact ho.held (ho.phase m hm ▸ hp)
  · rw [ht.others other he] at hm
    have hh := h.receiver_held other m hm hp
    by_cases hw : m.view = view
    · subst hw
      exact ht.kept other he hh
    · rw [ht.elsewhere m.view hw]
      exact hh

theorem Invariant.turn (h : Invariant s) (b : Backend S P J) {l : Loop J}
    (hl : s.loops[id]? = some l) :
    ∃ now, Turn id l.view (begun b s (.poll (.loop id))) s (next b s (.poll (.loop id))) ∧
      Outcome id l.view (begun b s (.poll (.loop id))) l.phase now s
        (next b s (.poll (.loop id))) := by
  obtain ⟨ht, ho⟩ := poll_turn (b := b) hl
  obtain ⟨now, ho⟩ := ho (h.view_made id l hl) (h.receiver_held id l hl)
  exact ⟨now, ht, ho⟩

theorem Invariant.next (h : Invariant s) {e : Event S P} (he : Enabled s e) :
    Invariant (next b s e) := by
  rcases next_cases b h.sound h.only_active he with ⟨view, rfl, hm⟩ | ⟨id, l, rfl, hl⟩ | ⟨-, -, hk⟩
  · exact h.of_requested (trigger_requested hm)
  · obtain ⟨now, ht, ho⟩ := h.turn b hl
    refine h.of_turn ht ho fun m hm => ?_
    cases hl.symm.trans hm
    rfl
  · exact h.of_kept hk

theorem start_loops {f : Factory P} {root : String} {source : S}
    (h : Session.start? f root source = some s) : s.loops = [] := by
  obtain ⟨n, -, rfl⟩ := Option.map_eq_some_iff.mp h
  rfl

theorem start_invariant {f : Factory P} {root : String} {source : S}
    (h : Session.start? f root source = some s) : Invariant s := by
  have none : ∀ (id : LoopId) l, s.loops[id]? ≠ some l := by
    intro id l hl
    rw [start_loops h] at hl
    cases hl
  obtain ⟨n, hn, rfl⟩ := Option.map_eq_some_iff.mp h
  refine ⟨Navigator.start_sound hn, ?_, ?_, ?_⟩
  · intro id hu
    obtain ⟨l, hl, -⟩ := loop_of_uncancelled hu
    exact absurd hl (none id l)
  · exact fun id l hl => absurd hl (none id l)
  · exact fun id l hl => absurd hl (none id l)

theorem Invariant.runTrace (h : Invariant s) {events : List (Event S P)}
    (valid : ValidTrace b s events) : Invariant (runTrace b s events) :=
  Trace.run_induction h (fun _ _ he hi => hi.next he) valid

/-- A refresh is begun by the turn of an uncancelled loop that can have the receiver. -/
theorem Invariant.begun_cases (h : Invariant s) {e : Event S P} (he : Enabled s e)
    (hb : (id, view) ∈ begun b s e) :
    ∃ l, e = .poll (.loop id) ∧ s.loops[id]? = some l ∧ l.view = view ∧ l.cancelled = false ∧
      ((s.channel view).holder = none ∨ (s.channel view).holder = some id) := by
  rcases next_cases b h.sound h.only_active he with
    ⟨v, rfl, -⟩ | ⟨other, l, rfl, hl⟩ | ⟨-, hn, -⟩
  · simp [begun] at hb
  · obtain ⟨now, ht, ho⟩ := h.turn b hl
    obtain ⟨rfl, rfl⟩ := Prod.mk.inj (ht.own _ hb)
    have hn := List.ne_nil_of_mem hb
    exact ⟨l, rfl, hl, rfl, (isCancelled_eq hl).symm.trans (ht.started hn), ho.receiver hn⟩
  · rw [hn] at hb
    cases hb

theorem Invariant.refreshing_alone (h : Invariant s) {other : LoopId} {l : Loop J}
    (hl : s.loops[other]? = some l) (hr : l.phase.isRefreshing = true)
    (hh : (s.channel l.view).holder = none ∨ (s.channel l.view).holder = some id) :
    other = id := by
  have hp : l.phase.holdsReceiver = true := by
    cases hw : l.phase <;> simp_all [Phase.isRefreshing, Phase.holdsReceiver]
  have ho := h.receiver_held other l hl hp
  rcases hh with hh | hh
  · cases ho.symm.trans hh
  · exact Option.some.inj (ho.symm.trans hh)

theorem Invariant.cancelled_stays (h : Invariant s) {e : Event S P} (he : Enabled s e)
    {l : Loop J} (hl : s.loops[id]? = some l) (hc : l.cancelled = true) :
    ∃ m, (Session.next b s e).loops[id]? = some m ∧ m.cancelled = true := by
  have of_outline : ∀ {t : Session S P J}, t.outline = s.outline →
      ∃ m, t.loops[id]? = some m ∧ m.cancelled = true := by
    intro t ht
    obtain ⟨m, hm, -, hmc⟩ := loop_of_outline ht.symm hl
    exact ⟨m, hm, hmc ▸ hc⟩
  rcases next_cases b h.sound h.only_active he with
    ⟨view, rfl, hm⟩ | ⟨other, k, rfl, hk⟩ | ⟨-, -, hk⟩
  · exact of_outline (trigger_requested hm).outline
  · obtain ⟨now, ht, -⟩ := h.turn b hk
    exact of_outline ht.outline
  · obtain ⟨m, hm, hs⟩ := hk.loops id l hl
    exact ⟨m, hm, hs.cancelled hc⟩

/-- What has ended was there, and ended in its own turn: cancelled, or unable to report. -/
theorem Invariant.ended_cases (h : Invariant s) {e : Event S P} (he : Enabled s e)
    {m : Loop J} (hm : (Session.next b s e).loops[id]? = some m) (hd : m.phase.isEnded = true) :
    ∃ l, s.loops[id]? = some l ∧ (l.phase.isEnded = true ∨ e = .poll (.loop id) ∧
      (l.cancelled = true ∨
        s.listening = false ∧ (begun b s e ≠ [] ∨ l.phase.isRefreshing = true))) := by
  rcases next_cases b h.sound h.only_active he with
    ⟨view, rfl, hv⟩ | ⟨other, k, rfl, hk⟩ | ⟨-, -, hk⟩
  · change (s.trigger view).1.loops[id]? = some m at hm
    rw [(trigger_requested hv).loops] at hm
    exact ⟨m, hm, .inl hd⟩
  · obtain ⟨now, ht, ho⟩ := h.turn b hk
    by_cases hi : id = other
    · subst hi
      refine ⟨k, hk, ?_⟩
      rcases ho.ended (ho.phase m hm ▸ hd) with hx | hx | hx
      · exact .inl hx
      · exact .inr ⟨rfl, .inl ((isCancelled_eq hk).symm.trans hx)⟩
      · exact .inr ⟨rfl, .inr hx⟩
    · rw [ht.others id hi] at hm
      exact ⟨m, hm, .inl hd⟩
  · cases hl : s.loops[id]? with
    | none =>
      rw [(hk.attached id m hl hm).1] at hd
      cases hd
    | some l =>
      obtain ⟨m', hm', hs⟩ := hk.loops id l hl
      obtain rfl : m' = m := Option.some.inj (hm'.symm.trans hm)
      refine ⟨l, rfl, .inl ?_⟩
      rcases hs.phase with hx | hx <;> simpa [hx] using hd

theorem Invariant.reported (h : Invariant s) {e : Event S P} (he : Enabled s e) :
    (Session.next b s e).events = [] ∨
    ∃ new, (Session.next b s e).events = s.events ++ new ∧
      (new ≠ [] → ∃ id, e = .poll (.loop id) ∧ s.isCancelled id = false ∧
        s.active = some id ∧ (Session.next b s e).active = some id) := by
  rcases next_cases b h.sound h.only_active he with ⟨view, rfl, hv⟩ | ⟨id, l, rfl, hl⟩ | ⟨-, -, hk⟩
  · refine .inr ⟨[], ?_, absurd rfl⟩
    rw [List.append_nil]
    exact (trigger_requested hv).events
  · obtain ⟨now, ht, -⟩ := h.turn b hl
    obtain ⟨new, hn, hr⟩ := ht.emitted
    refine .inr ⟨new, hn, fun hne => ?_⟩
    have ha := h.only_active id (hr hne).1
    exact ⟨id, rfl, (hr hne).1, ha, (congrArg Outline.active ht.outline).trans ha⟩
  · rcases hk.events with hx | hx
    · exact .inr ⟨[], by rw [hx, List.append_nil], absurd rfl⟩
    · exact .inl hx

/-- What the loops keep to at a moment, whatever happens next. -/
structure Disciplined (b : Backend S P J) (s : Session S P J) : Prop where
  one_refresh : ∀ (i j : LoopId) l m, s.loops[i]? = some l → s.loops[j]? = some m →
    l.phase.isRefreshing = true → m.phase.isRefreshing = true → l.view = m.view → i = j
  begins_alone : ∀ e id view, Enabled s e → (id, view) ∈ begun b s e →
    ∀ (other : LoopId) l, s.loops[other]? = some l → l.phase.isRefreshing = true →
      l.view = view → other = id
  begins_uncancelled : ∀ e id view, Enabled s e → (id, view) ∈ begun b s e →
    s.isCancelled id = false
  reports : ∀ e, Enabled s e → (next b s e).events = [] ∨
    ∃ new, (next b s e).events = s.events ++ new ∧
      (new ≠ [] → ∃ id, e = .poll (.loop id) ∧ s.isCancelled id = false ∧
        s.active = some id ∧ (next b s e).active = some id)
  silent : ∀ id, s.isCancelled id = true → (next b s (.poll (.loop id))).events = s.events
  ends : ∀ e (id : LoopId) m, Enabled s e → (next b s e).loops[id]? = some m →
    m.phase.isEnded = true → ∃ l, s.loops[id]? = some l ∧ (l.phase.isEnded = true ∨
      e = .poll (.loop id) ∧ (l.cancelled = true ∨
        s.listening = false ∧ (begun b s e ≠ [] ∨ l.phase.isRefreshing = true)))

theorem Invariant.disciplined (h : Invariant s) (b : Backend S P J) : Disciplined b s where
  one_refresh i j l m hl hm hr hs hv := by
    refine h.refreshing_alone hl hr (.inr ?_)
    have hp : m.phase.holdsReceiver = true := by
      cases hw : m.phase <;> simp_all [Phase.isRefreshing, Phase.holdsReceiver]
    rw [hv]
    exact h.receiver_held j m hm hp
  begins_alone e id view he hb other l hl hr hv := by
    obtain ⟨-, -, -, -, -, hh⟩ := h.begun_cases he hb
    exact h.refreshing_alone hl hr (hv ▸ hh)
  begins_uncancelled e id view he hb := by
    obtain ⟨l, -, hl, -, hc, -⟩ := h.begun_cases he hb
    exact (isCancelled_eq hl).trans hc
  reports e he := h.reported he
  silent id hc := by
    cases hl : s.loops[id]? with
    | none =>
      rw [(poll_absent hl).2]
      rfl
    | some l =>
      obtain ⟨now, ht, -⟩ := h.turn b hl
      obtain ⟨new, hn, hr⟩ := ht.emitted
      cases new with
      | nil => rw [hn, List.append_nil]
      | cons event rest => cases hc.symm.trans (hr nofun).1
  ends e id m he hm hd := h.ended_cases he hm hd

theorem Invariant.cancelled_begins_nothing (h : Invariant s) {events : List (Event S P)}
    (valid : ValidTrace b s events) {l : Loop J} (hl : s.loops[id]? = some l)
    (hc : l.cancelled = true) (view : ViewId) : (id, view) ∉ begunAlong b s events := by
  induction events generalizing s l with
  | nil => exact List.not_mem_nil
  | cons e events ih =>
    intro hm
    rcases List.mem_append.mp hm with hb | hb
    · obtain ⟨m, -, hm, -, hu, -⟩ := h.begun_cases valid.1 hb
      cases hl.symm.trans hm
      cases hc.symm.trans hu
    · obtain ⟨m, hn, hmc⟩ := h.cancelled_stays (b := b) valid.1 hl hc
      exact ih (h.next valid.1) valid.2 hn hmc hb

/-- At every moment of every run the loops keep their discipline, and a loop that has been
cancelled never begins a refresh again. -/
theorem loops_disciplined {f : Factory P} {root : String} {source : S} {start : Session S P J}
    (opened : Session.start? f root source = some start) {earlier later : List (Event S P)}
    (valid : ValidTrace b start (earlier ++ later)) :
    let s := runTrace b start earlier
    Disciplined b s ∧ ∀ (id : LoopId) l, s.loops[id]? = some l → l.cancelled = true →
      ∀ view, (id, view) ∉ begunAlong b s later := by
  intro s
  obtain ⟨past, future⟩ := Trace.valid_append.mp valid
  have h : Invariant s := (start_invariant opened).runTrace past
  exact ⟨h.disciplined b, fun id l hl hc => h.cancelled_begins_nothing future hl hc⟩

/-- A page is left while its refresh waits at the gate, and another gets the loop. -/
def leaving : List (Event (Gates ViewId) CountedPage) :=
  [.poll .watcher, .edit 0 fun page => { page with gated := true }, .trigger 0, .poll (.loop 0),
    .operate (.navigate (CountedPage.factory []) "nodes"), .poll .watcher]

/-- The refresh that was left behind is answered while the new page is refreshed. -/
def answering : List (Event (Gates ViewId) CountedPage) :=
  [.trigger 1, .poll (.loop 1), .resume 0, .poll (.loop 0)]

theorem loops_disciplined_after_leaving : ∃ start : Rehearsal,
    Session.start? (CountedPage.factory []) "pods" [] = some start ∧
    ValidTrace CountedPage.backend start (leaving ++ answering) ∧
    begunAlong CountedPage.backend start (leaving ++ answering) = [(0, 0), (1, 1)] ∧
    (runTrace CountedPage.backend start (leaving ++ answering)).events = [.rendered "nodes"] ∧
    let s := runTrace CountedPage.backend start leaving
    s.active = some 1 ∧ Disciplined CountedPage.backend s ∧
      ∀ (id : LoopId) l, s.loops[id]? = some l → l.cancelled = true →
        ∀ view, (id, view) ∉ begunAlong CountedPage.backend s answering := by
  have opened : Session.start? (CountedPage.factory []) "pods" [] = some (_ : Rehearsal) := rfl
  exact ⟨_, opened, by decide, by decide, by decide, by decide,
    loops_disciplined opened (by decide)⟩

end Session
end ClusterDashboard
