import ClusterDashboard.Proofs.Refresh.Wakefulness
/-!
# When the navigator is given up

However many notices are left to read and whichever loops run, the next turn of the watcher is its
last: it detaches the loop, which cancels it, and is gone. Once no task is ready, every loop has
taken its last turn or waits inside a refresh that it began before it was cancelled. From there on
neither requests nor answers bring anything about, as long as nobody attaches another loop by hand.

The navigator may be given up while the watcher is in the midst of its notices. Those that it has
read have come to loops attached to the page in view, as if by hand; the others go unread.
-/
namespace ClusterDashboard
namespace Session

variable {S P J : Type} {b : Backend S P J} {s : Session S P J} {e : Event S P} {id : LoopId}

/-- Somebody attaches a loop without the watcher. -/
def Event.attaches : Event S P → Bool
  | .attach _ => true
  | _ => false

/-- What an event has reported. -/
def emitted (b : Backend S P J) (s : Session S P J) (e : Event S P) : List RefreshEvent :=
  (next b s e).events.drop s.events.length

abbrev emittedAlong (b : Backend S P J) : Session S P J → List (Event S P) → List RefreshEvent :=
  Trace.gather (emitted b) (next b)

/-- No loop is attached, every one has been cancelled, and those that live on are those that wait
inside a refresh which they began before. -/
structure TornDown (b : Backend S P J) (start : Session S P J) (events : List (Event S P)) :
    Prop where
  detached : (runTrace b start events).active = none
  unattended : (runTrace b start events).activePage? b = none
  cancelled : ∀ (id : LoopId) l, (runTrace b start events).loops[id]? = some l →
    l.cancelled = true
  living : ∀ (id : LoopId) l, (runTrace b start events).loops[id]? = some l →
    (l.phase.isEnded = false ↔
      (∃ job, l.phase = .refreshing job true) ∧ LastBegan b start events id l.view)

theorem shutdown_active (s : Session S P J) : s.shutdown.active = none := by
  unfold shutdown
  split
  · rfl
  · next h => exact h

/-- As long as the navigator is in use, the watcher is there. -/
theorem next_watching (h : s.inUse = true → s.watching = true)
    (alive : (next b s e).inUse = true) : (next b s e).watching = true := by
  have there : s.inUse = true := next_inUse alive
  cases hd : e.isDirect with
  | true => exact (direct_frame b hd).2.2.trans (h there)
  | false =>
    rcases outline_cases (s := s) b hd with ho | ⟨op, -, ho⟩ | ⟨-, hn⟩ | ⟨-, ho⟩
    · exact (congrArg Outline.watching ho).trans (h there)
    · exact (congrArg Outline.watching ho).trans (h there)
    · rw [hn]
      exact (pollWatcher_watching (s := s.dequeue .watcher) there).trans (h there)
    · cases (congrArg Outline.inUse ho).symm.trans alive

theorem watching_along (h : s.inUse = true → s.watching = true) {events : List (Event S P)}
    (alive : (runTrace b s events).inUse = true) : (runTrace b s events).watching = true := by
  induction events generalizing s with
  | nil => exact h alive
  | cons e events ih => exact ih (next_watching h) alive

/-- The last turn of the watcher. -/
theorem pollWatcher_unused (unused : s.inUse = false) :
    s.pollWatcher = if s.watching then { s.shutdown with watching := false } else s := by
  rw [pollWatcher_eq, unused]
  cases s.watching <;> rfl

/-- Without the navigator an event leaves the watcher and the attached loop alone, or at most
detaches the loop. -/
theorem unused_next (unused : s.inUse = false) (h : e.attaches = false) :
    (next b s e).watching = s.watching ∧
        ((next b s e).active = s.active ∨ (next b s e).active = none) ∨
      e = .poll .watcher ∧ (next b s e).watching = false ∧ (next b s e).active = none := by
  cases hd : e.isDirect with
  | true =>
    refine .inl ⟨(direct_frame b hd).2.2, ?_⟩
    cases e with
    | attach view => cases h
    | cancel id => exact .inl (cancel_active id s)
    | shutdown => exact .inr (shutdown_active s)
    | closeEvents => exact .inl rfl
    | _ => cases hd
  | false =>
    rcases outline_cases (s := s) b hd with ho | ⟨op, -, ho⟩ | ⟨rfl, hn⟩ | ⟨-, ho⟩
    · exact .inl ⟨congrArg Outline.watching ho, .inl (congrArg Outline.active ho)⟩
    · exact .inl ⟨congrArg Outline.watching ho, .inl (congrArg Outline.active ho)⟩
    · rw [hn, pollWatcher_unused (s := s.dequeue .watcher) unused]
      split
      · exact .inr ⟨rfl, rfl, shutdown_active _⟩
      · exact .inl ⟨rfl, .inl rfl⟩
    · exact .inl ⟨congrArg Outline.watching ho, .inl (congrArg Outline.active ho)⟩

/-- The navigator has been given up. -/
structure Abandoned (s : Session S P J) : Prop extends Invariant s where
  unused : s.inUse = false
  detached : s.watching = false → s.active = none

/-- The watcher has gone after the navigator. -/
structure Silenced (s : Session S P J) : Prop extends Abandoned s where
  unwatched : s.watching = false

theorem Abandoned.next (h : Abandoned s) (he : Enabled s e) (ha : e.attaches = false) :
    Abandoned (Session.next b s e) := by
  refine ⟨h.toInvariant.next he, ?_, ?_⟩
  · exact eq_false_of_ne_true fun alive => nomatch h.unused.symm.trans (next_inUse alive)
  · intro gone
    rcases unused_next (b := b) h.unused ha with ⟨watching, active | active⟩ | ⟨-, -, active⟩
    · exact active.trans (h.detached (watching.symm.trans gone))
    · exact active
    · exact active

theorem Abandoned.along (h : Abandoned s) {events : List (Event S P)}
    (valid : ValidTrace b s events) (alone : ∀ e ∈ events, e.attaches = false) :
    Abandoned (Session.runTrace b s events) := by
  induction events generalizing s with
  | nil => exact h
  | cons e events ih =>
    obtain ⟨ha, has⟩ := List.forall_mem_cons.mp alone
    exact ih (h.next valid.1 ha) valid.2 has

theorem Invariant.abandoned (h : Invariant s) (watching : s.watching = true) :
    Abandoned (Session.next b s .drop) := by
  refine ⟨h.next trivial, ?_, fun gone => ?_⟩
  · exact congrArg Outline.inUse (wake_outline .watcher { s with inUse := false })
  · have there := congrArg Outline.watching (wake_outline .watcher { s with inUse := false })
    cases (there.trans watching).symm.trans gone

theorem Abandoned.silenced_of_quiet (h : Abandoned s) (quiet : Quiescent b s) : Silenced s := by
  have hs : s.pollWatcher = s := quiet .watcher
  rw [pollWatcher_unused h.unused] at hs
  refine ⟨h, eq_false_of_ne_true fun watching => ?_⟩
  rw [if_pos watching] at hs
  cases watching.symm.trans (congrArg Session.watching hs.symm)

namespace Silenced

theorem active (h : Silenced s) : s.active = none := h.detached h.unwatched

theorem cancelled (h : Silenced s) {l : Loop J} (hl : s.loops[id]? = some l) :
    l.cancelled = true := by
  rw [← isCancelled_eq hl, ← Bool.not_eq_false]
  intro hu
  cases h.active.symm.trans (h.only_active id hu)

theorem next (h : Silenced s) (he : Enabled s e) (ha : e.attaches = false) :
    Silenced (Session.next b s e) := by
  refine ⟨h.toAbandoned.next he ha, ?_⟩
  rcases unused_next (b := b) h.unused ha with ⟨watching, -⟩ | ⟨-, gone, -⟩
  · exact watching.trans h.unwatched
  · exact gone

theorem begins_nothing (h : Silenced s) (he : Enabled s e) : begun b s e = [] := by
  apply List.eq_nil_iff_forall_not_mem.mpr
  rintro ⟨id, view⟩ hb
  obtain ⟨l, -, hl, -, hu, -⟩ := h.begun_cases he hb
  cases hu.symm.trans (h.cancelled hl)

theorem emits_nothing (h : Silenced s) (he : Enabled s e) : emitted b s e = [] := by
  rcases h.reported (b := b) he with none | ⟨new, events, reports⟩
  · rw [emitted, none, List.drop_nil]
  · have still : new = [] := by
      by_contra hn
      obtain ⟨id, -, -, active, -⟩ := reports hn
      cases h.active.symm.trans active
    rw [emitted, events, still, List.append_nil, List.drop_length]

theorem along (h : Silenced s) {events : List (Event S P)} (valid : ValidTrace b s events)
    (alone : ∀ e ∈ events, e.attaches = false) :
    begunAlong b s events = [] ∧ emittedAlong b s events = [] := by
  induction events generalizing s with
  | nil => exact ⟨rfl, rfl⟩
  | cons e events ih =>
    obtain ⟨ha, has⟩ := List.forall_mem_cons.mp alone
    obtain ⟨begins, emits⟩ := ih (h.next valid.1 ha) valid.2 has
    exact ⟨List.append_eq_nil_iff.mpr ⟨h.begins_nothing valid.1, begins⟩,
      List.append_eq_nil_iff.mpr ⟨h.emits_nothing valid.1, emits⟩⟩

theorem tornDown {f : Factory P} {root : String} {source : S} {start : Session S P J}
    (opened : Session.start? f root source = some start) {events : List (Event S P)}
    (valid : ValidTrace b start events) (h : Silenced (Session.runTrace b start events))
    (quiet : Quiescent b (Session.runTrace b start events)) : TornDown b start events := by
  refine ⟨h.active, by simp [activePage?, h.active], fun id l => h.cancelled, fun id l hl => ?_⟩
  constructor
  · intro lives
    rcases quiet_cancelled hl (h.view_made id l hl) (h.cancelled hl) (quiet (.loop id)) with
      ended | ⟨job, waits⟩
    · cases lives.symm.trans ended
    · exact ⟨⟨job, waits⟩, start_last_began opened valid hl (waits ▸ rfl)⟩
  · rintro ⟨⟨job, waits⟩, -⟩
    rw [waits]
    rfl

end Silenced

/-- However the last user of the navigator leaves it, the tasks that are ready come to an end of
their turns, in whatever order they take them. Once none is ready, or none could take a step, all is
torn down, and nothing that happens later begins a refresh or reports one, unless somebody attaches
another loop. -/
theorem teardown_silences {f : Factory P} {root : String} {source : S} {start : Session S P J}
    (opened : Session.start? f root source = some start) {before : List (Event S P)}
    (valid : ValidTrace b start before) (alive : (runTrace b start before).inUse = true) :
    let s := runTrace b start (before ++ [.drop])
    (∀ turns : List Task, Trace.Valid (fun s task => task ∈ s.ready) (work b) s turns →
      turns.length ≤ s.turnBound) ∧
    ∀ after, ValidTrace b s after → (∀ e ∈ after, e.attaches = false) →
      let t := runTrace b s after
      t.ready = [] ∨ Quiescent b t → TornDown b start (before ++ .drop :: after) ∧
        ∀ later, ValidTrace b t later → (∀ e ∈ later, e.attaches = false) →
          begunAlong b t later = [] ∧ emittedAlong b t later = [] := by
  intro s
  have watching : (runTrace b start before).watching = true := by
    refine watching_along (fun _ => ?_) alive
    obtain ⟨n, -, rfl⟩ := Option.map_eq_some_iff.mp opened
    rfl
  have past : ValidTrace b start (before ++ [.drop]) :=
    Trace.valid_append.mpr ⟨valid, trivial, trivial⟩
  have abandoned : Abandoned s := by
    have dropped : s = next b (runTrace b start before) .drop := Trace.run_append before [.drop]
    rw [dropped]
    exact ((start_invariant opened).runTrace valid).abandoned watching
  refine ⟨fun turns => work_ends, ?_⟩
  intro after future alone t settled
  have wakeful : Wakeful t := ((start_wakeful opened).runTrace past).runTrace future
  have quiet : Quiescent b t := settled.elim wakeful.alert.quiescent id
  have silenced : Silenced t := (abandoned.along future alone).silenced_of_quiet quiet
  have whole : before ++ .drop :: after = (before ++ [.drop]) ++ after := by simp
  have ends : t = runTrace b start (before ++ .drop :: after) := by
    rw [whole]
    exact (Trace.run_append (before ++ [.drop]) after).symm
  refine ⟨?_, fun later => silenced.along⟩
  refine Silenced.tornDown opened ?_ (ends ▸ silenced) (ends ▸ quiet)
  rw [whole]
  exact Trace.valid_append.mpr ⟨past, future⟩

/-- A page is left while its refresh waits, somebody puts a second loop on it by hand, of which the
loop of the page in view has not heard yet, nor the watcher of two more changes of the page. -/
def backlog : List (Event (Gates ViewId) CountedPage) :=
  [.poll .watcher, .edit 0 fun page => { page with gated := true }, .trigger 0, .poll (.loop 0),
    .operate (.navigate (CountedPage.factory []) "nodes"), .poll .watcher, .poll (.loop 1),
    .attach 0, .poll (.loop 2), .operate (.navigate (CountedPage.factory []) "pods"),
    .operate (.navigate (CountedPage.factory ["events"]) "nodes")]

/-- The pages are asked for, and the answer comes that a loop still waits for. -/
def aftermath : List (Event (Gates ViewId) CountedPage) :=
  [.trigger 0, .trigger 1, .poll (.loop 2), .resume 0, .poll (.loop 0), .poll .watcher]

theorem teardown_silences_backlog : ∃ start : Rehearsal,
    Session.start? (CountedPage.factory []) "pods" [] = some start ∧
    ValidTrace CountedPage.backend start backlog ∧
    (runTrace CountedPage.backend start backlog).inUse = true ∧
    (runTrace CountedPage.backend start backlog).nav.notices = ["pods", "nodes"] ∧
    (runTrace CountedPage.backend start backlog).active = some 2 ∧
    let s := runTrace CountedPage.backend start (backlog ++ [.drop])
    let turns := [.watcher, .loop 1, .loop 2]
    let t := runTrace CountedPage.backend s (turns.map .poll)
    turns.length ≤ s.turnBound ∧ t.ready = [] ∧
      TornDown CountedPage.backend start (backlog ++ .drop :: turns.map .poll) ∧
      t.liveLoops = 1 ∧ begunAlong CountedPage.backend t aftermath = [] ∧
      emittedAlong CountedPage.backend t aftermath = [] := by
  have opened : Session.start? (CountedPage.factory []) "pods" [] = some (_ : Rehearsal) := rfl
  obtain ⟨bounded, silent⟩ :=
    teardown_silences opened (show ValidTrace CountedPage.backend _ backlog by decide) rfl
  obtain ⟨torn, later⟩ := silent ([.watcher, .loop 1, .loop 2].map .poll)
    (by decide) (by decide) (.inl (by decide))
  exact ⟨_, opened, by decide, rfl, rfl, rfl, bounded _ (by decide), by decide, torn, rfl,
    later aftermath (by decide) (by decide)⟩

end Session
end ClusterDashboard
