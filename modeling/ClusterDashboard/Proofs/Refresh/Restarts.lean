import ClusterDashboard.Proofs.Refresh.Handover
/-!
# When the loop is restarted

From a settled moment on, the attached loop stays where it is for as long as the current page does
and nothing is reloaded. A reload, or an operation that changes the current page, leaves one notice;
once that has been read there is one more loop, which has taken the place of the other.
-/
namespace ClusterDashboard
namespace Session

variable {S P J : Type} {b : Backend S P J} {s t : Session S P J} {e : Event S P}

/-- The pages are made anew, or another one becomes current. -/
def Event.Announces (s : Session S P J) : Event S P → Prop
  | .operate op => op.isReload = true ∨ (op.views.apply s.nav).current ≠ s.nav.current
  | _ => False

instance (s : Session S P J) : (e : Event S P) → Decidable (e.Announces s)
  | .operate op =>
    inferInstanceAs (Decidable (op.isReload = true ∨ (op.views.apply s.nav).current ≠ s.nav.current))
  | .trigger _ | .poll _ | .resume _ | .supply _ | .edit _ _ | .attach _ | .cancel _ | .shutdown
  | .closeEvents | .takeEvents | .drop => .isFalse id

/-- The same loop is attached, still serves the same page, and none has been added. -/
structure InPlace (s t : Session S P J) : Prop where
  active : t.active = s.active
  activations : t.loops.length = s.loops.length
  running : s.loops ≠ [] → ∃ (id : LoopId) (l m : Loop J), s.active = some id ∧
    s.loops[id]? = some l ∧ t.loops[id]? = some m ∧ m.view = l.view ∧ m.cancelled = false ∧
    m.phase.isEnded = false

/-- One loop has been added, which is attached and serves the page in view. -/
structure Restarted (s t : Session S P J) : Prop where
  activations : t.loops.length = s.loops.length + 1
  active : t.active = some s.loops.length
  running : ∃ m, t.loops[s.loops.length]? = some m ∧ m.view = t.nav.currentView ∧
    m.cancelled = false ∧ m.phase.isEnded = false

namespace Outline

variable {o p q : Outline}

/-- All notices have been read, and the loops are what they were. -/
structure Rests (o p : Outline) : Prop where
  read : p.nav.notices = []
  loops : p.loops = o.loops
  active : p.active = o.active

/-- The notice of the current page waits, with the loops as many as they were. -/
structure Due (o p : Outline) : Prop where
  notice : p.nav.notices = [p.nav.current]
  activations : p.loops.length = o.loops.length

/-- The notice has been read, and a loop been added. -/
structure Answered (o p : Outline) : Prop where
  read : p.nav.notices = []
  activations : p.loops.length = o.loops.length + 1
  active : p.active = some o.loops.length

theorem Rests.refl (read : o.nav.notices = []) : Rests o o := ⟨read, rfl, rfl⟩

theorem Answered.rests (h : Answered o p) (k : Rests p q) : Answered o q :=
  ⟨k.read, k.loops ▸ h.activations, k.active.trans h.active⟩

end Outline

open Outline (Rests Due Answered)

theorem run_inUse {events : List (Event S P)} (alive : (runTrace b s events).inUse = true) :
    s.inUse = true := by
  induction events generalizing s with
  | nil => exact alive
  | cons e events ih => exact next_inUse (ih alive)

/-- A notice of the current page adds a loop. -/
theorem pollWatcher_answers (h : s.outline.Following) (alive : s.inUse = true)
    (notice : s.nav.notices = [s.nav.current]) : Answered s.outline s.pollWatcher.outline := by
  have watching : s.watching = true := h.watching alive
  have answered : s.pollWatcher = s.caughtUp.attach s.nav.currentView := by
    rw [pollWatcher_eq, watching, alive, notice]
    exact if_pos rfl
  obtain ⟨activations, active, -⟩ := attach_adds s.nav.currentView s.caughtUp
  rw [answered]
  refine ⟨?_, ?_, ?_⟩
  · exact congrArg (·.notices) (surroundings_eq (attach_surroundings _ s.caughtUp)).1
  · rw [outline_length, outline_length, activations]
    rfl
  · rw [outline_length]
    exact active

/-- While nothing is announced the loops stay what they are. -/
theorem rests_next (h : Supervised t) (hd : e.isDirect = false) (still : ¬e.Announces t)
    (alive : (next b t e).inUse = true) (k : Rests s.outline t.outline) :
    Rests s.outline (next b t e).outline := by
  rcases outline_cases (s := t) b hd with ho | ⟨op, rfl, ho⟩ | ⟨rfl, hn⟩ | ⟨-, ho⟩
  · rw [ho]
    exact k
  · obtain ⟨made, same⟩ := not_or.mp still
    have untold := (h.sound.announced op.views).untold (by rw [op.views_isReload]; simpa using made)
      (Decidable.not_not.mp same)
    rw [ho]
    exact ⟨untold.notices.trans k.read, k.loops, k.active⟩
  · have there : t.inUse = true := next_inUse alive
    have same : (t.dequeue .watcher).pollWatcher = t.dequeue .watcher :=
      pollWatcher_read (s := t.dequeue .watcher) there k.read
    rw [hn, same]
    exact k
  · cases (congrArg Outline.inUse ho).symm.trans alive

theorem rests_along {events : List (Event S P)} (h : Supervised t)
    (valid : ValidTrace b t events) (driven : ∀ e ∈ events, e.isDirect = false)
    (still : Trace.Valid (fun s e => ¬Event.Announces s e) (next b) t events)
    (alive : (runTrace b t events).inUse = true) (k : Rests s.outline t.outline) :
    Rests s.outline (runTrace b t events).outline := by
  induction events generalizing t with
  | nil => exact k
  | cons e events ih =>
    obtain ⟨hd, hds⟩ := List.forall_mem_cons.mp driven
    have rests := rests_next h hd still.1 (run_inUse alive) k
    exact ih (h.next valid.1 hd) valid.2 hds still.2 alive rests

theorem due_next (h : Supervised t) (hd : e.isDirect = false) (hn : e.navigates = false)
    (alive : (next b t e).inUse = true) (k : Due s.outline t.outline) :
    Due s.outline (next b t e).outline ∨ Answered s.outline (next b t e).outline := by
  rcases outline_cases (s := t) b hd with ho | ⟨op, rfl, -⟩ | ⟨rfl, hw⟩ | ⟨-, ho⟩
  · rw [ho]
    exact .inl k
  · cases hn
  · have there : t.inUse = true := next_inUse alive
    have answered : Answered t.outline (t.dequeue .watcher).pollWatcher.outline :=
      pollWatcher_answers (s := t.dequeue .watcher) h.following there k.notice
    rw [hw]
    exact .inr ⟨answered.read, k.activations ▸ answered.activations,
      k.activations ▸ answered.active⟩
  · cases (congrArg Outline.inUse ho).symm.trans alive

theorem Event.still_of_calm (hn : e.navigates = false) (s : Session S P J) : ¬e.Announces s := by
  cases e with
  | operate op => cases hn
  | _ => exact id

theorem due_operate (h : s.nav.Sound) (read : s.nav.notices = []) {op : Navigator.Operation P}
    (announces : Event.Announces s (.operate op)) :
    Due s.outline (next b s (.operate op)).outline := by
  have told := (h.announced op.views).told (by rw [op.views_isReload]; exact announces)
  rw [read, List.nil_append] at told
  rw [operate_outline]
  exact ⟨told, rfl⟩

theorem due_along {events : List (Event S P)} (h : Supervised t) (valid : ValidTrace b t events)
    (driven : ∀ e ∈ events, e.isDirect = false) (calm : ∀ e ∈ events, e.navigates = false)
    (alive : (runTrace b t events).inUse = true) (k : Due s.outline t.outline) :
    Due s.outline (runTrace b t events).outline ∨
      Answered s.outline (runTrace b t events).outline := by
  induction events generalizing t with
  | nil => exact .inl k
  | cons e events ih =>
    obtain ⟨hd, hds⟩ := List.forall_mem_cons.mp driven
    obtain ⟨hn, hns⟩ := List.forall_mem_cons.mp calm
    have after : Supervised (next b t e) := h.next valid.1 hd
    rcases due_next h hd hn (run_inUse alive) k with due | answered
    · exact ih after valid.2 hds hns alive due
    · have still : Trace.Valid (fun s e => ¬Event.Announces s e) (next b) (next b t e) events :=
        Trace.valid_of_forall fun f hf s => Event.still_of_calm (hns f hf) s
      have rests : Rests (next b t e).outline (runTrace b (next b t e) events).outline :=
        rests_along after valid.2 hds still alive (.refl answered.read)
      exact .inr (answered.rests rests)

theorem Supervised.inPlace (h : Supervised s) (alive : s.inUse = true) (quiet : Quiescent b s)
    (ht : Supervised t) (k : Rests s.outline t.outline) : InPlace s t := by
  refine ⟨k.active, ?_, fun attended => ?_⟩
  · rw [← outline_length, k.loops, outline_length]
  · have told : s.outline.Told := .inr (mt outline_loops_nil.mp attended)
    obtain ⟨id, l, ha, hl, hc, -, -⟩ := h.attached_of_told alive quiet told
    have same : t.outline.loops[id]? = some (l.view, false) := by
      rw [k.loops]
      exact outline_loop.mpr ⟨l, hl, rfl, hc⟩
    obtain ⟨m, hm, hv, hmc⟩ := outline_loop.mp same
    refine ⟨id, l, m, ha, hl, hm, hv, hmc, eq_false_of_ne_true fun ended => ?_⟩
    cases hmc.symm.trans (ht.ended_cancelled id m hm ended)

theorem Supervised.restarted (ht : Supervised t) (alive : t.inUse = true) (quiet : Quiescent b t)
    (k : Answered s.outline t.outline) : Restarted s t := by
  have activations : t.loops.length = s.loops.length + 1 := by
    rw [← outline_length, k.activations, outline_length]
  have active : t.active = some s.loops.length := by
    rw [← outline_length]
    exact k.active
  have told : t.outline.Told := by
    refine .inr fun none => ?_
    rw [outline_loops_nil.mp none] at activations
    cases activations
  obtain ⟨id, m, ha, hm, hc, he, hv⟩ := ht.attached_of_told alive quiet told
  obtain rfl : id = s.loops.length := Option.some.inj (ha.symm.trans active)
  exact ⟨activations, active, m, hm, hv, hc, he⟩

/-- From any settled moment on, the attached loop is left alone as long as no operation changes the
current page or reloads; and one that does, once everything has settled again, has had it replaced
by exactly one new loop. -/
theorem loop_restarted_exactly_when_announced {f : Factory P} {root : String} {source : S}
    {start : Session S P J} (opened : Session.start? f root source = some start)
    {earlier : List (Event S P)} (settled : Settled b start earlier) :
    let s := runTrace b start earlier
    (∀ later, ValidTrace b s later → (∀ e ∈ later, e.isDirect = false) →
      Trace.Valid (fun s e => ¬Event.Announces s e) (next b) s later →
      (runTrace b s later).inUse = true → InPlace s (runTrace b s later)) ∧
    ∀ op later, Event.Announces s (.operate op) → Settled b s (.operate op :: later) →
      (∀ e ∈ later, e.navigates = false) → Restarted s (runTrace b s (.operate op :: later)) := by
  intro s
  have supervised : Supervised s :=
    (start_supervised opened).along settled.valid settled.driven
  have read : s.nav.notices = [] :=
    quiet_notices settled.alive (supervised.following.watching settled.alive) settled.quiet
  constructor
  · intro later valid driven still alive
    exact supervised.inPlace settled.alive settled.quiet (supervised.along valid driven)
      (rests_along supervised valid driven still alive (.refl read))
  · intro op later announces again calm
    obtain ⟨hd, hds⟩ := List.forall_mem_cons.mp again.driven
    have after : Supervised (runTrace b s (.operate op :: later)) :=
      supervised.along again.valid again.driven
    rcases due_along (supervised.next again.valid.1 hd) again.valid.2 hds calm again.alive
        (due_operate supervised.sound read announces) with due | answered
    · -- a notice that waits would have the watcher go on
      have none := quiet_notices again.alive (after.following.watching again.alive) again.quiet
      cases due.notice.symm.trans none
    · exact after.restarted again.alive again.quiet answered

/-- The root page is put under other layers, and a page is asked for that is refused. -/
def lingering : List (Event (Gates ViewId) CountedPage) :=
  [.operate (.switchPage (CountedPage.factory []) "pods" (.logs "logs pods/web")),
    .poll .watcher, .operate .dismissOverlay, .operate .showMenu,
    .operate (.navigate (CountedPage.factory ["gone"]) "gone"), .trigger 0,
    .operate (.recordPosition "pods" ⟨3, 0⟩), .poll .watcher, .poll (.loop 2)]

/-- A step back is taken, and everything settles. -/
def turningBack : List (Event (Gates ViewId) CountedPage) :=
  [.trigger 1, .poll .watcher, .poll (.loop 2), .poll (.loop 3)]

theorem loop_restarted_after_returning : ∃ start : Rehearsal,
    Session.start? (CountedPage.factory []) "pods" [] = some start ∧
    let s := runTrace CountedPage.backend start returning
    let t := runTrace CountedPage.backend s
      (.operate (.goBack (CountedPage.factory [])) :: turningBack)
    InPlace s (runTrace CountedPage.backend s lingering) ∧ Restarted s t ∧
      (s.active, t.active, t.nav.current) = (some 2, some 3, "nodes") := by
  have opened : Session.start? (CountedPage.factory []) "pods" [] = some (_ : Rehearsal) := rfl
  obtain ⟨stays, leaves⟩ := loop_restarted_exactly_when_announced opened
    (show Settled CountedPage.backend _ returning from
      ⟨by decide, by decide, rfl, quiescent_of_rest rfl rfl (by decide)⟩)
  exact ⟨_, opened, stays lingering (by decide) (by decide) (by decide) rfl,
    leaves _ turningBack (by decide)
      ⟨by decide, by decide, rfl, quiescent_of_rest rfl rfl (by decide)⟩ (by decide), rfl⟩

end Session
end ClusterDashboard
