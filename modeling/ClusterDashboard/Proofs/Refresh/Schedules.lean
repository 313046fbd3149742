import ClusterDashboard.Proofs.Refresh.Readings
import ClusterDashboard.Proofs.Refresh.Handover
/-!
# Schedules do not matter

Between the operations of the navigator tasks take their turns, requests come and answers arrive,
in whatever order. Every schedule leads navigation the same way, namely the way of a navigator on
its own, and once a run has settled the page that is watched does not tell the schedule either.
-/
namespace ClusterDashboard

open Navigator (Alike Answer)

namespace Session

variable {S P J α : Type} {b : Backend S P J} {s : Session S P J}
  {n : Navigator (View P)} {reading : P → α}

/-- The operations among the events, on pages that have refresh channels. -/
def operations (events : List (Event S P)) : List (Navigator.Operation (View P)) :=
  events.filterMap fun
    | .operate op => some op.views
    | _ => none

/-- What an operation gives back to whoever asked for it. -/
def Event.answers (s : Session S P J) : Event S P → List Answer
  | .operate op => [op.views.answer s.nav]
  | _ => []

abbrev answersAlong (b : Backend S P J) : Session S P J → List (Event S P) → List Answer :=
  Trace.gather Event.answers (next b)

theorem operations_cons (e : Event S P) (events : List (Event S P)) :
    (∃ op, e = .operate op ∧ operations (e :: events) = op.views :: operations events) ∨
      e.navigates = false ∧ operations (e :: events) = operations events ∧
        ∀ s : Session S P J, e.answers s = [] := by
  cases e with
  | operate op => exact .inl ⟨op, rfl, rfl⟩
  | _ => exact .inr ⟨rfl, rfl, fun _ => rfl⟩

/-- Every schedule leads the way of the navigator on its own. -/
theorem along_alike (hb : b.Keeps reading) {events : List (Event S P)}
    (keeps : ∀ e ∈ events, e.Keeps reading)
    (h : Alike (fun v : View P => reading v.page) n s.nav) :
    answersAlong b s events = n.answers (operations events) ∧
      Alike (fun v : View P => reading v.page) (n.after (operations events))
        (runTrace b s events).nav := by
  induction events generalizing s n with
  | nil => exact ⟨rfl, h⟩
  | cons e events ih =>
    obtain ⟨he, hes⟩ := List.forall_mem_cons.mp keeps
    rcases operations_cons (J := J) e events with ⟨op, rfl, hops⟩ | ⟨still, hops, silent⟩
    · obtain ⟨answer, after⟩ := h.apply op.views
      rw [← operate_nav b] at after
      obtain ⟨answers, alike⟩ := ih hes after
      rw [hops]
      refine ⟨?_, alike⟩
      change [op.views.answer s.nav] ++ answersAlong b _ events = [op.views.answer n] ++ _
      rw [answer, answers]
    · have beside : Alike (fun v : View P => reading v.page) s.nav (next b s e).nav :=
        .of_course (next_course still) (next_readings hb still he)
      obtain ⟨answers, alike⟩ := ih hes (h.trans beside)
      rw [hops]
      refine ⟨?_, alike⟩
      change e.answers s ++ answersAlong b _ events = _
      rw [silent, answers, List.nil_append]

/-- Where nothing is read off the pages, nothing has to be kept. -/
theorem along_alone (b : Backend S P J) (s : Session S P J) (events : List (Event S P)) :
    answersAlong b s events = s.nav.answers (operations events) ∧
      Alike (fun _ : View P => ()) (s.nav.after (operations events)) (runTrace b s events).nav := by
  have backend : b.Keeps fun _ : P => () := ⟨fun _ _ _ _ => rfl, fun _ _ => rfl⟩
  refine along_alike backend (fun e _ => ?_) (.refl _ s.nav)
  cases e with
  | edit view change => exact fun _ => rfl
  | _ => trivial

/-- Whether a page has ever been announced does not tell the schedule. -/
theorem Supervised.told_as_alone (h : Supervised s) (hn : n.Sound)
    (alike : Alike (fun _ : View P => ()) n s.nav) (told : s.outline.Told ↔ n.notices ≠ [])
    {events : List (Event S P)} (valid : ValidTrace b s events)
    (driven : ∀ e ∈ events, e.isDirect = false) :
    (runTrace b s events).outline.Told ↔ (n.after (operations events)).notices ≠ [] := by
  induction events generalizing s n with
  | nil => exact told
  | cons e events ih =>
    obtain ⟨hd, hds⟩ := List.forall_mem_cons.mp driven
    have law := next_told (b := b) h.following h.sound hd
    have rest : Supervised (Session.next b s e) := h.next valid.1 hd
    rcases operations_cons (J := J) e events with ⟨op, rfl, hops⟩ | ⟨still, hops, -⟩
    · have after := (alike.apply op.views).2
      rw [hops]
      refine ih rest (hn.apply op.views) (operate_nav b op s ▸ after) ?_ valid.2 hds
      rw [operate_outline, operate_told h.sound op.views, hn.notices_apply op.views, told,
        after.current, alike.current]
    · have course := next_course (b := b) (s := s) still
      rw [hops]
      refine ih rest hn (alike.trans (.of_course course (congrArg (·.views) course))) ?_ valid.2 hds
      have unannounced : ¬((∃ f, e = .operate (.reload f)) ∨
          (Session.next b s e).nav.current ≠ s.nav.current) := by
        rintro (⟨f, rfl⟩ | changed)
        · cases still
        · exact changed (congrArg (·.current) course)
      rw [law, or_iff_left unannounced]
      exact told

/-- The page that the attached loop serves. -/
def watched (s : Session S P J) : Option ViewId :=
  s.active.bind fun id => s.loops[id]?.map (·.view)

theorem activePage_eq (b : Backend S P J) (s : Session S P J) :
    s.activePage? b = s.watched.bind fun view => (s.readings b.name)[view]? := by
  cases ha : s.active with
  | none => simp [activePage?, watched, ha]
  | some id =>
    cases hl : s.loops[id]? with
    | none => simp [activePage?, watched, ha, hl]
    | some l =>
      have shown : s.activePage? b = (s.page? l.view).map b.name := by
        cases hp : s.page? l.view <;> simp [activePage?, ha, hl, hp]
      rw [shown, watched, ha, Option.bind_some, hl, Option.map_some, Option.bind_some, readings,
        List.getElem?_map, page?, Option.map_map]
      rfl

theorem Supervised.watched_of_settled (h : Supervised s) (alive : s.inUse = true)
    (quiet : Quiescent b s) :
    (s.outline.Told → s.watched = some s.nav.currentView) ∧
      (¬s.outline.Told → s.watched = none) := by
  constructor
  · intro told
    obtain ⟨id, l, ha, hl, -, -, hv⟩ := h.attached_of_told alive quiet told
    rw [watched, ha, Option.bind_some, hl, Option.map_some, hv]
  · intro untold
    have unattended : s.loops = [] :=
      outline_loops_nil.mp (Decidable.not_not.mp (not_or.mp untold).2)
    rw [watched, unattended]
    cases s.active <;> rfl

section Start

variable {f : Factory P} {root : String} {source : S} {start : Session S P J}

/-- A settled run watches the page that the navigator on its own would have in view, if that has
announced any. -/
theorem Settled.watches (opened : Session.start? f root source = some start)
    {events : List (Event S P)} (h : Settled b start events) :
    let n := start.nav.after (operations events)
    (runTrace b start events).watched = if n.notices = [] then none else some n.currentView := by
  intro n
  have opening := start_supervised opened
  have unread : start.outline.Told ↔ start.nav.notices ≠ [] := by
    refine or_iff_left fun some => some ?_
    exact outline_loops_nil.mpr (start_loops opened)
  have told : (runTrace b start events).outline.Told ↔ n.notices ≠ [] :=
    opening.told_as_alone opening.sound (.refl _ start.nav) unread h.valid h.driven
  obtain ⟨attended, unattended⟩ :=
    (opening.along h.valid h.driven).watched_of_settled h.alive h.quiet
  by_cases silent : n.notices = []
  · rw [if_pos silent]
    exact unattended fun hx => told.mp hx silent
  · rw [if_neg silent, attended (told.mpr silent)]
    have course := (along_alone b start events).2.course
    exact congrArg some (congrArg (fun n : Navigator Unit => n.currentView) course)

/-- Two runs that do the same operations, with tasks, requests and answers in any order between
them, answer the same and lead to the same place: the same page is current, with the same history,
menu, positions and registry. Once both have settled they watch the same instance of the same page,
the one in view, unless nothing was ever announced. -/
theorem schedule_independent (opened : Session.start? f root source = some start)
    {es fs : List (Event S P)} (same : operations es = operations fs) :
    let s := runTrace b start es
    let t := runTrace b start fs
    answersAlong b start es = answersAlong b start fs ∧ s.nav.course = t.nav.course ∧
      (Settled b start es → Settled b start fs →
        s.watched = t.watched ∧ (root ≠ "" → s.watched = some s.nav.currentView) ∧
          (b.Keeps b.name → (∀ e ∈ es ++ fs, e.Keeps b.name) →
            s.activePage? b = t.activePage? b)) := by
  intro s t
  obtain ⟨answered, led⟩ := along_alone b start es
  obtain ⟨answered', led'⟩ := along_alone b start fs
  rw [← same] at answered' led'
  refine ⟨answered.trans answered'.symm, led.course.trans led'.course.symm,
    fun settled settled' => ?_⟩
  have watched : s.watched = t.watched := by
    rw [settled.watches opened, settled'.watches opened, same]
  refine ⟨watched, fun named => ?_, fun backend keeps => ?_⟩
  · have opening := start_supervised opened
    have still : s.outline.Told :=
      opening.told_along (start_announced opened named) settled.valid settled.driven
    exact ((opening.along settled.valid settled.driven).watched_of_settled settled.alive
      settled.quiet).1 still
  · obtain ⟨keep, keep'⟩ := List.forall_mem_append.mp keeps
    have alike := (along_alike backend keep (.refl _ start.nav)).2
    have alike' := (along_alike backend keep' (.refl _ start.nav)).2
    rw [← same] at alike'
    have names : s.readings b.name = t.readings b.name := alike.readings.trans alike'.readings.symm
    rw [activePage_eq, activePage_eq, watched, names]

end Start

/-- The same operations as in `returning`, one right after the other, and all the turns after
them. -/
def returningAtOnce : List (Event (Gates ViewId) CountedPage) :=
  [.operate (.navigate (CountedPage.factory []) "nodes"),
    .operate (.navigate (CountedPage.factory ["nodes"]) "pods"), .trigger 1, .poll .watcher,
    .poll (.loop 0), .poll (.loop 1)]

theorem schedule_independent_of_returning : ∃ start : Rehearsal,
    Session.start? (CountedPage.factory []) "pods" [] = some start ∧
    let s := runTrace CountedPage.backend start returning
    let t := runTrace CountedPage.backend start returningAtOnce
    (s.loops.length, t.loops.length) = (3, 2) ∧
      answersAlong CountedPage.backend start returning =
        answersAlong CountedPage.backend start returningAtOnce ∧
      s.nav.course = t.nav.course ∧ s.watched = t.watched ∧ s.watched = some s.nav.currentView ∧
      s.activePage? CountedPage.backend = t.activePage? CountedPage.backend := by
  have opened : Session.start? (CountedPage.factory []) "pods" [] = some (_ : Rehearsal) := rfl
  obtain ⟨answered, course, settled⟩ := schedule_independent (b := CountedPage.backend) opened
    (show operations returning = operations returningAtOnce from rfl)
  have watched := settled ⟨by decide, by decide, rfl, quiescent_of_rest rfl rfl (by decide)⟩
    ⟨by decide, by decide, rfl, quiescent_of_rest rfl rfl (by decide)⟩
  refine ⟨_, opened, rfl, answered, course, watched.1, watched.2.1 (by decide), watched.2.2 ?_ ?_⟩
  · exact ⟨fun gates id view page => by simp only [CountedPage.backend]; split <;> rfl,
      fun _ _ => rfl⟩
  · intro e he
    cases e with
    | edit view change =>
      obtain ⟨-, rfl⟩ : view = 0 ∧ change = fun page => { page with gated := true } := by
        simpa [returning, returningAtOnce] using he
      exact fun _ => rfl
    | _ => trivial

end Session
end ClusterDashboard
