import ClusterDashboard.Proofs.Kubectl.Delivery
import Mathlib.Data.List.Induction
/-!
# Stopping a reader

To give a reader up is to tell it to stop. One that is told while it reads kills its child at its
next turn and hands on nothing more. One that has left off reading, because the output was closed or
a line was no text, does not notice: it still waits for the child to end and then tells how it did.
-/
namespace ClusterDashboard.Kubectl.Follower

variable {f : Follower} {written : List UInt8} {events later : List FollowEvent}

/-- Some turn of the reader came when the output was closed, or when a line that is no text had been
written, and before the reader was told to stop. -/
def LeftOff (events : List FollowEvent) : Prop := ∃ before after,
  events = before ++ .poll :: after ∧ .stop ∉ before ∧
    ((run {} before).child.writing = false ∨
      ∃ line ∈ endedLines (output {} before), Unreadable line)

/-- What is expected of a stop that comes after some events, once others have followed. -/
structure Heeded (events later : List FollowEvent) : Prop where
  finished : (run {} (events ++ .stop :: later)).isDone = true
  ended : (run {} (events ++ .stop :: later)).child.ended.isSome = true
  killed (lives : ∀ status, .exit status ∉ later) :
    (run {} (events ++ .stop :: later)).child.ended = some .kill
  silent : (run {} (events ++ .stop :: later)).feeds = (run {} events).feeds

theorem awaitEnd_not_lines (h : f.phase ≠ .lines) : f.awaitEnd.phase ≠ .lines := by
  rw [awaitEnd]
  split
  · exact h
  · intro hl
    cases hl

/-- A reader goes on reading as long as the output is open and its lines are texts. -/
theorem Progress.reads_on (h : Progress written f) (phase : f.phase = .lines) :
    f.readLines.phase = .lines ↔ f.child.writing = true ∧
      ∀ line ∈ endedLines written, ¬Unreadable line := by
  cases h with
  | waiting waits => exact absurd (phase.symm.trans waits) nofun
  | finished _ done => exact absurd (phase.symm.trans done) nofun
  | reading taken _ split fragment readable =>
    rw [readLines_goes_on]
    refine and_congr_right fun hw => ?_
    have ended : endedLines written = endedLines taken ++ f.atHand := by
      rw [atHand, if_pos hw, split, fragment, endedLines_append]
    rw [ended, List.forall_mem_append]
    exact ⟨fun h => ⟨readable, h⟩, fun h => h.2⟩

/-- A reader never takes up reading again. -/
theorem next_not_lines (h : f.phase ≠ .lines) (e : FollowEvent) : (f.next e).phase ≠ .lines := by
  by_cases he : e = .poll
  · subst he
    rw [next]
    cases f.poll_step with
    | done _ turn => rwa [turn]
    | waits _ turn =>
      rw [turn]
      exact awaitEnd_not_lines h
    | kills phase | reads phase | leaves phase => exact absurd phase h
  · rw [(next_between he).phase]
    exact h

theorem run_not_lines (h : f.phase ≠ .lines) (events : List FollowEvent) :
    (f.run events).phase ≠ .lines := by
  induction events generalizing f with
  | nil => exact h
  | cons e events ih => exact ih (next_not_lines h e)

theorem LeftOff.not_lines (h : LeftOff events) : (run {} events).phase ≠ .lines := by
  obtain ⟨before, after, rfl, unstopped, ceased⟩ := h
  have progress := run_progress unstopped
  have turn : (run {} before).poll.phase ≠ .lines := by
    intro reading
    cases (run {} before).poll_step with
    | done phase turn =>
      rw [turn, phase] at reading
      cases reading
    | waits phase turn => exact awaitEnd_not_lines (by simp [phase]) (turn ▸ reading)
    | kills _ stopped =>
      exact Bool.noConfusion ((run_not_stopped rfl unstopped).symm.trans stopped)
    | reads phase _ goesOn =>
      obtain ⟨writing, readable⟩ := (progress.reads_on phase).mp goesOn
      rcases ceased with closed | ⟨line, hm, hu⟩
      · exact Bool.noConfusion (writing.symm.trans closed)
      · exact readable line hm hu
    | leaves _ _ leavesOff turn =>
      exact awaitEnd_not_lines (by simp [leavesOff]) (turn ▸ reading)
  rw [run_append]
  exact run_not_lines turn after

theorem LeftOff.concat (h : LeftOff events) (e : FollowEvent) : LeftOff (events ++ [e]) := by
  obtain ⟨before, after, rfl, unstopped, ceased⟩ := h
  exact ⟨before, after ++ [e], by simp, unstopped, ceased⟩

theorem not_stopped_of_run (h : (run {} events).stopped = false) : .stop ∉ events := by
  intro hm
  obtain ⟨before, after, rfl⟩ := List.append_of_mem hm
  have hs : (run {} (before ++ .stop :: after)).stopped = true := by
    rw [run_append]
    exact run_stopped rfl after
  exact Bool.noConfusion (h.symm.trans hs)

/-- A turn after which the reader waits was one in which it left off reading. -/
theorem poll_leaves_off (phase : f.phase = .lines) (waits : f.poll.phase = .ending) :
    f.stopped = false ∧ f.readLines.phase ≠ .lines := by
  cases f.poll_step with
  | done done => exact absurd (phase.symm.trans done) nofun
  | waits ending => exact absurd (phase.symm.trans ending) nofun
  | kills _ _ turn =>
    rw [turn] at waits
    cases waits
  | reads _ _ goesOn turn =>
    rw [turn, goesOn] at waits
    cases waits
  | leaves _ unstopped leavesOff => exact ⟨unstopped, by simp [leavesOff]⟩

theorem leftOff_of_waiting (h : (run {} events).phase = .ending) : LeftOff events := by
  induction events using List.reverseRecOn with
  | nil => cases h
  | append_singleton events e ih =>
    rw [run_append] at h
    change ((run {} events).next e).phase = .ending at h
    cases hp : (run {} events).phase with
    | ending => exact (ih hp).concat e
    | done => exact absurd ((next_done hp e).1.symm.trans h) nofun
    | lines =>
      have he : e = .poll := by
        by_contra he
        rw [(next_between he).phase, hp] at h
        cases h
      subst he
      obtain ⟨hs, leavesOff⟩ := poll_leaves_off hp h
      have unstopped := not_stopped_of_run hs
      refine ⟨events, [], rfl, unstopped, ?_⟩
      by_contra ceased
      rw [not_or, Bool.not_eq_false, not_exists] at ceased
      exact leavesOff (((run_progress unstopped).reads_on hp).mpr
        ⟨ceased.1, fun line hm hu => ceased.2 line ⟨hm, hu⟩⟩)

/-- While the child runs, a reader has left off reading exactly when it waits. -/
theorem leftOff_iff (running : (run {} events).child.ended = none) :
    LeftOff events ↔ (run {} events).phase = .ending := by
  refine ⟨fun leftOff => ?_, leftOff_of_waiting⟩
  cases hp : (run {} events).phase with
  | ending => rfl
  | lines => exact absurd hp leftOff.not_lines
  | done => simpa [running] using fresh_orderly.run events hp

/-- What a reader that was stopped in time hands on after that: nothing. -/
theorem next_unheard (hs : f.stopped = true) (hp : f.phase ≠ .ending) (e : FollowEvent) :
    (f.next e).phase ≠ .ending ∧ (f.next e).feeds = f.feeds := by
  by_cases he : e = .poll
  · subst he
    rw [next]
    cases f.poll_step with
    | done _ turn =>
      rw [turn]
      exact ⟨hp, rfl⟩
    | waits phase => exact absurd phase hp
    | kills _ _ turn =>
      rw [turn]
      refine ⟨?_, rfl⟩
      intro hl
      cases hl
    | reads _ unstopped | leaves _ unstopped => exact Bool.noConfusion (hs.symm.trans unstopped)
  · have same := next_between (f := f) he
    exact ⟨by rwa [same.phase], same.feeds⟩

theorem run_unheard (hs : f.stopped = true) (hp : f.phase ≠ .ending) (events : List FollowEvent) :
    (f.run events).phase ≠ .ending ∧ (f.run events).feeds = f.feeds := by
  induction events generalizing f with
  | nil => exact ⟨hp, rfl⟩
  | cons e events ih =>
    obtain ⟨np, nf⟩ := next_unheard hs hp e
    obtain ⟨rp, rf⟩ := ih (next_stopped hs e) np
    exact ⟨rp, rf.trans nf⟩

theorem poll_waiting (hp : f.phase = .ending) (hn : f.child.ended = none) : f.poll = f := by
  rw [poll, hp]
  exact awaitEnd_of_running hn

/-- A reader that waits goes on waiting, or it tells how the child ended. -/
theorem run_waiting (h : f.phase = .ending) (events : List FollowEvent) :
    (f.run events).phase = .ending ∨
      ∃ reason, (f.run events).feeds = f.feeds ++ [.closed reason] := by
  induction events generalizing f with
  | nil => exact .inl h
  | cons e events ih =>
    by_cases he : e = .poll
    · subst he
      rw [run, List.foldl_cons, next]
      cases hn : f.child.ended with
      | none =>
        rw [poll_waiting h hn]
        exact ih h
      | some status =>
        refine .inr ⟨closingOf status f.child.stderr, ?_⟩
        have done : f.awaitEnd.phase = .done := awaitEnd_phase (by simp [hn])
        have told : f.awaitEnd.feeds =
            f.feeds ++ [.closed (closingOf status f.child.stderr)] := by
          rw [awaitEnd_of_ended hn]
          rfl
        rw [poll, h]
        exact (run_done done events).2.trans told
    · have same := next_between (f := f) he
      have rest := ih (same.phase.trans h)
      rw [same.feeds] at rest
      exact rest

/-- Only the kill ends a child that does not end by itself. -/
theorem next_ended_killed (h : ∀ status ∈ f.child.ended, status = .kill) {e : FollowEvent}
    (he : ∀ status, e ≠ .exit status) : ∀ status ∈ (f.next e).child.ended, status = .kill := by
  cases e with
  | write | writeError =>
    rw [next]
    split <;> exact h
  | closeOutput | stop => exact h
  | exit status => exact absurd rfl (he status)
  | poll =>
    rw [next]
    rcases f.poll_child with same | taken | killed
    · rwa [same]
    · rwa [taken]
    · rw [killed]
      cases hn : f.child.ended with
      | none => simp [killChild, hn]
      | some status => simpa [killChild, hn] using h status hn

theorem run_ended_killed (h : ∀ status ∈ f.child.ended, status = .kill)
    (lives : ∀ status, .exit status ∉ events) :
    ∀ status ∈ (f.run events).child.ended, status = .kill := by
  induction events generalizing f with
  | nil => exact h
  | cons e events ih =>
    refine ih (next_ended_killed h ?_) ?_
    · rintro status rfl
      exact lives status List.mem_cons_self
    · exact fun status hm => lives status (List.mem_cons_of_mem _ hm)

theorem poll_done (h : f.phase = .done) : f.poll = f := by rw [poll, h]

/-- One turn of a stopped reader is enough. -/
theorem poll_poll (hs : f.stopped = true) : f.poll.poll = f.poll := by
  cases f.poll_step with
  | done _ turn => rw [turn, turn]
  | waits phase turn =>
    cases hn : f.child.ended with
    | none => rw [poll_waiting phase hn, poll_waiting phase hn]
    | some status => exact poll_done (by rw [turn, awaitEnd_of_ended hn])
  | kills _ _ turn => exact poll_done (by rw [turn]; rfl)
  | reads _ unstopped | leaves _ unstopped => exact Bool.noConfusion (hs.symm.trans unstopped)

theorem done_of_quiescent (hs : f.stopped = true) (hp : f.phase ≠ .ending) (rest : f.poll = f) :
    f.phase = .done := by
  cases f.poll_step with
  | done phase => exact phase
  | waits phase => exact absurd phase hp
  | kills _ _ turn =>
    rw [← rest, turn]
    rfl
  | reads _ unstopped | leaves _ unstopped => exact Bool.noConfusion (hs.symm.trans unstopped)

/-- A reader that is told to stop while its child runs comes to rest at its next turn. At rest it
has heeded the stop, killed the child and handed on nothing more, exactly when it had not left off
reading before it was told. -/
theorem stop_heeded_iff (running : (run {} events).child.ended = none)
    (later : List FollowEvent) :
    (run {} (events ++ .stop :: later)).poll.poll = (run {} (events ++ .stop :: later)).poll ∧
      ((run {} (events ++ .stop :: later)).poll = run {} (events ++ .stop :: later) →
        (Heeded events later ↔ ¬LeftOff events)) := by
  have stopped : (run {} (events ++ .stop :: later)).stopped = true := by
    rw [run_append]
    exact run_stopped rfl later
  rw [leftOff_iff running]
  refine ⟨poll_poll stopped, fun rest => ⟨fun heeded waiting => ?_, fun reading => ?_⟩⟩
  -- a reader that waits is not done, or it has told the end after the stop
  · have done : (run {} (events ++ .stop :: later)).phase = .done := by
      simpa [isDone] using heeded.finished
    have silent := heeded.silent
    rw [run_append] at done silent
    rcases run_waiting (f := (run {} events).stop) waiting later with hp | ⟨reason, told⟩
    · exact absurd (hp.symm.trans done) nofun
    · have same := told.symm.trans silent
      simp [stop] at same
  -- a reader that was reading still is, or it was killed without a word
  · obtain ⟨hp, silent⟩ := run_unheard (f := (run {} events).stop) rfl reading later
    have split : run {} (events ++ .stop :: later) = (run {} events).stop.run later :=
      run_append _ _ _
    have done := done_of_quiescent stopped (split ▸ hp) rest
    have ended := fresh_orderly.run (events ++ .stop :: later) done
    refine ⟨by rw [isDone, done]; rfl, ended, fun lives => ?_, split ▸ silent⟩
    obtain ⟨status, he⟩ := Option.isSome_iff_exists.mp ended
    have killed := run_ended_killed (f := (run {} events).stop) (by simp [stop, running]) lives
    rw [← split] at killed
    rw [he, killed status he]

/-- A child that has written a line and a half when the reader is told to stop. -/
def midLine : List FollowEvent := [.write [97, 10, 98], .poll, .writeError [33]]

theorem stop_heeded_mid_line :
    Heeded midLine [.write [10], .closeOutput, .poll] ∧
      (run {} (midLine ++ .stop :: [.write [10], .closeOutput, .poll])).feeds = [.line "a"] := by
  have running : (run {} midLine).child.ended = none := by decide +kernel
  have reading : (run {} midLine).phase = .lines := by decide +kernel
  obtain ⟨-, heeded⟩ := stop_heeded_iff running [.write [10], .closeOutput, .poll]
  exact ⟨(heeded (by decide +kernel)).mpr fun leftOff => leftOff.not_lines reading,
    by decide +kernel⟩

/-- A waiting reader does not end the child. -/
theorem run_still_waiting (hp : f.phase = .ending) (hn : f.child.ended = none)
    (lives : ∀ status, .exit status ∉ events) :
    (f.run events).phase = .ending ∧ (f.run events).child.ended = none := by
  induction events generalizing f with
  | nil => exact ⟨hp, hn⟩
  | cons e events ih =>
    have rest : ∀ status, .exit status ∉ events :=
      fun status hm => lives status (List.mem_cons_of_mem _ hm)
    cases e with
    | write | writeError =>
      rw [run, List.foldl_cons, next]
      split <;> exact ih hp hn rest
    | closeOutput | stop => exact ih hp hn rest
    | exit status => exact absurd List.mem_cons_self (lives status)
    | poll =>
      rw [run, List.foldl_cons, next, poll_waiting hp hn]
      exact ih hp hn rest

/-- A child that runs on after a line that is no text. -/
def astray : List FollowEvent := [.write [255, 10], .poll]

theorem child_outlives_stop : (run {} astray).child.ended = none ∧
    ∀ later, (∀ status, .exit status ∉ later) →
      (run {} (astray ++ .stop :: later)).poll = run {} (astray ++ .stop :: later) ∧
        (run {} (astray ++ .stop :: later)).child.ended = none ∧
        (run {} (astray ++ .stop :: later)).isDone = false := by
  have waiting : (run {} astray).phase = .ending := by decide +kernel
  have running : (run {} astray).child.ended = none := by decide +kernel
  refine ⟨running, fun later lives => ?_⟩
  obtain ⟨hp, hn⟩ := run_still_waiting (f := (run {} astray).stop) waiting running lives
  have split : run {} (astray ++ .stop :: later) = (run {} astray).stop.run later :=
    run_append _ _ _
  rw [split]
  exact ⟨poll_waiting hp hn, hn, by rw [isDone, hp]; rfl⟩

end ClusterDashboard.Kubectl.Follower
