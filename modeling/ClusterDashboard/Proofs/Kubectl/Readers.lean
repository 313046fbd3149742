import ClusterDashboard.Kubectl.Follower
/-!
# Readers of logs

A reader is done only when its child has ended, and once it was told to stop that stays so. Its
next turn then kills the child, unless it has left off reading: from there on only the child itself
can bring the end.
-/
namespace ClusterDashboard.Kubectl.Follower

variable {f : Follower}

/-- A reader that is done leaves no child running. -/
def Orderly (f : Follower) : Prop := f.phase = .done → f.child.ended.isSome = true

theorem fresh_orderly : ({} : Follower).Orderly := nofun

theorem readLines_phase (f : Follower) : f.readLines.phase ≠ .done := by
  have either : ∀ more : Bool, (if more then Reading.lines else .ending) ≠ .done := by decide
  exact either _

theorem awaitEnd_of_running (h : f.child.ended = none) : f.awaitEnd = f := by rw [awaitEnd, h]

theorem awaitEnd_of_ended {status : ExitStatus} (h : f.child.ended = some status) :
    f.awaitEnd = { f with
      phase := .done
      feeds := f.feeds ++ [.closed (if status.succeeded then none else
        some (exitReason status f.child.stderr))] } := by
  rw [awaitEnd, h]

theorem awaitEnd_child (f : Follower) : f.awaitEnd.child = f.child := by
  rw [awaitEnd]
  split <;> rfl

theorem awaitEnd_stopped (f : Follower) : f.awaitEnd.stopped = f.stopped := by
  rw [awaitEnd]
  split <;> rfl

/-- What one turn makes of a reader. -/
inductive PollStep (f g : Follower) : Prop where
  | done (phase : f.phase = .done) (turn : g = f)
  | waits (phase : f.phase = .ending) (turn : g = f.awaitEnd)
  | kills (phase : f.phase = .lines) (stopped : f.stopped = true) (turn : g = f.killChild)
  | reads (phase : f.phase = .lines) (unstopped : f.stopped = false)
    (goesOn : f.readLines.phase = .lines) (turn : g = f.readLines)
  | leaves (phase : f.phase = .lines) (unstopped : f.stopped = false)
    (leavesOff : f.readLines.phase = .ending) (turn : g = f.readLines.awaitEnd)

theorem poll_step (f : Follower) : PollStep f f.poll := by
  cases hp : f.phase with
  | done => exact .done hp (by rw [poll, hp])
  | ending => exact .waits hp (by rw [poll, hp])
  | lines =>
    cases hs : f.stopped with
    | true => exact .kills hp hs (by rw [poll, hp, hs]; rfl)
    | false =>
      have hf : f.poll = if f.readLines.phase = .ending then f.readLines.awaitEnd
          else f.readLines := by rw [poll, hp, hs]; rfl
      cases hr : f.readLines.phase with
      | lines => exact .reads hp hs hr (by rw [hf, if_neg (by simp [hr])])
      | ending => exact .leaves hp hs hr (by rw [hf, if_pos hr])
      | done => exact absurd hr f.readLines_phase

/-- A turn takes the output from the child, or kills it. -/
theorem poll_child (f : Follower) : f.poll.child = f.child ∨
    f.poll.child = { f.child with unread := [] } ∨ f.poll.child = f.killChild.child := by
  cases f.poll_step with
  | done _ turn => exact .inl (by rw [turn])
  | waits _ turn => exact .inl (by rw [turn, awaitEnd_child])
  | kills _ _ turn => exact .inr (.inr (by rw [turn]))
  | reads _ _ _ turn => exact .inr (.inl (by rw [turn]; rfl))
  | leaves _ _ _ turn => exact .inr (.inl (by rw [turn, awaitEnd_child]; rfl))

theorem awaitEnd_orderly (h : f.phase ≠ .done) : f.awaitEnd.Orderly := by
  intro hd
  rw [awaitEnd_child]
  cases he : f.child.ended with
  | some status => rfl
  | none =>
    rw [awaitEnd_of_running he] at hd
    exact absurd hd h

theorem killChild_ended (f : Follower) : f.killChild.child.ended.isSome = true := by
  cases he : f.child.ended <;> simp [killChild, he]

theorem Orderly.poll (h : f.Orderly) : f.poll.Orderly := by
  cases f.poll_step with
  | done _ turn => rwa [turn]
  | waits phase turn =>
    rw [turn]
    exact awaitEnd_orderly (by simp [phase])
  | kills _ _ turn =>
    rw [turn]
    exact fun _ => f.killChild_ended
  | reads _ _ goesOn turn =>
    rw [turn]
    intro hd
    exact absurd hd f.readLines_phase
  | leaves _ _ _ turn =>
    rw [turn]
    exact awaitEnd_orderly f.readLines_phase

theorem poll_stopped (f : Follower) : f.poll.stopped = f.stopped := by
  cases f.poll_step with
  | done _ turn => rw [turn]
  | waits _ turn => rw [turn, awaitEnd_stopped]
  | kills _ _ turn => rw [turn]; rfl
  | reads _ _ _ turn => rw [turn]; rfl
  | leaves _ _ _ turn => rw [turn, awaitEnd_stopped]; rfl

theorem Orderly.next (h : f.Orderly) (e : FollowEvent) : (f.next e).Orderly := by
  cases e with
  | write | writeError =>
    rw [Follower.next]
    split <;> exact h
  | exit status =>
    rw [Follower.next]
    split
    · exact h
    · exact fun _ => rfl
  | closeOutput | stop => exact h
  | poll => exact h.poll

theorem next_stopped (h : f.stopped = true) (e : FollowEvent) : (f.next e).stopped = true := by
  cases e with
  | write | writeError | exit =>
    rw [next]
    split <;> exact h
  | closeOutput => exact h
  | stop => rfl
  | poll => exact f.poll_stopped.trans h

theorem Orderly.run (h : f.Orderly) (events : List FollowEvent) : (f.run events).Orderly := by
  induction events generalizing f with
  | nil => exact h
  | cons e events ih => exact ih (h.next e)

theorem run_stopped (h : f.stopped = true) (events : List FollowEvent) :
    (f.run events).stopped = true := by
  induction events generalizing f with
  | nil => exact h
  | cons e events ih => exact ih (next_stopped h e)

/-- The turn of a stopped reader ends the child, but for a reader that waits for the child. -/
theorem poll_leaves_running (h : f.Orderly) (hs : f.stopped = true) :
    f.poll.child.ended = none ↔ f.phase = .ending ∧ f.child.ended = none := by
  cases f.poll_step with
  | done phase turn =>
    have he : f.child.ended.isSome = true := h phase
    rw [turn]
    constructor
    · intro hn
      rw [hn] at he
      cases he
    · rintro ⟨hn, -⟩
      exact absurd (phase.symm.trans hn) nofun
  | waits phase turn =>
    rw [turn, awaitEnd_child]
    exact ⟨fun hn => ⟨phase, hn⟩, fun hn => hn.2⟩
  | kills phase _ turn =>
    rw [turn]
    constructor
    · intro hn
      have he := f.killChild_ended
      rw [hn] at he
      cases he
    · rintro ⟨hn, -⟩
      exact absurd (phase.symm.trans hn) nofun
  | reads _ unstopped => exact Bool.noConfusion (hs.symm.trans unstopped)
  | leaves _ unstopped => exact Bool.noConfusion (hs.symm.trans unstopped)

theorem run_append (f : Follower) (events later : List FollowEvent) :
    f.run (events ++ later) = (f.run events).run later := List.foldl_append

end ClusterDashboard.Kubectl.Follower
