import ClusterDashboard.Proofs.Kubectl.Readers
import ClusterDashboard.Proofs.Kubectl.Relays
import ClusterDashboard.Proofs.Trace
/-!
# What a reader hands on

However the output of a child comes in, in pieces and between turns of the reader, the reader hands
on what is heard of the whole output, and at last how the child ended.
-/
namespace ClusterDashboard.Kubectl.Follower

variable {f : Follower} {written : List UInt8}

/-- What an event adds to the output: a child writes until it has closed it or has ended. -/
def wrote (f : Follower) : FollowEvent → List UInt8
  | .write bytes => if f.child.ended.isSome || !f.child.writing then [] else bytes
  | _ => []

/-- All that the child has written to its output in the course of events. -/
def output (f : Follower) (events : List FollowEvent) : List UInt8 :=
  Trace.gather wrote next f events

theorem feedsOf_eq (segments : List (List UInt8)) :
    let lines := segments.map (Text.dropEnding lineFeed carriageReturn)
    (feedsOf segments).1 = (heardOf lines).map .line ∧
      ((feedsOf segments).2 = true ↔ ∀ line ∈ lines, ¬Unreadable line) := by
  induction segments with
  | nil => exact ⟨rfl, fun _ => nofun, fun _ => rfl⟩
  | cons segment segments ih =>
    intro lines
    rcases readable_or_not (Text.dropEnding lineFeed carriageReturn segment) with ⟨text, he⟩ | hu
    · have hf : lineOf? segment = some (.line text) := by
        rw [lineOf?, Utf8.decode?_eq_some.mpr he]
        rfl
      have hr : ¬Unreadable (Text.dropEnding lineFeed carriageReturn segment) :=
        fun hu => hu text he
      simp only [lines, feedsOf, hf, List.map_cons, List.forall_mem_cons]
      refine ⟨?_, ?_⟩
      · rw [← he, heardOf_encoded, List.map_cons, ih.1]
      · rw [ih.2]
        exact ⟨fun h => ⟨hr, h⟩, fun h => h.2⟩
    · have hf : lineOf? segment = none := by
        rw [lineOf?, unreadable_iff.mp hu]
        rfl
      simp only [lines, feedsOf, hf, List.map_cons]
      refine ⟨?_, ?_⟩
      · rw [heardOf_unreadable hu]
        rfl
      · exact ⟨Bool.noConfusion, fun h => absurd hu (h _ List.mem_cons_self)⟩

theorem map_dropEnding_isWhole (bytes : List UInt8) :
    ((Text.segments lineFeed bytes).filter isWhole).map
      (Text.dropEnding lineFeed carriageReturn) = endedLines bytes :=
  Text.map_dropEnding_whole bytes

theorem flatten_notWhole (bytes : List UInt8) :
    ((Text.segments lineFeed bytes).filter (!isWhole ·)).flatten = Text.openLine lineFeed bytes :=
  Text.flatten_unfinished bytes

/-- A child that has ended no longer writes. -/
def Settled (f : Follower) : Prop := f.child.ended.isSome = true → f.child.writing = false

theorem Settled.poll (h : f.Settled) : f.poll.Settled := by
  rw [Settled]
  rcases f.poll_child with same | taken | killed
  · rwa [same]
  · rwa [taken]
  · rw [killed]
    exact fun _ => rfl

theorem Settled.next (h : f.Settled) (e : FollowEvent) : (f.next e).Settled := by
  cases e with
  | write | writeError =>
    rw [Follower.next]
    split <;> exact h
  | exit status =>
    rw [Follower.next]
    split
    · exact h
    · exact fun _ => rfl
  | closeOutput => exact fun _ => rfl
  | stop => exact h
  | poll => exact h.poll

/-- How far a reader that was never stopped has come with the output. -/
inductive Progress (written : List UInt8) (f : Follower) : Prop where
  | reading (taken : List UInt8) (phase : f.phase = .lines)
    (split : written = taken ++ f.child.unread)
    (fragment : f.fragment = Text.openLine lineFeed taken)
    (readable : ∀ line ∈ endedLines taken, ¬Unreadable line)
    (feeds : f.feeds = (heardOf (endedLines taken)).map .line)
  | waiting (phase : f.phase = .ending)
    (ceased : f.child.writing = false ∨ ∃ line ∈ endedLines written, Unreadable line)
    (feeds : f.feeds = (heardOf (linesOf written)).map .line)
  | finished (status : ExitStatus) (phase : f.phase = .done) (ended : f.child.ended = some status)
    (feeds : f.feeds =
      (heardOf (linesOf written)).map .line ++ [.closed (closingOf status f.child.stderr)])

/-- A reader that waits for the end is done at the next turn after it. -/
theorem Progress.awaitEnd (h : Progress written f) (phase : f.phase = .ending) :
    Progress written f.awaitEnd := by
  cases he : f.child.ended with
  | none => rwa [awaitEnd_of_running he]
  | some status =>
    rw [awaitEnd_of_ended he]
    cases h with
    | reading _ reads => exact absurd (phase.symm.trans reads) nofun
    | waiting _ _ feeds =>
      rw [feeds]
      exact .finished status rfl he rfl
    | finished _ done => exact absurd (phase.symm.trans done) nofun

/-- The lines that a turn of the reader goes over. -/
def atHand (f : Follower) : List (List UInt8) :=
  if f.child.writing then endedLines (f.fragment ++ f.child.unread)
  else linesOf (f.fragment ++ f.child.unread)

theorem readLines_feedsOf (f : Follower) : ∃ segments,
    segments.map (Text.dropEnding lineFeed carriageReturn) = f.atHand ∧
      f.readLines.feeds = f.feeds ++ (feedsOf segments).1 ∧
      f.readLines.phase =
        (if (feedsOf segments).2 && f.child.writing then .lines else .ending) ∧
      f.readLines.fragment = (if (feedsOf segments).2 then
        if f.child.writing then Text.openLine lineFeed (f.fragment ++ f.child.unread) else []
      else []) := by
  rw [atHand, ← flatten_notWhole]
  refine ⟨_, ?_, rfl, rfl, rfl⟩
  split
  · exact map_dropEnding_isWhole _
  · exact Text.map_dropEnding_segments _

theorem readLines_feeds (f : Follower) :
    f.readLines.feeds = f.feeds ++ (heardOf f.atHand).map .line := by
  obtain ⟨segments, ha, hf, -⟩ := f.readLines_feedsOf
  rw [hf, ← ha, (feedsOf_eq segments).1]

theorem readLines_goes_on (f : Follower) : f.readLines.phase = .lines ↔
    f.child.writing = true ∧ ∀ line ∈ f.atHand, ¬Unreadable line := by
  obtain ⟨segments, ha, -, hp, -⟩ := f.readLines_feedsOf
  rw [hp, ← ha, ← (feedsOf_eq segments).2, and_comm, ← Bool.and_eq_true]
  split <;> simp [*]

theorem readLines_leaves_off (f : Follower) : f.readLines.phase = .ending ↔
    (f.child.writing = true → ∃ line ∈ f.atHand, Unreadable line) := by
  have either : f.readLines.phase = .ending ↔ ¬f.readLines.phase = .lines := by
    cases hp : f.readLines.phase with
    | done => exact absurd hp f.readLines_phase
    | lines | ending => simp
  rw [either, readLines_goes_on, not_and]
  refine imp_congr_right fun _ => ?_
  simp

theorem readLines_fragment (h : f.readLines.phase = .lines) :
    f.readLines.fragment = Text.openLine lineFeed (f.fragment ++ f.child.unread) := by
  obtain ⟨hw, hr⟩ := f.readLines_goes_on.mp h
  obtain ⟨segments, ha, -, -, hf⟩ := f.readLines_feedsOf
  rw [hf, if_pos ((feedsOf_eq segments).2.mpr (ha ▸ hr)), if_pos hw]

/-- Reading on from the open line takes in all that was written, up to an unreadable line. -/
theorem Progress.readLines (h : Progress written f) (phase : f.phase = .lines) :
    Progress written f.readLines := by
  cases h with
  | waiting waits => exact absurd (phase.symm.trans waits) nofun
  | finished _ done => exact absurd (phase.symm.trans done) nofun
  | reading taken _ split fragment readable feeds =>
    have ended : endedLines written =
        endedLines taken ++ endedLines (f.fragment ++ f.child.unread) := by
      rw [split, fragment, endedLines_append]
    have lines : linesOf written = endedLines taken ++ linesOf (f.fragment ++ f.child.unread) := by
      rw [split, fragment]
      exact Text.linesOf_append taken f.child.unread
    -- all that was taken before is readable, so what is heard now adds to what was heard of it
    have heard : f.readLines.feeds = (heardOf (endedLines taken ++ f.atHand)).map .line := by
      rw [readLines_feeds, feeds, heardOf_append readable, List.map_append]
    cases hw : f.child.writing with
    | false =>
      have hp : f.readLines.phase = .ending := f.readLines_leaves_off.mpr (by simp [hw])
      refine .waiting hp (.inl hw) ?_
      rw [heard, lines, atHand, hw]
      rfl
    | true =>
      have hh : f.atHand = endedLines (f.fragment ++ f.child.unread) := if_pos hw
      rw [hh, ← ended] at heard
      cases hp : f.readLines.phase with
      | lines =>
        have hr := (f.readLines_goes_on.mp hp).2
        rw [hh] at hr
        refine .reading written hp (List.append_nil _).symm ?_ ?_ heard
        · rw [readLines_fragment hp, fragment, ← Text.openLine_append, split]
        · rw [ended]
          exact List.forall_mem_append.mpr ⟨readable, hr⟩
      | ending =>
        obtain ⟨line, hm, unreadable⟩ := f.readLines_leaves_off.mp hp hw
        have hu : ∃ line ∈ endedLines written, Unreadable line :=
          ⟨line, by rw [ended, ← hh]; exact List.mem_append_right _ hm, unreadable⟩
        refine .waiting hp (.inr hu) ?_
        rw [heard, heardOf_linesOf hu]
      | done => exact absurd hp f.readLines_phase

theorem Progress.poll (h : Progress written f) (hs : f.stopped = false) :
    Progress written f.poll := by
  cases f.poll_step with
  | done _ turn => rwa [turn]
  | waits phase turn =>
    rw [turn]
    exact h.awaitEnd phase
  | kills _ stopped => exact Bool.noConfusion (hs.symm.trans stopped)
  | reads phase _ _ turn =>
    rw [turn]
    exact h.readLines phase
  | leaves phase _ leavesOff turn =>
    rw [turn]
    exact (h.readLines phase).awaitEnd leavesOff

theorem wrote_of_closed (h : f.child.writing = false) (e : FollowEvent) : f.wrote e = [] := by
  cases e with
  | write => exact if_pos (by simp [h])
  | _ => rfl

theorem poll_ended {status : ExitStatus} (h : f.child.ended = some status) :
    f.poll.child.ended = some status ∧ f.poll.child.stderr = f.child.stderr := by
  rcases f.poll_child with same | taken | killed
  · rw [same]
    exact ⟨h, rfl⟩
  · rw [taken]
    exact ⟨h, rfl⟩
  · rw [killed]
    exact ⟨by rw [killChild, h]; rfl, rfl⟩

/-- How a child ended, and what it complained of, stays. -/
theorem next_ended {status : ExitStatus} (h : f.child.ended = some status) (e : FollowEvent) :
    (f.next e).child.ended = some status ∧ (f.next e).child.stderr = f.child.stderr := by
  cases e with
  | write | writeError | exit =>
    rw [next, if_pos (by simp [h])]
    exact ⟨h, rfl⟩
  | closeOutput | stop => exact ⟨h, rfl⟩
  | poll => exact poll_ended h

/-- The reader has done nothing, the child has written this, and a closed output stays closed. -/
structure Between (f g : Follower) (written : List UInt8) : Prop where
  phase : g.phase = f.phase
  fragment : g.fragment = f.fragment
  feeds : g.feeds = f.feeds
  unread : g.child.unread = f.child.unread ++ written
  closed (h : f.child.writing = false) : g.child.writing = false

/-- Between its turns the reader does nothing. -/
theorem next_between {e : FollowEvent} (h : e ≠ .poll) : Between f (f.next e) (f.wrote e) := by
  cases e with
  | poll => exact absurd rfl h
  | write bytes =>
    rw [next, wrote]
    split
    · exact ⟨rfl, rfl, rfl, (List.append_nil _).symm, id⟩
    · exact ⟨rfl, rfl, rfl, rfl, id⟩
  | writeError bytes =>
    rw [next]
    split <;> exact ⟨rfl, rfl, rfl, (List.append_nil _).symm, id⟩
  | exit status =>
    rw [next]
    split
    · exact ⟨rfl, rfl, rfl, (List.append_nil _).symm, id⟩
    · exact ⟨rfl, rfl, rfl, (List.append_nil _).symm, fun _ => rfl⟩
  | closeOutput => exact ⟨rfl, rfl, rfl, (List.append_nil _).symm, fun _ => rfl⟩
  | stop => exact ⟨rfl, rfl, rfl, (List.append_nil _).symm, id⟩

theorem Progress.between (h : Progress written f) (settled : f.Settled) {e : FollowEvent}
    (he : e ≠ .poll) : Progress (written ++ f.wrote e) (f.next e) := by
  have same := next_between (f := f) he
  cases h with
  | reading taken phase split fragment readable feeds =>
    refine .reading taken (same.phase.trans phase) ?_ (same.fragment.trans fragment) readable
      (same.feeds.trans feeds)
    rw [same.unread, split, List.append_assoc]
  | waiting phase ceased feeds =>
    cases ceased with
    | inl closed =>
      rw [wrote_of_closed closed, List.append_nil]
      exact .waiting (same.phase.trans phase) (.inl (same.closed closed)) (same.feeds.trans feeds)
    | inr unreadable =>
      refine .waiting (same.phase.trans phase) (.inr ?_) ?_
      · obtain ⟨line, hm, hl⟩ := unreadable
        rw [endedLines_append]
        exact ⟨line, List.mem_append_left _ hm, hl⟩
      · rw [same.feeds, feeds, heardOf_linesOf_append unreadable]
  | finished status phase ended feeds =>
    obtain ⟨hn, hs⟩ := next_ended ended e
    rw [wrote_of_closed (settled (by simp [ended])), List.append_nil]
    exact .finished status (same.phase.trans phase) hn (by rw [same.feeds, feeds, hs])

theorem Progress.next (h : Progress written f) (settled : f.Settled) (e : FollowEvent)
    (hs : f.stopped = false) : Progress (written ++ f.wrote e) (f.next e) := by
  by_cases he : e = .poll
  · subst he
    rw [wrote, List.append_nil]
    · exact h.poll hs
    · exact nofun
  · exact h.between settled he

theorem next_not_stopped {e : FollowEvent} (h : f.stopped = false) (he : e ≠ .stop) :
    (f.next e).stopped = false := by
  cases e with
  | write | writeError | exit =>
    rw [Follower.next]
    split <;> exact h
  | closeOutput => exact h
  | stop => exact absurd rfl he
  | poll => exact f.poll_stopped.trans h

/-- However the events fall, a reader that is not stopped keeps up with the output. -/
theorem Progress.run {f : Follower} (h : Progress written f) (settled : f.Settled)
    (hs : f.stopped = false) (events : List FollowEvent) (unstopped : .stop ∉ events) :
    Progress (written ++ f.output events) (f.run events) := by
  induction events generalizing written f with
  | nil =>
    rw [output, Trace.gather, List.append_nil]
    exact h
  | cons e events ih =>
    rw [List.mem_cons, not_or] at unstopped
    rw [output, Trace.gather, ← List.append_assoc]
    exact ih (h.next settled e hs) (settled.next e) (next_not_stopped hs (Ne.symm unstopped.1))
      unstopped.2

theorem fresh_settled : ({} : Follower).Settled := nofun

theorem fresh_progress : Progress [] ({} : Follower) :=
  .reading [] rfl rfl rfl nofun rfl

theorem Settled.run (h : f.Settled) (events : List FollowEvent) : (f.run events).Settled := by
  induction events generalizing f with
  | nil => exact h
  | cons e events ih => exact ih (h.next e)

theorem run_not_stopped (h : f.stopped = false) {events : List FollowEvent}
    (unstopped : .stop ∉ events) : (f.run events).stopped = false := by
  induction events generalizing f with
  | nil => exact h
  | cons e events ih =>
    rw [List.mem_cons, not_or] at unstopped
    exact ih (next_not_stopped h (Ne.symm unstopped.1)) unstopped.2

theorem run_progress {events : List FollowEvent} (unstopped : .stop ∉ events) :
    Progress (output {} events) (run {} events) :=
  fresh_progress.run fresh_settled rfl events unstopped

/-- Nothing is handed on after the end. -/
theorem next_done (h : f.phase = .done) (e : FollowEvent) :
    (f.next e).phase = .done ∧ (f.next e).feeds = f.feeds := by
  by_cases he : e = .poll
  · subst he
    rw [next, poll, h]
    exact ⟨h, rfl⟩
  · have same := next_between (f := f) he
    exact ⟨same.phase.trans h, same.feeds⟩

theorem run_done (h : f.phase = .done) (events : List FollowEvent) :
    (f.run events).phase = .done ∧ (f.run events).feeds = f.feeds := by
  induction events generalizing f with
  | nil => exact ⟨h, rfl⟩
  | cons e events ih =>
    obtain ⟨hp, hf⟩ := next_done h e
    obtain ⟨rp, rf⟩ := ih hp
    exact ⟨rp, rf.trans hf⟩

theorem awaitEnd_phase (h : f.child.ended.isSome = true) : f.awaitEnd.phase = .done := by
  obtain ⟨status, he⟩ := Option.isSome_iff_exists.mp h
  rw [awaitEnd_of_ended he]

/-- Once the child has ended, the next turn is the last. -/
theorem poll_phase (settled : f.Settled) (h : f.child.ended.isSome = true) :
    f.poll.phase = .done := by
  cases f.poll_step with
  | done phase turn => rwa [turn]
  | waits _ turn =>
    rw [turn]
    exact awaitEnd_phase h
  | kills _ _ turn =>
    rw [turn]
    rfl
  | reads _ _ goesOn =>
    have writing := (f.readLines_goes_on.mp goesOn).1
    exact Bool.noConfusion (writing.symm.trans (settled h))
  | leaves _ _ _ turn =>
    rw [turn]
    exact awaitEnd_phase h

theorem Progress.last_feeds (h : Progress written f) (done : f.phase = .done)
    {status : ExitStatus} (ended : f.child.ended = some status) : f.feeds =
      (heardOf (linesOf written)).map .line ++ [.closed (closingOf status f.child.stderr)] := by
  cases h with
  | reading _ phase => exact absurd (done.symm.trans phase) nofun
  | waiting phase => exact absurd (done.symm.trans phase) nofun
  | finished other _ he feeds =>
    obtain rfl : other = status := Option.some.inj (he.symm.trans ended)
    exact feeds

/-- A reader that is never stopped hands on, once each and in order, the lines of all that its child
wrote up to the first that is no text, then how the child ended, and nothing more. So it hands on
every line that is a text exactly when none stands behind one that is not. -/
theorem log_delivered_iff {events : List FollowEvent} {status : ExitStatus}
    (unstopped : .stop ∉ events) (ended : (run {} events).child.ended = some status)
    (later : List FollowEvent) : ∃ heard reason,
    (run {} (events ++ .poll :: later)).feeds = heard.map .line ++ [.closed reason] ∧
      Closing status (run {} events).child.stderr reason ∧
      (∃ hidden, linesOf (output {} events) = heard.map Utf8.encode ++ hidden ∧
        ∀ line ∈ hidden.head?, Unreadable line) ∧
      (Relayed (linesOf (output {} events)) heard ↔
        (linesOf (output {} events)).Pairwise fun line later =>
          Unreadable line → Unreadable later) := by
  have settled := fresh_settled.run events
  have done := poll_phase settled (by simp [ended])
  obtain ⟨pe, ps⟩ := poll_ended ended
  have progress := (run_progress unstopped).poll (run_not_stopped rfl unstopped)
  refine ⟨heardOf (linesOf (output {} events)), _, ?_, closing_closingOf status _,
    heardOf_spec _, relayed_heardOf⟩
  rw [run_append, ← ps]
  exact (run_done done later).2.trans (progress.last_feeds done pe)

/-- A child that writes in pieces, complains and fails, with turns of the reader between. -/
def inPieces : List FollowEvent :=
  [.write [104, 195], .poll, .write [169, 13, 10], .poll, .write [226, 130, 172, 10, 98],
    .writeError [10, 110, 111, 32], .poll, .exit (.code 1)]

theorem log_delivered_in_pieces :
    (run {} (inPieces ++ [.poll])).feeds =
      [.line "hé", .line "€", .line "b", .closed (some "no")] ∧
    ∃ heard reason, (run {} (inPieces ++ [.poll])).feeds = heard.map .line ++ [.closed reason] ∧
      Relayed (linesOf (output {} inPieces)) heard := by
  obtain ⟨heard, reason, hf, -, -, hr⟩ :=
    log_delivered_iff (show .stop ∉ inPieces by decide)
      (show (run {} inPieces).child.ended = some (.code 1) by decide +kernel) []
  exact ⟨by decide +kernel, heard, reason, hf, hr.mpr (by decide +kernel)⟩

/-- A child that writes a line that is no text, then one that is, and succeeds. -/
def mixed : List FollowEvent := [.write [255, 10, 97, 10], .exit (.code 0)]

theorem line_lost_behind_unreadable :
    .stop ∉ mixed ∧ (run {} mixed).child.ended = some (.code 0) ∧
      Utf8.encode "a" ∈ linesOf (output {} mixed) ∧
      ∀ later, .line "a" ∉ (run {} (mixed ++ later)).feeds := by
  refine ⟨by decide, by decide, by decide +kernel, fun later => ?_⟩
  -- Nothing happens to the reader but that it is stopped, until its turn comes and it is done.
  let waiting := [run {} mixed, (run {} mixed).stop]
  have turn : ∀ g ∈ waiting, g.poll.phase = .done ∧ .line "a" ∉ g.poll.feeds := by decide +kernel
  have stays : ∀ g ∈ waiting, g.stop ∈ waiting := by decide
  have ended : ∀ g ∈ waiting, g.child.ended = some (.code 0) ∧ g.next .closeOutput = g := by
    decide
  have lost : ∀ g ∈ waiting, .line "a" ∉ (g.run later).feeds := by
    induction later with
    | nil => decide
    | cons e later ih =>
      intro g hg
      rw [run, List.foldl_cons]
      cases e with
      | write | writeError | exit =>
        rw [next, if_pos (by simp [(ended g hg).1])]
        exact ih g hg
      | closeOutput =>
        rw [(ended g hg).2]
        exact ih g hg
      | stop => exact ih g.stop (stays g hg)
      | poll =>
        obtain ⟨done, unheard⟩ := turn g hg
        exact fun heard => unheard ((run_done done later).2 ▸ heard)
  rw [run_append]
  exact lost _ List.mem_cons_self

end ClusterDashboard.Kubectl.Follower
