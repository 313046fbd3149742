import ClusterDashboard.Proofs.Dashboard.Steps
import ClusterDashboard.Proofs.Kubectl.Readers
import Mathlib.Data.List.DropRight
/-!
# Log streams

A step opens a stream, feeds the log, gives the held stream up, or leaves the streams alone while
their readers go on. At any time the held stream is the one that was asked for last, and the
readers of all others have been told to stop.
-/
namespace ClusterDashboard.Dashboard

open Kubectl (Follower FollowEvent)

variable {S J : Type} {b : Backend S TablePage J} {d e : Dashboard S J} {step : Step S}

namespace Streams

/-- The held stream is given up and its reader told to stop. -/
def stopped (s : Streams) : Streams :=
  match s.held with
  | none => s
  | some id =>
    { s with
      held := none
      readers := s.readers.map fun (i, f) => if i = id then (i, f.stop) else (i, f) }

/-- A stream was asked for and there is none. -/
def refused (s : Streams) : Streams := { s.stopped with last := s.last + 1 }

def opened (s : Streams) : Streams where
  held := some (s.last + 1)
  last := s.last + 1
  lines := []
  readers := s.stopped.readers.put (s.last + 1) {}

def fed (line : String) (s : Streams) : Streams :=
  { s with lines := (s.lines ++ [line]).rtake logLimit }

/-- The children and the readers go on. -/
def moved (events : Nat → List FollowEvent) (s : Streams) : Streams :=
  { s with readers := s.readers.map fun (id, f) => (id, f.run (events id)) }

variable {s : Streams} {id : Nat} {f : Follower}

theorem stopped_held (s : Streams) : s.stopped.held = none := by
  rw [stopped]
  split
  · assumption
  · rfl

theorem stopped_last (s : Streams) : s.stopped.last = s.last := by
  rw [stopped]
  split <;> rfl

theorem stopped_lines (s : Streams) : s.stopped.lines = s.lines := by
  rw [stopped]
  split <;> rfl

theorem refused_held (s : Streams) : s.refused.held = none := stopped_held s

theorem refused_lines (s : Streams) : s.refused.lines = s.lines := stopped_lines s

theorem fed_held (line : String) (s : Streams) : (s.fed line).held = s.held := by rw [fed]

theorem fed_lines (line : String) (s : Streams) :
    (s.fed line).lines = (s.lines ++ [line]).rtake logLimit := by
  rw [fed]

theorem mem_stopped (h : (id, f) ∈ s.stopped.readers) :
    (id, f) ∈ s.readers ∧ s.held ≠ some id ∨ ∃ g, (id, g) ∈ s.readers ∧ f = g.stop := by
  rw [stopped] at h
  split at h
  · next hn =>
    refine .inl ⟨h, ?_⟩
    rw [hn]
    nofun
  · next held hh =>
    obtain ⟨⟨j, g⟩, hg, he⟩ := List.mem_map.mp h
    dsimp only at he
    by_cases hj : j = held
    · rw [if_pos hj] at he
      obtain ⟨rfl, rfl⟩ := Prod.mk.inj he
      exact .inr ⟨g, hg, rfl⟩
    · rw [if_neg hj] at he
      obtain ⟨rfl, rfl⟩ := Prod.mk.inj he
      refine .inl ⟨hg, ?_⟩
      rw [hh]
      intro hk
      exact hj (Option.some.inj hk).symm

theorem mem_moved {events : Nat → List FollowEvent} (h : (id, f) ∈ (s.moved events).readers) :
    ∃ g, (id, g) ∈ s.readers ∧ f = g.run (events id) := by
  obtain ⟨⟨j, g⟩, hg, he⟩ := List.mem_map.mp h
  obtain ⟨rfl, rfl⟩ := Prod.mk.inj he
  exact ⟨g, hg, rfl⟩

/-- What holds of streams at any time. -/
structure Tidy (s : Streams) : Prop where
  held_last : ∀ id, s.held = some id → id = s.last
  numbered : ∀ id f, (id, f) ∈ s.readers → id ≤ s.last
  released : ∀ id f, (id, f) ∈ s.readers → s.held ≠ some id → f.stopped = true
  orderly : ∀ id f, (id, f) ∈ s.readers → f.Orderly

namespace Tidy

theorem stopped (h : s.Tidy) : s.stopped.Tidy := by
  refine ⟨?_, ?_, ?_, ?_⟩
  · intro id hi
    cases (stopped_held s).symm.trans hi
  · intro id f hm
    rw [stopped_last]
    rcases mem_stopped hm with ⟨hf, -⟩ | ⟨g, hg, -⟩
    · exact h.numbered id f hf
    · exact h.numbered id g hg
  · intro id f hm _
    rcases mem_stopped hm with ⟨hf, hn⟩ | ⟨g, -, rfl⟩
    · exact h.released id f hf hn
    · rfl
  · intro id f hm
    rcases mem_stopped hm with ⟨hf, -⟩ | ⟨g, hg, rfl⟩
    · exact h.orderly id f hf
    · exact (h.orderly id g hg).next .stop

theorem refused (h : s.Tidy) : s.refused.Tidy := by
  have hs := h.stopped
  refine ⟨?_, ?_, hs.released, hs.orderly⟩
  · intro id hi
    cases (refused_held s).symm.trans hi
  · intro id f hm
    have hn := hs.numbered id f hm
    rw [stopped_last] at hn
    exact Nat.le_succ_of_le hn

theorem opened (h : s.Tidy) : s.opened.Tidy := by
  have hs := h.stopped
  refine ⟨?_, ?_, ?_, ?_⟩
  · intro id hi
    exact (Option.some.inj hi).symm
  · intro id f hm
    rcases Keyed.mem_of_mem_put hm with he | hm
    · exact Nat.le_of_eq (Prod.mk.inj he).1
    · have hn := hs.numbered id f hm
      rw [stopped_last] at hn
      exact Nat.le_succ_of_le hn
  · intro id f hm hn
    rcases Keyed.mem_of_mem_put hm with he | hm
    · cases he
      exact absurd rfl hn
    · refine hs.released id f hm ?_
      rw [stopped_held]
      nofun
  · intro id f hm
    rcases Keyed.mem_of_mem_put hm with he | hm
    · cases he
      exact Follower.fresh_orderly
    · exact hs.orderly id f hm

/-- The lines do not matter. -/
theorem relined (h : s.Tidy) (lines : List String) : Tidy { s with lines } :=
  ⟨h.held_last, h.numbered, h.released, h.orderly⟩

theorem fed (h : s.Tidy) (line : String) : (s.fed line).Tidy := by
  -- not field by field: comparing the lines would cut them line by line
  rw [Streams.fed]
  exact h.relined _

theorem moved (h : s.Tidy) (events : Nat → List FollowEvent) : (s.moved events).Tidy := by
  refine ⟨h.held_last, ?_, ?_, ?_⟩
  · intro id f hm
    obtain ⟨g, hg, -⟩ := mem_moved hm
    exact h.numbered id g hg
  · intro id f hm hn
    obtain ⟨g, hg, rfl⟩ := mem_moved hm
    exact Follower.run_stopped (h.released id g hg hn) _
  · intro id f hm
    obtain ⟨g, hg, rfl⟩ := mem_moved hm
    exact (h.orderly id g hg).run _

end Tidy
end Streams

namespace Step

/-- A stream was asked for, and there is one. -/
def opens : Step S → Bool
  | .startLogs program target => (Kubectl.logsArguments target).toBool && !program.missing
  | .attachLogs _ refusal => refusal.isNone
  | _ => false

def feeds : Step S → Bool
  | .uiEvent (.log _ _) => true
  | _ => false

end Step

/-- What a step can do to the streams. -/
inductive Streams.Turn (s : Streams) (step : Step S) : Streams → Prop where
  | opened (opens : step.opens = true) : Turn s step s.opened
  | fed (stream : Nat) (feed : Kubectl.Feed) (sent : step = .uiEvent (.log stream feed)) :
    Turn s step (if stream = s.last ∧ s.held.isSome = true then s.fed (feedLine feed) else s)
  | kept (shut : step.opens = false) (mute : step.feeds = false) : Turn s step s
  | stopped (shut : step.opens = false) (mute : step.feeds = false) : Turn s step s.stopped
  | refused (shut : step.opens = false) (mute : step.feeds = false) : Turn s step s.refused
  | moved (shut : step.opens = false) (mute : step.feeds = false)
    (events : Nat → List FollowEvent) : Turn s step (s.moved events)

theorem stopStream_streams (d : Dashboard S J) : d.stopStream.streams = d.streams.stopped := by
  cases hs : d.stream <;> simp [stopStream, streams, Streams.stopped, hs]

theorem syncStream_streams (d : Dashboard S J) :
    d.syncStream.streams = d.streams ∨ d.syncStream.streams = d.streams.stopped := by
  rw [syncStream]
  split
  · exact .inr (stopStream_streams d)
  · exact .inl rfl

theorem stopStream_streamId (d : Dashboard S J) : d.stopStream.streamId = d.streamId :=
  (congrArg Streams.last (stopStream_streams d)).trans (Streams.stopped_last _)

theorem refused_streams (d : Dashboard S J) (title : String) (failure : Failure) :
    (d.attachLogs title (.error failure)).streams = d.streams.refused := by
  have hs : streams { d.stopStream with streamId := d.stopStream.streamId + 1 } =
      d.streams.refused := by
    rw [Streams.refused, ← stopStream_streams]
    exact congrArg (fun last => { d.stopStream.streams with last := last + 1 })
      (stopStream_streamId d)
  exact (showStatus_streams _ _ _).trans hs

theorem opened_streams (d : Dashboard S J) (title : String) :
    (d.attachLogs title (.ok {})).streams = d.streams.opened := by
  rw [Streams.opened, ← stopStream_streams]
  let readers := d.stopStream.followers
  exact congrArg
    (fun last => Streams.mk (some (last + 1)) (last + 1) [] (readers.put (last + 1) {}))
    (stopStream_streamId d)

theorem log_streams (d : Dashboard S J) (stream : Nat) (feed : Kubectl.Feed) :
    (d.onUiEvent (.log stream feed)).streams =
      if stream = d.streams.last ∧ d.streams.held.isSome = true
      then d.streams.fed (feedLine feed) else d.streams := by
  by_cases hi : stream = d.streamId <;> cases hs : d.stream <;>
    simp [onUiEvent, streams, Streams.fed, pushLogLine, List.rtake, hi, hs]

theorem synced_turn (h : e.streams = d.streams) (shut : step.opens = false)
    (mute : step.feeds = false) : d.streams.Turn step e.syncStream.streams := by
  rw [← h]
  rcases syncStream_streams e with hs | hs <;> rw [hs]
  · exact .kept shut mute
  · exact .stopped shut mute

theorem statusExpired_turn (d : Dashboard S J) (ticket : Nat) :
    d.streams.Turn (S := S) (.uiEvent (.statusExpired ticket))
      (d.onUiEvent (.statusExpired ticket)).streams := by
  rw [onUiEvent]
  split
  · exact .kept rfl rfl
  · refine synced_turn ?_ rfl rfl
    split
    · exact clearStatus_streams d
    · rfl

theorem startLogs_turn (d : Dashboard S J) (program : Kubectl.Program) (target : Target) :
    d.streams.Turn (S := S) (.startLogs program target) (d.startLogs program target).streams := by
  rw [startLogs]
  cases ha : Kubectl.logsArguments target with
  | error problem =>
    simp only [showError, showStatus_streams]
    exact .kept (by simp [Step.opens, ha, Except.toBool]) rfl
  | ok arguments =>
    simp only [Follower.start?]
    cases hm : program.missing with
    | true =>
      simp only [if_true, refused_streams]
      exact .refused (by simp [Step.opens, hm]) rfl
    | false =>
      simp only [Bool.false_eq_true, if_false, opened_streams]
      exact .opened (by simp [Step.opens, ha, hm, Except.toBool])

theorem streams_turn (b : Backend S TablePage J) (d : Dashboard S J) (step : Step S) :
    d.streams.Turn step (step.next b d).streams := by
  cases step with
  | act action => exact synced_turn ((Leads.refl (d := d)).dispatch action).streams rfl rfl
  | uiEvent event =>
    cases event with
    | statusExpired ticket => exact statusExpired_turn d ticket
    | log stream feed =>
      rw [Step.next, log_streams]
      exact .fed stream feed rfl
  | refreshEvent event =>
    have hs : (d.onRefreshEvent event).streams = d.streams := by
      cases event with
      | rendered page => rfl
      | failed page error =>
        rw [onRefreshEvent]
        split
        · exact showStatus_streams _ _ _
        · rfl
    rw [Step.next, hs]
    exact .kept rfl rfl
  | message text kind =>
    rw [Step.next, showStatus_streams]
    exact .kept rfl rfl
  | setDetail verb target body => exact synced_turn rfl rfl rfl
  | startLogs program target => exact startLogs_turn d program target
  | attachLogs title refusal =>
    cases refusal with
    | none =>
      rw [Step.next, Step.freshReader, opened_streams]
      exact .opened rfl
    | some failure =>
      rw [Step.next, Step.freshReader, refused_streams]
      exact .refused rfl rfl
  | tick =>
    have hs : d.tick.1.streams = d.streams := by
      rw [tick]
      split <;> rfl
    rw [Step.next, hs]
    exact .kept rfl rfl
  | child stream event =>
    have hs : (d.childStep stream event).streams =
        d.streams.moved fun id => if id = stream then [event] else [] := by
      simp only [childStep, streams, Streams.moved, Streams.mk.injEq, true_and]
      refine List.map_congr_left ?_
      rintro ⟨id, f⟩ -
      dsimp only
      split <;> rfl
    rw [Step.next, hs]
    exact .moved rfl rfl _
  | runFollowers =>
    have hs : d.runFollowers.streams = d.streams.moved fun _ => [.poll] := by
      simp only [runFollowers, streams, Streams.moved, List.map_map]
      rfl
    rw [Step.next, hs]
    exact .moved rfl rfl _
  | background | runTimers | wait | scrollTo | emptyQueue | discover | identify =>
    exact .kept rfl rfl

theorem Streams.Tidy.turn {s t : Streams} (h : s.Tidy) (turn : s.Turn step t) : t.Tidy := by
  cases turn with
  | opened => exact h.opened
  | fed stream feed =>
    split
    · exact h.fed _
    · exact h
  | kept => exact h
  | stopped => exact h.stopped
  | refused => exact h.refused
  | moved _ _ events => exact h.moved events

section Runs

variable {settings : Settings} {catalog : Catalog} {scope : Scope} {cluster context : String}
  {source : S} {start : Dashboard S J}

theorem start_streams
    (opened : start? settings catalog scope cluster context source = some start) :
    start.streams = ⟨none, 0, [], []⟩ := by
  obtain ⟨session, -, rfl⟩ := Option.map_eq_some_iff.mp opened
  rfl

theorem start_tidy (opened : start? settings catalog scope cluster context source = some start) :
    start.streams.Tidy := by
  rw [start_streams opened]
  exact ⟨nofun, nofun, nofun, nofun⟩

theorem run_tidy (h : d.streams.Tidy) (steps : List (Step S)) :
    (Step.runTrace b d steps).streams.Tidy := by
  induction steps generalizing d with
  | nil => exact h
  | cons step steps ih => exact ih (h.turn (streams_turn b d step))

end Runs

end ClusterDashboard.Dashboard
