import ClusterDashboard.Proofs.Dashboard.Streams
/-!
# What the log shows

Since a stream was opened the log shows the newest of the lines that came from it while it was
held. Lines of other streams, and lines that come too late, change nothing at all.
-/
namespace ClusterDashboard

theorem length_rtake_le {α : Type} (n : Nat) (l : List α) : (l.rtake n).length ≤ n := by
  rw [List.rtake, List.length_drop]
  omega

theorem rtake_of_length_le {α : Type} {n : Nat} {l : List α} (h : l.length ≤ n) :
    l.rtake n = l := by
  rw [List.rtake, Nat.sub_eq_zero_of_le h, List.drop_zero]

theorem rtake_cons_of_length {α : Type} {n : Nat} {a : α} {l : List α} (full : l.length = n) :
    (a :: l).rtake n = l := by
  rw [List.rtake, List.length_cons, full, Nat.add_sub_cancel_left, List.drop_one, List.tail_cons]

/-- What was dropped before would be dropped now. -/
theorem rtake_append_rtake {α : Type} (n : Nat) (l m : List α) :
    (l.rtake n ++ m).rtake n = (l ++ m).rtake n := by
  simp only [List.rtake_eq_reverse_take_reverse, List.reverse_append, List.reverse_reverse,
    List.take_append, List.take_take, List.length_reverse]
  rw [Nat.min_eq_left (Nat.sub_le n m.length)]

namespace Dashboard

variable {S J : Type} {b : Backend S TablePage J} {d : Dashboard S J} {step : Step S} {id : Nat}

/-- The line that a step brings from the stream, if it is held. -/
def hears (id : Nat) (d : Dashboard S J) : Step S → List String
  | .uiEvent (.log stream feed) =>
    if stream = id ∧ d.stream = some id then [feedLine feed] else []
  | _ => []

abbrev heardAlong (b : Backend S TablePage J) (id : Nat) :
    Dashboard S J → List (Step S) → List String :=
  Trace.gather (hears id) (Step.next b)

theorem hears_mute (h : step.feeds = false) : hears id d step = [] := by
  cases step with
  | uiEvent event =>
    cases event with
    | statusExpired ticket => rfl
    | log stream feed => cases h
  | _ => rfl

theorem hears_unheld (h : d.stream ≠ some id) (step : Step S) : hears id d step = [] := by
  cases step with
  | uiEvent event =>
    cases event with
    | statusExpired ticket => rfl
    | log stream feed => exact if_neg fun hs => h hs.2
  | _ => rfl

namespace Streams

variable {s t : Streams}

/-- No stream but this one is held. -/
def Only (id : Nat) (s : Streams) : Prop := ∀ other, s.held = some other → other = id

theorem only_of_none (h : s.held = none) (id : Nat) : s.Only id := by
  intro other ho
  cases h.symm.trans ho

theorem Turn.only (turn : s.Turn step t) (shut : step.opens = false) (h : s.Only id) :
    t.Only id := by
  cases turn with
  | opened opens => cases shut.symm.trans opens
  | fed stream feed =>
    split
    · rw [Only, fed_held]
      exact h
    · exact h
  | kept | moved => exact h
  | stopped => exact only_of_none (stopped_held s) id
  | refused => exact only_of_none (refused_held s) id

theorem Turn.held_none (turn : s.Turn step t) (shut : step.opens = false) (h : s.held = none) :
    t.held = none := by
  cases ht : t.held with
  | none => rfl
  | some held =>
    -- what is held can be one stream only, and so is neither of two
    have hz := turn.only shut (only_of_none h 0) held ht
    have ho := turn.only shut (only_of_none h 1) held ht
    cases hz.symm.trans ho

theorem Turn.bounded (turn : s.Turn step t) (h : s.lines.length ≤ logLimit) :
    t.lines.length ≤ logLimit := by
  cases turn with
  | opened => exact Nat.zero_le _
  | fed stream feed =>
    split
    · rw [fed_lines]
      exact length_rtake_le logLimit _
    · exact h
  | kept | moved => exact h
  | stopped =>
    rw [stopped_lines]
    exact h
  | refused =>
    rw [refused_lines]
    exact h

theorem Turn.of_opens (turn : s.Turn step t) (opens : step.opens = true) : t = s.opened := by
  cases turn with
  | opened => rfl
  | fed stream feed sent =>
    subst sent
    cases opens
  | kept shut | stopped shut | refused shut | moved shut => cases shut.symm.trans opens

/-- Lines come from the stream that was opened last, as long as it is held, and from no other. -/
theorem Turn.lines (turn : d.streams.Turn step t) (shut : step.opens = false)
    (tidy : d.streams.Tidy) (only : d.streams.Only id) (bounded : d.logLines.length ≤ logLimit) :
    t.lines = (d.logLines ++ hears id d step).rtake logLimit := by
  have same : step.feeds = false → d.logLines = (d.logLines ++ hears id d step).rtake logLimit := by
    intro mute
    rw [hears_mute mute, List.append_nil, rtake_of_length_le bounded]
  cases turn with
  | opened opens => cases shut.symm.trans opens
  | fed stream feed sent =>
    subst sent
    split
    · next hh =>
      obtain ⟨hs, held⟩ := hh
      obtain ⟨other, ho⟩ := Option.isSome_iff_exists.mp held
      obtain rfl : other = id := only other ho
      have hi : stream = other := hs.trans (tidy.held_last other ho).symm
      rw [hears, if_pos ⟨hi, ho⟩]
      exact fed_lines _ _
    · next hh =>
      have hn : ¬ (stream = id ∧ d.stream = some id) := by
        rintro ⟨rfl, held⟩
        exact hh ⟨tidy.held_last stream held, Option.isSome_iff_exists.mpr ⟨stream, held⟩⟩
      rw [hears, if_neg hn, List.append_nil, rtake_of_length_le bounded]
      rfl
  | kept _ mute => exact same mute
  | moved _ mute => exact same mute
  | stopped _ mute =>
    rw [stopped_lines]
    exact same mute
  | refused _ mute =>
    rw [refused_lines]
    exact same mute

end Streams

theorem run_bounded (h : d.logLines.length ≤ logLimit) (steps : List (Step S)) :
    (Step.runTrace b d steps).logLines.length ≤ logLimit := by
  induction steps generalizing d with
  | nil => exact h
  | cons step steps ih => exact ih ((streams_turn b d step).bounded h)

theorem heard_none {steps : List (Step S)} (shut : ∀ step ∈ steps, step.opens = false)
    (h : d.stream = none) : heardAlong b id d steps = [] := by
  induction steps generalizing d with
  | nil => rfl
  | cons step steps ih =>
    obtain ⟨first, rest⟩ := List.forall_mem_cons.mp shut
    have hn : d.stream ≠ some id := by
      rw [h]
      nofun
    have hr := ih rest ((streams_turn b d step).held_none first h)
    rw [heardAlong, Trace.gather, hears_unheld hn, List.nil_append]
    exact hr

/-- As long as no stream is opened, the log goes on with what is heard from the one that is held. -/
theorem lines_since {steps : List (Step S)} (shut : ∀ step ∈ steps, step.opens = false)
    (tidy : d.streams.Tidy) (only : d.streams.Only id) (bounded : d.logLines.length ≤ logLimit) :
    (Step.runTrace b d steps).logLines =
      (d.logLines ++ heardAlong b id d steps).rtake logLimit := by
  induction steps generalizing d with
  | nil =>
    rw [heardAlong, Trace.gather, List.append_nil, rtake_of_length_le bounded]
    rfl
  | cons step steps ih =>
    obtain ⟨first, rest⟩ := List.forall_mem_cons.mp shut
    have turn := streams_turn b d step
    have hl : (step.next b d).logLines = _ := turn.lines first tidy only bounded
    have hr := ih rest (tidy.turn turn) (turn.only first only) (turn.bounded bounded)
    rw [hl, rtake_append_rtake, List.append_assoc] at hr
    exact hr

section Runs

variable {settings : Settings} {catalog : Catalog} {scope : Scope} {cluster context : String}
  {source : S} {start : Dashboard S J}

/-- In every run, since a stream was opened and as long as no other is, the log shows the newest
5000 of the lines that were heard from it, in order; a stream gets a number that none had before.
Before any stream is opened the log is empty, and a feed of a stream that is not held changes
nothing. -/
theorem log_shows_newest_heard
    (opened : start? settings catalog scope cluster context source = some start) :
    (∀ steps : List (Step S),
      let d := Step.runTrace b start steps
      d.logLines.length ≤ 5000 ∧
      (∀ stream feed, d.stream ≠ some stream → d.onUiEvent (.log stream feed) = d) ∧
      ((∀ step ∈ steps, step.opens = false) → d.logLines = [])) ∧
    ∀ (earlier : List (Step S)) (step : Step S) (later : List (Step S)), step.opens = true →
      (∀ other ∈ later, other.opens = false) →
      let before := Step.runTrace b start earlier
      let attached := step.next b before
      attached.stream = some attached.streamId ∧
      (∀ id f, (id, f) ∈ before.followers → id < attached.streamId) ∧
      (Step.runTrace b start (earlier ++ step :: later)).logLines =
        (heardAlong b attached.streamId attached later).rtake 5000 := by
  have empty : start.logLines = [] := congrArg Streams.lines (start_streams opened)
  have idle : start.stream = none := congrArg Streams.held (start_streams opened)
  have bounded : start.logLines.length ≤ logLimit := by
    rw [empty]
    exact Nat.zero_le _
  constructor
  · intro steps d
    refine ⟨run_bounded bounded steps, ?_, ?_⟩
    · intro stream feed hn
      have tidy : d.streams.Tidy := run_tidy (start_tidy opened) steps
      have ignored : (decide (stream ≠ d.streamId) || d.stream.isNone) = true := by
        by_cases hi : stream = d.streamId
        · have none_held : d.stream = none := by
            cases hs : d.stream with
            | none => rfl
            | some other =>
              have ho : other = d.streamId := tidy.held_last other hs
              exact absurd (hs.trans (congrArg some (ho.trans hi.symm))) hn
          simp [none_held]
        · simp [hi]
      exact if_pos ignored
    · intro shut
      have hl := lines_since (b := b) shut (start_tidy opened) (Streams.only_of_none idle 0) bounded
      rw [heard_none shut idle, empty] at hl
      exact hl
  · intro earlier step later opens shut before attached
    have tidy : before.streams.Tidy := run_tidy (start_tidy opened) earlier
    have turn : before.streams.Turn step attached.streams := streams_turn b before step
    have ht : attached.streams = before.streams.opened := turn.of_opens opens
    have hs : attached.stream = some (before.streamId + 1) := congrArg Streams.held ht
    have hi : attached.streamId = before.streamId + 1 := congrArg Streams.last ht
    have hn : attached.logLines = [] := congrArg Streams.lines ht
    refine ⟨by rw [hs, hi], ?_, ?_⟩
    · intro id f hm
      rw [hi]
      exact Nat.lt_succ_of_le (tidy.numbered id f hm)
    · have only : attached.streams.Only attached.streamId := by
        intro other ho
        exact Option.some.inj (ho.symm.trans (hs.trans (congrArg some hi.symm)))
      have hb : attached.logLines.length ≤ logLimit := by
        rw [hn]
        exact Nat.zero_le _
      have hl := lines_since (b := b) shut (tidy.turn turn) only hb
      rw [hn, List.nil_append] at hl
      rw [Step.runTrace, Trace.run_append]
      exact hl

end Runs

/-- Lines come from the stream that is held and from one that was replaced; the stream ends, and
after another one could not be opened there comes a line that is too late. -/
def interrupted : List (Step TableSource) :=
  [.uiEvent (.log 2 (.line "new")), .uiEvent (.log 1 (.line "old")),
    .message "Refreshing Pods" .progress, .uiEvent (.log 2 (.closed none)),
    .attachLogs "logs pods/jobs" (some (Failure.ofTexts ["gone"])),
    .uiEvent (.log 2 (.line "late"))]

theorem log_shows_newest_heard_when_interrupted :
    let earlier : List (Step TableSource) :=
      [.attachLogs "logs pods/web" none, .uiEvent (.log 1 (.line "first"))]
    ∃ start : Dashboard TableSource (Except Failure TableView),
      start? {} [] .all "kind" "kind" {} = some start ∧
      (Step.runTrace TableSource.backend start earlier).logLines = ["first"] ∧
      (Step.runTrace TableSource.backend start
        (earlier ++ .attachLogs "logs pods/db" none :: interrupted)).logLines =
          ["new", "[log stream ended]"] := by
  intro earlier
  have opened : start? {} [] .all "kind" "kind" {} =
    some (_ : Dashboard TableSource (Except Failure TableView)) := rfl
  have heard : ∀ start : Dashboard TableSource (Except Failure TableView),
      start? {} [] .all "kind" "kind" {} = some start →
      let attached := (Step.attachLogs "logs pods/db" none).next TableSource.backend
        (Step.runTrace TableSource.backend start earlier)
      heardAlong TableSource.backend attached.streamId attached interrupted =
        ["new", "[log stream ended]"] := by
    intro start hs
    obtain rfl := Option.some.inj (opened.symm.trans hs)
    decide
  have h := log_shows_newest_heard (b := TableSource.backend) opened
  obtain ⟨-, -, shown⟩ :=
    h.2 earlier (.attachLogs "logs pods/db" none) interrupted rfl (by decide)
  rw [heard _ opened, rtake_of_length_le (by decide)] at shown
  exact ⟨_, opened, by decide, shown⟩

end Dashboard
end ClusterDashboard
