import ClusterDashboard.Proofs.Dashboard.LogLines
import ClusterDashboard.Proofs.Text.Lines
/-!
# A log that is not followed

While a log is paused, feeds add lines below and leave the offset alone. From its 5000th line on the
log loses a line above for every one that is added, and the offset stays where it was: the rows that
are shown move up, though the one that was held is still there.
-/
namespace ClusterDashboard

namespace Text

/-- The rows of the last pieces are those of all, less the ones above. -/
theorem rowsOf_rtake {n : Nat} (room : 0 < n) (pieces : List String) (row : Nat) :
    (rowsOf (pieces.rtake n))[row]? =
      (rowsOf pieces)[row + (rowsAbove (pieces.take (pieces.length - n))).length]? := by
  by_cases kept : pieces.rtake n = []
  · have none : pieces = [] := by
      have dropped := List.drop_eq_nil_iff.mp kept
      refine List.eq_nil_of_length_eq_zero ?_
      omega
    rw [none, List.rtake_nil]
    rfl
  · have cut : pieces.take (pieces.length - n) ++ pieces.rtake n = pieces :=
      List.take_append_drop _ pieces
    have below : rowsOf pieces =
        rowsAbove (pieces.take (pieces.length - n)) ++ rowsOf (pieces.rtake n) := by
      rw [← rowsOf_append _ kept, cut]
    rw [below, List.getElem?_append_right (Nat.le_add_left _ _), Nat.add_sub_cancel]

end Text

namespace Dashboard

open Text (rowsOf rowsAbove)

variable {S J : Type} {b : Backend S TablePage J} {d : Dashboard S J} {id : Nat}

/-- Nothing changes but what the log holds. -/
def withLog (lines : List String) (d : Dashboard S J) : Dashboard S J :=
  { d with logLines := lines }

theorem withLog_rows (lines : List String) (d : Dashboard S J) :
    Text.lines (d.withLog lines).logText = rowsOf lines := rfl

theorem withLog_scroll (lines : List String) (d : Dashboard S J) :
    (d.withLog lines).scroll = d.scroll := rfl

theorem pushLogLine_paused (paused : d.following = false) (line : String) :
    d.pushLogLine line = d.withLog ((d.logLines ++ [line]).rtake logLimit) := by
  simp [pushLogLine, withLog, paused, List.rtake]

theorem onUiEvent_held (tidy : d.streams.Tidy) (held : d.stream = some id) (feed : Kubectl.Feed) :
    d.onUiEvent (.log id feed) = d.pushLogLine (feedLine feed) := by
  have last : id = d.streamId := tidy.held_last id held
  simp [onUiEvent, last, held]

def feedsOf (id : Nat) (feeds : List Kubectl.Feed) : List (Step S) :=
  feeds.map fun feed => .uiEvent (.log id feed)

/-- Feeds of the held stream add their lines to a paused log, of which the newest are kept, and do
nothing else. -/
theorem paused_run (tidy : d.streams.Tidy) (bounded : d.logLines.length ≤ logLimit)
    (held : d.stream = some id) (paused : d.following = false) (feeds : List Kubectl.Feed) :
    Step.runTrace b d (feedsOf id feeds) =
      d.withLog ((d.logLines ++ feeds.map feedLine).rtake logLimit) := by
  induction feeds generalizing d with
  | nil =>
    rw [List.map_nil, List.append_nil, rtake_of_length_le bounded]
    rfl
  | cons feed feeds ih =>
    -- for any lines: to compare these would be to cut them line by line
    have rest (lines : List String) (few : lines.length ≤ logLimit) :
        Step.runTrace b (d.withLog lines) (feedsOf id feeds) =
          d.withLog ((lines ++ feeds.map feedLine).rtake logLimit) :=
      ih (d := d.withLog lines) (tidy.relined lines) few held paused
    calc Step.runTrace b d (feedsOf id (feed :: feeds))
      _ = Step.runTrace b (d.onUiEvent (.log id feed)) (feedsOf id feeds) := rfl
      _ = Step.runTrace b (d.withLog ((d.logLines ++ [feedLine feed]).rtake logLimit))
            (feedsOf id feeds) := by rw [onUiEvent_held tidy held, pushLogLine_paused paused]
      _ = d.withLog ((d.logLines ++ (feed :: feeds).map feedLine).rtake logLimit) := by
          rw [rest _ (length_rtake_le logLimit _), rtake_append_rtake, List.append_assoc]
          rfl

/-- The offset stays, and so does the row that is shown there, if there is one. -/
structure HoldsStill (d after : Dashboard S J) : Prop where
  scroll : after.scroll = d.scroll
  row : ∀ line, (Text.lines d.logText)[d.scroll]? = some line →
    (Text.lines after.logText)[d.scroll]? = some line

section Runs

variable {settings : Settings} {catalog : Catalog} {scope : Scope} {cluster context : String}
  {source : S} {start : Dashboard S J}

/-- In every run, however many feeds of the held stream come while the log is paused, nothing
changes but the lines, of which the newest 5000 are kept: the rows that are shown are those further
down by as many as were dropped above, a row at least for each line. So the row at the offset stays
if and only if it is the same as the one that comes up in its place; and it does stay until a line is
dropped, but for a carriage return at the end of the text. -/
theorem paused_log_held_iff
    (opened : start? settings catalog scope cluster context source = some start)
    (steps : List (Step S)) :
    let d := Step.runTrace b start steps
    ∀ id, d.stream = some id → d.following = false → ∀ feeds : List Kubectl.Feed,
      let all := d.logLines ++ feeds.map feedLine
      let dropped := all.take (all.length - 5000)
      let after := Step.runTrace b d (feedsOf id feeds)
      after = d.withLog (all.rtake 5000) ∧
      (∀ row, (Text.lines after.logText)[row]? =
        (rowsOf all)[row + (rowsAbove dropped).length]?) ∧
      dropped.length ≤ (rowsAbove dropped).length ∧
      (HoldsStill d after ↔ ∀ line, (Text.lines d.logText)[d.scroll]? = some line →
        (rowsOf all)[d.scroll + (rowsAbove dropped).length]? = some line) ∧
      (all.length ≤ 5000 → d.logText.toList.getLast? ≠ some '\r' → HoldsStill d after) := by
  intro d id held paused feeds all dropped after
  have empty : start.logLines = [] := congrArg Streams.lines (start_streams opened)
  have bounded : d.logLines.length ≤ logLimit := by
    refine run_bounded ?_ steps
    rw [empty]
    exact Nat.zero_le _
  have fed : after = d.withLog (all.rtake 5000) :=
    paused_run (run_tidy (start_tidy opened) steps) bounded held paused feeds
  have rows (row : Nat) :
      (Text.lines after.logText)[row]? = (rowsOf all)[row + (rowsAbove dropped).length]? := by
    rw [fed, withLog_rows]
    exact Text.rowsOf_rtake (by decide) all row
  have scroll : after.scroll = d.scroll := by rw [fed, withLog_scroll]
  have held_iff : HoldsStill d after ↔ ∀ line, (Text.lines d.logText)[d.scroll]? = some line →
      (rowsOf all)[d.scroll + (rowsAbove dropped).length]? = some line := by
    rw [← rows]
    exact ⟨HoldsStill.row, fun row => ⟨scroll, row⟩⟩
  refine ⟨fed, rows, Text.length_le_rowsAbove dropped, held_iff, ?_⟩
  intro few bare
  have none_dropped : dropped = [] := by
    rw [List.take_eq_nil_iff]
    exact .inl (Nat.sub_eq_zero_of_le few)
  rw [held_iff, none_dropped]
  intro line shown
  obtain ⟨inside, rfl⟩ := List.getElem?_eq_some_iff.mp shown
  exact List.prefix_iff_getElem?.mp (Text.rowsOf_prefix bare _) d.scroll inside

end Runs

/-- Three lines have come, and the log is paused with the second of them at the top. -/
def pausing : List (Step TableSource) :=
  .attachLogs "logs pods/web" none ::
    (feedsOf 1 [.line "first", .line "second", .line "third"] ++ [.act .top, .act .down])

theorem paused_log_held_as_stream_ends :
    ∃ start : Dashboard TableSource (Except Failure TableView),
      start? {} [] .all "kind" "kind" {} = some start ∧
      let d := Step.runTrace TableSource.backend start pausing
      d.stream = some 1 ∧ d.following = false ∧
      HoldsStill d (Step.runTrace TableSource.backend d
        (feedsOf 1 [.line "fourth", .closed (some "exit status: 1\nerror: lost")])) := by
  have opened : start? {} [] .all "kind" "kind" {} =
    some (_ : Dashboard TableSource (Except Failure TableView)) := rfl
  refine ⟨_, opened, ?_⟩
  intro d
  have held : d.stream = some 1 := by decide
  have paused : d.following = false := by decide
  obtain ⟨-, -, -, -, still⟩ := paused_log_held_iff (b := TableSource.backend) opened pausing 1 held
    paused [.line "fourth", .closed (some "exit status: 1\nerror: lost")]
  exact ⟨held, paused, still (by decide) (by decide)⟩

/-- The log is full with the line that came last. The line at the offset is still there, but it was
moved away from it. -/
theorem paused_line_moved_away :
    ∃ start : Dashboard TableSource (Except Failure TableView),
      start? {} [] .all "kind" "kind" {} = some start ∧
      let d := Step.runTrace TableSource.backend start pausing
      let after := Step.runTrace TableSource.backend d
        (feedsOf 1 (List.replicate 4998 (.line "next")))
      d.top.layer = .logs "logs pods/web" ∧ d.stream = some 1 ∧ d.following = false ∧
      d.scroll = 1 ∧ (Text.lines d.logText)[1]? = some "second" ∧
      after.scroll = 1 ∧ "second" ∈ after.logLines ∧
      (Text.lines after.logText)[1]? = some "third" ∧ ¬ HoldsStill d after := by
  have opened : start? {} [] .all "kind" "kind" {} =
    some (_ : Dashboard TableSource (Except Failure TableView)) := rfl
  refine ⟨_, opened, ?_⟩
  intro d after
  have held : d.stream = some 1 := by decide
  have paused : d.following = false := by decide
  have scroll : d.scroll = 1 := by decide
  have lines : d.logLines = ["first", "second", "third"] := by decide
  have shown : (Text.lines d.logText)[1]? = some "second" := by decide
  have tidy : d.streams.Tidy := run_tidy (start_tidy opened) pausing
  have fed : after = d.withLog ("second" :: "third" :: List.replicate 4998 "next") := by
    have all : d.logLines ++ (List.replicate 4998 (.line "next")).map feedLine =
        "first" :: "second" :: "third" :: List.replicate 4998 "next" := by
      rw [lines, List.map_replicate]
      rfl
    have full : ("second" :: "third" :: List.replicate 4998 "next").length = logLimit := by
      rw [List.length_cons, List.length_cons, List.length_replicate]
      rfl
    rw [← rtake_cons_of_length full, ← all]
    exact paused_run tidy (by rw [lines]; decide) held paused _
  have below : List.replicate 4998 "next" ≠ [] := by
    rw [Ne, List.replicate_eq_nil_iff]
    decide
  have replaced : (Text.lines after.logText)[1]? = some "third" := by
    have rows : rowsOf ("second" :: "third" :: List.replicate 4998 "next") =
        rowsAbove ["second", "third"] ++ rowsOf (List.replicate 4998 "next") :=
      Text.rowsOf_append ["second", "third"] below
    rw [fed, withLog_rows, rows, List.getElem?_append_left (by decide)]
    decide
  refine ⟨by decide, held, paused, scroll, shown, ?_, ?_, replaced, ?_⟩
  · rw [fed, withLog_scroll]
    exact scroll
  · rw [fed]
    exact List.mem_cons_self
  · intro still
    have same := still.row "second" (scroll ▸ shown)
    rw [scroll, replaced] at same
    exact absurd same (by decide)

end Dashboard
end ClusterDashboard
