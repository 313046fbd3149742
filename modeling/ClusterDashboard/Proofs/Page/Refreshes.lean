import ClusterDashboard.Api.Listing
import ClusterDashboard.Proofs.Refresh.Readings
import ClusterDashboard.Proofs.Text.Trimming
/-!
# What a page keeps over its refreshes

The listing of a page is that of the last fetch that succeeded, and its filter the last text that was
typed, whatever came in between. A fetch that fails touches nothing; one that succeeds moves the
highlight only as far as the rows run short.
-/
namespace ClusterDashboard

section Backends

variable {α : Type} {reading : TablePage → α}

/-- What the outcome of a fetch leaves as it is, every refresh leaves as it is. -/
theorem TableSource.backend_keeps
    (h : ∀ page outcome, reading (page.receive outcome).1 = reading page) :
    backend.Keeps reading where
  start source id view page := by
    dsimp only [backend]
    split <;> rfl
  complete page outcome := h page outcome

theorem ClusterSource.backend_keeps
    (h : ∀ page outcome, reading (page.receive outcome).1 = reading page) :
    backend.Keeps reading where
  start _ _ _ _ := rfl
  complete page outcome := h page outcome

end Backends

namespace TablePage

/-- What can happen to a page: the outcome of a refresh, or what the user does with it. -/
inductive Event where
  | refresh (outcome : Except Failure TableView)
  | moveSelection (delta : Int)
  | moveColumn (delta : Int)
  | selectFirst
  | selectLast
  | setFilter (text : String)
  | restore (position : Position)

variable {page : TablePage} {event : Event} {events : List Event}

def next (page : TablePage) : Event → TablePage
  | .refresh outcome => (page.receive outcome).1
  | .moveSelection delta => page.onView (·.moveSelection delta)
  | .moveColumn delta => page.onView (·.moveColumn delta)
  | .selectFirst => page.onView (·.selectFirst)
  | .selectLast => page.onView (·.selectLast)
  | .setFilter text => page.setFilter text
  | .restore position => page.restore position

/-- The table that a refresh has brought. -/
def Event.fetched? : Event → Option TableView
  | refresh (.ok fresh) => some fresh
  | _ => none

/-- The text that a filter was set to. -/
def Event.typed? : Event → Option String
  | setFilter text => some text
  | _ => none

/-- The event is a refresh that failed. -/
def Event.failed : Event → Bool
  | refresh (.error _) => true
  | _ => false

/-- The part of a table that comes from a fetch. -/
structure Listing where
  headers : List String := []
  rows : List Row := []
  stamp : Option TimeOfDay := none
  deriving DecidableEq, Repr

def listing (view : TableView) : Listing := ⟨view.headers, view.rows, view.stamp⟩

theorem next_listing (page : TablePage) (event : Event) :
    listing (page.next event).view = (event.fetched?.map listing).getD (listing page.view) := by
  cases event with
  | refresh outcome => cases outcome <;> rfl
  | _ => rfl

theorem next_filter (page : TablePage) (event : Event) :
    (page.next event).view.filter = (event.typed?.map Text.trim).getD page.view.filter := by
  cases event with
  | refresh outcome => cases outcome <;> rfl
  | _ => rfl

/-- What a page shows when the events have passed over it. -/
structure Shows (events : List Event) (page : TablePage) : Prop where
  unfetched : events.filterMap Event.fetched? = [] → listing page.view = {}
  fetched : ∀ fresh, (events.filterMap Event.fetched?).getLast? = some fresh →
    listing page.view = listing fresh
  unfiltered : events.filterMap Event.typed? = [] → page.view.filter = ""
  filtered : ∀ text, (events.filterMap Event.typed?).getLast? = some text →
    Text.TrimsTo text page.view.filter

theorem run_listing (page : TablePage) (events : List Event) :
    listing (Trace.run next page events).view =
      ((events.filterMap Event.fetched?).getLast?.map listing).getD (listing page.view) := by
  rw [← List.getLast?_map, List.map_filterMap]
  exact Trace.reading_run (fun page : TablePage => listing page.view) next_listing events

theorem run_filter (page : TablePage) (events : List Event) :
    (Trace.run next page events).view.filter =
      ((events.filterMap Event.typed?).getLast?.map Text.trim).getD page.view.filter := by
  rw [← List.getLast?_map, List.map_filterMap]
  exact Trace.reading_run (fun page : TablePage => page.view.filter) next_filter events

theorem shows_run (kind : PageKind) (scope : Scope) (events : List Event) :
    Shows events (Trace.run next { kind, scope } events) where
  unfetched none := by
    rw [run_listing, none]
    rfl
  fetched fresh last := by
    rw [run_listing, last]
    rfl
  unfiltered none := by
    rw [run_filter, none]
    rfl
  filtered text last := by
    rw [run_filter, last]
    exact Text.trimsTo_trim text

theorem next_of_failed (h : event.failed = true) : page.next event = page := by
  cases event with
  | refresh outcome =>
    cases outcome with
    | ok fresh => cases h
    | error failure => rfl
  | _ => cases h

/-- The refreshes that fail leave no trace. -/
theorem run_without_failed (page : TablePage) (events : List Event) :
    Trace.run next page (events.filter fun event => !event.failed) =
      Trace.run next page events := by
  induction events generalizing page with
  | nil => rfl
  | cons event events ih =>
    cases failed : event.failed with
    | true =>
      rw [List.filter_cons_of_neg (by simp [failed]), Trace.run, next_of_failed failed, ih]
    | false =>
      rw [List.filter_cons_of_pos (by simp [failed])]
      exact ih (page.next event)

/-- What a refresh leaves of the page that it comes to. -/
structure Withstands (page : TablePage) : Prop where
  failed : ∀ failure, page.receive (.error failure) =
    (page, some (failure.during ("failed to refresh " ++ page.kind.title)))
  succeeded : ∀ fresh, (page.receive (.ok fresh)).2 = none
  selected : ∀ fresh, (page.receive (.ok fresh)).1.view.selected =
    min page.view.selected ((fresh.rows.filter (Row.passes page.view.filter)).length - 1)
  column : ∀ fresh, (page.receive (.ok fresh)).1.view.column = page.view.column
  filter : ∀ fresh, (page.receive (.ok fresh)).1.view.filter = page.view.filter
  kind : ∀ fresh, (page.receive (.ok fresh)).1.kind = page.kind
  scope : ∀ fresh, (page.receive (.ok fresh)).1.scope = page.scope

theorem withstands (page : TablePage) : page.Withstands where
  failed _ := rfl
  succeeded _ := rfl
  selected _ := rfl
  column _ := rfl
  filter _ := rfl
  kind _ := rfl
  scope _ := rfl

theorem stale_rows_stay (kind : PageKind) (scope : Scope) (events : List Event) :
    let page := Trace.run next { kind, scope } events
    Shows events page ∧ page.Withstands ∧
      Trace.run next { kind, scope } (events.filter fun event => !event.failed) = page :=
  ⟨shows_run kind scope events, withstands _, run_without_failed _ events⟩

/-- The fetched filter is dropped, the highlight comes back to the last row that passes the page's own,
and the failure after it changes nothing. -/
example :
    let row (name : String) : Row := ⟨name, none, [name]⟩
    let view := (Trace.run next { kind := .builtin .pods, scope := .all }
      [.setFilter " a ", .restore ⟨7, 0⟩,
        .refresh (.ok { rows := [row "a", row "b", row "ba"], filter := "b" }),
        .refresh (.error [.apiCall])]).view
    view.filter = "a" ∧ view.selected = 1 ∧ view.rows.map (·.name) = ["a", "b", "ba"] := by
  decide +kernel

end TablePage
end ClusterDashboard
