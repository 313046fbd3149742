import ClusterDashboard.Proofs.Dashboard.Drafts
import ClusterDashboard.Proofs.Dashboard.Upkeep
import ClusterDashboard.Proofs.Page.Refreshes
import ClusterDashboard.Proofs.Table.Narrowing
/-!
# The rows follow what is typed

While a search is typed, the page in view is filtered by the line so far, less the blanks around it,
through refreshes, failures and messages. Outside of typing no line is left over, and no page is ever
stored with a filter that has blanks around it.
-/
namespace ClusterDashboard

namespace TablePage

theorem factory_unfiltered (catalog : Catalog) (scope : Scope) :
    (factory catalog scope).views.Yields fun v => v.page.view.filter = "" := by
  constructor
  · intro name v hv
    obtain ⟨page, hp, rfl⟩ := Option.map_eq_some_iff.mp hv
    obtain ⟨kind, -, rfl⟩ := Option.map_eq_some_iff.mp hp
    rfl
  · intro position v hv
    exact hv

theorem receive_filter (page : TablePage) (outcome : Except Failure TableView) :
    (page.receive outcome).1.view.filter = page.view.filter := by
  cases outcome <;> rfl

end TablePage

theorem TableSource.backend_keeps_filter : backend.Keeps fun page => page.view.filter :=
  backend_keeps TablePage.receive_filter

theorem ClusterSource.backend_keeps_filter : backend.Keeps fun page => page.view.filter :=
  backend_keeps TablePage.receive_filter

namespace Dashboard

variable {S J : Type} {b : Backend S TablePage J} {d e : Dashboard S J}

theorem page_filter (d : Dashboard S J) :
    d.page.view.filter = (d.filters[d.nav.currentView]?).getD "" := by
  rw [page, Session.page?, filters, Session.readings, List.getElem?_map]
  change _ = ((d.session.nav.views[d.nav.currentView]?.map _).getD "")
  cases d.session.nav.views[d.nav.currentView]? <;> rfl

theorem onPage_page (h : d.nav.Sound) (change : TablePage → TablePage) :
    (d.onPage change).page = change d.page := by
  have there := List.getElem?_eq_getElem h.currentView_made
  have view : (d.onPage change).nav.currentView = d.nav.currentView :=
    congrArg (fun q : Situation => q.course.currentView) (onPage_situation change d)
  have before : d.session.nav.views[d.nav.currentView]? = _ := there
  have after : (d.onPage change).session.nav.views[d.nav.currentView]? =
      (d.session.nav.views[d.nav.currentView]?).map fun v => { v with page := change v.page } :=
    List.getElem?_modify_eq ..
  rw [page, view, Session.page?, after, before, page, Session.page?, before]
  rfl

/-- No filter of a page has blanks around it. -/
structure Clean (d : Dashboard S J) : Prop where
  sound : d.nav.Sound
  filters : ∀ filter ∈ d.filters, Text.Trimmed filter.toList

namespace Clean

theorem page (h : d.Clean) : Text.Trimmed d.page.view.filter.toList := by
  rw [page_filter]
  cases there : d.filters[d.nav.currentView]? with
  | none => exact Text.trimmed_nil
  | some filter => exact h.filters filter (List.mem_of_getElem? there)

theorem of_session (h : d.Clean) (session : e.session = d.session) : e.Clean := by
  refine ⟨?_, ?_⟩
  · rw [nav, session]
    exact h.sound
  · rw [Dashboard.filters, session]
    exact h.filters

/-- New pages have no filter. -/
theorem withNav {α : Type} (h : d.Clean) (op : Navigator.Operation (View TablePage))
    {act : Navigator (View TablePage) → Navigator (View TablePage) × α}
    (ha : (act d.nav).1 = op.apply d.nav) (hy : op.Yields fun v => v.page.view.filter = "") :
    (d.withNav act).1.Clean := by
  refine ⟨withNav_sound h.sound op ha, ?_⟩
  obtain ⟨pages, views, unfiltered⟩ := Navigator.Operation.grows hy d.nav
  have grown : (d.withNav act).1.filters = d.filters ++ pages.map fun v => v.page.view.filter := by
    change (d.withNav act).1.nav.views.map _ = _
    rw [withNav_nav, ha, views, List.map_append]
    rfl
  rw [grown]
  intro filter hm
  rcases List.mem_append.mp hm with old | new
  · exact h.filters filter old
  · obtain ⟨v, hv, rfl⟩ := List.mem_map.mp new
    rw [unfiltered v hv]
    exact Text.trimmed_nil

theorem onPage (h : d.Clean) {change : TableView → TableView} (neat : Neat change) :
    (d.onPage (·.onView change)).Clean := by
  refine ⟨sound_of_situation (onPage_situation _ d) h.sound, ?_⟩
  intro filter hm
  obtain ⟨v, hv, rfl⟩ := List.mem_map.mp hm
  obtain ⟨view, hview⟩ := List.mem_iff_getElem?.mp hv
  have modified : (d.session.nav.views.modify d.nav.currentView fun v =>
      { v with page := v.page.onView change })[view]? = some v := hview
  rw [List.getElem?_modify] at modified
  obtain ⟨old, there, rfl⟩ := Option.map_eq_some_iff.mp modified
  have trimmed : Text.Trimmed old.page.view.filter.toList :=
    h.filters _ (List.mem_map.mpr ⟨old, List.mem_iff_getElem?.mpr ⟨view, there⟩, rfl⟩)
  split
  · exact neat old.page.view trimmed
  · exact trimmed

theorem borne : Borne (Clean (S := S) (J := J)) where
  aside h same := h.of_session (congrArg Footing.session same)
  refreshed {d} h := by
    refine ⟨triggerRefresh_sound h.sound, ?_⟩
    rw [(Unmoved.triggerRefresh d).filters]
    exact h.filters
  operated op _ ha _ asks h := h.withNav op ha <|
    Navigator.Operation.yields_of_factory fun f asked =>
      asks f asked ▸ TablePage.factory_unfiltered ..
  rescoped {d} scope h := by
    have there : Clean { d with scope } := h.of_session rfl
    exact there.withNav (.reload (TablePage.factory d.catalog scope).views) rfl
      (TablePage.factory_unfiltered d.catalog scope)

theorem dispatch (h : d.Clean) (action : Action) : (d.dispatch action).1.Clean :=
  borne.leads (fun _ neat he => he.onPage neat) (Leads.refl.dispatch action) h

end Clean

/-- The table shows what is typed. -/
structure Mirrors (d : Dashboard S J) : Prop where
  search : d.mode = .search → Text.TrimsTo d.input d.page.view.filter
  idle : d.mode = .normal ∨ d.mode = .confirm → d.input = ""
  stored : ∀ filter ∈ d.filters, Text.Trimmed filter.toList

namespace Mirrors

theorem shown (h : d.Mirrors) (search : d.mode = .search) :
    d.page.view.visibleRows = d.page.view.rows.filter (Row.passes d.input) := by
  rw [TableView.visibleRows, (h.search search).eq_trim]
  exact List.filter_congr fun row _ => Row.passes_trim d.input row

theorem of_unmoved (h : d.Mirrors) (k : Unmoved d e) : e.Mirrors := by
  have mode : e.mode = d.mode := congrArg Draft.mode k.draft
  have input : e.input = d.input := congrArg Draft.input k.draft
  have filter : e.page.view.filter = d.page.view.filter := by
    rw [page_filter, page_filter, k.view, k.filters]
  refine ⟨?_, ?_, ?_⟩
  · rw [mode, input, filter]
    exact h.search
  · rw [mode, input]
    exact h.idle
  · rw [k.filters]
    exact h.stored

theorem of_idle (h : d.draft.Idle) (stored : ∀ filter ∈ d.filters, Text.Trimmed filter.toList) :
    d.Mirrors := by
  refine ⟨fun search => ?_, fun _ => h.input, stored⟩
  have typing : d.mode.isTyping = true := by rw [search]; rfl
  cases h.mode.symm.trans typing

theorem idle_of_plain (h : d.Mirrors) (plain : d.mode.isTyping = false) : d.draft.Idle := by
  refine ⟨plain, h.idle ?_⟩
  cases hm : d.mode with
  | normal => exact .inl rfl
  | confirm => exact .inr rfl
  | search | command =>
    rw [hm] at plain
    cases plain

/-- A search begins with the filter that the page has. -/
theorem dispatch_plain (h : d.Mirrors) (hs : d.nav.Sound) {action : Action}
    (plain : action.isTyping = false) (mode : d.mode.isTyping = false) :
    (d.dispatch action).1.Mirrors := by
  have clean : Clean d := ⟨hs, h.stored⟩
  have stored := (clean.dispatch action).filters
  by_cases search : action = .startSearch
  · subst search
    refine ⟨fun _ => ?_, ?_, stored⟩
    · exact Text.trimsTo_iff.mpr (Text.trim_of_trimmed clean.page).symm
    · rintro (normal | confirm)
      · cases normal
      · cases confirm
  by_cases command : action = .startCommand
  · subst command
    refine ⟨nofun, ?_, stored⟩
    exact fun _ => rfl
  exact of_idle (dispatch_idle (h.idle_of_plain mode) plain search command) stored

/-- Wherever a line is typed, the page in view is filtered by a line for a search. -/
theorem applyFilter (hs : d.nav.Sound) (typing : d.mode.isTyping = true)
    (stored : ∀ filter ∈ d.applyFilter.filters, Text.Trimmed filter.toList) :
    d.applyFilter.Mirrors := by
  cases hm : d.mode with
  | normal | confirm =>
    rw [hm] at typing
    cases typing
  | search =>
    have filtered : d.applyFilter = d.onPage (·.setFilter d.input) := if_pos hm
    rw [filtered] at stored ⊢
    refine ⟨fun _ => ?_, ?_, stored⟩
    · rw [onPage_page hs]
      exact Text.trimsTo_trim d.input
    · rintro (normal | confirm)
      · cases hm.symm.trans normal
      · cases hm.symm.trans confirm
  | command =>
    have same : d.applyFilter = d := if_neg (by rw [hm]; nofun)
    rw [same] at stored ⊢
    refine ⟨fun search => ?_, ?_, stored⟩
    · cases hm.symm.trans search
    · rintro (normal | confirm)
      · cases hm.symm.trans normal
      · cases hm.symm.trans confirm

theorem dispatch_typing (h : d.Mirrors) (hs : d.nav.Sound) {action : Action}
    (typing : action.isTyping = true) (mode : d.mode.isTyping = true) :
    (d.dispatch action).1.Mirrors := by
  have clean : Clean d := ⟨hs, h.stored⟩
  have stored := (clean.dispatch action).filters
  cases action with
  | inputChar c =>
    have typed : (nav { d with input := d.input.push c }).Sound := hs
    exact applyFilter typed mode stored
  | backspace =>
    have typed : (nav { d with input := String.ofList d.input.toList.dropLast }).Sound := hs
    exact applyFilter typed mode stored
  | cancelInput => exact of_idle (cancelInput_idle d) stored
  | submitInput => exact of_idle (submitInput_idle d) stored
  | _ => cases typing

theorem press (h : d.Mirrors) (hs : d.nav.Sound) (key : Key) : (d.press key).1.Mirrors := by
  rw [Dashboard.press]
  split
  · next action meant =>
    have agrees := Key.action?_typing meant
    have done : (d.dispatch action).1.Mirrors := by
      cases typing : action.isTyping with
      | true => exact h.dispatch_typing hs typing (agrees ▸ typing)
      | false => exact h.dispatch_plain hs typing (agrees ▸ typing)
    exact done.of_unmoved (Unmoved.refl _).syncStream
  · exact h

end Mirrors

/-- Nobody but the user changes the filter of a page. -/
def Event.KeepsFilter : Event S → Prop
  | .background event => event.Keeps fun page => page.view.filter
  | _ => True

namespace Desk

variable {s : Desk S J} {event : Event S}

theorem mirrors_next (h : s.board.Mirrors) (hs : s.board.nav.Sound)
    (hb : b.Keeps fun page => page.view.filter) (he : Enabled s event) (hk : event.KeepsFilter) :
    (next b s event).board.Mirrors := by
  cases event with
  | press key => exact h.press hs key
  | perform program editors => exact h.of_unmoved (.perform hs program editors s.due)
  | refreshEvent event => exact h.of_unmoved (.onRefreshEvent hs event)
  | uiEvent event => exact h.of_unmoved (.onUiEvent hs event)
  | message text kind => exact h.of_unmoved (.showStatus hs text kind)
  | tick => exact h.of_unmoved (.tick s.board)
  | background event => exact h.of_unmoved (.background hb he.2 hk)
  | clampScroll height =>
    rw [next, onBoard, clampScroll_eq]
    exact h.of_unmoved (.of_session rfl rfl)
  | child | runFollowers | runTimers | wait | emptyQueue | discover | identify =>
    exact h.of_unmoved (.of_session rfl rfl)

theorem mirrors_along {events : List (Event S)} (h : s.board.Mirrors) (hs : s.board.nav.Sound)
    (hb : b.Keeps fun page => page.view.filter) (valid : ValidTrace b s events)
    (keeps : ∀ event ∈ events, event.KeepsFilter) : (runTrace b s events).board.Mirrors := by
  induction events generalizing s with
  | nil => exact h
  | cons event events ih =>
    obtain ⟨hk, hks⟩ := List.forall_mem_cons.mp keeps
    have sound : (next b s event).board.nav.Sound := (next_steps valid.1 hs).sound hs
    exact ih (mirrors_next h hs hb valid.1 hk) sound valid.2 hks

end Desk

section Runs

variable {settings : Settings} {catalog : Catalog} {scope : Scope} {cluster context : String}
  {source : S} {start : Dashboard S J} {events : List (Event S)}

theorem start_clean
    (opened : start? settings catalog scope cluster context source = some start) : start.Clean := by
  refine Clean.borne.start opened fun n hn => ⟨Navigator.start_sound hn, fun filter hm => ?_⟩
  obtain ⟨v, made, rfl⟩ := Navigator.start_eq hn
  have same := Navigator.shown_same_stock (Navigator.opening settings.rootPage.token v)
    settings.rootPage.token .table
  rw [Dashboard.filters, Session.readings, same.views] at hm
  have unfiltered : v.page.view.filter = "" :=
    (TablePage.factory_unfiltered catalog scope).1 _ v made
  rw [(List.mem_singleton.mp hm).trans unfiltered]
  exact Text.trimmed_nil

theorem start_mirrors
    (opened : start? settings catalog scope cluster context source = some start) :
    start.Mirrors := by
  have clean := start_clean opened
  obtain ⟨session, -, rfl⟩ := Option.map_eq_some_iff.mp opened
  exact .of_idle ⟨rfl, rfl⟩ clean.filters

/-- While a search is typed the table shows what the line says, whatever comes up meanwhile; outside
of typing no line is left over, and no page is stored with a filter that has blanks around it. -/
theorem search_shows_what_is_typed
    (opened : start? settings catalog scope cluster context source = some start)
    (valid : Desk.ValidTrace b ⟨start, .none⟩ events)
    (hb : b.Keeps fun page => page.view.filter) (keeps : ∀ event ∈ events, event.KeepsFilter) :
    let d := (Desk.runTrace b ⟨start, .none⟩ events).board
    d.Mirrors ∧ (d.mode = .search →
      d.page.view.visibleRows = d.page.view.rows.filter (Row.passes d.input)) := by
  intro d
  have h : d.Mirrors :=
    Desk.mirrors_along (start_mirrors opened) (start_clean opened).sound hb valid keeps
  exact ⟨h, h.shown⟩

end Runs

def typed (letters : List Char) : List (Event TableSource) :=
  letters.map fun letter => .press { code := .char letter }

/-- A search that is open while rows arrive, a refresh fails and a message comes and goes; it is
submitted, and opened again with the filter that it left. -/
def reopenedSearch : List (Event TableSource) :=
  typed ['/', ' ', 'p'] ++ [.background (.poll .watcher), .background (.poll (.loop 0))] ++
    typed ['o', 'D'] ++ [.refreshEvent (.failed "pods" "timed out"),
      .message "Refreshing Pods" .progress, .uiEvent (.statusExpired 2)] ++
    typed ['s', '-', ' '] ++ [.press { code := .enter }] ++ typed ['/', '3', ' ']

theorem search_shows_what_is_typed_when_reopened :
    ∃ start : Dashboard TableSource (Except Failure TableView),
      start? {} [] .all "kind" "kind" {} = some start ∧
      let d := (Desk.runTrace TableSource.backend ⟨start, .none⟩ reopenedSearch).board
      d.mode = .search ∧ d.input = "poDs-3 " ∧ d.page.view.filter = "poDs-3" ∧
        d.page.view.visibleRows.map (·.name) = ["pods-3"] ∧ d.Mirrors := by
  have opened : start? {} [] .all "kind" "kind" {} =
    some (_ : Dashboard TableSource (Except Failure TableView)) := rfl
  have keeps : ∀ event ∈ reopenedSearch, event.KeepsFilter := by
    simp [reopenedSearch, typed, Event.KeepsFilter, Session.Event.Keeps]
  have h := search_shows_what_is_typed opened (by decide) TableSource.backend_keeps_filter keeps
  exact ⟨_, opened, by decide +kernel, by decide +kernel, by decide +kernel, by decide +kernel, h.1⟩

end Dashboard
end ClusterDashboard
