import ClusterDashboard.Proofs.Dashboard.Handling
import ClusterDashboard.Proofs.Dashboard.Upkeep
import ClusterDashboard.Proofs.Kind.Catalog
import ClusterDashboard.Proofs.Navigation.Registry
import ClusterDashboard.Proofs.Page.Refreshes
/-!
# One scope for all pages

A page keeps the scope in which it was made, and a change of the scope makes all pages anew. So every
page that is registered lists the scope that is displayed, and so does every refresh that is begun
once the loops have followed the last change.
-/
namespace ClusterDashboard

theorem TablePage.factory_yields (catalog : Catalog) (scope : Scope) :
    (factory catalog scope).views.Yields fun v => v.page.scope = scope := by
  constructor
  · intro name v hv
    obtain ⟨page, hp, rfl⟩ := Option.map_eq_some_iff.mp hv
    obtain ⟨kind, -, rfl⟩ := Option.map_eq_some_iff.mp hp
    rfl
  · intro position v hv
    exact hv

theorem TablePage.factory_builtin (catalog : Catalog) (scope : Scope) (kind : BuiltinKind) :
    (factory catalog scope).views.make kind.token =
      some { page := { kind := .builtin kind, scope } } := by
  change ((catalog.resolve kind.token).map _).map _ = _
  rw [catalog.resolve_builtin]
  rfl

theorem TablePage.receive_scope (page : TablePage) (outcome : Except Failure TableView) :
    (page.receive outcome).1.scope = page.scope := by
  cases outcome <;> rfl

theorem TableSource.backend_keeps_scope : backend.Keeps TablePage.scope :=
  backend_keeps TablePage.receive_scope

theorem ClusterSource.backend_keeps_scope : backend.Keeps TablePage.scope :=
  backend_keeps TablePage.receive_scope

namespace Session

variable {S P J α : Type} {s t : Session S P J} {reading : P → α} {value : α} {view : ViewId}

/-- Every registered page reads the same. -/
abbrev Reads (reading : P → α) (value : α) (s : Session S P J) : Prop :=
  s.nav.Registered fun v => reading v.page = value

theorem Reads.of_readings (h : s.Reads reading value) (pages : t.nav.pages = s.nav.pages)
    (same : t.readings reading = s.readings reading) : t.Reads reading value :=
  Files.of_readings (R := fun _ read => read = value) h pages same

theorem Reads.page (h : s.Reads reading value) {name : String} (hv : s.nav.page? name = some view) :
    ∃ page, s.page? view = some page ∧ reading page = value :=
  Files.page (R := fun _ read => read = value) h hv

end Session

namespace Dashboard

open Session (Quiescent)

variable {S J : Type} {b : Backend S TablePage J} {d e : Dashboard S J} {step : Step S}

/-- The registered pages have been made in the scope of the dashboard. -/
structure Scoped (d : Dashboard S J) : Prop where
  sound : d.nav.Sound
  root : d.nav.root = d.settings.rootPage.token
  pages : d.session.Reads TablePage.scope d.scope

namespace Scoped

theorem of_same (h : d.Scoped) (session : e.session = d.session) (settings : e.settings = d.settings)
    (scope : e.scope = d.scope) : e.Scoped := by
  refine ⟨?_, ?_, ?_⟩
  · rw [nav, session]
    exact h.sound
  · rw [nav, session, settings]
    exact h.root
  · rw [session, scope]
    exact h.pages

/-- The course of navigation stays the same, and so does what can be read off the pages. -/
theorem of_course (h : d.Scoped) (course : e.nav.course = d.nav.course)
    (same : e.session.readings TablePage.scope = d.session.readings TablePage.scope)
    (settings : e.settings = d.settings) (scope : e.scope = d.scope) : e.Scoped := by
  refine ⟨h.sound.of_course course, ?_, ?_⟩
  · rw [settings]
    exact (congrArg (fun n : Navigator Unit => n.root) course).trans h.root
  · rw [scope]
    exact h.pages.of_readings (congrArg (fun n : Navigator Unit => n.pages) course) same

theorem withNav {α : Type} (h : d.Scoped) (op : Navigator.Operation (View TablePage))
    {act : Navigator (View TablePage) → Navigator (View TablePage) × α}
    (ha : (act d.nav).1 = op.apply d.nav)
    (hy : op.Yields fun v => v.page.scope = d.scope) (hr : op.isReload = false) :
    (d.withNav act).1.Scoped := by
  have hn : (d.withNav act).1.nav = op.apply d.nav := (withNav_nav act d).trans ha
  refine ⟨withNav_sound h.sound op ha, ?_, ?_⟩
  · rw [hn]
    exact (op.apply_root d.nav).trans h.root
  · change Navigator.Registered _ (d.withNav act).1.nav
    rw [hn]
    exact h.pages.apply hy hr

/-- A change of the scope leaves no page of the old one registered. -/
theorem rescope (h : d.Scoped) (scope : Scope) : (d.rescope scope).Scoped := by
  let f := (TablePage.factory d.catalog scope).views
  have hn : (d.rescope scope).nav = d.nav.reload f := withNav_nav _ { d with scope }
  have made : f.make d.nav.root =
      some { page := { kind := .builtin d.settings.rootPage, scope } } := by
    rw [h.root]
    exact TablePage.factory_builtin d.catalog scope d.settings.rootPage
  refine ⟨?_, ?_, ?_⟩
  · rw [hn]
    exact h.sound.reload f
  · rw [hn]
    exact (Navigator.Operation.apply_root d.nav (.reload f)).trans h.root
  · change Navigator.Registered _ (d.rescope scope).nav
    rw [hn]
    exact Navigator.reload_registered (TablePage.factory_yields ..) made

/-- The pages that an operation makes come from the factory of the dashboard. -/
theorem yields {op : Navigator.Operation (View TablePage)}
    (asks : ∀ f, op.factory? = some f → f = d.factory) :
    op.Yields fun v => v.page.scope = d.scope :=
  Navigator.Operation.yields_of_factory fun f asked => asks f asked ▸ TablePage.factory_yields ..

theorem upheld : Upheld (Scoped (S := S) (J := J)) where
  aside h same := h.of_same (congrArg Footing.session same) (congrArg Footing.settings same)
    (congrArg Footing.scope same)
  refreshed h := h.of_course (congrArg Situation.course (triggerRefresh_situation _))
    (Session.trigger_readings ..) rfl rfl
  changed _ h := h.of_course (congrArg Situation.course (onPage_situation _ _))
    (Session.modifyPage_readings fun _ _ => rfl) rfl rfl
  operated op _ ha still asks h := h.withNav op ha (yields asks) still
  rescoped scope h := h.rescope scope

end Scoped

/-- No step changes the scope of a page that has been made. -/
def Step.KeepsScope : Step S → Prop
  | .background event => event.Keeps TablePage.scope
  | _ => True

theorem Scoped.next (h : d.Scoped) (hb : b.Keeps TablePage.scope) (he : step.Enabled d)
    (hk : step.KeepsScope) : (step.next b d).Scoped := by
  cases own : step.isGiven with
  | false => exact Scoped.upheld.next h own
  | true =>
    cases step with
    | background event =>
      exact h.of_course (Session.next_course he.2) (Session.next_readings hb he.2 hk) rfl rfl
    | discover catalog => exact h.of_same rfl rfl rfl
    | _ => cases own

theorem Scoped.along {steps : List (Step S)} (h : d.Scoped) (hb : b.Keeps TablePage.scope)
    (valid : Step.ValidTrace b d steps) (keeps : ∀ step ∈ steps, step.KeepsScope) :
    (Step.runTrace b d steps).Scoped := by
  induction steps generalizing d with
  | nil => exact h
  | cons step steps ih =>
    obtain ⟨hk, hks⟩ := List.forall_mem_cons.mp keeps
    exact ih (h.next hb valid.1 hk) valid.2 hks

/-- The page lists the scope that is displayed. -/
def Lists (d : Dashboard S J) (view : ViewId) : Prop :=
  ∃ page, d.session.page? view = some page ∧ page.scope = d.scope

/-- All registered pages, the page in view and the page that is drawn list that scope. -/
structure Agrees (d : Dashboard S J) : Prop where
  registered : ∀ name view, d.nav.page? name = some view → d.Lists view
  root : d.Lists d.nav.rootView
  current : d.Lists d.nav.currentView
  drawn : d.visiblePage.scope = d.scope

theorem Scoped.agrees (h : d.Scoped) : d.Agrees := by
  have registered : ∀ name view, d.nav.page? name = some view → d.Lists view :=
    fun name view hv => h.pages.page hv
  have current : d.Lists d.nav.currentView := registered _ _ h.sound.currentView_eq
  refine ⟨registered, registered _ _ h.sound.root_registered, current, ?_⟩
  rw [visiblePage]
  cases hv : d.nav.page? d.top.name with
  | none =>
    obtain ⟨page, hp, hs⟩ := current
    dsimp only
    rw [Dashboard.page, hp]
    exact hs
  | some view =>
    obtain ⟨page, hp, hs⟩ := registered _ _ hv
    dsimp only
    rw [hp]
    exact hs

/-- When no task has anything left to do, all notices have been read and a loop serves the page in
view. Once they have been read, and on the page in view at any time, a refresh that is begun lists
the scope that is displayed. -/
structure Confined (b : Backend S TablePage J) (d : Dashboard S J) : Prop where
  settled : Quiescent b d.session → d.nav.notices = [] ∧ ∃ (id : LoopId) (l : Loop J),
    d.session.active = some id ∧ d.session.loops[id]? = some l ∧ l.cancelled = false ∧
      l.view = d.nav.currentView
  begun : ∀ (step : Step S) id view, step.Enabled d → (id, view) ∈ step.begun b d →
    d.nav.notices = [] ∨ view = d.nav.currentView → d.Lists view

theorem Scoped.confined (h : d.Scoped) (attended : Attended d.session)
    (alive : d.session.inUse = true) : Confined b d where
  settled quiet := by
    have supervised := attended.supervised
    obtain ⟨id, l, ha, hl, hc, -, hv⟩ := supervised.attached_of_told alive quiet attended.told
    exact ⟨Session.quiet_notices alive (supervised.following.watching alive) quiet, id, l, ha, hl,
      hc, hv⟩
  begun step id view he hb read := by
    have hv : view = d.nav.currentView := by
      rcases read with read | hv
      · cases step with
        | background event => exact attended.supervised.begun_in_view alive read he.1 hb
        | _ => cases hb
      · exact hv
    rw [hv]
    exact h.agrees.current

section Runs

variable {settings : Settings} {catalog : Catalog} {scope : Scope} {cluster context : String}
  {source : S} {start : Dashboard S J} {steps : List (Step S)}

theorem start_scoped
    (opened : start? settings catalog scope cluster context source = some start) :
    start.Scoped := by
  refine Scoped.upheld.start opened fun n hn => ⟨Navigator.start_sound hn, ?_, ?_⟩
  · obtain ⟨page, -, rfl⟩ := Navigator.start_eq hn
    exact (Navigator.shown_same_pages ..).root
  · exact Navigator.start_registered (TablePage.factory_yields catalog scope) hn

/-- At every moment all pages list the scope that is displayed, whatever was done to the scope and
wherever the run has led; and so does every refresh, but for those that are begun on a page that has
been left before its loop has heard of it. -/
theorem scopes_agree
    (opened : start? settings catalog scope cluster context source = some start)
    (valid : Step.ValidTrace b start steps) (hb : b.Keeps TablePage.scope)
    (keeps : ∀ step ∈ steps, step.KeepsScope) :
    let d := Step.runTrace b start steps
    d.Agrees ∧ ((∀ step ∈ steps, step.isDirect = false) → d.session.inUse = true →
      Confined b d) := by
  intro d
  have h : d.Scoped := (start_scoped opened).along hb valid keeps
  refine ⟨h.agrees, fun driven alive => ?_⟩
  exact h.confined (run_attended opened valid driven) alive

end Runs

/-- A command is typed letter by letter. -/
def typing (letters : List Char) : List (Step TableSource) :=
  .act .startCommand :: letters.map (fun letter => .act (.inputChar letter)) ++
    [.act .submitInput]

/-- The scope changes on another page than the root, the history leads back to a page of the old
scope, and the scope changes once more; at last the new page is refreshed. -/
def wanderingScopes : List (Step TableSource) :=
  [.background (.poll .watcher), .background (.poll (.loop 0)), .act (.goToPage 2)] ++
    typing ['n', 's', ' ', 'a'] ++ [.act .back, .discover [], .act (.goToPage 3)] ++
    typing ['n', 's', ' ', 'b'] ++ [.act .back, .background (.poll .watcher),
      .background (.poll (.loop 0)), .background (.poll (.loop 1)), .background (.poll (.loop 2))]

theorem scopes_agree_after_changes :
    ∃ start : Dashboard TableSource (Except Failure TableView),
      start? {} [] .all "kind" "kind" {} = some start ∧
      let d := Step.runTrace TableSource.backend start wanderingScopes
      d.scope = .named "b" ∧ d.session.source.fetched = [("pods", "all"), ("pods", "b")] ∧
        d.Agrees ∧ Confined TableSource.backend d := by
  have opened : start? {} [] .all "kind" "kind" {} =
    some (_ : Dashboard TableSource (Except Failure TableView)) := rfl
  have keeps : ∀ step ∈ wanderingScopes, step.KeepsScope := by
    simp [wanderingScopes, typing, Step.KeepsScope, Session.Event.Keeps]
  have h := scopes_agree opened (by decide +kernel) TableSource.backend_keeps_scope keeps
  exact ⟨_, opened, by decide +kernel, by decide +kernel, h.1, h.2 (by decide) (by decide +kernel)⟩

end Dashboard
end ClusterDashboard
