import ClusterDashboard.Proofs.Dashboard.Scopes
import ClusterDashboard.Proofs.Dashboard.Upkeep
import ClusterDashboard.Proofs.Kind.Catalog
import ClusterDashboard.Proofs.Page.Refreshes
/-!
# One name for each page

A page can be made for the tokens of the kinds that are known and for nothing else, and it goes by
the name that it was made for. So other spellings make no second page of a built-in kind, and
whatever is kept under a page's name is found where the page is registered.
-/
namespace ClusterDashboard

namespace TablePage

variable {catalog : Catalog} {page : TablePage} {name : String}

theorem factory_make {scope : Scope} (h : (factory catalog scope).make name = some page) :
    catalog.resolve name = some page.kind := by
  obtain ⟨kind, resolved, rfl⟩ := Option.map_eq_some_iff.mp h
  exact resolved

theorem factory_files (found : catalog.Found) (scope : Scope) :
    (factory catalog scope).views.Files fun name v => v.page.kind.GoesBy name := by
  constructor
  · intro name v made
    obtain ⟨page, hp, rfl⟩ := Option.map_eq_some_iff.mp made
    exact found.resolve_goesBy (factory_make hp)
  · intro name position v goes
    exact goes

theorem receive_kind (page : TablePage) (outcome : Except Failure TableView) :
    (page.receive outcome).1.kind = page.kind := by
  cases outcome <;> rfl

/-- The pages that can be made when the kinds are known: one for each of their names, none for any
other spelling. -/
structure Canonical (make : String → Option TablePage) (kinds : List DiscoveredKind) : Prop where
  known : ∀ name, (∃ page, make name = some page) ↔
    (∃ builtin : BuiltinKind, name = builtin.token) ∨ name = PageKind.apiResourcesToken ∨
      ∃ kind ∈ kinds, kind.token = name
  named : ∀ name page, make name = some page → page.name = name
  apart : ∀ name other page twin, make name = some page → make other = some twin → name ≠ other →
    page.kind ≠ twin.kind
  spelled : ∀ word builtin page, BuiltinKind.ofWord? word = some builtin → word ≠ builtin.token →
    make word = some page → page.kind.builtin? = none

theorem factory_canonical (kinds : List DiscoveredKind) (scope : Scope) :
    Canonical (factory (.ofKinds kinds) scope).make kinds := by
  have found : Catalog.Found (.ofKinds kinds) := ⟨kinds, rfl⟩
  have goes : ∀ {name page}, (factory (.ofKinds kinds) scope).make name = some page →
      page.kind.GoesBy name := fun made => found.resolve_goesBy (factory_make made)
  refine ⟨fun name => ?_, fun name page made => (goes made).token, ?_, ?_⟩
  · rw [← Catalog.exists_resolve_ofKinds_iff]
    constructor
    · rintro ⟨page, made⟩
      exact ⟨page.kind, factory_make made⟩
    · rintro ⟨kind, resolved⟩
      exact ⟨{ kind, scope }, Option.map_eq_some_iff.mpr ⟨kind, resolved, rfl⟩⟩
  · intro name other page twin made paired different same
    exact different ((goes made).token.symm.trans ((congrArg _ same).trans (goes paired).token))
  · intro word builtin page meant other made
    cases listed : page.kind with
    | builtin kind =>
      have token : kind.token = word :=
        (congrArg PageKind.token listed).symm.trans (goes made).token
      subst token
      have exactly := Catalog.exactBuiltin?_eq_some_iff.mpr (rfl : kind.token = kind.token)
      rw [Catalog.exactBuiltin?, meant, Option.filter_some] at exactly
      split at exactly
      · exact absurd (congrArg BuiltinKind.token (Option.some.inj exactly).symm) other
      · cases exactly
    | apiResources | discovered => rfl

end TablePage

theorem TableSource.backend_keeps_kind : backend.Keeps TablePage.kind :=
  backend_keeps TablePage.receive_kind

theorem ClusterSource.backend_keeps_kind : backend.Keeps TablePage.kind :=
  backend_keeps TablePage.receive_kind

namespace Dashboard

variable {S J : Type} {b : Backend S TablePage J} {d e : Dashboard S J} {step : Step S}

/-- Pages are registered under their own names, and those to come will be. -/
structure Named (d : Dashboard S J) : Prop where
  sound : d.nav.Sound
  found : d.catalog.Found
  pages : d.session.Files TablePage.kind fun name kind => kind.GoesBy name

namespace Named

/-- The course of navigation stays the same, and no page lists anything else than before. -/
theorem of_course (h : d.Named) (course : e.nav.course = d.nav.course)
    (same : e.session.readings TablePage.kind = d.session.readings TablePage.kind)
    (found : e.catalog.Found) : e.Named :=
  ⟨h.sound.of_course course, found,
    h.pages.of_readings (congrArg (fun n : Navigator Unit => n.pages) course) same⟩

theorem withNav {α : Type} (h : d.Named) (op : Navigator.Operation (View TablePage))
    {act : Navigator (View TablePage) → Navigator (View TablePage) × α}
    (ha : (act d.nav).1 = op.apply d.nav)
    (asks : ∀ f, op.factory? = some f → f.Files fun name v => v.page.kind.GoesBy name) :
    (d.withNav act).1.Named := by
  refine ⟨withNav_sound h.sound op ha, h.found, ?_⟩
  have hn : (d.withNav act).1.session.nav = op.apply d.nav := (withNav_nav act d).trans ha
  rw [Session.Files, hn]
  exact h.pages.apply h.sound.toGrounded asks

theorem upheld : Upheld (Named (S := S) (J := J)) where
  aside {d e} h same := by
    have session : e.session = d.session := congrArg Footing.session same
    have catalog : e.catalog = d.catalog := congrArg Footing.catalog same
    refine ⟨?_, catalog ▸ h.found, session ▸ h.pages⟩
    rw [nav, session]
    exact h.sound
  refreshed h := h.of_course (congrArg Situation.course (triggerRefresh_situation _))
    (Session.trigger_readings ..) h.found
  changed _ h := h.of_course (congrArg Situation.course (onPage_situation _ _))
    (Session.modifyPage_readings fun _ _ => rfl) h.found
  operated {d} _ op _ ha _ asks h := h.withNav op ha fun f hf => by
    rw [asks f hf]
    exact TablePage.factory_files h.found d.scope
  rescoped {d} scope h := by
    have hd : Named { d with scope } := ⟨h.sound, h.found, h.pages⟩
    refine hd.withNav (.reload (TablePage.factory d.catalog scope).views) rfl fun f hf => ?_
    rw [← Option.some.inj hf]
    exact TablePage.factory_files h.found scope

end Named

/-- No step makes a page list anything else, and discovery tells what it found. -/
def Step.KeepsNames : Step S → Prop
  | .background event => event.Keeps TablePage.kind
  | .discover catalog => catalog.Found
  | _ => True

theorem Named.next (h : d.Named) (hb : b.Keeps TablePage.kind) (he : step.Enabled d)
    (hk : step.KeepsNames) : (step.next b d).Named := by
  cases own : step.isGiven with
  | false => exact Named.upheld.next h own
  | true =>
    cases step with
    | background event =>
      exact h.of_course (Session.next_course he.2) (Session.next_readings hb he.2 hk) h.found
    | discover catalog => exact ⟨h.sound, hk, h.pages⟩
    | _ => cases own

theorem Named.along {steps : List (Step S)} (h : d.Named) (hb : b.Keeps TablePage.kind)
    (valid : Step.ValidTrace b d steps) (keeps : ∀ step ∈ steps, step.KeepsNames) :
    (Step.runTrace b d steps).Named := by
  induction steps generalizing d with
  | nil => exact h
  | cons step steps ih =>
    obtain ⟨hk, hks⟩ := List.forall_mem_cons.mp keeps
    exact ih (h.next hb valid.1 hk) valid.2 hks

/-- Whatever is kept about a page is kept under the name it is registered under: the page itself,
the position it is left at, and the request that a watched object makes. -/
structure WellNamed (d : Dashboard S J) : Prop where
  registered : ∀ name view, d.nav.page? name = some view →
    ∃ page, d.session.page? view = some page ∧ page.name = name ∧
      ∀ builtin, page.kind = .builtin builtin ↔ name = builtin.token
  current : d.page.name = d.currentName
  remembered : ∀ change, (d.moveOnPage change).nav.positions.get? d.currentName =
    some (d.moveOnPage change).page.position
  notified : ∀ builtin name view page, d.nav.page? name = some view →
    d.session.page? view = some page → page.kind = .builtin builtin →
    d.notifyKind builtin = { d with session := (d.session.trigger view).1 }
  unnoticed : ∀ builtin, (∀ name view page, d.nav.page? name = some view →
    d.session.page? view = some page → page.kind ≠ .builtin builtin) → d.notifyKind builtin = d

namespace Named

theorem registered (h : d.Named) {name : String} {view : ViewId}
    (hv : d.nav.page? name = some view) :
    ∃ page, d.session.page? view = some page ∧ page.kind.GoesBy name := h.pages.page hv

/-- A built-in kind is listed under its own token only. -/
theorem builtin_iff {page : TablePage} {name : String} (goes : page.kind.GoesBy name)
    (builtin : BuiltinKind) : page.kind = .builtin builtin ↔ name = builtin.token := by
  constructor
  · intro listed
    exact goes.token.symm.trans (congrArg PageKind.token listed)
  · intro same
    exact goes.builtin builtin same.symm

theorem page_name (h : d.Named) : d.page.name = d.currentName := by
  obtain ⟨page, there, goes⟩ := h.registered h.sound.currentView_eq
  rw [Dashboard.page, there]
  exact goes.token

/-- What is remembered of a page is remembered under its name. -/
theorem remembered (h : d.Named) (change : TableView → TableView) :
    (d.moveOnPage change).nav.positions.get? d.currentName =
      some (d.moveOnPage change).page.position := by
  let moved := d.onPage (·.onView change)
  have current : moved.currentName = d.currentName :=
    congrArg (fun q : Situation => q.course.current) (onPage_situation (·.onView change) d)
  have name : moved.page.name = d.currentName :=
    (Named.upheld.changed change h).page_name.trans current
  have recorded : (d.moveOnPage change).nav =
      moved.nav.recordPosition moved.page.name moved.page.position := withNav_nav _ moved
  have same : (d.moveOnPage change).page = moved.page := by
    have session : (d.moveOnPage change).session.nav = _ := recorded
    rw [Dashboard.page, Session.page?, session, recorded]
    rfl
  rw [recorded, same, name]
  exact Keyed.get?_put_self ..

theorem wellNamed (h : d.Named) : d.WellNamed where
  registered name view hv := by
    obtain ⟨page, there, goes⟩ := h.registered hv
    exact ⟨page, there, goes.token, builtin_iff goes⟩
  current := h.page_name
  remembered := h.remembered
  notified builtin name view page hv there listed := by
    obtain ⟨found, same, goes⟩ := h.registered hv
    obtain rfl : page = found := Option.some.inj (there.symm.trans same)
    rw [(builtin_iff goes builtin).mp listed] at hv
    rw [notifyKind, hv]
  unnoticed builtin unlisted := by
    cases hv : d.nav.page? builtin.token with
    | none => rw [notifyKind, hv]
    | some view =>
      obtain ⟨page, there, goes⟩ := h.registered hv
      exact absurd ((builtin_iff goes builtin).mpr rfl) (unlisted _ _ _ hv there)

end Named

section Runs

variable {settings : Settings} {catalog : Catalog} {scope : Scope} {cluster context : String}
  {source : S} {start : Dashboard S J}

theorem start_named (found : catalog.Found)
    (opened : start? settings catalog scope cluster context source = some start) :
    start.Named :=
  Named.upheld.start opened fun _ hn => ⟨Navigator.start_sound hn, found,
    Navigator.start_filed (TablePage.factory_files found scope) hn⟩

end Runs

/-- Whatever discovery has found, run after run, a page is made for a name exactly when the name is
the token of a built-in kind, of the discovery listing, or of a kind that the last run found; it
goes by that name, and no two names make pages of one kind. And in every run of the dashboard
whatever is kept about a page is kept under that name. -/
theorem page_names_canonical (b : Backend S TablePage J) (hb : b.Keeps TablePage.kind)
    (runs : List (List DiscoveredKind)) (scope : Scope) :
    TablePage.Canonical (TablePage.factory (.afterRuns runs) scope).make (runs.getLast?.getD []) ∧
    ∀ {settings : Settings} {cluster context : String} {source : S} {start : Dashboard S J}
      {steps : List (Step S)},
      start? settings (.afterRuns runs) scope cluster context source = some start →
      Step.ValidTrace b start steps → (∀ step ∈ steps, step.KeepsNames) →
      (Step.runTrace b start steps).WellNamed := by
  constructor
  · rw [Catalog.afterRuns_eq]
    exact TablePage.factory_canonical _ scope
  · intro settings cluster context source start steps opened valid keeps
    have named : start.Named := start_named (Catalog.afterRuns_found runs) opened
    exact (named.along hb valid keeps).wellNamed

def gadgets (version : String) : DiscoveredKind := ⟨"io", version, "Gadget", "gadgets", true⟩

/-- Its token is an alias of a built-in kind. -/
def postboxes : DiscoveredKind := ⟨"", "v1", "Postbox", "po", true⟩

/-- Only the last of these is known afterwards. -/
def discoveries : List (List DiscoveredKind) :=
  [[⟨"io", "v1", "Widget", "widgets", true⟩],
    [gadgets "v1", ⟨"", "v1", "Pod", "pods", true⟩, postboxes, gadgets "v2"]]

/-- A built-in kind is asked for by other spellings, a discovered kind is visited, and it is no
longer known when all pages are made anew. -/
def roaming : List (Step TableSource) :=
  typing ['P', 'O', 'D'] ++ [.act (.goToPage 2), .act .down] ++
    typing ['g', 'a', 'd', 'g', 'e', 't', 's', '.', 'i', 'o'] ++
    [.act .back, .discover (.ofKinds [postboxes])] ++ typing ['n', 's', ' ', 'a']

theorem page_names_canonical_when_spelled_otherwise :
    let make := (TablePage.factory (.afterRuns discoveries) .all).make
    ((make "po").map (·.kind), (make "gadgets.io").map (·.kind), (make "widgets.io").map (·.kind),
        (make "Pods").map (·.kind), (make "pods").map (·.kind)) =
      (some (.discovered postboxes), some (.discovered (gadgets "v2")), none, none,
        some (.builtin .pods)) ∧
    TablePage.Canonical make
      [gadgets "v1", ⟨"", "v1", "Pod", "pods", true⟩, postboxes, gadgets "v2"] ∧
    ∃ start : Dashboard TableSource (Except Failure TableView),
      start? {} (.afterRuns discoveries) .all "kind" "kind" {} = some start ∧
      let d := Step.runTrace TableSource.backend start roaming
      d.nav.history.tracks = [.table "deployments", .table "pods"] ∧
        d.nav.pages.keys = ["deployments", "pods"] ∧
        d.WellNamed := by
  have opened : start? {} (.afterRuns discoveries) .all "kind" "kind" {} =
    some (_ : Dashboard TableSource (Except Failure TableView)) := rfl
  have keeps : ∀ step ∈ roaming, step.KeepsNames := by
    simp [roaming, typing, Step.KeepsNames, Catalog.Found]
  obtain ⟨canonical, wellNamed⟩ := page_names_canonical TableSource.backend
    TableSource.backend_keeps_kind discoveries .all
  exact ⟨by decide +kernel, canonical, _, opened, by decide +kernel, by decide +kernel,
    wellNamed opened (by decide +kernel) keeps⟩

end Dashboard
end ClusterDashboard
