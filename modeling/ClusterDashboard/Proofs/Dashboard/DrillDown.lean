import ClusterDashboard.Api.Listing
import ClusterDashboard.Proofs.Api.Listings
import ClusterDashboard.Proofs.Dashboard.Interludes
import ClusterDashboard.Proofs.Dashboard.Upkeep
import ClusterDashboard.Proofs.Dashboard.WayBack
import ClusterDashboard.Proofs.Kind.Catalog
/-!
# From a discovered kind to its page

Every row of the discovery listing stands for one kind that was found, and while what was found is
known, opening the row leads to a new page of just that kind, or of the built-in kind of the same
resource.
-/
namespace ClusterDashboard

namespace Listing

variable {kinds : List DiscoveredKind} {server : ApiServer}

/-- A discovery run that comes to its end is listed, one row for each kind, and replaces what was
known. -/
theorem fetch_apiResources (found : (Discovery.run.run.run server).1 = .ok kinds) (scope : Scope)
    (now : Instant) (stamp : TimeOfDay) (catalog : Catalog) :
    fetch .apiResources scope now stamp catalog server = ((Discovery.run.run.run server).2,
      .ofKinds kinds, .ok (table .apiResources stamp (kinds.map Row.ofKind))) := by
  have returned : (PageKind.apiResources.objects scope).run.run server =
      (.ok kinds, (Discovery.run.run.run server).2) := Prod.ext found rfl
  exact fetch_returned returned now stamp catalog

theorem table_rows_perm (kind : PageKind) (stamp : TimeOfDay) (rows : List Row) :
    (table kind stamp rows).rows.Perm rows :=
  List.mergeSort_perm rows Row.before

end Listing

/-- The row stands for the kind: its name is known, and it leads to the name of a page that lists
the built-in kind of the same resource, or else this very kind. -/
structure Row.StandsFor (catalog : Catalog) (kind : DiscoveredKind) (row : Row) : Prop where
  shown : row = ofKind kind
  known : catalog.get? row.name = some kind
  named : catalog.pageName? row.name = some kind.listed.token
  listed : catalog.resolve kind.listed.token = some kind.listed
  builtin : ∀ builtin : BuiltinKind, builtin.token = kind.plural → builtin.group = kind.group →
    kind.listed = .builtin builtin
  other : (∀ builtin : BuiltinKind, builtin.token = kind.plural → builtin.group ≠ kind.group) →
    kind.listed = .discovered kind

theorem Row.ofKind_standsFor {kinds : List DiscoveredKind} {kind : DiscoveredKind}
    (distinct : (kinds.map DiscoveredKind.token).Nodup) (there : kind ∈ kinds)
    (unclaimed : kind.Unclaimed) : (ofKind kind).StandsFor (.ofKinds kinds) kind := by
  have known := Catalog.get?_ofKinds_of_nodup distinct there
  refine ⟨rfl, known, ?_, Catalog.resolve_listed distinct there unclaimed,
    fun _ => DiscoveredKind.listed_of_builtin, DiscoveredKind.listed_of_other⟩
  rw [Catalog.pageName?_eq]
  exact congrArg _ known

/-- A new page comes into view, above all that was there. -/
structure Navigator.Arrives {P : Type} (n m : Navigator P) (name : String) (page : P) : Prop where
  current : m.current = name
  view : m.currentView = n.views.length
  page : m.views[m.currentView]? = some page
  history : m.history.tracks = .table name :: n.history.settleTop.tracks

theorem Navigator.Sound.navigate_arrives {P : Type} {n : Navigator P} {f : Factory P}
    {name : String} {page : P} (h : n.Sound) (unvisited : n.page? name = none)
    (made : f.make name = some page) :
    Arrives n (n.navigate f name).1 name (n.placed f name page) := by
  let registered : Navigator P := { n with
    views := n.views ++ [n.placed f name page]
    pages := n.pages.put name n.views.length }
  have other : n.current ≠ name := by
    rintro rfl
    cases unvisited.symm.trans h.currentView_eq
  have arrived : (n.navigate f name).1 = notify { registered with
      menuShown := false
      current := name
      history := n.history.settleTop.push (.table name) } := by
    rw [navigate, switchPage_eq, landing, ensure_made unvisited made, if_pos rfl,
      Navigator.shown, if_neg other]
    rfl
  have there : registered.page? name = some n.views.length := Keyed.get?_put_self ..
  have view : (n.navigate f name).1.currentView = n.views.length := by
    rw [arrived]
    exact congrArg (·.getD n.rootView) there
  refine ⟨by rw [arrived]; rfl, view, ?_, by rw [arrived]; rfl⟩
  rw [view, arrived]
  exact List.getElem?_concat_length

namespace Dashboard

variable {S J : Type} {b : Backend S TablePage J} {d e : Dashboard S J} {kind : PageKind}

/-- A page that was not there before comes into view, with nothing over it. -/
structure Opens (kind : PageKind) (d e : Dashboard S J) : Prop where
  top : e.top = .table kind.token
  current : e.currentName = kind.token
  view : e.nav.currentView = d.nav.views.length
  lists : e.page.kind = kind
  scope : e.page.scope = d.scope
  history : e.nav.history.tracks = .table kind.token :: d.nav.history.settleTop.tracks
  message : e.status = "Viewing " ++ kind.token

theorem factory_make_eq (known : d.catalog.resolve kind.token = some kind) :
    d.factory.make kind.token = some { page := { kind, scope := d.scope } } := by
  change ((d.catalog.resolve kind.token).map _).map _ = _
  rw [known]
  rfl

/-- The request for a refresh and the message that come after it leave the new page in view. -/
theorem Opens.of_arrives {there : Dashboard S J} {v : View TablePage}
    (arrives : Navigator.Arrives d.nav there.nav kind.token v) (lists : v.page.kind = kind)
    (scope : v.page.scope = d.scope) :
    Opens kind d (there.triggerRefresh.1.say ("Viewing " ++ kind.token)) := by
  have page : there.page = v.page :=
    congrArg (fun v => (Option.map View.page v).getD default) arrives.page
  have remains := Remains.triggerRefresh there
  have same : there.triggerRefresh.1.nav.history = there.nav.history :=
    congrArg (fun q : Situation => q.course.history) (triggerRefresh_situation there)
  have history := (congrArg History.tracks same).trans arrives.history
  refine ⟨?_, remains.current.trans arrives.current, remains.view.trans arrives.view, ?_, ?_,
    history, rfl⟩
  · exact congrArg (fun tracks : List Track => tracks.headD _) history
  · exact (congrArg TablePage.kind (remains.page.trans page)).trans lists
  · exact (congrArg TablePage.scope (remains.page.trans page)).trans scope

/-- A name that is known and was not visited leads to a page of its kind. -/
theorem openPage_opens (h : d.nav.Sound) (unvisited : d.nav.page? kind.token = none)
    (known : d.catalog.resolve kind.token = some kind) : Opens kind d (d.openPage kind.token) := by
  let fresh : View TablePage := { page := { kind, scope := d.scope } }
  have arrives : Navigator.Arrives d.nav (d.nav.navigate d.factory kind.token).1 kind.token
      (d.nav.placed d.factory kind.token fresh) :=
    h.navigate_arrives unvisited (factory_make_eq known)
  have track : (d.nav.navigate d.factory kind.token).2 = .table kind.token := by
    rw [Navigator.navigate, Navigator.switchPage_track]
    exact congrArg (fun tracks : List Track => tracks.headD _) arrives.history
  have placed : (d.nav.placed d.factory kind.token fresh).page.kind = kind ∧
      (d.nav.placed d.factory kind.token fresh).page.scope = d.scope := by
    rw [Navigator.placed]
    split <;> exact ⟨rfl, rfl⟩
  let there : Dashboard S J :=
    { (d.withNav (·.navigate d.factory kind.token)).1 with scroll := 0 }
  have moved : there.nav = (d.nav.navigate d.factory kind.token).1 :=
    withNav_nav (·.navigate d.factory kind.token) d
  have said : d.openPage kind.token =
      there.triggerRefresh.1.say ("Viewing " ++ (d.nav.navigate d.factory kind.token).2.name) := rfl
  rw [said, track]
  rw [← moved] at arrives
  exact .of_arrives arrives placed.1 placed.2

theorem Opens.synced (h : Opens kind d e) : Opens kind d e.syncStream := by
  have session : e.syncStream.session = e.session := congrArg Footing.session (syncStream_footing e)
  have nav : e.syncStream.nav = e.nav := congrArg Session.nav session
  have page : e.syncStream.page = e.page := by rw [Dashboard.page, nav, session, ← Dashboard.page]
  refine ⟨?_, ?_, ?_, ?_, ?_, ?_, ?_⟩
  · exact (congrArg Navigator.top nav).trans h.top
  · exact (congrArg Navigator.current nav).trans h.current
  · exact (congrArg Navigator.currentView nav).trans h.view
  · exact (congrArg TablePage.kind page).trans h.lists
  · exact (congrArg TablePage.scope page).trans h.scope
  · exact (congrArg (fun n : Navigator (View TablePage) => n.history.tracks) nav).trans h.history
  · exact (syncStream_status e).trans h.message

/-- On the discovery listing a row is opened by the name it leads to. -/
theorem openRow_eq {row : Row} {name : String} (listing : d.page.kind = .apiResources)
    (selected : d.page.view.selectedRow? = some row)
    (named : d.catalog.pageName? row.name = some name) : d.openRow = (d.openPage name, .none) := by
  rw [openRow, if_neg (not_not_intro listing), selected]
  dsimp only
  rw [named]

/-- Whatever a discovery run finds, if no two kinds have one token and none has the token of another
page, each row of its listing stands for a kind that was found; and as long as the dashboard knows
what was found, opening the row on its listing leads to a new page of that kind. -/
theorem drill_down_opens_selected {server : ApiServer} {kinds : List DiscoveredKind}
    (found : (Discovery.run.run.run server).1 = .ok kinds)
    (distinct : (kinds.map DiscoveredKind.token).Nodup)
    (unclaimed : ∀ kind ∈ kinds, kind.Unclaimed) (b : Backend S TablePage J) (scope : Scope)
    (now : Instant) (stamp : TimeOfDay) (catalog : Catalog) :
    ∃ listing : TableView, Listing.fetch .apiResources scope now stamp catalog server =
        ((Discovery.run.run.run server).2, .ofKinds kinds, .ok listing) ∧
      listing.rows.Perm (kinds.map Row.ofKind) ∧
      ∀ row ∈ listing.rows, ∃ kind ∈ kinds, row.StandsFor (.ofKinds kinds) kind ∧
        ∀ {settings : Settings} {known : Catalog} {within : Scope} {cluster context : String}
          {source : S} {start : Dashboard S J} {steps : List (Step S)},
          start? settings known within cluster context source = some start →
          Step.ValidTrace b start steps →
          let d := Step.runTrace b start steps
          d.catalog = .ofKinds kinds → d.page.kind = .apiResources →
          d.page.view.selectedRow? = some row → d.nav.page? kind.listed.token = none →
          (d.act .openRow).2 = .none ∧ Opens kind.listed d (d.act .openRow).1 := by
  have listed := Listing.table_rows_perm .apiResources stamp (kinds.map Row.ofKind)
  refine ⟨_, Listing.fetch_apiResources found scope now stamp catalog, listed, ?_⟩
  intro row there
  obtain ⟨kind, member, rfl⟩ := List.mem_map.mp (listed.mem_iff.mp there)
  have stands := Row.ofKind_standsFor distinct member (unclaimed kind member)
  refine ⟨kind, member, stands, ?_⟩
  intro settings known within cluster context source start steps opened valid d current listing
    selected unvisited
  have sound : d.nav.Sound := Step.trace_sound (start_sound opened) valid
  have opens : Opens kind.listed d (d.openPage kind.listed.token) :=
    openPage_opens sound unvisited (current ▸ stands.listed)
  have act : d.act .openRow = ((d.openPage kind.listed.token).syncStream, .none) := by
    rw [Dashboard.act, dispatch, openRow_eq listing selected (current ▸ stands.named)]
  rw [act]
  exact ⟨rfl, opens.synced⟩

/-- It has the name of a built-in kind, but in a group of its own. -/
def lookalike : DiscoveredKind := ⟨"io", "v1", "Pod", "pods", true⟩

/-- Of what this server knows, nothing else can be listed. -/
def lookalikeServer : ApiServer where
  replies :=
    [("/apis", [.body 200 ("\x7b\"groups\":[\x7b\"name\":\"io\",\"versions\":[" ++
      "\x7b\"groupVersion\":\"io/v1\",\"version\":\"v1\"\x7d]\x7d]\x7d")]),
    ("/apis/io/v1", [.body 200 ("\x7b\"groupVersion\":\"io/v1\",\"resources\":[" ++
      "\x7b\"name\":\"pods\",\"singularName\":\"pod\",\"namespaced\":true,\"kind\":\"Pod\"," ++
      "\"verbs\":[\"list\"]\x7d]\x7d")]),
    ("/api", [.body 200 "\x7b\"versions\":[\"v1\"],\"serverAddressByClientCIDRs\":[]\x7d"]),
    ("/api/v1", [.body 200 "\x7b\"groupVersion\":\"v1\",\"resources\":[]\x7d"])]

/-- The discovery listing is asked for and comes, and what was found is known from then on. -/
def discovering : List (Step ClusterSource) :=
  [.background (.poll .watcher), .act .startCommand, .act (.inputChar 'a'), .act (.inputChar 'p'),
    .act (.inputChar 'i'), .act .submitInput, .background (.poll .watcher),
    .background (.poll (.loop 0)), .background (.poll (.loop 1)), .discover (.ofKinds [lookalike])]

theorem drill_down_opens_lookalike :
    ∃ start : Dashboard ClusterSource (Except Failure TableView),
      start? {} [] .all "kind" "kind" { server := lookalikeServer } = some start ∧
      let d := Step.runTrace ClusterSource.backend start discovering
      d.page.view.selectedRow? = some ⟨"pods.io", none, ["pods", "io/v1", "Pod", "true"]⟩ ∧
        (d.act .openRow).2 = .none ∧ Opens (.discovered lookalike) d (d.act .openRow).1 := by
  have opened : start? {} [] .all "kind" "kind" { server := lookalikeServer } =
    some (_ : Dashboard ClusterSource (Except Failure TableView)) := rfl
  have came : ∀ start, start? {} [] .all "kind" "kind" { server := lookalikeServer } = some start →
      let d := Step.runTrace ClusterSource.backend start discovering
      Step.ValidTrace ClusterSource.backend start discovering ∧ d.catalog = .ofKinds [lookalike] ∧
        d.page.kind = .apiResources ∧
        d.page.view.selectedRow? = some ⟨"pods.io", none, ["pods", "io/v1", "Pod", "true"]⟩ ∧
        d.nav.page? "pods.io" = none := by
    intro start hs
    obtain rfl := Option.some.inj (opened.symm.trans hs)
    decide +kernel
  have unclaimed : ∀ kind ∈ [lookalike], kind.Unclaimed := by
    intro kind there
    obtain rfl := List.mem_singleton.mp there
    exact ⟨by decide, fun builtin => by cases builtin <;> decide⟩
  have found : (Discovery.run.run.run lookalikeServer).1 = .ok [lookalike] := by decide +kernel
  obtain ⟨listing, -, rows, leads⟩ := drill_down_opens_selected found (by decide) unclaimed
    ClusterSource.backend .all 0 ⟨0, 0, 0⟩ []
  obtain ⟨kind, member, -, opens⟩ := leads (Row.ofKind lookalike) (rows.mem_iff.mpr (.head _))
  obtain rfl := List.mem_singleton.mp member
  obtain ⟨valid, known, listed, selected, unvisited⟩ := came _ opened
  exact ⟨_, opened, selected, opens opened valid known listed selected unvisited⟩

end Dashboard
end ClusterDashboard
