import ClusterDashboard.Proofs.Dashboard.Ensuing
/-!
# What a dashboard does to its pages

By itself a dashboard does five things to its pages at most: it asks for a refresh of one, changes
what is selected on one, lets the navigator make one from the catalog and in the scope it has, tears
all down for another scope, or leaves them alone. A property that survives these survives every step
but those of background work and of discovery.
-/
namespace ClusterDashboard.Dashboard

variable {S J : Type} {b : Backend S TablePage J} {d e : Dashboard S J} {step : Step S}

/-- The pages, and what new ones are made from. -/
structure Footing (S J : Type) where
  session : Session S TablePage J
  settings : Settings
  catalog : Catalog
  scope : Scope

def footing (d : Dashboard S J) : Footing S J := ⟨d.session, d.settings, d.catalog, d.scope⟩

theorem stopStream_footing (d : Dashboard S J) : d.stopStream.footing = d.footing := by
  rw [stopStream]
  split <;> rfl

theorem syncStream_footing (d : Dashboard S J) : d.syncStream.footing = d.footing := by
  rw [syncStream]
  split
  · exact stopStream_footing d
  · rfl

/-- The pages are torn down for another scope. -/
def rescope (scope : Scope) (d : Dashboard S J) : Dashboard S J :=
  (withNav (fun nav => (nav.reload (TablePage.factory d.catalog scope).views, ()))
    { d with scope }).1

theorem setScope_eq {scope : Scope} (h : d.scope ≠ scope) :
    d.setScope scope = (d.rescope scope).triggerRefresh.1.say ("Namespace: " ++ scope.display) := by
  rw [setScope, if_neg h]
  rfl

/-- The property survives all but the changes of a page. -/
structure Borne (I : Dashboard S J → Prop) : Prop where
  aside : ∀ {d e : Dashboard S J}, I d → e.footing = d.footing → I e
  refreshed : ∀ {d : Dashboard S J}, I d → I d.triggerRefresh.1
  operated : ∀ {d : Dashboard S J} {α : Type} (op : Navigator.Operation (View TablePage))
    {act : Navigator (View TablePage) → Navigator (View TablePage) × α},
    (act d.nav).1 = op.apply d.nav → op.isReload = false →
    (∀ f, op.factory? = some f → f = d.factory) → I d → I (d.withNav act).1
  rescoped : ∀ {d : Dashboard S J} (scope : Scope), I d → I (d.rescope scope)

/-- The property survives each of the five. -/
structure Upheld (I : Dashboard S J → Prop) : Prop extends Borne I where
  changed : ∀ {d : Dashboard S J} (change : TableView → TableView), I d →
    I (d.onPage (·.onView change))

namespace Borne

variable {I : Dashboard S J → Prop}

/-- The start asks for a refresh of what the navigator starts with. -/
theorem start (hI : Borne I) {settings : Settings} {catalog : Catalog} {scope : Scope}
    {cluster context : String} {source : S}
    (opened : start? settings catalog scope cluster context source = some d)
    (h : ∀ n, Navigator.start? (TablePage.factory catalog scope).views settings.rootPage.token =
      some n → I { session := { nav := n, source, ready := [.watcher] }
                   settings, catalog, scope, cluster, context }) : I d := by
  obtain ⟨session, hs, rfl⟩ := Option.map_eq_some_iff.mp opened
  obtain ⟨n, hn, rfl⟩ := Option.map_eq_some_iff.mp hs
  exact hI.refreshed (h n hn)

theorem openPage (hI : Borne I) (h : I d) (name : String) : I (d.openPage name) := by
  have there : I (d.withNav (·.navigate d.factory name)).1 :=
    hI.operated (.navigate d.factory name) rfl rfl (fun _ asks => (Option.some.inj asks).symm) h
  have scrolled : I { (d.withNav (·.navigate d.factory name)).1 with scroll := 0 } :=
    hI.aside there rfl
  exact hI.aside (hI.refreshed scrolled) rfl

theorem goBack (hI : Borne I) (h : I d) : I d.goBack := by
  have there : I (d.withNav (·.goBack d.factory)).1 :=
    hI.operated (.goBack d.factory) rfl rfl (fun _ asks => (Option.some.inj asks).symm) h
  have scrolled : I { (d.withNav (·.goBack d.factory)).1 with scroll := 0 } := hI.aside there rfl
  exact hI.aside (hI.refreshed scrolled) rfl

theorem showLayer (hI : Borne I) (h : I d) (layer : Layer) : I (d.showLayer layer) :=
  hI.operated (.switchPage d.factory d.currentName layer) rfl rfl
    (fun _ asks => (Option.some.inj asks).symm) h

/-- Operations that make no pages. -/
theorem unasked (hI : Borne I) (h : I d) {α : Type} (op : Navigator.Operation (View TablePage))
    {act : Navigator (View TablePage) → Navigator (View TablePage) × α}
    (ha : (act d.nav).1 = op.apply d.nav) (still : op.isReload = false)
    (asks : op.factory? = none) : I (d.withNav act).1 :=
  hI.operated op ha still (fun _ other => nomatch asks.symm.trans other) h

theorem dismissOverlay (hI : Borne I) (h : I d) : I d.dismissOverlay.1 :=
  hI.unasked h .dismissOverlay rfl rfl rfl

theorem showStatus (hI : Borne I) (h : I d) (message : String) (kind : StatusKind) :
    I (d.showStatus message kind) := by
  rw [Dashboard.showStatus]
  dsimp only
  split
  · exact hI.aside h rfl
  · have covering : I { d.say message with covered := d.coveredBy d.top } := hI.aside h rfl
    exact hI.aside (hI.showLayer covering (.status message kind)) rfl

theorem clearStatus (hI : Borne I) (h : I d) : I d.clearStatus := by
  have bare : I { d with covered := none } := hI.aside h rfl
  rw [Dashboard.clearStatus]
  split
  · split
    · exact hI.showLayer bare _
    · exact hI.dismissOverlay bare
  · exact hI.dismissOverlay bare

theorem setScope (hI : Borne I) (h : I d) (scope : Scope) : I (d.setScope scope) := by
  by_cases same : d.scope = scope
  · rw [Dashboard.setScope, if_pos same]
    exact hI.aside h rfl
  · rw [setScope_eq same]
    exact hI.aside (hI.refreshed (hI.rescoped scope h)) rfl

theorem syncStream (hI : Borne I) (h : I d) : I d.syncStream :=
  hI.aside h (syncStream_footing d)

/-- Of the changes of a page the property has to survive those only that put no blanks around its
filter: no other is made. -/
theorem leads (hI : Borne I)
    (changed : ∀ {d : Dashboard S J} (change : TableView → TableView), Neat change → I d →
      I (d.onPage (·.onView change)))
    (deeds : Leads d e) (h : I d) : I e := by
  induction deeds with
  | refl => exact h
  | openPage _ name ih => exact hI.openPage ih name
  | goBack _ ih => exact hI.goBack ih
  | showMenu _ ih => exact hI.unasked ih .showMenu rfl rfl rfl
  | hideMenu _ ih => exact hI.unasked ih .hideMenu rfl rfl rfl
  | dismissOverlay _ ih => exact hI.dismissOverlay ih
  | recordPosition _ page position ih =>
    exact hI.unasked ih (.recordPosition page position) rfl rfl rfl
  | setScope _ scope ih => exact hI.setScope ih scope
  | ask _ target ih => exact hI.aside (hI.showLayer ih (.confirm (deletePrompt target))) rfl
  | @closeQuestion e _ ih =>
    have normal : I { e with mode := .normal } := hI.aside ih rfl
    exact hI.aside (hI.dismissOverlay normal) rfl
  | setMode _ _ _ _ ih => exact hI.aside ih rfl
  | showStatus _ message kind ih => exact hI.showStatus ih message kind
  | clearStatus _ ih => exact hI.clearStatus ih
  | triggerRefresh _ ih => exact hI.refreshed ih
  | onPage _ change neat ih => exact changed change neat ih
  | jot _ _ _ _ _ _ ih => exact hI.aside ih rfl

theorem onUiEvent (hI : Borne I) (h : I d) (event : UiEvent) : I (d.onUiEvent event) := by
  cases event with
  | statusExpired ticket =>
    rw [Dashboard.onUiEvent]
    split
    · exact h
    · apply hI.syncStream
      split
      · exact hI.clearStatus h
      · exact h
  | log stream feed =>
    rw [Dashboard.onUiEvent]
    split
    · exact h
    · exact hI.aside h rfl

theorem onRefreshEvent (hI : Borne I) (h : I d) (event : RefreshEvent) :
    I (d.onRefreshEvent event) := by
  cases event with
  | rendered page => exact h
  | failed page error =>
    rw [Dashboard.onRefreshEvent]
    split
    · exact hI.showStatus h _ _
    · exact h

theorem setDetail (hI : Borne I) (h : I d) (verb : DetailVerb) (target : Target)
    (body : String) : I (d.setDetail verb target body) := by
  have bare : I { d with covered := none } := hI.aside h rfl
  have shown := hI.showLayer bare (.detail (verb.title ++ " " ++ target.label) body)
  apply hI.syncStream
  exact hI.aside shown rfl

theorem attachLogs (hI : Borne I) (h : I d) (title : String)
    (started : Except Failure Kubectl.Follower) : I (d.attachLogs title started) := by
  have stopped : I { d.stopStream with streamId := d.stopStream.streamId + 1 } :=
    hI.aside h (stopStream_footing d)
  cases started with
  | error failure => exact hI.showStatus stopped _ _
  | ok follower =>
    refine hI.showLayer ?_ (.logs title)
    exact hI.aside stopped rfl

theorem startLogs (hI : Borne I) (h : I d) (program : Kubectl.Program) (target : Target) :
    I (d.startLogs program target) := by
  rw [Dashboard.startLogs]
  split
  · exact hI.showStatus h _ _
  · exact hI.attachLogs h _ _

end Borne

/-- Steps that the dashboard does not take by itself. -/
def Step.isGiven : Step S → Bool
  | .background _ | .discover _ => true
  | _ => false

theorem Upheld.next {I : Dashboard S J → Prop} (hI : Upheld I) (h : I d)
    (own : step.isGiven = false) : I (step.next b d) := by
  cases step with
  | background | discover => cases own
  | act action =>
    have deeds : Leads d (d.dispatch action).1 := Leads.refl.dispatch action
    exact hI.syncStream (hI.leads (fun change _ => hI.changed change) deeds h)
  | uiEvent event => exact hI.onUiEvent h event
  | refreshEvent event => exact hI.onRefreshEvent h event
  | message text kind => exact hI.showStatus h text kind
  | setDetail verb target body => exact hI.setDetail h verb target body
  | startLogs program target => exact hI.startLogs h program target
  | attachLogs title refusal => exact hI.attachLogs h title _
  | tick =>
    rw [Step.next, Dashboard.tick]
    split
    · exact hI.refreshed h
    · exact h
  | child | runFollowers | runTimers | wait | scrollTo | emptyQueue | identify =>
    exact hI.aside h rfl

end ClusterDashboard.Dashboard
