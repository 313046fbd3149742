import ClusterDashboard.Kind.Basic
import ClusterDashboard.Proofs.Trace
import Mathlib.Data.List.Induction
import Mathlib.Data.List.Nodup
/-!
# What page names mean

A name means one kind at most, and that kind has no other name: the built-in kinds and the discovery
listing go by their own tokens, letter by letter, and the kinds that the last discovery run found by
theirs, as far as those are not taken. What discovery finds leads to the page of the same resource.
-/
namespace ClusterDashboard

/-- Of the entries with one key the last is found. -/
theorem Keyed.get?_ofList {κ α : Type} [DecidableEq κ] (entries : List (κ × α)) (key : κ) :
    (ofList entries).get? key = get? entries.reverse key := by
  induction entries using List.reverseRecOn with
  | nil => rfl
  | append_singleton entries e ih =>
    have last : ofList (entries ++ [e]) = (ofList entries).put e.1 e.2 := List.foldl_append
    rw [last, List.reverse_append, List.reverse_singleton, List.singleton_append, get?_cons]
    by_cases same : e.1 = key
    · rw [if_pos same, ← same, get?_put_self]
    · rw [if_neg same, get?_put_of_ne _ _ same, ih]

namespace BuiltinKind

theorem token_injective {a b : BuiltinKind} (h : a.token = b.token) : a = b := by
  revert h
  cases a <;> cases b <;> decide

theorem token_ne_apiResources (kind : BuiltinKind) : kind.token ≠ PageKind.apiResourcesToken := by
  cases kind <;> decide

theorem dot_not_mem_token (kind : BuiltinKind) : '.' ∉ kind.token.toList := by
  cases kind <;> decide

end BuiltinKind

namespace DiscoveredKind

variable {kind : DiscoveredKind}

theorem builtin?_eq_some_iff {builtin : BuiltinKind} :
    kind.builtin? = some builtin ↔ builtin.token = kind.plural ∧ builtin.group = kind.group := by
  constructor
  · intro h
    simpa using List.find?_some h
  · rintro ⟨plural, group⟩
    cases found : kind.builtin? with
    | none =>
      have other := List.find?_eq_none.mp found builtin builtin.mem_all
      simp [plural, group] at other
    | some other =>
      have same : other.token = kind.plural ∧ other.group = kind.group := by
        simpa using List.find?_some found
      rw [BuiltinKind.token_injective (same.1.trans plural.symm)]

/-- What is listed for the kind: the built-in kind of the same resource, if there is one. -/
def listed (kind : DiscoveredKind) : PageKind :=
  match kind.builtin? with
  | some builtin => .builtin builtin
  | none => .discovered kind

theorem listed_of_builtin {builtin : BuiltinKind} (plural : builtin.token = kind.plural)
    (group : builtin.group = kind.group) : kind.listed = .builtin builtin := by
  rw [listed, builtin?_eq_some_iff.mpr ⟨plural, group⟩]

theorem listed_of_other (other : ∀ builtin : BuiltinKind, builtin.token = kind.plural →
    builtin.group ≠ kind.group) : kind.listed = .discovered kind := by
  cases found : kind.builtin? with
  | none => rw [listed, found]
  | some builtin =>
    obtain ⟨plural, group⟩ := builtin?_eq_some_iff.mp found
    exact absurd group (other builtin plural)

theorem token_of_core (core : kind.group = "") : kind.token = kind.plural := if_pos core

/-- Outside the core group the token shows where it comes from. -/
theorem dot_mem_token (grouped : kind.group ≠ "") : '.' ∈ kind.token.toList := by
  simp [token, grouped]

/-- What an API server makes sure of: no resource of the core group is named like the discovery
listing, or like a built-in kind of another group. -/
structure Unclaimed (kind : DiscoveredKind) : Prop where
  apiResources : kind.group = "" → kind.plural ≠ PageKind.apiResourcesToken
  builtin : ∀ builtin : BuiltinKind, kind.group = "" → kind.plural = builtin.token →
    builtin.group = ""

theorem Unclaimed.token_ne_apiResources (h : kind.Unclaimed) :
    kind.token ≠ PageKind.apiResourcesToken := by
  by_cases core : kind.group = ""
  · rw [token_of_core core]
    exact h.apiResources core
  · intro same
    have dotted := dot_mem_token core
    rw [same] at dotted
    revert dotted
    decide

theorem Unclaimed.token_ne_builtin (h : kind.Unclaimed) (none : kind.builtin? = none)
    (builtin : BuiltinKind) : kind.token ≠ builtin.token := by
  by_cases core : kind.group = ""
  · rw [token_of_core core]
    intro same
    have group := (h.builtin builtin core same).trans core.symm
    cases none.symm.trans (builtin?_eq_some_iff.mpr ⟨same.symm, group⟩)
  · intro same
    have dotted := dot_mem_token core
    rw [same] at dotted
    exact builtin.dot_not_mem_token dotted

end DiscoveredKind

namespace Catalog

variable {catalog : Catalog} {kinds : List DiscoveredKind} {kind : DiscoveredKind} {name : String}

theorem get?_ofKinds (kinds : List DiscoveredKind) (name : String) :
    (ofKinds kinds).get? name = kinds.reverse.find? fun kind => decide (kind.token = name) := by
  rw [ofKinds, Keyed.get?_ofList, ← List.map_reverse, Keyed.get?, List.find?_map, Option.map_map]
  exact Option.map_id' ..

theorem of_get?_ofKinds (h : (ofKinds kinds).get? name = some kind) :
    kind ∈ kinds ∧ kind.token = name := by
  rw [get?_ofKinds] at h
  exact ⟨List.mem_reverse.mp (List.mem_of_find?_eq_some h), by simpa using List.find?_some h⟩

theorem exists_get?_ofKinds (h : kind ∈ kinds) :
    ∃ known, (ofKinds kinds).get? kind.token = some known := by
  rw [get?_ofKinds]
  apply Option.isSome_iff_exists.mp
  rw [List.find?_isSome]
  exact ⟨kind, List.mem_reverse.mpr h, decide_eq_true rfl⟩

/-- Where no two kinds have one token, each is found by its own. -/
theorem get?_ofKinds_of_nodup (distinct : (kinds.map DiscoveredKind.token).Nodup)
    (h : kind ∈ kinds) : (ofKinds kinds).get? kind.token = some kind := by
  obtain ⟨known, found⟩ := exists_get?_ofKinds h
  obtain ⟨there, same⟩ := of_get?_ofKinds found
  rw [found, List.inj_on_of_nodup_map distinct there h same]

/-- What is known after one discovery run upon the other: each replaces what the one before it
found. -/
abbrev afterRuns (runs : List (List DiscoveredKind)) : Catalog :=
  Trace.run (fun _ kinds => ofKinds kinds) [] runs

theorem afterRuns_eq (runs : List (List DiscoveredKind)) :
    afterRuns runs = ofKinds (runs.getLast?.getD []) := by
  cases runs using List.reverseRecOn with
  | nil => rfl
  | append_singleton runs kinds =>
    rw [afterRuns, Trace.run_append, List.getLast?_concat]
    rfl

/-- The catalog is what some discovery run found. -/
def Found (catalog : Catalog) : Prop := ∃ kinds, catalog = ofKinds kinds

theorem afterRuns_found (runs : List (List DiscoveredKind)) : Found (afterRuns runs) :=
  ⟨_, afterRuns_eq runs⟩

theorem exactBuiltin?_eq_some_iff {builtin : BuiltinKind} :
    exactBuiltin? name = some builtin ↔ name = builtin.token := by
  constructor
  · intro h
    have same : builtin.token = name := by simpa using (Option.filter_eq_some_iff.mp h).2
    exact same.symm
  · rintro rfl
    cases builtin <;> decide

theorem resolve_apiResources (catalog : Catalog) :
    catalog.resolve PageKind.apiResourcesToken = some .apiResources := if_pos rfl

theorem resolve_builtin (catalog : Catalog) (kind : BuiltinKind) :
    catalog.resolve kind.token = some (.builtin kind) := by
  rw [resolve, if_neg kind.token_ne_apiResources, exactBuiltin?_eq_some_iff.mpr rfl]

/-- A name that no other page goes by is looked up among the discovered kinds. -/
theorem resolve_free (api : name ≠ PageKind.apiResourcesToken)
    (free : ∀ builtin : BuiltinKind, name ≠ builtin.token) :
    catalog.resolve name = (catalog.get? name).map .discovered := by
  have plain : exactBuiltin? name = none := by
    cases found : exactBuiltin? name with
    | none => rfl
    | some builtin => exact absurd (exactBuiltin?_eq_some_iff.mp found) (free builtin)
  rw [resolve, if_neg api, plain]

theorem name_cases (name : String) :
    name = PageKind.apiResourcesToken ∨ (∃ builtin : BuiltinKind, name = builtin.token) ∨
      name ≠ PageKind.apiResourcesToken ∧ ∀ builtin : BuiltinKind, name ≠ builtin.token := by
  by_cases api : name = PageKind.apiResourcesToken
  · exact .inl api
  by_cases taken : ∃ builtin : BuiltinKind, name = builtin.token
  · exact .inr (.inl taken)
  · exact .inr (.inr ⟨api, not_exists.mp taken⟩)

end Catalog

/-- The kind has the name, and a built-in kind has the first claim to it. -/
structure PageKind.GoesBy (kind : PageKind) (name : String) : Prop where
  token : kind.token = name
  builtin : ∀ builtin : BuiltinKind, builtin.token = name → kind = .builtin builtin

namespace Catalog

variable {kinds : List DiscoveredKind} {name : String}

theorem Found.resolve_goesBy {catalog : Catalog} {kind : PageKind} (h : catalog.Found)
    (resolved : catalog.resolve name = some kind) : kind.GoesBy name := by
  obtain ⟨kinds, rfl⟩ := h
  rcases name_cases name with rfl | ⟨builtin, rfl⟩ | ⟨api, free⟩
  · obtain rfl := Option.some.inj ((resolve_apiResources _).symm.trans resolved)
    exact ⟨rfl, fun builtin same => absurd same builtin.token_ne_apiResources⟩
  · obtain rfl := Option.some.inj ((resolve_builtin _ _).symm.trans resolved)
    exact ⟨rfl, fun other same => by rw [BuiltinKind.token_injective same]⟩
  · rw [resolve_free api free] at resolved
    obtain ⟨kind, found, rfl⟩ := Option.map_eq_some_iff.mp resolved
    exact ⟨(of_get?_ofKinds found).2, fun builtin same => absurd same.symm (free builtin)⟩

theorem exists_resolve_ofKinds_iff :
    (∃ kind, (ofKinds kinds).resolve name = some kind) ↔
      (∃ builtin : BuiltinKind, name = builtin.token) ∨ name = PageKind.apiResourcesToken ∨
        ∃ kind ∈ kinds, kind.token = name := by
  rcases name_cases name with rfl | ⟨builtin, rfl⟩ | ⟨api, free⟩
  · exact iff_of_true ⟨_, resolve_apiResources _⟩ (.inr (.inl rfl))
  · exact iff_of_true ⟨_, resolve_builtin _ builtin⟩ (.inl ⟨builtin, rfl⟩)
  · rw [resolve_free api free]
    constructor
    · rintro ⟨kind, resolved⟩
      obtain ⟨known, found, -⟩ := Option.map_eq_some_iff.mp resolved
      exact .inr (.inr ⟨known, of_get?_ofKinds found⟩)
    · rintro (⟨builtin, same⟩ | same | ⟨kind, there, rfl⟩)
      · exact absurd same (free builtin)
      · exact absurd same api
      · obtain ⟨known, found⟩ := exists_get?_ofKinds there
        exact ⟨.discovered known, by rw [found]; rfl⟩

theorem pageName?_eq (catalog : Catalog) (token : String) :
    catalog.pageName? token = (catalog.get? token).map (·.listed.token) := by
  refine congrArg (Option.map · (catalog.get? token)) (funext fun kind => ?_)
  rw [DiscoveredKind.listed]
  cases kind.builtin? <;> rfl

/-- The name of the page for a discovered kind means what is listed for the kind. -/
theorem resolve_listed {kind : DiscoveredKind} (distinct : (kinds.map DiscoveredKind.token).Nodup)
    (there : kind ∈ kinds) (unclaimed : kind.Unclaimed) :
    (ofKinds kinds).resolve kind.listed.token = some kind.listed := by
  cases same : kind.builtin? with
  | some builtin =>
    rw [DiscoveredKind.listed, same]
    exact resolve_builtin _ builtin
  | none =>
    rw [DiscoveredKind.listed, same]
    change (ofKinds kinds).resolve kind.token = _
    rw [resolve_free unclaimed.token_ne_apiResources (unclaimed.token_ne_builtin same),
      get?_ofKinds_of_nodup distinct there]
    rfl

end Catalog
end ClusterDashboard
