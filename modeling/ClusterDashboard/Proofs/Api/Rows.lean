import ClusterDashboard.Api.Rows
import ClusterDashboard.Proofs.Sorting
import ClusterDashboard.Proofs.Text.Utf8
/-!
# What a row shows

A row has a cell for each header of its kind, whatever is missing in the object: the name first,
then the namespace where the kind has one. The roles of a node are listed in the order of their
bytes, each once.
-/
namespace ClusterDashboard

namespace Row

variable {namespaced : Bool} {headers cells : List String}

/-- There is a cell under each header, and the namespace, or a dash for none, under its own. -/
structure Fits (headers : List String) (row : Row) : Prop where
  cells : row.cells.length = headers.length
  space : ∀ i : Nat, headers[i]? = some "Namespace" → row.cells[i]? = some (row.space.getD "-")

theorem ofObject_name (object : JsonValue) :
    (ofObject namespaced cells object).name = object.name := by
  cases namespaced <;> rfl

/-- Objects that live outside of namespaces are in none, whatever they say. -/
theorem ofObject_space (object : JsonValue) :
    (ofObject namespaced cells object).space = if namespaced then object.space? else none := by
  cases namespaced <;> rfl

theorem ofObject_head (object : JsonValue) :
    (ofObject namespaced cells object).cells.head? =
      some (ofObject namespaced cells object).name := by
  cases namespaced <;> rfl

theorem ofObject_fits (same : cells.length = headers.length) (only : "Namespace" ∉ headers)
    (age : String) (object : JsonValue) :
    (ofObject namespaced (cells ++ [age]) object).Fits (PageKind.headersOf namespaced headers) := by
  have rest : "Namespace" ∉ headers ++ ["Age"] := by simpa using only
  refine ⟨by cases namespaced <;> simp [ofObject, PageKind.headersOf, same], fun i there => ?_⟩
  cases namespaced with
  | false =>
    refine absurd (List.mem_of_getElem? there) ?_
    simpa [PageKind.headersOf] using only
  | true =>
    match i with
    | 0 => exact absurd (Option.some.inj there) (by decide)
    | 1 => rfl
    | i + 2 =>
      have behind : (headers ++ ["Age"])[i]? = some "Namespace" := there
      exact absurd (List.mem_of_getElem? behind) rest

end Row

namespace PageKind

theorem mem_headersOf {namespaced : Bool} {headers : List String} (only : "Namespace" ∉ headers) :
    "Namespace" ∈ headersOf namespaced headers ↔ namespaced = true := by
  cases namespaced <;> simp [headersOf, only]

theorem namespace_not_mem_builtinHeaders (kind : BuiltinKind) :
    "Namespace" ∉ builtinHeaders kind := by
  cases kind <;> decide

end PageKind

/-- Every kind has as many cells as headers, whatever an object lacks. -/
theorem Cells.length_builtin (kind : BuiltinKind) (object : JsonValue) :
    (builtin kind object).length = (PageKind.builtinHeaders kind).length := by
  cases kind <;>
    simp only [builtin, pod, deployment, statefulSet, daemonSet, job, service, ingress, configMap,
      secret, node, phase, PageKind.builtinHeaders, List.length_cons, List.length_nil]

namespace Row

theorem ofBuiltin_fits (kind : BuiltinKind) (now : Instant) (object : JsonValue) :
    (ofBuiltin kind now object).Fits (PageKind.builtin kind).headers :=
  ofObject_fits (Cells.length_builtin kind object) (PageKind.namespace_not_mem_builtinHeaders kind)
    _ object

theorem ofDiscovered_fits (kind : DiscoveredKind) (now : Instant) (object : JsonValue) :
    (ofDiscovered kind now object).Fits (PageKind.discovered kind).headers :=
  have same : (Cells.discovered object).length = ["Labels"].length := rfl
  ofObject_fits same (by decide) _ object

theorem ofKind_fits (kind : DiscoveredKind) : (ofKind kind).Fits PageKind.apiResources.headers :=
  ⟨rfl, fun _ there => absurd (List.mem_of_getElem? there) (by decide)⟩

end Row

theorem mem_sortedSet {names : List String} {name : String} :
    name ∈ sortedSet names ↔ name ∈ names := by
  rw [sortedSet, mem_eraseReps, List.mem_mergeSort]

theorem sortedSet_increasing (names : List String) : (sortedSet names).Pairwise (· < ·) :=
  eraseReps_increasing (ordered_mergeSort id names)

namespace Text

theorem dropStart?_eq_some {start s rest : List Char} :
    dropStart? start s = some rest ↔ s = start ++ rest := by
  rw [dropStart?]
  split
  · next begins =>
    obtain ⟨tail, rfl⟩ := List.isPrefixOf_iff_prefix.mp begins
    simp
  · next other =>
    refine iff_of_false (by simp) fun whole => other ?_
    rw [whole]
    exact List.isPrefixOf_iff_prefix.mpr (List.prefix_append start rest)

end Text

/-- The role is what follows in a role label, a worker where nothing does. -/
def RoleNamed (labels : Keyed String String) (role : String) : Prop :=
  ∃ suffix, nodeRoleLabel ++ suffix ∈ labels.keys ∧ role = if suffix = "" then "worker" else suffix

/-- Exactly the roles that labels name, each once, in the order of their bytes. -/
structure ListsRoles (labels : Keyed String String) (roles : List String) : Prop where
  named : ∀ role, role ∈ roles ↔ RoleNamed labels role
  ordered : roles.Pairwise fun a b => Utf8.encode a < Utf8.encode b

/-- What follows in the role labels, as it stands there. -/
def roleSuffixes (labels : Keyed String String) : List (List Char) :=
  labels.keys.filterMap fun key => Text.dropStart? nodeRoleLabel.toList key.toList

theorem mem_roleSuffixes {labels : Keyed String String} {suffix : String} :
    suffix.toList ∈ roleSuffixes labels ↔ nodeRoleLabel ++ suffix ∈ labels.keys := by
  simp only [roleSuffixes, List.mem_filterMap, Text.dropStart?_eq_some, ← String.toList_append,
    String.toList_inj, exists_eq_right]

/-- An empty suffix means a worker. -/
def roleOf (suffix : List Char) : String :=
  if suffix.isEmpty then "worker" else String.ofList suffix

theorem roleOf_toList (suffix : String) :
    roleOf suffix.toList = if suffix = "" then "worker" else suffix := by
  simp [roleOf, List.isEmpty_iff]

theorem nodeRoles_eq (labels : Keyed String String) :
    nodeRoles labels =
      if roleSuffixes labels = [] then (labels.get? plainRoleLabel).getD missing
      else String.intercalate "," (sortedSet ((roleSuffixes labels).map roleOf)) := by
  simp only [← List.isEmpty_iff]
  rfl

theorem listsRoles (labels : Keyed String String) :
    ListsRoles labels (sortedSet ((roleSuffixes labels).map roleOf)) where
  named role := by
    rw [mem_sortedSet, List.mem_map]
    constructor
    · rintro ⟨suffix, there, rfl⟩
      refine ⟨String.ofList suffix, mem_roleSuffixes.mp (by simpa using there), ?_⟩
      rw [← roleOf_toList, String.toList_ofList]
    · rintro ⟨suffix, there, rfl⟩
      exact ⟨suffix.toList, mem_roleSuffixes.mpr there, roleOf_toList suffix⟩
  ordered := (sortedSet_increasing _).imp Utf8.encode_lt_iff.mpr

theorem sortedSet_eq_nil {names : List String} : sortedSet names = [] ↔ names = [] := by
  simp only [List.eq_nil_iff_forall_not_mem, mem_sortedSet]

/-- The roles of a node, whatever its labels. -/
theorem node_roles_listed (labels : Keyed String String) :
    ∃ roles, ListsRoles labels roles ∧
      nodeRoles labels =
        if roles = [] then (labels.get? "kubernetes.io/role").getD "-"
        else String.intercalate "," roles := by
  refine ⟨_, listsRoles labels, ?_⟩
  simp only [nodeRoles_eq, sortedSet_eq_nil, List.map_eq_nil_iff, plainRoleLabel, missing]

end ClusterDashboard
