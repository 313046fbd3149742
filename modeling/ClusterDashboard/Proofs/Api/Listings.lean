import ClusterDashboard.Api.Listing
import ClusterDashboard.Proofs.Api.Rows
import Mathlib.Data.Prod.Lex
import Mathlib.Order.WithBot
/-!
# The table of a listing

Whatever the API server returns, the table of a page has one row for each object, sorted by
namespace and name, and each row fits the headers of the kind.
-/
namespace ClusterDashboard

namespace Row

/-- What rows are sorted by: the namespace, none before all others, then the name. -/
def place (row : Row) : WithBot String ×ₗ String := toLex (row.space, row.name)

theorem before_iff (a b : Row) : before a b = true ↔ place a ≤ place b := by
  rw [place, place, Prod.Lex.toLex_le_toLex, before]
  cases a.space with
  | none =>
    cases b.space with
    | none =>
      have level : ¬(⊥ : WithBot String) < ⊥ := lt_irrefl _
      exact decide_eq_true_iff.trans ⟨fun h => .inr ⟨rfl, h⟩, fun h => (h.resolve_left level).2⟩
    | some t => exact iff_of_true rfl (.inl (WithBot.bot_lt_coe t))
  | some s =>
    cases b.space with
    | none =>
      refine iff_of_false Bool.false_ne_true ?_
      rintro (less | ⟨same, -⟩)
      · exact WithBot.not_lt_bot _ less
      · exact WithBot.coe_ne_bot same
    | some t =>
      have less : (s : WithBot String) < t ↔ s < t := WithBot.coe_lt_coe
      have same : (s : WithBot String) = t ↔ s = t := WithBot.coe_inj
      simp only [Bool.or_eq_true, Bool.and_eq_true, decide_eq_true_eq, beq_iff_eq]
      exact (or_congr less (and_congr_left' same)).symm

end Row

namespace PageKind

/-- What a page lists: the kinds that discovery found, or else objects of its kind. -/
def Object : PageKind → Type
  | .apiResources => DiscoveredKind
  | .builtin _ | .discovered _ => JsonValue

/-- The objects that the API server returns for a page. -/
def objects (scope : Scope) : (kind : PageKind) → Exchange (List kind.Object)
  | .builtin kind =>
    Listing.items <$>
      Exchange.get (Schema.listing kind.shape) (kind.path scope ++ Listing.pageLimit)
  | .discovered kind =>
    Listing.items <$>
      Exchange.get (Schema.listing Schema.discovered) (kind.path scope ++ Listing.pageLimit)
  | .apiResources => Discovery.run

/-- What a listing tells about kinds. -/
def found : (kind : PageKind) → List kind.Object → Option (List DiscoveredKind)
  | .apiResources, kinds => some kinds
  | .builtin _, _ | .discovered _, _ => none

def rowOf (now : Instant) : (kind : PageKind) → kind.Object → Row
  | .builtin kind => Row.ofBuiltin kind now
  | .discovered kind => Row.ofDiscovered kind now
  | .apiResources => Row.ofKind

/-- Where an object belongs: by its namespace, if the kind has any, and its name. -/
def place : (kind : PageKind) → kind.Object → WithBot String ×ₗ String
  | .apiResources => fun kind => toLex (⊥, DiscoveredKind.token kind)
  | .builtin kind => objectPlace kind.namespaced
  | .discovered kind => objectPlace kind.namespaced
where
  objectPlace (namespaced : Bool) (object : JsonValue) : WithBot String ×ₗ String :=
    toLex (if namespaced then object.space? else none, object.name)

variable {now : Instant} {kind : PageKind}

theorem rowOf_place (object : kind.Object) : (kind.rowOf now object).place = kind.place object := by
  cases kind with
  | apiResources => rfl
  | builtin kind =>
    exact congrArg toLex (Prod.ext (Row.ofObject_space object) (Row.ofObject_name object))
  | discovered kind =>
    exact congrArg toLex (Prod.ext (Row.ofObject_space object) (Row.ofObject_name object))

theorem rowOf_fits (object : kind.Object) : (kind.rowOf now object).Fits kind.headers := by
  cases kind with
  | apiResources => exact Row.ofKind_fits object
  | builtin kind => exact Row.ofBuiltin_fits kind now object
  | discovered kind => exact Row.ofDiscovered_fits kind now object

theorem rowOf_head (other : kind ≠ .apiResources) (object : kind.Object) :
    (kind.rowOf now object).cells.head? = some (kind.rowOf now object).name := by
  cases kind with
  | apiResources => exact absurd rfl other
  | builtin kind => exact Row.ofObject_head object
  | discovered kind => exact Row.ofObject_head object

theorem mem_headers : "Namespace" ∈ kind.headers ↔ kind.namespaced = true := by
  cases kind with
  | apiResources => decide
  | builtin kind => exact mem_headersOf (namespace_not_mem_builtinHeaders kind)
  | discovered kind => exact mem_headersOf (by decide)

end PageKind

/-- A table of just these objects, sorted by namespace and name. -/
structure TableView.Tabulates (kind : PageKind) (now : Instant) (objects : List kind.Object)
    (view : TableView) : Prop where
  headers : view.headers = kind.headers
  arranged : ∃ order, Arranges kind.place objects order ∧ view.rows = order.map (kind.rowOf now)
  sorted : view.rows.Pairwise fun a b => a.place ≤ b.place
  fits : ∀ row ∈ view.rows, row.Fits view.headers
  named : kind ≠ .apiResources → ∀ row ∈ view.rows, row.cells.head? = some row.name
  spaces : "Namespace" ∈ view.headers ↔ kind.namespaced = true

namespace Listing

variable {kind : PageKind} {scope : Scope} {server after : ApiServer} {objects : List kind.Object}

theorem rows_eq (kind : PageKind) (scope : Scope) (now : Instant) :
    rows kind scope now =
      (fun objects => (objects.map (kind.rowOf now), kind.found objects)) <$>
        kind.objects scope := by
  cases kind with
  | apiResources => rfl
  | builtin kind =>
    rw [rows, bind_pure_comp]
    exact comp_map items (fun objects => (objects.map _, none)) _
  | discovered kind =>
    rw [rows, bind_pure_comp]
    exact comp_map items (fun objects => (objects.map _, none)) _

theorem fetch_returned (returned : (kind.objects scope).run.run server = (.ok objects, after))
    (now : Instant) (stamp : TimeOfDay) (catalog : Catalog) :
    fetch kind scope now stamp catalog server =
      (after, ((kind.found objects).map Catalog.ofKinds).getD catalog,
        .ok (table kind stamp (objects.map (kind.rowOf now)))) := by
  rw [fetch, rows_eq, ExceptT.run_map, StateT.run_map, returned]
  rfl

theorem table_tabulates (kind : PageKind) (now : Instant) (stamp : TimeOfDay)
    (objects : List kind.Object) :
    (table kind stamp (objects.map (kind.rowOf now))).Tabulates kind now objects := by
  let order := objects.mergeSort fun a b => Row.before (kind.rowOf now a) (kind.rowOf now b)
  have arranges : Arranges kind.place objects order := by
    refine arranges_mergeSort (fun a b => ?_) objects
    rw [Row.before_iff, PageKind.rowOf_place, PageKind.rowOf_place]
  have rows : (table kind stamp (objects.map (kind.rowOf now))).rows = order.map (kind.rowOf now) :=
    (List.map_mergeSort (f := kind.rowOf now) fun _ _ _ _ => rfl).symm
  have made {row : Row} (there : row ∈ (table kind stamp (objects.map (kind.rowOf now))).rows) :
      ∃ object, kind.rowOf now object = row := by
    rw [rows] at there
    obtain ⟨object, -, same⟩ := List.mem_map.mp there
    exact ⟨object, same⟩
  refine ⟨rfl, ⟨order, arranges, rows⟩, ?_, fun row there => ?_, fun other row there => ?_,
    PageKind.mem_headers⟩
  · rw [rows, List.pairwise_map]
    simpa only [PageKind.rowOf_place] using arranges.ordered
  · obtain ⟨object, rfl⟩ := made there
    exact PageKind.rowOf_fits object
  · obtain ⟨object, rfl⟩ := made there
    exact PageKind.rowOf_head other object

/-- Whatever objects come for a page, the fetch gives their table. -/
theorem listings_sorted (returned : (kind.objects scope).run.run server = (.ok objects, after))
    (now : Instant) (stamp : TimeOfDay) (catalog : Catalog) :
    ∃ known view, fetch kind scope now stamp catalog server = (after, known, .ok view) ∧
      view.Tabulates kind now objects :=
  ⟨_, _, fetch_returned returned now stamp catalog, table_tabulates kind now stamp objects⟩

/-- Two pods have one name in one namespace, and between them comes one that lacks almost
everything. -/
def podServer : ApiServer where
  replies :=
    [("/api/v1/pods", [.body 200 ("\x7b\"metadata\":\x7b\x7d,\"items\":[" ++
      "\x7b\"metadata\":\x7b\"name\":\"web\",\"namespace\":\"b\"\x7d\x7d," ++
      "\x7b\"metadata\":\x7b\"name\":\"api\"\x7d\x7d," ++
      "\x7b\"metadata\":\x7b\"name\":\"web\",\"namespace\":\"b\"\x7d," ++
      "\"spec\":\x7b\"nodeName\":\"n1\"\x7d\x7d]\x7d")])]

/-- The rows of its pods, as they come. -/
def podRows : List Row :=
  [⟨"web", some "b", ["web", "b", "-", "0/0", "Unknown", "0", "-"]⟩,
    ⟨"api", none, ["api", "-", "-", "0/0", "Unknown", "0", "-"]⟩,
    ⟨"web", some "b", ["web", "b", "n1", "0/0", "Unknown", "0", "-"]⟩]

theorem pods_sorted :
    ∃ (pods : List (PageKind.builtin .pods).Object) (after : ApiServer) (known : Catalog)
      (view : TableView),
      pods.map (PageKind.rowOf 0 (.builtin .pods)) = podRows ∧
      fetch (.builtin .pods) .all 0 ⟨0, 0, 0⟩ [] podServer = (after, known, .ok view) ∧
      view.Tabulates (.builtin .pods) 0 pods := by
  have came : ((PageKind.objects .all (.builtin .pods)).run.run podServer).1.toOption.map
      (·.map (PageKind.rowOf 0 (.builtin .pods))) = some podRows := by
    decide +kernel
  rcases ran : (PageKind.objects .all (.builtin .pods)).run.run podServer with ⟨outcome, after⟩
  rw [ran] at came
  cases outcome with
  | error fault => cases came
  | ok pods =>
    obtain ⟨known, view, fetched, tabulates⟩ := listings_sorted ran 0 ⟨0, 0, 0⟩ []
    exact ⟨pods, after, known, view, Option.some.inj came, fetched, tabulates⟩

end Listing
end ClusterDashboard
