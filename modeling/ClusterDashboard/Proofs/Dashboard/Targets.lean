import ClusterDashboard.Proofs.Dashboard.Actions
import ClusterDashboard.Proofs.Dashboard.Drafts
import ClusterDashboard.Proofs.Kubectl.Arguments
/-!
# Actions hit the selected row

What a key has kubectl do is done to the row that is selected among those that pass the filter, and
to nothing else. The target holds the namespace only where the kind has one, the calls for pods are
asked for on the pods page only, and on the discovery listing there is nothing to ask for.
-/
namespace ClusterDashboard

open Kubectl (Verb)

/-- What kubectl is asked to do, and with which target. -/
def Effect.call? : Effect → Option (Verb × Target)
  | .none => Option.none
  | .loadDetail verb target => some (.ofDetail verb, target)
  | .followLogs target => some (.logs, target)
  | .edit target => some (.edit, target)
  | .shell target => some (.shell, target)
  | .delete target => some (.delete, target)

/-- What an action asks for on a page that lists the kind; a deletion takes a question first. -/
def Action.verb? (kind : PageKind) : Action → Option Verb
  | .showYaml => some .yaml
  | .describe => some .describe
  | .openRow => if kind = .apiResources then none else some .describe
  | .edit => some .edit
  | .logs => if kind = .builtin .pods then some .logs else none
  | .shell => if kind = .builtin .pods then some .shell else none
  | _ => none

/-- What a row stands for on a page that lists the kind. -/
def Row.target (kind : PageKind) (row : Row) : Target where
  resource := kind.token
  space := if kind.namespaced then row.space else none
  name := row.name

theorem Target.ofRow?_eq_some_iff {kind : PageKind} {row : Row} {target : Target} :
    ofRow? kind row = some target ↔ kind ≠ .apiResources ∧ target = row.target kind := by
  cases kind with
  | apiResources => exact ⟨nofun, fun h => absurd rfl h.1⟩
  | builtin | discovered =>
    rw [and_iff_right nofun, eq_comm]
    exact Option.some_inj

/-- What is typed asks for nothing. -/
theorem Action.verb?_of_inputAction {key : Key} {action : Action}
    (h : key.inputAction? = some action) (kind : PageKind) : action.verb? kind = none := by
  have typing := Key.inputAction?_typing h
  cases action with
  | submitInput | cancelInput | backspace | inputChar => rfl
  | _ => cases typing

/-- What answers a question asks for nothing else. -/
theorem Action.verb?_of_confirmAction {key : Key} {action : Action}
    (h : key.confirmAction? = some action) (kind : PageKind) : action.verb? kind = none := by
  rw [Key.confirmAction?] at h
  split at h <;> cases h <;> rfl

theorem Key.normalAction?_ne_confirmYes (key : Key) : key.normalAction? ≠ some .confirmYes := by
  unfold Key.normalAction?
  split
  · split <;> simp
  · split <;> simp

namespace Dashboard

variable {S J : Type} {d : Dashboard S J} {verb : Verb} {target : Target} {action : Action}
  {key : Key}

/-- The row at the selected place among those that pass the filter of the page in view. -/
def selectedRow? (d : Dashboard S J) : Option Row :=
  (d.page.view.rows.filter (Row.passes d.page.view.filter))[d.page.view.selected]?

/-- The target is made of the selected row. -/
def Selects (d : Dashboard S J) (target : Target) : Prop :=
  ∃ row, d.selectedRow? = some row ∧ d.page.kind ≠ .apiResources ∧ target = row.target d.page.kind

/-- In normal mode the key means an action that asks for the verb. -/
def Asks (d : Dashboard S J) (key : Key) (verb : Verb) : Prop :=
  d.mode = .normal ∧
    ∃ action, key.normalAction? = some action ∧ action.verb? d.page.kind = some verb

/-- Where nothing is done, nothing is asked for. -/
theorem idle_iff {P : Prop} :
    Effect.none.call? = some (verb, target) ↔ (none : Option Verb) = some verb ∧ P := by
  simp [Effect.call?]

theorem selectedTarget_iff : d.selectedTarget.2 = some target ↔ d.Selects target := by
  have same : d.page.view.selectedRow? = d.selectedRow? := rfl
  rw [selectedTarget, Selects, same]
  cases hr : d.selectedRow? with
  | none => simp
  | some row =>
    simp only [Option.some.injEq, exists_eq_left', ← Target.ofRow?_eq_some_iff]
    cases Target.ofRow? d.page.kind row <;> simp

theorem selectedPod_iff :
    d.selectedPod.2 = some target ↔ d.page.kind = .builtin .pods ∧ d.Selects target := by
  have pods : d.page.kind.builtin? = some .pods ↔ d.page.kind = .builtin .pods := by
    cases d.page.kind <;> simp [PageKind.builtin?]
  rw [selectedPod, ← pods]
  split
  · next listed => rw [selectedTarget_iff, and_iff_right listed]
  · next other => simp [other]

/-- What is asked for with a target that was found, if one was. -/
theorem call_iff {found : Dashboard S J × Option Target}
    {act : Dashboard S J → Target → Dashboard S J} {effect : Target → Effect} {asked : Verb}
    (asks : ∀ target, (effect target).call? = some (asked, target)) :
    (match found with
      | (e, some target) => (act e target, effect target)
      | (e, none) => (e, .none)).2.call? = some (verb, target) ↔
        asked = verb ∧ found.2 = some target := by
  obtain ⟨e, none | there⟩ := found
  · simp [Effect.call?]
  · simp [asks]

theorem loadDetail_call (asked : DetailVerb) :
    (d.loadDetail asked).2.call? = some (verb, target) ↔
      Verb.ofDetail asked = verb ∧ d.Selects target := by
  rw [← selectedTarget_iff]
  exact call_iff fun _ => rfl

theorem openRow_call : d.openRow.2.call? = some (verb, target) ↔
    Action.verb? d.page.kind .openRow = some verb ∧ d.Selects target := by
  rw [openRow, Action.verb?]
  by_cases listing : d.page.kind = .apiResources
  · rw [if_neg (not_not_intro listing), if_pos listing]
    split
    · exact idle_iff
    · split <;> exact idle_iff
  · rw [if_pos listing, if_neg listing, loadDetail_call, Option.some_inj]
    rfl

theorem podsOnly_iff {asked : Verb} :
    (if d.page.kind = .builtin .pods then some asked else none) = some verb ∧ d.Selects target ↔
      asked = verb ∧ d.selectedPod.2 = some target := by
  rw [selectedPod_iff]
  by_cases pods : d.page.kind = .builtin .pods
  · rw [if_pos pods, Option.some_inj, and_iff_right pods]
  · simp [pods]

/-- What an action has kubectl do is what it asks for, with the target that is selected; but for the
answer to a question. -/
theorem dispatch_call (undeleted : verb ≠ .delete) :
    (d.dispatch action).2.call? = some (verb, target) ↔
      action.verb? d.page.kind = some verb ∧ d.Selects target := by
  cases action with
  | openRow => exact openRow_call
  | showYaml | describe =>
    rw [dispatch, loadDetail_call, Action.verb?, Option.some_inj]
    rfl
  | edit =>
    rw [Action.verb?, Option.some_inj, ← selectedTarget_iff]
    exact call_iff fun _ => rfl
  | logs =>
    rw [Action.verb?, podsOnly_iff]
    exact call_iff fun _ => rfl
  | shell =>
    rw [Action.verb?, podsOnly_iff]
    exact call_iff fun _ => rfl
  | confirmYes =>
    rw [dispatch, confirmYes]
    cases d.pendingDelete with
    | none => exact idle_iff
    | some waiting =>
      have other : Verb.delete ≠ verb := fun same => undeleted same.symm
      simp [Effect.call?, Action.verb?, other]
  | _ => exact idle_iff

theorem asks_iff (meant : key.action? d.mode = some action) :
    d.Asks key verb ↔ action.verb? d.page.kind = some verb := by
  have nothing (unasked : action.verb? d.page.kind = none) (other : d.mode ≠ .normal) :
      d.Asks key verb ↔ action.verb? d.page.kind = some verb := by
    rw [unasked]
    exact iff_of_false (fun asks => other asks.1) (by simp)
  cases hm : d.mode with
  | normal =>
    rw [hm] at meant
    constructor
    · rintro ⟨-, other, means, asks⟩
      obtain rfl : action = other := Option.some.inj (meant.symm.trans means)
      exact asks
    · intro asks
      exact ⟨hm, action, meant, asks⟩
  | search | command =>
    rw [hm] at meant
    exact nothing (Action.verb?_of_inputAction meant _) (by rw [hm]; nofun)
  | confirm =>
    rw [hm] at meant
    exact nothing (Action.verb?_of_confirmAction meant _) (by rw [hm]; nofun)

theorem press_call (undeleted : verb ≠ .delete) :
    (d.press key).2.call? = some (verb, target) ↔ d.Asks key verb ∧ d.Selects target := by
  cases meant : key.action? d.mode with
  | none =>
    have idle : d.press key = (d, .none) := by rw [press, meant]
    have unasked : ¬d.Asks key verb := by
      rintro ⟨normal, action, means, -⟩
      rw [normal] at meant
      cases meant.symm.trans means
    rw [idle]
    exact iff_of_false (by simp [Effect.call?]) fun asked => unasked asked.1
  | some action =>
    have acts : d.press key = d.act action := by rw [press, meant]
    rw [acts, asks_iff meant]
    exact dispatch_call undeleted

/-- What a key has kubectl do is done to the selected row, as it is listed. -/
structure HitsSelected (d : Dashboard S J) (key : Key) : Prop where
  made : ∀ verb target, verb ≠ .delete →
    ((d.press key).2.call? = some (verb, target) ↔ d.Asks key verb ∧ d.Selects target)
  undeleted : d.mode = .normal → ∀ target, (d.press key).2 ≠ .delete target
  pods : ∀ verb target, (d.press key).2.call? = some (verb, target) → verb.podsOnly = true →
    d.page.kind = .builtin .pods
  refused : ∀ verb target, (d.press key).2.call? = some (verb, target) → ∀ e,
    (verb.arguments target = .error e ↔ verb.podsOnly = true ∧
      ∃ row, d.selectedRow? = some row ∧ row.space = none ∧ e = .noNamespace row.name)
  barred : d.page.kind = .apiResources ∨ d.page.view.visibleRows = [] →
    ∀ verb target, (d.press key).2.call? = some (verb, target) → verb = .delete

theorem Asks.pods (h : d.Asks key verb) (podsOnly : verb.podsOnly = true) :
    d.page.kind = .builtin .pods := by
  obtain ⟨-, action, -, asks⟩ := h
  have guarded {asked : Verb}
      (hv : (if d.page.kind = .builtin .pods then some asked else none) = some verb) :
      d.page.kind = .builtin .pods := by
    split at hv
    · next listed => exact listed
    · cases hv
  cases action with
  | logs | shell => exact guarded asks
  | openRow =>
    rw [Action.verb?] at asks
    split at asks <;> cases asks
    cases podsOnly
  | showYaml | describe | edit =>
    cases asks
    cases podsOnly
  | _ => cases asks

/-- The calls for pods are refused for want of a namespace only. -/
theorem Selects.refused (h : d.Selects target) (pods : d.page.kind = .builtin .pods)
    (e : Target.PodError) : target.podSpace = .error e ↔
      ∃ row, d.selectedRow? = some row ∧ row.space = none ∧ e = .noNamespace row.name := by
  obtain ⟨row, selected, -, rfl⟩ := h
  have space : (row.target d.page.kind).space = row.space := by rw [pods]; rfl
  have resource : (row.target d.page.kind).resource = BuiltinKind.pods.token := by rw [pods]; rfl
  have other : ¬(row.target d.page.kind).resource ≠ BuiltinKind.pods.token :=
    not_not_intro resource
  rw [Target.podSpace_error_iff, space, selected, eq_false other, false_and, false_or,
    and_iff_right resource]
  simp only [Option.some.injEq, exists_eq_left']
  rfl

/-- Two calls with the same arguments are one; and whatever the dashboard shows, a key has kubectl
do just what it asks for, to the target that the selected row of the page in view stands for. -/
theorem actions_hit_selected :
    (∀ (verb other : Verb) (target twin : Target) (words : List String),
      verb.arguments target = .ok words → other.arguments twin = .ok words →
        verb = other ∧ target = twin) ∧
      ∀ (d : Dashboard S J) (key : Key), d.HitsSelected key := by
  refine ⟨fun verb other target twin words => Verb.arguments_injective, fun d key => ?_⟩
  have asked {verb : Verb} {target : Target} (undeleted : verb ≠ .delete)
      (call : (d.press key).2.call? = some (verb, target)) :
      d.Asks key verb ∧ d.Selects target := (press_call undeleted).mp call
  have pods {verb : Verb} {target : Target} (call : (d.press key).2.call? = some (verb, target))
      (podsOnly : verb.podsOnly = true) :
      d.page.kind = .builtin .pods ∧ d.Selects target := by
    have undeleted : verb ≠ .delete := by
      rintro rfl
      cases podsOnly
    obtain ⟨asks, selects⟩ := asked undeleted call
    exact ⟨asks.pods podsOnly, selects⟩
  refine ⟨fun verb target => press_call, ?_,
    fun verb target call podsOnly => (pods call podsOnly).1, fun verb target call e => ?_,
    fun bars verb target call => ?_⟩
  · intro normal target deletes
    have answers := (press_delete deletes).1
    rw [normal] at answers
    exact Key.normalAction?_ne_confirmYes key answers
  · rw [Verb.arguments_error_iff]
    refine and_congr_right fun podsOnly => ?_
    obtain ⟨listed, selects⟩ := pods call podsOnly
    exact selects.refused listed e
  · refine Decidable.byContradiction fun undeleted => ?_
    obtain ⟨-, row, selected, other, -⟩ := asked undeleted call
    rcases bars with listing | empty
    · exact other listing
    · have nothing : d.selectedRow? = none := by
        rw [selectedRow?]
        exact congrArg (·[d.page.view.selected]?) empty
      rw [nothing] at selected
      cases selected

/-- Of the three pods two pass the filter, and of the second of them no namespace is known. -/
def searching : List (Step TableSource) :=
  [.background (.edit 0 fun page => page.onView (·.setRows ["NAME"]
      [⟨"web", some "default", []⟩, ⟨"db-0", some "data", []⟩, ⟨"db-1", none, []⟩] ⟨12, 0, 0⟩)),
    .act .startSearch, .act (.inputChar 'D'), .act (.inputChar 'b'), .act .submitInput]

theorem actions_hit_selected_behind_filter :
    ∃ start : Dashboard TableSource (Except Failure TableView),
      start? {} [] .all "kind" "kind" {} = some start ∧
      Step.ValidTrace TableSource.backend start searching ∧
      let d := Step.runTrace TableSource.backend start searching
      let e := (d.press { code := .char 'j' }).1
      let first : Target := ⟨"pods", some "data", "db-0"⟩
      let second : Target := ⟨"pods", none, "db-1"⟩
      (d.press { code := .char 'l' }).2 = .followLogs first ∧ d.Selects first ∧
        (∀ (verb : Verb) target, verb.arguments target = Verb.logs.arguments first →
          verb = .logs ∧ target = first) ∧
        (e.press { code := .char 's' }).2 = .shell second ∧ e.Selects second ∧
        Verb.shell.arguments second = .error (.noNamespace "db-1") := by
  have opened : start? {} [] .all "kind" "kind" {} =
    some (_ : Dashboard TableSource (Except Failure TableView)) := rfl
  refine ⟨_, opened, by decide, ?_⟩
  intro d e first second
  obtain ⟨distinct, hits⟩ := actions_hit_selected (S := TableSource)
    (J := Except Failure TableView)
  have follows : (d.press { code := .char 'l' }).2 = .followLogs first := by decide +kernel
  have opens : (e.press { code := .char 's' }).2 = .shell second := by decide +kernel
  have logs : (d.press { code := .char 'l' }).2.call? = some (.logs, first) := by rw [follows]; rfl
  have shell : (e.press { code := .char 's' }).2.call? = some (.shell, second) := by rw [opens]; rfl
  have hit := ((hits d { code := .char 'l' }).made .logs first (by decide)).mp logs
  have hit' := ((hits e { code := .char 's' }).made .shell second (by decide)).mp shell
  have refused := ((hits e { code := .char 's' }).refused .shell second shell _).mpr
    ⟨rfl, ⟨"db-1", none, []⟩, by decide +kernel, rfl, rfl⟩
  exact ⟨follows, hit.2, fun verb target same => distinct _ _ _ _ _ same rfl, opens, hit'.2,
    refused⟩

end Dashboard
end ClusterDashboard
