import ClusterDashboard.Kubectl.Target
/-!
# Arguments tell what is asked for

The argument list of a call begins with a word of its own for each verb and tells the target apart
from all others. Two of the verbs are for pods only, and those can be refused.
-/
namespace ClusterDashboard

namespace Target

variable {t u : Target} {space : String} {e : PodError}

theorem arguments_injective (h : t.arguments = u.arguments) : t = u := by
  obtain ⟨resource, space, name⟩ := t
  obtain ⟨resource', space', name'⟩ := u
  -- with a namespace the list is two words longer
  cases space <;> cases space' <;> simp_all [arguments]

theorem podSpace_ok_iff :
    t.podSpace = .ok space ↔ t.resource = BuiltinKind.pods.token ∧ t.space = some space := by
  rw [podSpace]
  split
  · next other => simp [other]
  · next pod =>
    have pod := Decidable.not_not.mp pod
    cases t.space <;> simp [pod]

/-- A call on pods is refused for another resource, and for a pod of which no namespace is known. -/
theorem podSpace_error_iff : t.podSpace = .error e ↔
    t.resource ≠ BuiltinKind.pods.token ∧ e = .notAPod t.resource ∨
      t.resource = BuiltinKind.pods.token ∧ t.space = none ∧ e = .noNamespace t.name := by
  rw [podSpace]
  split
  · next other => simp [other, eq_comm]
  · next pod =>
    have pod := Decidable.not_not.mp pod
    cases t.space <;> simp [pod, eq_comm]

/-- The namespace and the name are all there is to tell pods apart. -/
theorem eq_of_podSpace (ht : t.podSpace = .ok space) (hu : u.podSpace = .ok space)
    (name : t.name = u.name) : t = u := by
  obtain ⟨resource, known⟩ := podSpace_ok_iff.mp ht
  obtain ⟨resource', known'⟩ := podSpace_ok_iff.mp hu
  obtain ⟨_, _, _⟩ := t
  obtain ⟨_, _, _⟩ := u
  simp_all

end Target

namespace Kubectl

/-- What kubectl is asked to do with a target. -/
inductive Verb where
  | yaml
  | describe
  | delete
  | edit
  | logs
  | shell
  deriving DecidableEq, Repr

namespace Verb

variable {verb other : Verb} {t u : Target} {words : List String} {e : Target.PodError}

def arguments : Verb → Target → Except Target.PodError (List String)
  | .yaml, t => .ok (detailArguments .yaml t)
  | .describe, t => .ok (detailArguments .describe t)
  | .delete, t => .ok (deleteArguments t)
  | .edit, t => .ok (editArguments t)
  | .logs, t => logsArguments t
  | .shell, t => shellArguments t

/-- The verbs whose output is shown in a detail. -/
def ofDetail : DetailVerb → Verb
  | .yaml => .yaml
  | .describe => .describe

/-- The call is one that works on pods only. -/
def podsOnly : Verb → Bool
  | .logs | .shell => true
  | .yaml | .describe | .delete | .edit => false

/-- The word of kubectl's own. -/
def word : Verb → String
  | .yaml => "get"
  | .describe => "describe"
  | .delete => "delete"
  | .edit => "edit"
  | .logs => "logs"
  | .shell => "exec"

theorem word_injective (h : verb.word = other.word) : verb = other := by
  cases verb <;> cases other <;> first | rfl | exact absurd h (by decide)

/-- A call on pods is made when the namespace is known, and for that and the name only. -/
theorem podCall_ok_iff {call : String → List String} :
    (do let space ← t.podSpace; return call space : Except Target.PodError (List String)) =
        .ok words ↔ ∃ space, t.podSpace = .ok space ∧ call space = words := by
  cases t.podSpace with
  | error e => exact ⟨nofun, nofun⟩
  | ok space =>
    constructor
    · intro made
      exact ⟨space, rfl, Except.ok.inj made⟩
    · rintro ⟨same, hs, rfl⟩
      rw [Except.ok.inj hs]
      rfl

theorem podCall_error_iff {call : String → List String} :
    (do let space ← t.podSpace; return call space : Except Target.PodError (List String)) =
        .error e ↔ t.podSpace = .error e := by
  cases t.podSpace with
  | error refusal =>
    constructor
    · intro refused
      rw [Except.error.inj refused]
    · intro refused
      rw [Except.error.inj refused]
      rfl
  | ok space => exact ⟨nofun, nofun⟩

theorem head_arguments (h : verb.arguments t = .ok words) : words.head? = some verb.word := by
  cases verb with
  | yaml | describe | delete | edit =>
    obtain rfl := Except.ok.inj h
    rfl
  | logs | shell =>
    obtain ⟨space, -, rfl⟩ := podCall_ok_iff.mp h
    rfl

theorem target_of_arguments (ht : verb.arguments t = .ok words)
    (hu : verb.arguments u = .ok words) : t = u := by
  cases verb with
  | yaml =>
    have same := (Except.ok.inj ht).trans (Except.ok.inj hu).symm
    exact Target.arguments_injective (List.append_cancel_right (List.cons.inj same).2)
  | describe | delete | edit =>
    have same := (Except.ok.inj ht).trans (Except.ok.inj hu).symm
    exact Target.arguments_injective (List.cons.inj same).2
  | logs | shell =>
    obtain ⟨space, spaced, made⟩ := podCall_ok_iff.mp ht
    obtain ⟨space', spaced', rfl⟩ := podCall_ok_iff.mp hu
    simp only [List.cons.injEq, true_and, and_true] at made
    obtain ⟨rfl, name⟩ := made
    exact Target.eq_of_podSpace spaced spaced' name

/-- Two calls with the same arguments are one. -/
theorem arguments_injective (h : verb.arguments t = .ok words)
    (k : other.arguments u = .ok words) : verb = other ∧ t = u := by
  have same : verb = other :=
    word_injective (Option.some.inj ((head_arguments h).symm.trans (head_arguments k)))
  subst same
  exact ⟨rfl, target_of_arguments h k⟩

/-- Only a call on pods is ever refused. -/
theorem arguments_error_iff :
    verb.arguments t = .error e ↔ verb.podsOnly = true ∧ t.podSpace = .error e := by
  cases verb with
  | yaml | describe | delete | edit => exact ⟨nofun, nofun⟩
  | logs | shell =>
    exact podCall_error_iff.trans (and_iff_right rfl).symm

end Verb
end Kubectl
end ClusterDashboard
