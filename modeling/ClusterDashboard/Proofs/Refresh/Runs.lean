import ClusterDashboard.Proofs.Navigation.Stock
import ClusterDashboard.Proofs.Trace
import ClusterDashboard.Refresh.Session
/-!
# Runs of a session

An event is one thing that happens to a session: an operation of the navigator, a request, one
turn of one background task, or something in the world around it. Tasks take their turns in any
order, woken or not. Refreshes are counted by a backend that keeps a log of those it starts and
is otherwise the backend it stands for.
-/
namespace ClusterDashboard

theorem Factory.views_yields {P : Type} (f : Factory P) :
    f.views.Yields fun v => v.channel = {} := by
  constructor
  · intro name v hv
    obtain ⟨page, -, rfl⟩ := Option.map_eq_some_iff.mp hv
    rfl
  · intro position v hv
    exact hv

/-- The same operation on pages that have refresh channels. -/
def Navigator.Operation.views {P : Type} : Operation P → Operation (View P)
  | .switchPage f name layer => .switchPage f.views name layer
  | .navigate f name => .navigate f.views name
  | .goBack f => .goBack f.views
  | .showMenu => .showMenu
  | .hideMenu => .hideMenu
  | .dismissOverlay => .dismissOverlay
  | .reload f => .reload f.views
  | .recordPosition page position => .recordPosition page position

theorem Navigator.Operation.views_yields {P : Type} (op : Operation P) :
    op.views.Yields fun v => v.channel = {} := by
  cases op <;> first | exact Factory.views_yields _ | trivial

theorem Navigator.Operation.views_isReload {P : Type} (op : Operation P) :
    op.views.isReload = op.isReload := by
  cases op <;> rfl

/-- The refreshes that were started, by loop and page, oldest first. -/
abbrev StartLog := List (LoopId × ViewId)

def Backend.logged {S P J : Type} (b : Backend S P J) : Backend (S × StartLog) P J where
  name := b.name
  start source id view page :=
    let (s, page, job, parked) := b.start source.1 id view page
    ((s, source.2 ++ [(id, view)]), page, job, parked)
  complete := b.complete

namespace Session

variable {S P J : Type} {b : Backend S P J} {s : Session S P J}

inductive Event (S P : Type) where
  | operate (op : Navigator.Operation P)
  | trigger (view : ViewId)
  | poll (task : Task)
  /-- A refresh that waits gets its answer. -/
  | resume (id : LoopId)
  /-- The source of tables is another. -/
  | supply (source : S)
  /-- A page changes by other ways than a refresh. -/
  | edit (view : ViewId) (change : P → P)
  | attach (view : ViewId)
  | cancel (id : LoopId)
  | shutdown
  | closeEvents
  | takeEvents
  | drop

def Event.navigates : Event S P → Bool
  | .operate _ => true
  | _ => false

/-- A task that takes its turn is no longer waiting for it. -/
def dequeue (task : Task) (s : Session S P J) : Session S P J :=
  { s with ready := s.ready.erase task }

def next (b : Backend S P J) (s : Session S P J) : Event S P → Session S P J
  | .operate op => (s.withNav fun n => (op.views.apply n, ())).1
  | .trigger view => (s.trigger view).1
  | .poll task => poll b task (s.dequeue task)
  | .resume id => s.resume id
  | .supply source => { s with source }
  | .edit view change => s.modifyPage view change
  | .attach view => s.attach view
  | .cancel id => s.cancel id
  | .shutdown => s.shutdown
  | .closeEvents => s.closeEvents
  | .takeEvents => s.takeEvents.1
  | .drop => s.drop

/-- Only a page that has been made can be asked for a refresh or get a loop. -/
def Enabled (s : Session S P J) : Event S P → Prop
  | .trigger view | .attach view => view < s.nav.views.length
  | _ => True

abbrev runTrace (b : Backend S P J) : Session S P J → List (Event S P) → Session S P J :=
  Trace.run (next b)

abbrev ValidTrace (b : Backend S P J) : Session S P J → List (Event S P) → Prop :=
  Trace.Valid Enabled (next b)

instance (s : Session S P J) : (e : Event S P) → Decidable (Enabled s e)
  | .trigger view | .attach view => inferInstanceAs (Decidable (view < s.nav.views.length))
  | .operate _ | .poll _ | .resume _ | .supply _ | .edit _ _ | .cancel _ | .shutdown
  | .closeEvents | .takeEvents | .drop => .isTrue trivial

/-- Background work is made of turns of the tasks. -/
theorem settle_reaches (b : Backend S P J) (s : Session S P J) :
    Trace.Reaches (fun s e => Enabled s e ∧ e.navigates = false) (next b) s (s.settle b) := by
  suffices h : ∀ turns, Trace.Reaches (fun s e => Enabled s e ∧ e.navigates = false) (next b) s
      (run b turns s) from h s.turnBound
  intro turns
  induction turns generalizing s with
  | zero => exact .refl s
  | succ turns ih =>
    unfold run
    cases hr : s.ready with
    | nil => exact .refl s
    | cons task rest =>
      have hn : next b s (.poll task) = poll b task { s with ready := rest } := by
        simp [next, dequeue, hr]
      have ht : Trace.Reaches (fun s e => Enabled s e ∧ e.navigates = false) (next b) s
          (next b s (.poll task)) := .step ⟨trivial, rfl⟩
      exact (hn ▸ ht).trans (ih _)

/-- The session with a log beside its source. -/
def logging (log : StartLog) (s : Session S P J) : Session (S × StartLog) P J :=
  { s with source := (s.source, log) }

/-- The refreshes that an event begins: those that a logging backend is asked to start. -/
def begun (b : Backend S P J) (s : Session S P J) : Event S P → StartLog
  | .poll task => (poll b.logged task ((s.dequeue task).logging [])).source.2
  | _ => []

abbrev begunAlong (b : Backend S P J) : Session S P J → List (Event S P) → StartLog :=
  Trace.gather (begun b) (next b)

end Session
end ClusterDashboard
