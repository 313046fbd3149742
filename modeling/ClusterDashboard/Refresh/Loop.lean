import ClusterDashboard.Navigation.Navigator
/-!
Refresh loops and what they share with the page they serve. A page's channel holds at most one
outstanding request. Its receiving end belongs to one loop at a time and passes on in the order
in which loops asked for it.
-/
namespace ClusterDashboard

/-- The number of a refresh loop, counted from 0 in the order they were attached. -/
abbrev LoopId := Nat

structure Channel where
  pending : Bool := false
  holder : Option LoopId := none
  waiting : List LoopId := []
  deriving DecidableEq, Repr

/-- A page together with its refresh channel. -/
structure View (P : Type) where
  page : P
  channel : Channel := {}

/-- `J` is a refresh that has begun; `parked` says that it still waits for its answer. -/
inductive Phase (J : Type) where
  | starting
  | queued
  | listening
  | refreshing (job : J) (parked : Bool)
  | ended

structure Loop (J : Type) where
  view : ViewId
  phase : Phase J := .starting
  cancelled : Bool := false

namespace Phase

variable {J : Type}

def isEnded : Phase J → Bool
  | .ended => true
  | _ => false

def isListening : Phase J → Bool
  | .listening => true
  | _ => false

/-- Cancelling wakes a loop that waits for the receiver or for a request, not one that is
refreshing. -/
def wakesOnCancel : Phase J → Bool
  | .queued | .listening => true
  | _ => false

end Phase

inductive RefreshEvent where
  | rendered (page : String)
  | failed (page error : String)
  deriving DecidableEq, Repr

/-- How a page of type `P` is refreshed from a source of type `S`. `start` says at once whether
the refresh has to wait; `complete` gives the error text of a refresh that failed. -/
structure Backend (S P J : Type) where
  name : P → String
  start : S → LoopId → ViewId → P → S × P × J × Bool
  complete : P → J → P × Option String

/-- The background tasks: the one that follows page switches, and the refresh loops. -/
inductive Task where
  | watcher
  | loop (id : LoopId)
  deriving DecidableEq, Repr

end ClusterDashboard
