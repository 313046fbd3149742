import ClusterDashboard.Refresh.Session
/-!
A gate at which refreshes wait for a release, and pages that do nothing but count their
refreshes, for rehearsing navigation without a cluster.
-/
namespace ClusterDashboard

/-- A release nobody waits for is kept, at most one. -/
structure Gate where
  permit : Bool := false
  waiting : List LoopId := []
  deriving DecidableEq, Repr

namespace Gate

/-- True when the loop has to wait. -/
def arrive (gate : Gate) (id : LoopId) : Gate × Bool :=
  if gate.permit then ({ gate with permit := false }, false)
  else ({ gate with waiting := gate.waiting ++ [id] }, true)

def release (gate : Gate) : Gate × Option LoopId :=
  match gate.waiting with
  | [] => ({ gate with permit := true }, none)
  | id :: rest => ({ gate with waiting := rest }, some id)

end Gate

/-- Gates by name; one that was never used is closed and empty. -/
abbrev Gates (κ : Type) := Keyed κ Gate

namespace Gates

variable {κ : Type} [DecidableEq κ]

def gate (gates : Gates κ) (key : κ) : Gate := (gates.get? key).getD {}

def arrive (gates : Gates κ) (key : κ) (id : LoopId) : Gates κ × Bool :=
  let (gate, parked) := (gates.gate key).arrive id
  (gates.put key gate, parked)

def release (gates : Gates κ) (key : κ) : Gates κ × Option LoopId :=
  let (gate, id) := (gates.gate key).release
  (gates.put key gate, id)

end Gates

structure CountedPage where
  name : String
  refreshes : Nat := 0
  gated : Bool := false
  failing : Bool := false
  restored : Option Position := none
  deriving DecidableEq, Repr

namespace CountedPage

def unavailable (name : String) : String := "refreshing " ++ name ++ ": backend unavailable"

/-- A refresh is counted when it begins and fails, if it does, when it ends. -/
def backend : Backend (Gates ViewId) CountedPage Unit where
  name := CountedPage.name
  start gates id view page :=
    let page := { page with refreshes := page.refreshes + 1 }
    if page.gated then
      let (gates, parked) := gates.arrive view id
      (gates, page, (), parked)
    else (gates, page, (), false)
  complete page _ := (page, if page.failing then some (unavailable page.name) else none)

/-- Makes a page for every name but the refused ones. -/
def factory (refused : List String) : Factory CountedPage where
  make name := if name ∈ refused then none else some { name }
  restore position page := { page with restored := some position }

end CountedPage

abbrev Rehearsal := Session (Gates ViewId) CountedPage Unit

namespace Rehearsal

def release (view : ViewId) (s : Rehearsal) : Rehearsal :=
  let (source, id) := Gates.release s.source view
  let s := { s with source }
  match id with
  | some id => s.resume id
  | none => s

end Rehearsal
end ClusterDashboard
