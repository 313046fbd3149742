import ClusterDashboard.Refresh.Loop
/-!
Navigation and refreshing together: the navigator, the refresh loops, the loop attached to the
visible page, and the queue of background tasks that are ready to run. `poll` is one turn of one
task; a task that has nothing to do is left as it is, so polling may happen at any time. `settle`
takes the turns in the order in which the tasks became ready.
-/
namespace ClusterDashboard

structure Session (S P J : Type) where
  nav : Navigator (View P)
  source : S
  /-- The navigator is still in use. -/
  inUse : Bool := true
  /-- The task that follows page switches has not ended. -/
  watching : Bool := true
  loops : List (Loop J) := []
  active : Option LoopId := none
  /-- Somebody still receives refresh events. -/
  listening : Bool := true
  events : List RefreshEvent := []
  ready : List Task := []

namespace Session

variable {S P J : Type}

def wake (task : Task) (s : Session S P J) : Session S P J :=
  if task ∈ s.ready then s else { s with ready := s.ready ++ [task] }

def channel (s : Session S P J) (view : ViewId) : Channel :=
  (s.nav.views[view]?.map (·.channel)).getD {}

def modifyChannel (view : ViewId) (change : Channel → Channel) (s : Session S P J) :
    Session S P J :=
  { s with nav := s.nav.modifyView view fun v => { v with channel := change v.channel } }

def modifyPage (view : ViewId) (change : P → P) (s : Session S P J) : Session S P J :=
  { s with nav := s.nav.modifyView view fun v => { v with page := change v.page } }

def modifyLoop (id : LoopId) (change : Loop J → Loop J) (s : Session S P J) : Session S P J :=
  { s with loops := s.loops.modify id change }

def setPhase (id : LoopId) (phase : Phase J) (s : Session S P J) : Session S P J :=
  s.modifyLoop id fun l => { l with phase }

def page? (s : Session S P J) (view : ViewId) : Option P := s.nav.views[view]?.map (·.page)

/-- Asks for a refresh; false when one is already asked for. -/
def trigger (view : ViewId) (s : Session S P J) : Session S P J × Bool :=
  let channel := s.channel view
  if channel.pending then (s, false)
  else
    let s := s.modifyChannel view fun c => { c with pending := true }
    let listener := channel.holder.filter fun id =>
      (s.loops[id]?.map (·.phase.isListening)).getD false
    match listener with
    | some id => (s.wake (.loop id), true)
    | none => (s, true)

def cancel (id : LoopId) (s : Session S P J) : Session S P J :=
  let wakes := (s.loops[id]?.map (·.phase.wakesOnCancel)).getD false
  let s := s.modifyLoop id fun l => { l with cancelled := true }
  if wakes then s.wake (.loop id) else s

/-- Cancels the attached loop, if any. -/
def shutdown (s : Session S P J) : Session S P J :=
  match s.active with
  | some id => { s.cancel id with active := none }
  | none => s

/-- Retires the attached loop and attaches a new one to the view. -/
def attach (view : ViewId) (s : Session S P J) : Session S P J :=
  let s := s.shutdown
  let id := s.loops.length
  wake (.loop id) { s with loops := s.loops ++ [{ view }], active := some id }

/-- Gives up the receiver, or the place in the queue for it. -/
def leaveChannel (id : LoopId) (view : ViewId) (s : Session S P J) : Session S P J :=
  let channel := s.channel view
  if channel.holder = some id then
    match channel.waiting with
    | [] => s.modifyChannel view fun c => { c with holder := none }
    | next :: rest =>
      wake (.loop next)
        (s.modifyChannel view fun c => { c with holder := some next, waiting := rest })
  else s.modifyChannel view fun c => { c with waiting := c.waiting.erase id }

def endLoop (id : LoopId) (view : ViewId) (s : Session S P J) : Session S P J :=
  (s.setPhase id .ended).leaveChannel id view

def isCancelled (s : Session S P J) (id : LoopId) : Bool :=
  (s.loops[id]?.map (·.cancelled)).getD true

/-- The answer of a refresh is taken into the page. A loop cancelled meanwhile says nothing of it
and ends, and so does one whose event nobody receives. -/
def conclude (b : Backend S P J) (id : LoopId) (view : ViewId) (job : J) (s : Session S P J) :
    Session S P J :=
  match s.page? view with
  | none => s.endLoop id view
  | some page =>
    let (page, error) := b.complete page job
    let s := s.modifyPage view fun _ => page
    if s.isCancelled id || !s.listening then s.endLoop id view
    else
      let event := match error with
        | none => RefreshEvent.rendered (b.name page)
        | some text => .failed (b.name page) text
      { s.setPhase id .listening with events := s.events ++ [event] }

/-- The turn of a loop that holds the receiver: cancellation first, then a request. -/
def listen (b : Backend S P J) (id : LoopId) (view : ViewId) (s : Session S P J) :
    Session S P J :=
  if s.isCancelled id then s.endLoop id view
  else if !(s.channel view).pending then s.setPhase id .listening
  else
    match s.page? view with
    | none => s.endLoop id view
    | some page =>
      let s := s.modifyChannel view fun c => { c with pending := false }
      let (source, page, job, parked) := b.start s.source id view page
      let s := { s.modifyPage view (fun _ => page) with source }
      if parked then s.setPhase id (.refreshing job true)
      else s.conclude b id view job

def hasEnded (s : Session S P J) (id : LoopId) : Bool :=
  (s.loops[id]?.map (·.phase.isEnded)).getD true

def pollLoop (b : Backend S P J) (id : LoopId) (s : Session S P J) : Session S P J :=
  match s.loops[id]? with
  | none => s
  | some l =>
    match l.phase with
    | .ended | .refreshing _ true => s
    | .listening => s.listen b id l.view
    | .starting =>
      if l.cancelled then s.endLoop id l.view
      else if (s.channel l.view).holder = none then
        (s.modifyChannel l.view fun c => { c with holder := some id }).listen b id l.view
      else
        (s.modifyChannel l.view fun c =>
          { c with waiting := c.waiting ++ [id] }).setPhase id .queued
    | .queued =>
      if l.cancelled then s.endLoop id l.view
      else if (s.channel l.view).holder = some id then s.listen b id l.view
      else s
    | .refreshing job false =>
      let s := s.conclude b id l.view job
      if s.hasEnded id then s else s.listen b id l.view

/-- A notice counts only if it still names the current page. -/
def follow (page : String) (s : Session S P J) : Session S P J :=
  if s.nav.current = page then s.attach s.nav.currentView else s

/-- Reads all notices; once the navigator is gone, detaches and ends. -/
def pollWatcher (s : Session S P J) : Session S P J :=
  if !s.watching then s
  else if !s.inUse then { s.shutdown with watching := false }
  else
    let notices := s.nav.notices
    notices.foldl (fun s page => s.follow page) { s with nav := { s.nav with notices := [] } }

def poll (b : Backend S P J) (task : Task) (s : Session S P J) : Session S P J :=
  match task with
  | .watcher => s.pollWatcher
  | .loop id => s.pollLoop b id

/-- Does something to the navigator and wakes the watcher if that left notices to read. -/
def withNav {α : Type} (act : Navigator (View P) → Navigator (View P) × α) (s : Session S P J) :
    Session S P J × α :=
  let (nav, result) := act s.nav
  let s := { s with nav }
  (if nav.notices.isEmpty then s else s.wake .watcher, result)

/-- Lets a parked refresh go on. -/
def resume (id : LoopId) (s : Session S P J) : Session S P J :=
  wake (.loop id) <| s.modifyLoop id fun l =>
    match l.phase with
    | .refreshing job _ => { l with phase := .refreshing job false }
    | _ => l

/-- The last user of the navigator is gone. -/
def drop (s : Session S P J) : Session S P J := wake .watcher { s with inUse := false }

def closeEvents (s : Session S P J) : Session S P J := { s with listening := false, events := [] }

/-- Hands over the events so far. -/
def takeEvents (s : Session S P J) : Session S P J × List RefreshEvent :=
  ({ s with events := [] }, s.events)

def liveLoops (s : Session S P J) : Nat := (s.loops.filter (!·.phase.isEnded)).length

def activePage? (b : Backend S P J) (s : Session S P J) : Option String := do
  let id ← s.active
  let l ← s.loops[id]?
  return b.name (← s.page? l.view)

/-- No more turns than this are left until every task waits: a notice leads to one cancelled loop
and one new one, and a loop that ends wakes at most one other. -/
def turnBound (s : Session S P J) : Nat :=
  s.ready.length + 2 * s.liveLoops + 4 * s.nav.notices.length + 2

def run (b : Backend S P J) : Nat → Session S P J → Session S P J
  | 0, s => s
  | turns + 1, s =>
    match s.ready with
    | [] => s
    | task :: rest => run b turns (poll b task { s with ready := rest })

/-- Runs the background tasks until each of them waits. -/
def settle (b : Backend S P J) (s : Session S P J) : Session S P J := run b s.turnBound s

end Session

/-- Every page starts with an idle channel. -/
def Factory.views {P : Type} (f : Factory P) : Factory (View P) where
  make name := (f.make name).map fun page => { page }
  restore position v := { v with page := f.restore position v.page }

/-- The watcher is ready from the start: the root page has been announced. -/
def Session.start? {S P J : Type} (f : Factory P) (root : String) (source : S) :
    Option (Session S P J) :=
  (Navigator.start? f.views root).map fun nav => { nav, source, ready := [.watcher] }

end ClusterDashboard
