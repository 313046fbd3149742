import ClusterDashboard.Kubectl.Process
import ClusterDashboard.Text.Basic
/-!
Following a log: a child process writes, and a reader hands on its output line by line and at last
how it ended. The reader reads until the output is closed, or until a line is not UTF-8; then it
waits for the child to end. Stopping is noticed only while it reads, and kills the child.
-/
namespace ClusterDashboard.Kubectl

inductive Feed where
  | line (text : String)
  | closed (reason : Option String)
  deriving DecidableEq, Repr

structure Child where
  /-- Written and not yet read. -/
  unread : List UInt8 := []
  writing : Bool := true
  stderr : List UInt8 := []
  ended : Option ExitStatus := none
  deriving DecidableEq, Repr

inductive Reading where
  | lines
  | ending
  | done
  deriving DecidableEq, Repr

structure Follower where
  child : Child := {}
  phase : Reading := .lines
  /-- The part of a line read so far. -/
  fragment : List UInt8 := []
  stopped : Bool := false
  /-- What was handed on, in order. -/
  feeds : List Feed := []
  deriving DecidableEq, Repr

/-- What can happen to a child and its reader. -/
inductive FollowEvent where
  | write (bytes : List UInt8)
  | writeError (bytes : List UInt8)
  | closeOutput
  | exit (status : ExitStatus)
  | stop
  | poll
  deriving DecidableEq, Repr

namespace Follower

def lineFeed : UInt8 := 10
def carriageReturn : UInt8 := 13

def lineOf? (segment : List UInt8) : Option Feed :=
  (Utf8.decode? (Text.dropEnding lineFeed carriageReturn segment)).map .line

def isWhole (segment : List UInt8) : Bool := segment.getLast? = some lineFeed

/-- The feeds of the lines up to the first that is not UTF-8; false if there is such a one. -/
def feedsOf : List (List UInt8) → List Feed × Bool
  | [] => ([], true)
  | segment :: rest =>
    match lineOf? segment with
    | none => ([], false)
    | some feed =>
      let (feeds, good) := feedsOf rest
      (feed :: feeds, good)

/-- Takes what the child has written. A line that is not complete waits for the rest of it, as
long as the child can still write. -/
def readLines (f : Follower) : Follower :=
  let segments := Text.segments lineFeed (f.fragment ++ f.child.unread)
  let whole := if f.child.writing then segments.filter isWhole else segments
  let rest := if f.child.writing then (segments.filter (!isWhole ·)).flatten else []
  let (feeds, good) := feedsOf whole
  { f with
    child := { f.child with unread := [] }
    fragment := if good then rest else []
    phase := if good && f.child.writing then .lines else .ending
    feeds := f.feeds ++ feeds }

/-- Hands on how the child ended, once it has. -/
def awaitEnd (f : Follower) : Follower :=
  match f.child.ended with
  | none => f
  | some status =>
    let reason := if status.succeeded then none else some (exitReason status f.child.stderr)
    { f with phase := .done, feeds := f.feeds ++ [.closed reason] }

def killChild (f : Follower) : Follower :=
  { f with
    phase := .done
    child := { f.child with ended := f.child.ended.or (some .kill), writing := false } }

/-- One turn of the reader, until it has to wait. -/
def poll (f : Follower) : Follower :=
  match f.phase with
  | .done => f
  | .ending => f.awaitEnd
  | .lines =>
    if f.stopped then f.killChild
    else
      let f := f.readLines
      if f.phase = .ending then f.awaitEnd else f

def isDone (f : Follower) : Bool := f.phase == .done

def stop (f : Follower) : Follower := { f with stopped := true }

/-- A child that has ended writes nothing more. -/
def next (f : Follower) : FollowEvent → Follower
  | .write bytes =>
    if f.child.ended.isSome || !f.child.writing then f
    else { f with child := { f.child with unread := f.child.unread ++ bytes } }
  | .writeError bytes =>
    if f.child.ended.isSome then f
    else { f with child := { f.child with stderr := f.child.stderr ++ bytes } }
  | .closeOutput => { f with child := { f.child with writing := false } }
  | .exit status =>
    if f.child.ended.isSome then f
    else { f with child := { f.child with ended := some status, writing := false } }
  | .stop => f.stop
  | .poll => f.poll

def run (f : Follower) (events : List FollowEvent) : Follower := events.foldl next f

/-- All that a program does after it was started. -/
def script (p : Program) : List FollowEvent :=
  [.write p.stdout, .writeError p.stderr] ++
    (match p.ending with
      | some status => [.exit status]
      | none => [])

def start? (p : Program) (arguments : List String) : Except Failure Follower :=
  if p.missing then
    .error [.text ("failed to start kubectl " ++ joined arguments), .text FileError.missing.message]
  else .ok {}

end Follower
end ClusterDashboard.Kubectl
