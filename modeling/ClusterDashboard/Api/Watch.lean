import ClusterDashboard.Api.Listing
import ClusterDashboard.Text.Basic
/-!
Watching the kinds for changes. A watcher lists its kind and then follows the stream of changes
from where the listing ended; it reports that something happened, not what. After an error it
rests for a while and starts over.
-/
namespace ClusterDashboard

/-- Where a watcher goes on. -/
inductive WatchPhase where
  | starting
  | listing (continuation : Option String)
  | following (version : String)
  /-- Nothing will ever come. -/
  | silent
  | resting (due : Nat)
  deriving DecidableEq, Repr

structure Watcher where
  kind : BuiltinKind
  phase : WatchPhase := .starting
  reported : Nat := 0
  deriving DecidableEq, Repr

/-- A line of a stream of changes. -/
inductive Change where
  | object (version : String)
  | bookmark (version : String)
  | error
  deriving DecidableEq, Repr

namespace Change

def versionOf (object : JsonValue) : String :=
  (object.textAt? ["metadata", "resourceVersion"]).getD ""

/-- Bookmarks carry their type and nothing but a version. -/
def bookmarkShape : Shape :=
  .field "apiVersion" true .text (.field "kind" true .text (.field "metadata" true
    (.field "resourceVersion" true .text
      (.field "annotations" false (.dictionary .text) .object)) .object))

/-- A line that cannot be read as a change of the kind is an error. -/
def ofLine (kind : BuiltinKind) (line : String) : Change :=
  match JsonValue.ofText? line with
  | none => .error
  | some value =>
    let object := (Keyed.get? value.entries "object").getD .null
    match value.textAt? ["type"] with
    | some "ADDED" | some "MODIFIED" | some "DELETED" =>
      if kind.shape.accepts object then .object (versionOf object) else .error
    | some "BOOKMARK" =>
      if bookmarkShape.accepts object then .bookmark (versionOf object) else .error
    | _ => .error

end Change

namespace Watcher

/-- The pause after an error. -/
def restMs : Nat := 900

def path (w : Watcher) : String := w.kind.path .all

def report (n : Nat) (w : Watcher) : Watcher := { w with reported := w.reported + n }

def rest (now : Nat) (w : Watcher) : Watcher := { w with phase := .resting (now + restMs) }

/-- Bytes as they stand in a query; letters, digits and some marks stand for themselves. -/
def queryText (text : String) : String :=
  String.join (text.toUTF8.toList.map fun b =>
    let c := Char.ofNat b.toNat
    if c.isAlphanum || c == '*' || c == '-' || c == '.' || c == '_' then String.singleton c
    else if c == ' ' then "+"
    else
      let digit (n : Nat) : Char := (Nat.toDigits 16 n).headD '0' |>.toUpper
      String.ofList ['%', digit (b.toNat / 16), digit (b.toNat % 16)])

def listTarget (w : Watcher) (continuation : Option String) : String :=
  w.path ++ Listing.pageLimit ++
    (match continuation with
      | some token => "&continue=" ++ queryText token
      | none => "")

def streamTarget (w : Watcher) (version : String) : String :=
  w.path ++ "?&watch=true&timeoutSeconds=290&allowWatchBookmarks=true&resourceVersion=" ++
    queryText version

/-- One page of the listing: a report for each object, and after the last page one for the end. -/
def listPage (now : Nat) (continuation : Option String) (w : Watcher) (server : ApiServer) :
    Watcher × ApiServer :=
  let (outcome, server) :=
    (Exchange.get (Schema.listing w.kind.shape) (w.listTarget continuation)).run.run server
  match outcome with
  | .error .silent => ({ w with phase := .silent }, server)
  | .error .failed => (w.rest now, server)
  | .ok listing =>
    let given (name : String) : Option String :=
      (listing.textAt? ["metadata", name]).filter (· ≠ "")
    let count := (Listing.items listing).length
    match given "continue", given "resourceVersion" with
    | some token, _ => ({ w.report count with phase := .listing (some token) }, server)
    | none, some version => ({ w.report (count + 1) with phase := .following version }, server)
    | none, none => (w.rest now, server)

/-- Follows the lines until an error; the version moves along with them. -/
def followLines (now : Nat) (version : String) (w : Watcher) : List String → Watcher
  | [] => { w with phase := .following version }
  | line :: more =>
    match Change.ofLine w.kind line with
    | .error => w.rest now
    | .bookmark version => followLines now version w more
    | .object version =>
      if version = "" then w.rest now else followLines now version (w.report 1) more

/-- A stream that ends is asked for again from where it ended. -/
def follow (now : Nat) (version : String) (w : Watcher) (server : ApiServer) :
    Watcher × ApiServer :=
  let (server, reply) := server.askStream (w.streamTarget version)
  let w := match reply with
    | .silence => { w with phase := .silent }
    | .body status text =>
      if Exchange.succeeded status then
        w.followLines now version ((Text.lines text).filter fun line => Text.trim line ≠ "")
      else w.rest now
    | .lines status lines goesOn =>
      if !Exchange.succeeded status then w.rest now
      else
        let w := w.followLines now version lines
        match w.phase with
        | .following _ => if goesOn then { w with phase := .silent } else w
        | _ => w
  (w, server)

def step (now : Nat) (w : Watcher) (server : ApiServer) : Watcher × ApiServer :=
  match w.phase with
  | .starting => ({ w.report 1 with phase := .listing none }, server)
  | .listing continuation => w.listPage now continuation server
  | .following version => w.follow now version server
  | .resting t => ({ w with phase := if t ≤ now then .starting else .resting t }, server)
  | .silent => (w, server)

/-- Until it waits; streams and pages are used up on the way. -/
def run (now : Nat) : Nat → Watcher → ApiServer → Watcher × ApiServer
  | 0, w, server => (w, server)
  | turns + 1, w, server =>
    let waits := match w.phase with
      | .silent => true
      | .resting t => now < t
      | _ => false
    if waits then (w, server)
    else
      let (w, server) := w.step now server
      run now turns w server

/-- One watcher for every built-in kind. -/
def all : List Watcher := BuiltinKind.all.map fun kind => { kind }

def turnBound (server : ApiServer) : Nat :=
  8 + 2 * ((server.replies ++ server.streams).map fun e => e.2.length).foldr (· + ·) 0

/-- Every watcher goes on until it waits. -/
def settle (now : Nat) (watchers : List Watcher) (server : ApiServer) :
    List Watcher × ApiServer :=
  watchers.foldl
    (fun (done, server) w =>
      let (w, server) := run now (turnBound server) w server
      (done ++ [w], server))
    ([], server)

/-- Starts the watchers and lets them go on after each of so many pauses. -/
def observe (pauses pauseMs : Nat) (server : ApiServer) : List Watcher × ApiServer :=
  (List.range (pauses + 1)).foldl
    (fun (watchers, server) i => settle (i * pauseMs) watchers server)
    (all, server)

end Watcher
end ClusterDashboard
