import ClusterDashboard.Json.Reader
import ClusterDashboard.Json.Shape
import ClusterDashboard.Keyed
import ClusterDashboard.Text.Basic
/-!
Talking to an API server that answers from a script. Every path has the replies it gives one after
the other, the last of them again and again; a path without any is not found.
-/
namespace ClusterDashboard

/-- What comes back for a request: a body with a status, or lines that may keep coming, or
nothing at all. -/
inductive Reply where
  | body (status : Nat) (text : String)
  | lines (status : Nat) (lines : List String) (goesOn : Bool)
  | silence
  deriving DecidableEq, Repr

structure ApiServer where
  replies : Keyed String (List Reply) := []
  /-- What streams of changes give, each used once. -/
  streams : Keyed String (List Reply) := []
  /-- The paths and queries that were asked for, in order. -/
  requests : List String := []
  deriving DecidableEq, Repr

namespace ApiServer

def isPathChar (c : Char) : Bool :=
  let n := c.toNat
  n == 0x21 || n == 0x22 || (0x24 ≤ n && n ≤ 0x3B) || n == 0x3D || (0x40 ≤ n && n ≤ 0x5F) ||
    0x61 ≤ n

def isQueryChar (c : Char) : Bool :=
  let n := c.toNat
  n == 0x21 || (0x24 ≤ n && n ≤ 0x3B) || n == 0x3D || 0x3F ≤ n

/-- A fragment is not sent. -/
def withoutFragment (target : List Char) : List Char := target.takeWhile (· != '#')

def pathOf (target : List Char) : List Char := target.takeWhile (· != '?')

/-- The target as it is sent; nothing if it holds a character that cannot be sent. -/
def sendable? (target : String) : Option String :=
  let sent := withoutFragment target.toList
  let path := pathOf sent
  if path.all isPathChar && (sent.drop path.length).all isQueryChar then some (String.ofList sent)
  else none

/-- The status of a path that has no replies. -/
def notFound : Reply := .body 404 ""

/-- The reply to use now, and those that are left. -/
def nextReply : List Reply → Reply × List Reply
  | [] => (notFound, [])
  | [reply] => (reply, [reply])
  | reply :: rest => (reply, rest)

def ask (target : String) (server : ApiServer) : ApiServer × Reply :=
  let path := String.ofList (pathOf target.toList)
  let (reply, left) := nextReply ((server.replies.get? path).getD [])
  ({ server with
      requests := server.requests ++ [target]
      replies := if left.isEmpty then server.replies else server.replies.put path left }, reply)

/-- A stream that has no more replies stays open and says nothing. -/
def askStream (target : String) (server : ApiServer) : ApiServer × Reply :=
  let path := String.ofList (pathOf target.toList)
  let server := { server with requests := server.requests ++ [target] }
  match (server.streams.get? path).getD [] with
  | [] => (server, .silence)
  | reply :: left => ({ server with streams := server.streams.put path left }, reply)

end ApiServer

/-- Why a request brought nothing: it failed, or no answer ever came. -/
inductive Fault where
  | failed
  | silent
  deriving DecidableEq, Repr

/-- A series of requests. -/
abbrev Exchange (α : Type) := ExceptT Fault (StateM ApiServer) α

namespace Exchange

def succeeded (status : Nat) : Bool := 200 ≤ status && status < 300

def fail {α : Type} : Exchange α := throw .failed

/-- Gets an object of the expected shape. -/
def get (shape : Shape) (target : String) : Exchange JsonValue := do
  match ApiServer.sendable? target with
  | none => fail
  | some target =>
    let server ← getThe ApiServer
    let (server, reply) := server.ask target
    set server
    match reply with
    | .silence => throw .silent
    | .lines _ _ _ => fail
    | .body status text =>
      if !succeeded status then fail
      else match JsonValue.ofText? text with
        | some value => if shape.accepts value then return value else fail
        | none => fail

end Exchange
end ClusterDashboard
