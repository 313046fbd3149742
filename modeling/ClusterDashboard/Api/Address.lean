import ClusterDashboard.Api.Server
import ClusterDashboard.Text.Basic
/-!
The address of an API server: scheme, host, path and query. Without a scheme it is a host alone,
or a path alone.
-/
namespace ClusterDashboard

structure ServerAddress where
  scheme : Option String := none
  host : String := ""
  path : String := ""
  query : Option String := none
  deriving DecidableEq, Repr

namespace ServerAddress

def isSchemeChar (c : Char) : Bool := c.isAlphanum || c == '+' || c == '-' || c == '.'

/-- The characters that may stand before the path, besides letters and digits. -/
def isHostChar (c : Char) : Bool :=
  c.isAlphanum || "!$&'()*+,-.:;=@[]_~%".toList.contains c

def schemeMark : List Char := "://".toList

/-- What stands before `://`, and the rest. -/
def splitScheme (s : List Char) : Option (String × List Char) :=
  let scheme := s.takeWhile isSchemeChar
  let rest := s.drop scheme.length
  if schemeMark.isPrefixOf rest && (3 < s.length) then
    let name := String.ofList scheme
    let known := Text.lower name
    some (if known = "http" ∨ known = "https" then known else name, rest.drop 3)
  else none

/-- Marks seen so far; what belongs to a user name or to a bracketed address does not count
towards what follows. -/
structure Marks where
  colons : Nat := 0
  opened : Bool := false
  closed : Bool := false
  percent : Bool := false

def Marks.step (m : Marks) (c : Char) : Option Marks :=
  if c = ':' then if 8 ≤ m.colons then none else some { m with colons := m.colons + 1 }
  else if c = '[' then if m.percent || m.opened then none else some { m with opened := true }
  else if c = ']' then
    if !m.opened || m.closed then none
    else some { m with closed := true, colons := 0, percent := false }
  else if c = '@' then some { m with colons := 0, percent := false }
  else if c = '%' then some { m with percent := true }
  else if isHostChar c then some m
  else none

/-- A host may have one port; brackets come in pairs, and something follows a user name. -/
def isHost (s : List Char) : Bool :=
  match s.foldlM Marks.step ({} : Marks) with
  | some m => m.opened == m.closed && m.colons ≤ 1 && !m.percent && s.getLast? != some '@'
  | none => false

/-- Path and query; nothing if a character must not stand there. -/
def splitPath (s : List Char) : Option (String × Option String) :=
  (ApiServer.sendable? (String.ofList s)).map fun sent =>
    let sent := sent.toList
    let path := ApiServer.pathOf sent
    (String.ofList path,
      if path.length < sent.length then some (String.ofList (sent.drop (path.length + 1)))
      else none)

def parse? (text : String) : Option ServerAddress := do
  let s := text.toList
  if s.isEmpty then none
  else if s = ['*'] then return { path := "*" }
  else if s.head? = some '/' then
    let (path, query) ← splitPath s
    return { path, query }
  else
    match if s.length = 1 then none else splitScheme s with
    | some (scheme, rest) =>
      let host := rest.takeWhile fun c => c != '/' && c != '?' && c != '#'
      if host.isEmpty || !isHost host then none
      let (path, query) ← splitPath (rest.drop host.length)
      return { scheme := some scheme, host := String.ofList host, path, query }
    | none => if isHost s then return { host := text } else none

/-- Behind a scheme an empty path is written as a slash. -/
def text (a : ServerAddress) : String :=
  (match a.scheme with
    | some scheme => scheme ++ "://"
    | none => "") ++
    a.host ++ (if a.path = "" ∧ (a.scheme.isSome ∨ a.query.isSome) then "/" else a.path) ++
    (match a.query with
      | some query => "?" ++ query
      | none => "")

end ServerAddress
end ClusterDashboard
