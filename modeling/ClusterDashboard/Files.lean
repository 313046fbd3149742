import ClusterDashboard.Keyed
import ClusterDashboard.Text.Basic
import ClusterDashboard.Text.Utf8
/-!
A tree of files below one directory, and the surroundings that a program finds: this tree and the
environment variables. Paths outside the directory lead nowhere.
-/
namespace ClusterDashboard

inductive FileError where
  | missing
  | isDirectory
  | notDirectory
  | nulInPath
  | notText
  deriving DecidableEq, Repr

def FileError.message : FileError → String
  | .missing => "No such file or directory (os error 2)"
  | .isDirectory => "Is a directory (os error 21)"
  | .notDirectory => "Not a directory (os error 20)"
  | .nulInPath => "file name contained an unexpected NUL byte"
  | .notText => "stream did not contain valid UTF-8"

/-- What is found under a path. -/
inductive Entry where
  | directory
  | file (content : List UInt8)
  deriving DecidableEq, Repr

/-- Paths are lists of names from the directory `home` on; missing parents are directories.
Relative paths begin at `working`. -/
structure Files where
  home : String
  working : List String := []
  entries : Keyed (List String) Entry := []

namespace Files

def entry? (files : Files) (path : List String) : Option Entry :=
  match files.entries.get? path with
  | some entry => some entry
  | none =>
    if path.isEmpty || files.entries.keys.any (fun key => path.isPrefixOf key) then some .directory
    else none

/-- Follows the names one by one; two dots go up, one dot and nothing stay. -/
def walk (files : Files) (place : List String) : List String → Except FileError Entry
  | [] =>
    match files.entry? place with
    | some entry => .ok entry
    | none => .error .missing
  | name :: rest =>
    match files.entry? place with
    | none => .error .missing
    | some (.file _) => .error .notDirectory
    | some .directory =>
      if name = "" ∨ name = "." then files.walk place rest
      else if name = ".." then
        if place.isEmpty then .error .missing else files.walk place.dropLast rest
      else files.walk (place ++ [name]) rest

def find (files : Files) (path : String) : Except FileError Entry :=
  if path.toList.contains '\x00' then .error .nulInPath
  else if path = "" then .error .missing
  else if files.home.toList = path.toList then .ok .directory
  else if (files.home ++ "/").toList.isPrefixOf path.toList then
    files.walk [] (Text.split '/' (String.ofList (path.toList.drop (files.home.length + 1))))
  else if path.toList.head? = some '/' then .error .missing
  else files.walk files.working (Text.split '/' path)

def exists? (files : Files) (path : String) : Bool :=
  match files.find path with
  | .ok _ => true
  | .error _ => false

def readText (files : Files) (path : String) : Except FileError String :=
  match files.find path with
  | .error e => .error e
  | .ok .directory => .error .isDirectory
  | .ok (.file content) =>
    match Utf8.decode? content with
    | some text => .ok text
    | none => .error .notText

end Files

structure Surroundings where
  files : Files
  environment : Keyed String String := []

/-- A path below a directory; an absolute path stays as it is. -/
def joinPath (directory path : String) : String :=
  if path.toList.head? = some '/' then path
  else if directory = "" ∨ directory.toList.getLast? = some '/' then directory ++ path
  else directory ++ "/" ++ path

end ClusterDashboard
