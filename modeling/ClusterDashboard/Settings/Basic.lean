import ClusterDashboard.CommandLine
import ClusterDashboard.Failure
import ClusterDashboard.Files
import ClusterDashboard.Kind.Basic
import ClusterDashboard.Settings.ConfigFile
/-!
The settings in force: the configuration file over the defaults, the command line over both.
-/
namespace ClusterDashboard

structure Settings where
  source : Option String := none
  refreshMs : Nat := 1500
  statusDelayMs : Nat := 1000
  rootPage : BuiltinKind := .pods
  pages : List BuiltinKind := BuiltinKind.all
  aliases : Keyed String BuiltinKind := []
  deriving DecidableEq, Repr

namespace Settings

def leastRefreshMs : Nat := 500

/-- No interval is shorter than the least one. -/
def interval (ms : Nat) : Nat := max ms leastRefreshMs

inductive Problem where
  | unreadable (path : String) (error : FileError)
  | inFile (path : String) (problem : Problem)
  | malformed
  | unknownRoot (word : String)

def Problem.failure : Problem → Failure
  | .unreadable path e =>
    Failure.during ("failed to read config " ++ path) [.text e.message]
  | .inFile path problem => Failure.during ("failed to parse config " ++ path) problem.failure
  | .malformed => [.malformedYaml]
  | .unknownRoot word => [.text ("unknown root_page '" ++ word ++ "'")]

/-- The kinds named, each once, in the order of their first names. -/
def knownPages (words : List String) : List BuiltinKind :=
  (words.filterMap BuiltinKind.ofWord?).foldl
    (fun pages kind => if kind ∈ pages then pages else pages ++ [kind]) []

/-- The root page comes first where it is not listed. -/
def pagesFor (root : BuiltinKind) (words : List String) : List BuiltinKind :=
  let known := knownPages words
  let pages := if known.isEmpty then BuiltinKind.all else known
  if root ∈ pages then pages else root :: pages

/-- Aliases in the order of their characters as written. -/
def sortedAliases (aliases : Keyed String String) : List (String × String) :=
  aliases.mergeSort fun a b => decide (a.1 ≤ b.1)

/-- An alias with an unknown target is as if it were not there; of aliases that read alike the
last in order counts. -/
def aliasTable (aliases : Keyed String String) : Keyed String BuiltinKind :=
  Keyed.ofList ((sortedAliases aliases).filterMap fun (name, target) =>
    (BuiltinKind.ofWord? target).map fun kind => (Text.folded name, kind))

def root (word : Option String) : Except Problem BuiltinKind :=
  match word with
  | none => .ok .pods
  | some word =>
    match BuiltinKind.ofWord? word with
    | some kind => .ok kind
    | none => .error (.unknownRoot word)

def ofConfig (file : ConfigFile) : Except Problem Settings := do
  let rootPage ← root file.rootPage
  return {
    refreshMs := (file.refreshMs.map interval).getD 1500
    statusDelayMs := file.statusDelayMs.getD 1000
    rootPage
    pages := pagesFor rootPage file.pages
    aliases := aliasTable file.aliases }

def ofYaml (text : String) : Except Problem Settings :=
  match ConfigFile.parse? text with
  | none => .error .malformed
  | some file => ofConfig file

/-- The kind a word names: an alias first, then the built-in words. -/
def kindOf? (settings : Settings) (word : String) : Option BuiltinKind :=
  match settings.aliases.get? (Text.folded word) with
  | some kind => some kind
  | none => BuiltinKind.ofWord? (Text.folded word)

/-- Where a configuration file is looked for when none was named. -/
def discover (around : Surroundings) : Option String :=
  let named := (around.environment.get? "AXE_CONFIG").filter fun path => Text.trim path != ""
  let atHome := match around.environment.get? "HOME" with
    | some home =>
      [joinPath home ".config/axe/config.yaml", joinPath home ".config/axe/config.yml"]
    | none => []
  named.or ((["axe.yaml", "axe.yml"] ++ atHome).find? around.files.exists?)

def ofFile (files : Files) (path : String) : Except Problem Settings :=
  match files.readText path with
  | .error e => .error (.unreadable path e)
  | .ok text =>
    match ofYaml text with
    | .error problem => .error (.inFile path problem)
    | .ok settings => .ok { settings with source := some path }

def load (around : Surroundings) (line : CommandLine) : Except Problem Settings := do
  let settings ← match line.config.or (discover around) with
    | some path => ofFile around.files path
    | none => pure {}
  return match line.refreshMs with
    | some ms => { settings with refreshMs := interval ms }
    | none => settings

end Settings
end ClusterDashboard
