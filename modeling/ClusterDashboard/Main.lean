import ClusterDashboard.Dashboard.Launch
import ClusterDashboard.Keys
/-!
The program: it reads the files it starts from, then takes keys from the standard input and
draws the screen after each batch of them. Neither a network nor other programs are reached from
here, so listings fail as they do when the server is away, and kubectl is missing.
-/
namespace ClusterDashboard.Shell

/-- What is found under a path; nothing if there is nothing that can be read. -/
def entry? (path : String) : IO (Option Entry) := do
  try
    return some (.file (← IO.FS.readBinFile path).toList)
  catch e =>
    match e with
    | .inappropriateType .. => return some .directory
    | _ => return none

def environment (names : List String) : IO (Keyed String String) := do
  let found ← names.mapM fun name => return (name, ← IO.getEnv name)
  return found.filterMap fun (name, value) => value.map fun v => (name, v)

/-- The places where a configuration file may be. -/
def places (environment : Keyed String String) (line : CommandLine) : List String :=
  line.config.toList ++ (environment.get? "AXE_CONFIG").toList ++ ["axe.yaml", "axe.yml"] ++
    match environment.get? "HOME" with
    | some home => [joinPath home ".config/axe/config.yaml", joinPath home ".config/axe/config.yml"]
    | none => []

def names (path : String) : List String := (Text.split '/' path).filter (· ≠ "")

def surroundings (line : CommandLine) : IO Surroundings := do
  let environment ← environment ["AXE_CONFIG", "HOME"]
  let working := (← IO.currentDir).toString
  let entries ← (places environment line).filterMapM fun path => do
    return (← entry? path).map fun entry => (names (joinPath working path), entry)
  return { files := { home := "", working := names working, entries := Keyed.ofList entries }
           environment }

/-- All configuration files that are named, as the documents of one. -/
def kubeconfig : IO (Option String) := do
  let named := (Text.split ':' ((← IO.getEnv "KUBECONFIG").getD "")).filter (· ≠ "")
  let atHome := (← IO.getEnv "HOME").map fun home => joinPath home ".kube/config"
  let paths := if named.isEmpty then atHome.toList else named
  try
    let texts ← paths.mapM fun (path : String) => IO.FS.readFile path
    return if texts.isEmpty then none else some (String.intercalate "\n---\n" texts)
  catch _ => return none

def checkLogFile (line : CommandLine) : IO (Except Failure Unit) := do
  match line.logFile with
  | none => return .ok ()
  | some path =>
    try
      let _ ← IO.FS.Handle.mk path .append
      return .ok ()
    catch e => return .error [.text ("failed to open log file " ++ path), .text (toString e)]

/-- The number that a variable holds. -/
def sizeFrom (name : String) (usual : Nat) : IO Nat := do
  return (((← IO.getEnv name).bind String.toNat?).filter (0 < ·)).getD usual

def present (rows : List String) : IO Unit := do
  let output ← IO.getStdout
  output.putStr ("\x1b[H\x1b[2J" ++ String.intercalate "\r\n" rows)
  output.flush

/-- Draws, takes the keys that have been typed, and goes on until the dashboard is left or the
input ends. -/
partial def interact (width height : Nat) (d : ClusterBoard) : IO Unit := do
  let before ← IO.monoMsNow
  let (d, canvas) := (ClusterBoard.refresh d).draw width height
  present canvas.textRows
  if d.running then
    let typed ← (← IO.getStdin).read 4096
    if typed.size > 0 then
      let keys := Key.ofTyped (Utf8.decodeLossy typed.toList).toList
      let (d, _) := d.runKeys { missing := true } {} height keys
      interact width height (d.advance ClusterSource.backend ((← IO.monoMsNow) - before))

def start (line : CommandLine) : IO (Except Failure (Option ClusterBoard)) := do
  match ← checkLogFile line with
  | .error failure => return .error failure
  | .ok () =>
    return (Launch.prepare (← surroundings line) (← kubeconfig) line).map fun launch =>
      launch.board? {}

end ClusterDashboard.Shell

open ClusterDashboard in
def main (arguments : List String) : IO UInt32 := do
  match CommandLine.parse arguments with
  | .error refusal =>
    IO.eprintln refusal.message
    return refusal.exitCode
  | .ok line =>
    match ← Shell.start line with
    | .error failure =>
      IO.eprintln failure.report
      return 1
    | .ok none => return 1
    | .ok (some d) =>
      Shell.interact (← Shell.sizeFrom "COLUMNS" 80) (← Shell.sizeFrom "LINES" 24) d
      return 0
