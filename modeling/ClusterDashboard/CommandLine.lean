import ClusterDashboard.Kind.Basic
/-!
The command line. An option's value may stand in the next argument; it is then taken up when the
next option is met or the arguments end, so an argument nobody knows is reported before it.
-/
namespace ClusterDashboard

structure CommandLine where
  refreshMs : Option Nat := none
  space : Option String := none
  allNamespaces : Bool := false
  logFilter : Option String := none
  logFile : Option String := none
  config : Option String := none
  deriving DecidableEq, Repr

namespace CommandLine

/-- Why the arguments are not accepted; asking for help or the version stops the program too. -/
inductive Refusal where
  | unknownArgument
  | badValue
  | missingValue
  | givenTwice
  | unwantedValue
  | help
  | version
  deriving DecidableEq, Repr

def Refusal.message : Refusal → String
  | .unknownArgument => "error: unexpected argument found"
  | .badValue => "error: invalid value for an option"
  | .missingValue => "error: a value is required for an option but none was supplied"
  | .givenTwice => "error: an argument cannot be used multiple times"
  | .unwantedValue => "error: unexpected value for an argument that takes none"
  | .help => "Usage: axe [OPTIONS]"
  | .version => "axe 0.1.0"

/-- Help and version are what was asked for, anything else is a mistake. -/
def Refusal.exitCode : Refusal → UInt32
  | .help | .version => 0
  | _ => 2

inductive Valued where
  | refreshMs
  | space
  | logFilter
  | logFile
  | config
  deriving DecidableEq, Repr

inductive Switch where
  | allNamespaces
  | help
  | version
  deriving DecidableEq, Repr

inductive Name where
  | option (o : Valued)
  | switch (s : Switch)
  deriving DecidableEq, Repr

def Name.ofLong? : String → Option Name
  | "refresh-ms" => some (.option .refreshMs)
  | "namespace" => some (.option .space)
  | "log-filter" => some (.option .logFilter)
  | "log-file" => some (.option .logFile)
  | "config" => some (.option .config)
  | "all-namespaces" => some (.switch .allNamespaces)
  | "help" => some (.switch .help)
  | "version" => some (.switch .version)
  | _ => none

def Name.ofShort? : Char → Option Name
  | 'n' => some (.option .space)
  | 'A' => some (.switch .allNamespaces)
  | 'h' => some (.switch .help)
  | 'V' => some (.switch .version)
  | _ => none

/-- A number of milliseconds: decimal digits after an optional plus sign, below 2^64. -/
def milliseconds? (text : String) : Option Nat :=
  let digits := match text.toList with
    | '+' :: rest => rest
    | all => all
  if digits.isEmpty || !digits.all Char.isDigit then none
  else
    let n := digits.foldl (fun n c => 10 * n + (c.toNat - '0'.toNat)) 0
    if n < Nat.pow 2 64 then some n else none

def isGiven (line : CommandLine) : Valued → Bool
  | .refreshMs => line.refreshMs.isSome
  | .space => line.space.isSome
  | .logFilter => line.logFilter.isSome
  | .logFile => line.logFile.isSome
  | .config => line.config.isSome

/-- A path must not be empty; any other text is accepted as it is. -/
def set (line : CommandLine) (o : Valued) (value : String) : Except Refusal CommandLine :=
  if line.isGiven o then .error .givenTwice
  else
    match o with
    | .refreshMs =>
      match milliseconds? value with
      | some n => .ok { line with refreshMs := some n }
      | none => .error .badValue
    | .space => .ok { line with space := some value }
    | .logFilter => .ok { line with logFilter := some value }
    | .logFile =>
      if value = "" then .error .missingValue else .ok { line with logFile := some value }
    | .config => if value = "" then .error .missingValue else .ok { line with config := some value }

/-- An option whose value was, or may be, given in an argument of its own. -/
inductive Open where
  | nothing
  | awaiting (o : Valued)
  | filled (o : Valued) (value : String)

structure Reading where
  line : CommandLine := {}
  pending : Open := .nothing

def Reading.resolve (r : Reading) : Except Refusal Reading :=
  match r.pending with
  | .nothing => .ok r
  | .awaiting _ => .error .missingValue
  | .filled o value => do return { line := ← r.line.set o value }

def Reading.flip (r : Reading) (s : Switch) : Except Refusal Reading := do
  let r ← r.resolve
  match s with
  | .help => .error .help
  | .version => .error .version
  | .allNamespaces =>
    if r.line.allNamespaces then .error .givenTwice
    else return { r with line := { r.line with allNamespaces := true } }

def Reading.assign (r : Reading) (o : Valued) (attached : Option String) :
    Except Refusal Reading := do
  let r ← r.resolve
  match attached with
  | some value => return { line := ← r.line.set o value }
  | none => return { r with pending := .awaiting o }

/-- A cluster of one-letter names; the first option takes what follows as its value, an equals
sign aside. -/
def Reading.shorts (r : Reading) : List Char → Except Refusal Reading
  | [] => .ok r
  | c :: rest =>
    match Name.ofShort? c with
    | none => .error .unknownArgument
    | some (.switch s) => do (← r.flip s).shorts rest
    | some (.option o) =>
      let attached := match rest with
        | [] => none
        | '=' :: value => some (String.ofList value)
        | value => some (String.ofList value)
      r.assign o attached

def Reading.long (r : Reading) (text : List Char) : Except Refusal Reading :=
  let name := String.ofList (text.takeWhile (· ≠ '='))
  let attached := match text.dropWhile (· ≠ '=') with
    | [] => none
    | _ :: value => some (String.ofList value)
  match Name.ofLong? name, attached with
  | none, _ => .error .unknownArgument
  | some (.option o), attached => r.assign o attached
  | some (.switch _), some _ => .error .unwantedValue
  | some (.switch s), none => r.flip s

/-- Nothing may follow a lone double dash. -/
def Reading.all (r : Reading) : List String → Except Refusal CommandLine
  | [] => do return (← r.resolve).line
  | argument :: rest =>
    match argument.toList with
    | ['-', '-'] =>
      if rest.isEmpty then do return (← r.resolve).line else .error .unknownArgument
    | '-' :: '-' :: text => do (← r.long text).all rest
    | '-' :: c :: text => do (← r.shorts (c :: text)).all rest
    | _ =>
      match r.pending with
      | .awaiting o => { r with pending := .filled o argument }.all rest
      | _ => .error .unknownArgument

def parse (arguments : List String) : Except Refusal CommandLine := ({} : Reading).all arguments

/-- What is logged when nothing was said about it. -/
def defaultLogFilter : String := "info"

/-- All namespaces win over a named one; the cluster's own default comes last. -/
def scope (line : CommandLine) (default : String) : Scope :=
  if line.allNamespaces then .all
  else match line.space with
    | some name => .ofArgument name
    | none => .named default

end CommandLine
end ClusterDashboard
