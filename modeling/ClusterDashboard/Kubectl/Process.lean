import ClusterDashboard.Failure
import ClusterDashboard.Files
/-!
Running kubectl. What a run prints and how it ends is given by a `Program`; from it follow the
captured output, the outcome of an interactive run, and the error texts.
-/
namespace ClusterDashboard.Kubectl

inductive ExitStatus where
  | code (n : Nat)
  | signal (n : Nat)
  deriving DecidableEq, Repr

namespace ExitStatus

def succeeded (status : ExitStatus) : Bool := status == .code 0

/-- The names of the signals from 1 on. -/
def signalNames : List String :=
  ["SIGHUP", "SIGINT", "SIGQUIT", "SIGILL", "SIGTRAP", "SIGABRT", "SIGBUS", "SIGFPE", "SIGKILL",
    "SIGUSR1", "SIGSEGV", "SIGUSR2", "SIGPIPE", "SIGALRM", "SIGTERM", "SIGSTKFLT", "SIGCHLD",
    "SIGCONT", "SIGSTOP", "SIGTSTP", "SIGTTIN", "SIGTTOU", "SIGURG", "SIGXCPU", "SIGXFSZ",
    "SIGVTALRM", "SIGPROF", "SIGWINCH", "SIG" ++ "IO", "SIGPWR", "SIGSYS"]

def text : ExitStatus → String
  | .code n => "exit status: " ++ toString n
  | .signal n =>
    "signal: " ++ toString n ++
      (match if n = 0 then none else signalNames[n - 1]? with
        | some name => " (" ++ name ++ ")"
        | none => "")

def kill : ExitStatus := .signal 9

end ExitStatus

/-- The program that is started as kubectl; `ending` is absent if it never ends by itself. -/
structure Program where
  missing : Bool := false
  stdout : List UInt8 := []
  stderr : List UInt8 := []
  ending : Option ExitStatus := some (.code 0)
  deriving DecidableEq, Repr

/-- The editor variables that the dashboard itself was started with. -/
structure Editors where
  editor : Option String := none
  kubeEditor : Option String := none
  deriving DecidableEq, Repr

/-- A run as the started program sees it. -/
structure Call where
  arguments : List String
  kubeEditor : Option String
  deriving DecidableEq, Repr

def joined (arguments : List String) : String := String.intercalate " " arguments

/-- The trimmed error output, or the exit status if there was none. -/
def exitReason (status : ExitStatus) (stderr : List UInt8) : String :=
  let reason := Text.trim (Utf8.decodeLossy stderr)
  if reason = "" then "kubectl exited with " ++ status.text else reason

def timedOut : Cause := .text "deadline has elapsed"

/-- Runs to the end and gives the output. -/
def capture (p : Program) (arguments : List String) : Except Failure String :=
  if p.missing then
    .error
      [.text ("failed to execute kubectl " ++ joined arguments), .text FileError.missing.message]
  else match p.ending with
    | none => .error [.text ("kubectl " ++ joined arguments ++ " timed out"), timedOut]
    | some status =>
      if status.succeeded then .ok (Utf8.decodeLossy p.stdout)
      else .error [.text (exitReason status p.stderr)]

/-- Runs attached to the terminal; nothing comes of a run that does not end. -/
def interact (p : Program) (arguments : List String) : Except Failure Unit :=
  if p.missing then
    .error [.text ("failed to run kubectl " ++ joined arguments), .text FileError.missing.message]
  else match p.ending with
    | none => .ok ()
    | some status =>
      if status.succeeded then .ok ()
      else .error [.text ("kubectl " ++ joined arguments ++ " exited with " ++ status.text)]

def captureCall? (p : Program) (editors : Editors) (arguments : List String) : Option Call :=
  if p.missing then none else some ⟨arguments, editors.kubeEditor⟩

/-- An interactive run takes the general editor where no editor for kubectl is set. -/
def interactCall? (p : Program) (editors : Editors) (arguments : List String) : Option Call :=
  if p.missing then none else some ⟨arguments, editors.kubeEditor.or editors.editor⟩

end ClusterDashboard.Kubectl
