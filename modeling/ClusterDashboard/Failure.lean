/-!
A failure as the chain of its causes, outermost first. The wording of a malformed document, of a
failed API call and of an unusable cluster configuration is not fixed here.
-/
namespace ClusterDashboard

inductive Cause where
  | text (message : String)
  | malformedYaml
  | apiCall
  | clusterConfig
  deriving DecidableEq, Repr

namespace Cause

def message : Cause → String
  | .text message => message
  | .malformedYaml => "malformed YAML"
  | .apiCall => "API call failed"
  | .clusterConfig => "unusable cluster configuration"

end Cause

abbrev Failure := List Cause

namespace Failure

def ofTexts (chain : List String) : Failure := chain.map .text

/-- Says what was being done when the failure came up. -/
def during (message : String) (failure : Failure) : Failure := .text message :: failure

/-- All causes on one line. -/
def oneLine (failure : Failure) : String := String.intercalate ": " (failure.map Cause.message)

/-- The outermost message and at most two causes, a line each. -/
def compact (failure : Failure) : String :=
  match failure.map Cause.message with
  | [] => ""
  | outer :: causes =>
    String.intercalate "\n" (outer :: (causes.take 2).map fun cause => "caused by: " ++ cause)

/-- The whole chain, as it is reported when nothing else can be done. -/
def report (failure : Failure) : String :=
  match failure.map Cause.message with
  | [] => "Error"
  | [only] => "Error: " ++ only
  | [outer, cause] => "Error: " ++ outer ++ "\n\nCaused by:\n    " ++ cause
  | outer :: causes =>
    String.intercalate "\n" (("Error: " ++ outer ++ "\n\nCaused by:") ::
      causes.zipIdx.map fun (cause, i) => "    " ++ toString i ++ ": " ++ cause)

end Failure
end ClusterDashboard
