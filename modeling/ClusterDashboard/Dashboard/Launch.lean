import ClusterDashboard.Api.Kubeconfig
import ClusterDashboard.Api.Listing
import ClusterDashboard.Dashboard.Run
/-!
From the command line to a running dashboard. The settings are read before the cluster is looked
for, so a faulty configuration file is reported first.
-/
namespace ClusterDashboard

/-- All that is known before the first page is made. -/
structure Launch where
  settings : Settings
  gateway : Gateway
  scope : Scope

/-- A dashboard on an API server. -/
abbrev ClusterBoard := Dashboard ClusterSource (Except Failure TableView)

namespace Launch

def prepare (around : Surroundings) (kubeconfig : Option String) (line : CommandLine) :
    Except Failure Launch := do
  let settings ← (Settings.load around line).mapError Settings.Problem.failure
  let gateway ← Gateway.infer kubeconfig
  return { settings, gateway, scope := line.scope gateway.space }

/-- A server that does not tell its version leaves it unknown. -/
def board? (launch : Launch) (source : ClusterSource) : Option ClusterBoard := do
  let d : ClusterBoard ← Dashboard.start? launch.settings source.catalog launch.scope
    launch.gateway.address.text launch.gateway.context source
  let (server, version) := serverVersion source.server
  let d := { d with session := { d.session with source := { source with server } } }
  return match version with
    | .ok version => { d with serverVersion := version }
    | .error _ => d

end Launch

namespace ClusterBoard

/-- What discovery found is there for the pages made from now on. -/
def share (d : ClusterBoard) : ClusterBoard := { d with catalog := d.session.source.catalog }

/-- Lets the background work go on and shows what it brought. -/
def refresh (d : ClusterBoard) : ClusterBoard :=
  share (d.settle ClusterSource.backend).deliver.1

end ClusterBoard
end ClusterDashboard
