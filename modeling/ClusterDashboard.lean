import ClusterDashboard.Api.Address
import ClusterDashboard.Api.Discovery
import ClusterDashboard.Api.Kubeconfig
import ClusterDashboard.Api.Listing
import ClusterDashboard.Api.Rows
import ClusterDashboard.Api.Schema
import ClusterDashboard.Api.Server
import ClusterDashboard.Api.Watch
import ClusterDashboard.CommandLine
import ClusterDashboard.Dashboard.Action
import ClusterDashboard.Dashboard.Basic
import ClusterDashboard.Dashboard.Drawing
import ClusterDashboard.Dashboard.Launch
import ClusterDashboard.Dashboard.Run
import ClusterDashboard.Dashboard.Status
import ClusterDashboard.Failure
import ClusterDashboard.Files
import ClusterDashboard.Instant
import ClusterDashboard.Json.Reader
import ClusterDashboard.Json.Shape
import ClusterDashboard.Json.Value
import ClusterDashboard.Keyed
import ClusterDashboard.Keys
import ClusterDashboard.Kind.Basic
import ClusterDashboard.Kubectl.Follower
import ClusterDashboard.Kubectl.Process
import ClusterDashboard.Kubectl.Target
import ClusterDashboard.Main
import ClusterDashboard.Navigation.History
import ClusterDashboard.Navigation.Navigator
import ClusterDashboard.Page.TablePage
import ClusterDashboard.Refresh.Gate
import ClusterDashboard.Refresh.Loop
import ClusterDashboard.Refresh.Session
import ClusterDashboard.Screen.Canvas
import ClusterDashboard.Screen.Panel
import ClusterDashboard.Screen.Paragraph
import ClusterDashboard.Settings.Basic
import ClusterDashboard.Settings.ConfigFile
import ClusterDashboard.Table.View
import ClusterDashboard.Text.Basic
import ClusterDashboard.Text.Cluster
import ClusterDashboard.Text.Utf8
import ClusterDashboard.Text.Width
import ClusterDashboard.Yaml.Cursor
import ClusterDashboard.Yaml.Node
import ClusterDashboard.Yaml.Scalar
import ClusterDashboard.Yaml.Token
import ClusterDashboard.Yaml.Value
import ClusterDashboard.Proofs.Navigation.Operations
import ClusterDashboard.Proofs.Navigation.Consistency
import ClusterDashboard.Proofs.Navigation.Excursions
import ClusterDashboard.Proofs.Refresh.Runs
import ClusterDashboard.Proofs.Refresh.Turns
import ClusterDashboard.Proofs.Refresh.Steps
import ClusterDashboard.Proofs.Refresh.Discipline
import ClusterDashboard.Proofs.Refresh.Following
import ClusterDashboard.Proofs.Refresh.Requests
import ClusterDashboard.Proofs.Refresh.Attachment
import ClusterDashboard.Proofs.Dashboard.Situation
import ClusterDashboard.Proofs.Dashboard.Actions
import ClusterDashboard.Proofs.Dashboard.Runs
import ClusterDashboard.Proofs.Dashboard.Deeds
import ClusterDashboard.Proofs.Dashboard.Deletion
import ClusterDashboard.Proofs.Dashboard.Steps
import ClusterDashboard.Proofs.Dashboard.Streams
import ClusterDashboard.Proofs.Dashboard.Sight
import ClusterDashboard.Proofs.Dashboard.LogLines
import ClusterDashboard.Proofs.Refresh.Handover
import ClusterDashboard.Proofs.Dashboard.Ensuing
import ClusterDashboard.Proofs.Dashboard.Messages
import ClusterDashboard.Proofs.Dashboard.Interludes
import ClusterDashboard.Proofs.Refresh.Readings
import ClusterDashboard.Proofs.Dashboard.Handling
import ClusterDashboard.Proofs.Dashboard.Freshness
import ClusterDashboard.Proofs.Dashboard.Scopes
import ClusterDashboard.Proofs.Text.Lines
import ClusterDashboard.Proofs.Text.Utf8
import ClusterDashboard.Proofs.Kubectl.Delivery
import ClusterDashboard.Proofs.Kubectl.Stopping
import ClusterDashboard.Proofs.Navigation.Fallbacks
import ClusterDashboard.Proofs.Navigation.Menu
import ClusterDashboard.Proofs.Navigation.Trail
import ClusterDashboard.Proofs.Navigation.Overlays
import ClusterDashboard.Proofs.Navigation.Likeness
import ClusterDashboard.Proofs.Dashboard.WayBack
import ClusterDashboard.Proofs.Refresh.Schedules
import ClusterDashboard.Proofs.Refresh.Restarts
import ClusterDashboard.Proofs.Navigation.Stock
import ClusterDashboard.Proofs.Navigation.Homecoming
import ClusterDashboard.Proofs.Navigation.Origins
import ClusterDashboard.Proofs.Navigation.Instances
import ClusterDashboard.Proofs.Navigation.Places
import ClusterDashboard.Proofs.Refresh.Settling
import ClusterDashboard.Proofs.Refresh.Wakefulness
import ClusterDashboard.Proofs.Refresh.Teardown
import ClusterDashboard.Proofs.Kind.Catalog
import ClusterDashboard.Proofs.Dashboard.Upkeep
import ClusterDashboard.Proofs.Dashboard.Names
import ClusterDashboard.Proofs.Dashboard.DrillDown
import ClusterDashboard.Proofs.Dashboard.Covering
import ClusterDashboard.Proofs.Dashboard.WayOut
import ClusterDashboard.Proofs.Kubectl.Arguments
import ClusterDashboard.Proofs.Dashboard.Targets
import ClusterDashboard.Proofs.Table.Selection
import ClusterDashboard.Proofs.Table.Narrowing
import ClusterDashboard.Proofs.Page.Refreshes
import ClusterDashboard.Proofs.Dashboard.Searching
import ClusterDashboard.Proofs.Dashboard.Scrolling
import ClusterDashboard.Proofs.Dashboard.Paused
import ClusterDashboard.Proofs.Settings.InForce
import ClusterDashboard.Proofs.Text.Shortening
import ClusterDashboard.Proofs.Sorting
import ClusterDashboard.Proofs.Settings.Aliases
import ClusterDashboard.Proofs.Api.Rows
import ClusterDashboard.Proofs.Api.Listings
import ClusterDashboard.Proofs.Dashboard.Popup
