import DaemonMesh.OrderedMap
import DaemonMesh.Text.Characters
import DaemonMesh.Link
import DaemonMesh.Session
import DaemonMesh.Message
import DaemonMesh.Text.GraphemeExtend
import DaemonMesh.Text.Unassigned
import DaemonMesh.Text.Shown
import DaemonMesh.Text.Alphanumeric
import DaemonMesh.Text.Alphabetic
import DaemonMesh.Failure
import DaemonMesh.Config
import DaemonMesh.Json.Tree
import DaemonMesh.Json.Token
import DaemonMesh.Json.Reader
import DaemonMesh.Json.Writer
import DaemonMesh.Json.Record
import DaemonMesh.Session.Text
import DaemonMesh.Config.Store
import DaemonMesh.Config.FileTree
import DaemonMesh.Delivery
import DaemonMesh.RouteTable
import DaemonMesh.Selector
import DaemonMesh.Endpoint
import DaemonMesh.Subscription
import DaemonMesh.Router
import DaemonMesh.Mesh
import DaemonMesh.Mesh.Holding
import DaemonMesh.Mesh.Binding
import DaemonMesh.Mesh.Registration
import DaemonMesh.Mesh.LinkLoss
import DaemonMesh.Scenario.Step
import DaemonMesh.Scenario.Answer
import DaemonMesh.Scenario.World
import DaemonMesh.Scenario.Traffic
import DaemonMesh.Scenario.Links
import DaemonMesh.Scenario.Tables
import DaemonMesh.Scenario.Endpoints
import DaemonMesh.Scenario.Events
import DaemonMesh.Scenario.Routers
import DaemonMesh.Scenario.Run
import DaemonMesh.Triangle.Options
import DaemonMesh.Triangle.LogDirective
import DaemonMesh.Pattern.Mode
import DaemonMesh.Pattern.Atom
import DaemonMesh.Pattern.Class
import DaemonMesh.Pattern.Group
import DaemonMesh.Pattern.Body
import DaemonMesh.Triangle.WishedValue
import DaemonMesh.Triangle.LogFilter
import DaemonMesh.Triangle.Departure
import DaemonMesh.Triangle.Log
import DaemonMesh.Triangle.Program
import DaemonMesh.Main
import DaemonMesh.Proofs.AscendingMap
import DaemonMesh.Proofs.TableEntries
import DaemonMesh.Proofs.TableReferences
import DaemonMesh.Proofs.BindingGate
import DaemonMesh.Proofs.EndpointSteps
import DaemonMesh.Proofs.ReferenceAccounts
import DaemonMesh.Proofs.Moves
import DaemonMesh.Proofs.Changes
import DaemonMesh.Proofs.ReferenceBalance
import DaemonMesh.Proofs.SoundWorlds
import DaemonMesh.Proofs.ScenarioRuns
import DaemonMesh.Proofs.ReferenceCounts
import DaemonMesh.Proofs.DirectPaths
import DaemonMesh.Proofs.Registered
import DaemonMesh.Proofs.LossSteps
import DaemonMesh.Proofs.LossRuns
import DaemonMesh.Proofs.LossReports
import DaemonMesh.Proofs.LossEffect
import DaemonMesh.Proofs.ServedNames
import DaemonMesh.Proofs.SnapshotDelivery
import DaemonMesh.Proofs.QueueLedgers
import DaemonMesh.Proofs.ServedRequests
import DaemonMesh.Proofs.LossFates
import DaemonMesh.Proofs.DepartedPaths
import DaemonMesh.Proofs.LossTraces
import DaemonMesh.Proofs.DaemonDeparture
import DaemonMesh.Proofs.DepartureCalls
import DaemonMesh.Proofs.QueueTraffic
import DaemonMesh.Proofs.QueueCalls
import DaemonMesh.Proofs.SteadySessions
import DaemonMesh.Proofs.Undisturbed
import DaemonMesh.Proofs.Bystanders
import DaemonMesh.Proofs.Mirror
import DaemonMesh.Proofs.MirrorRuns
import DaemonMesh.Proofs.CallRuns
import DaemonMesh.Proofs.FlatEntries
import DaemonMesh.Proofs.TableRefinement
import DaemonMesh.Proofs.EndpointCalls
import DaemonMesh.Proofs.EndpointHistories
import DaemonMesh.Proofs.EndpointLifecycle
import DaemonMesh.Proofs.StoppingEndpoints
import DaemonMesh.Proofs.EmptiedEndpoints
import DaemonMesh.Proofs.SessionRequests
import DaemonMesh.Proofs.SessionIndependence
import DaemonMesh.Proofs.Refusals
import DaemonMesh.Proofs.FailedCalls
import DaemonMesh.Proofs.RoutedRuns
import DaemonMesh.Proofs.SessionAffinity
import DaemonMesh.Proofs.RegistryHistories
import DaemonMesh.Proofs.RegistriesKept
import DaemonMesh.Proofs.LossAnnouncements
import DaemonMesh.Proofs.VisitingOrder
import DaemonMesh.Proofs.MadeReachable
import DaemonMesh.Proofs.SubscriberRuns
import DaemonMesh.Proofs.SubscriberCalls
import DaemonMesh.Proofs.SpelledScalars
import DaemonMesh.Proofs.SpelledTokens
import DaemonMesh.Proofs.DocumentTokens
import DaemonMesh.Proofs.WrittenScalars
import DaemonMesh.Proofs.WrittenDocuments
import DaemonMesh.Proofs.StoredConfigs
import DaemonMesh.Proofs.LoneSurrogates
import DaemonMesh.Proofs.ConfigFields
import DaemonMesh.Proofs.ConfigFormat
import DaemonMesh.Proofs.UsableRouters
import DaemonMesh.Proofs.EndpointQueries
import DaemonMesh.Proofs.QueuedSends
import DaemonMesh.Proofs.TriangleDeparture
