import ClusterGateway.Config.Load
import ClusterGateway.Config.Validation
import ClusterGateway.Config.Wire
import ClusterGateway.Json.Parser
import ClusterGateway.Logging.Filter
import ClusterGateway.Scenario.Audience
import ClusterGateway.Scenario.Steps
import ClusterGateway.Scenario.Switchboard
import ClusterGateway.World.Moves
import ClusterGateway.Proofs.World.Strokes
import ClusterGateway.Proofs.World.Steps
import ClusterGateway.Proofs.World.Fields
import ClusterGateway.Proofs.World.Frames
import ClusterGateway.Proofs.Opening
import ClusterGateway.Proofs.World.Runs
import ClusterGateway.Proofs.Shutdown.Ledger
import ClusterGateway.Proofs.Shutdown.Order
import ClusterGateway.Proofs.World.Tasks
import ClusterGateway.Proofs.Shutdown.Alone
import ClusterGateway.Proofs.Shutdown.View
import ClusterGateway.Proofs.Shutdown.Steps
import ClusterGateway.Proofs.Shutdown.Moves
import ClusterGateway.Proofs.Shutdown.Runs
import ClusterGateway.Proofs.Delivery.Line
import ClusterGateway.Proofs.Delivery.Turn
import ClusterGateway.Proofs.Delivery.Waiting
import ClusterGateway.Proofs.Delivery.Acceptance
import ClusterGateway.Proofs.Delivery.Course
import ClusterGateway.Proofs.Delivery.Deadline
import ClusterGateway.Proofs.Delivery.Ownership
import ClusterGateway.Proofs.Delivery.Standalone
import ClusterGateway.Proofs.Delivery.Handover
import ClusterGateway.Proofs.Delivery.Origins
import ClusterGateway.Proofs.Delivery.Provenance
import ClusterGateway.Proofs.Delivery.Precedence
import ClusterGateway.Proofs.Delivery.Presence
import ClusterGateway.Proofs.Delivery.Effects
import ClusterGateway.Proofs.Delivery.Couriers
import ClusterGateway.Proofs.Delivery.Rousing
import ClusterGateway.Proofs.Delivery.Overdue
import ClusterGateway.Proofs.Delivery.InTurn
import ClusterGateway.Proofs.Delivery.Seats
import ClusterGateway.Proofs.Delivery.Sequence
import ClusterGateway.Proofs.World.Waking
import ClusterGateway.Proofs.Serving.Handing
import ClusterGateway.Proofs.Shutdown.Clearing
import ClusterGateway.Proofs.Serving.Availability
import ClusterGateway.Proofs.Shutdown.Histories
import ClusterGateway.Proofs.Shutdown.Once
import ClusterGateway.Proofs.Serving.Calls
import ClusterGateway.Proofs.Serving.Refusal
import ClusterGateway.Proofs.Serving.Fetching
import ClusterGateway.Proofs.World.Sites
import ClusterGateway.Proofs.Serving.Sessions
import ClusterGateway.Proofs.Serving.Exchanges
import ClusterGateway.Proofs.World.Work
import ClusterGateway.Proofs.Shutdown.Advances
import ClusterGateway.Proofs.Shutdown.Waits
import ClusterGateway.Proofs.Shutdown.Settling
import ClusterGateway.Proofs.Registry.Construction
import ClusterGateway.Proofs.Registry.Cleanup
import ClusterGateway.Proofs.Registry.Lookup
import ClusterGateway.Proofs.Shutdown.Again
import ClusterGateway.Proofs.Settings.Layers
import ClusterGateway.Proofs.Config.Names
import ClusterGateway.Proofs.Config.Decoding
import ClusterGateway.Proofs.Config.Fitting
import ClusterGateway.Proofs.Settings.Documents
import ClusterGateway.Proofs.Settings.Variables
import ClusterGateway.Proofs.Config.Layering
import ClusterGateway.Proofs.Config.Clusters
import ClusterGateway.Proofs.Config.Texts
import ClusterGateway.Proofs.Lifecycle.Journal
import ClusterGateway.Proofs.World.Gateways
import ClusterGateway.Proofs.Registry.Isolation
import ClusterGateway.Proofs.Shutdown.Attendance
import ClusterGateway.Proofs.Shutdown.Reports
import ClusterGateway.Proofs.Shutdown.Courses
import ClusterGateway.Proofs.Shutdown.Forward
import ClusterGateway.Proofs.Lifecycle.Failures
import ClusterGateway.Proofs.Lifecycle.Subscribers
import ClusterGateway.Proofs.Routing.History
import ClusterGateway.Proofs.Routing.Boards
import ClusterGateway.Proofs.Shutdown.Profiles
import ClusterGateway.Proofs.Shutdown.Timetables
import ClusterGateway.Proofs.Shutdown.Punctual
import ClusterGateway.Proofs.Shutdown.Phases
import ClusterGateway.Proofs.Shutdown.Parts
import ClusterGateway.Proofs.Shutdown.Standing
import ClusterGateway.Proofs.Shutdown.Durations
import ClusterGateway.Proofs.Json.Records
import ClusterGateway.Proofs.Json.Shedding
import ClusterGateway.Proofs.Json.Encodings
import ClusterGateway.Proofs.Config.Validity
import ClusterGateway.Proofs.Partitioner.Signed
import ClusterGateway.Proofs.Text.Labels
import ClusterGateway.Proofs.Ack.Parameters
import ClusterGateway.Proofs.Error.Causes
import ClusterGateway.Proofs.Logging.Choice
