import SmartTraffic.Lib.Rounding
import SmartTraffic.Lib.Binary64
import SmartTraffic.Lib.Rotation
import SmartTraffic.Lib.Run
import SmartTraffic.Lib.Dict
import SmartTraffic.Lib.Json
import SmartTraffic.Signal.Types
import SmartTraffic.Signal.Priority
import SmartTraffic.Signal.Scheduler
import SmartTraffic.Perception.Analytics
import SmartTraffic.Perception.Stabilizer
import SmartTraffic.Pipeline.State
import SmartTraffic.Pipeline.Step
import SmartTraffic.Pipeline.Phase
import SmartTraffic.Pipeline.Lanes
import SmartTraffic.Control.Esp32
import SmartTraffic.Control.Manager
import SmartTraffic.Server.Command
import SmartTraffic.Server.Runtime
import SmartTraffic.Server.Session
import SmartTraffic.Server.Handler
import SmartTraffic.Server.EventLoop
import SmartTraffic.Server.Change
import SmartTraffic.Server.Intake
import SmartTraffic.Server.Snapshot
import SmartTraffic.Server.Batch
import SmartTraffic.Server.Register
import SmartTraffic.Simulator.Intersection
import SmartTraffic.Simulator.Live
import SmartTraffic.Server.Publication
import SmartTraffic.Proof.Turns
import SmartTraffic.Proof.LightDemand
import SmartTraffic.Proof.Clearance
import SmartTraffic.Proof.Mirror
import SmartTraffic.Proof.Simulator
import SmartTraffic.Proof.Separation
import SmartTraffic.Proof.Halt
import SmartTraffic.Proof.Ownership
import SmartTraffic.Proof.Hold
import SmartTraffic.Proof.Phases
import SmartTraffic.Proof.Evidence
import SmartTraffic.Proof.Sessions
import SmartTraffic.Proof.Accounting
import SmartTraffic.Proof.Delivery
import SmartTraffic.Proof.Registration
import SmartTraffic.Proof.Isolation
import SmartTraffic.Proof.Telemetry
import SmartTraffic.Proof.Views
import SmartTraffic.Proof.Progress
import SmartTraffic.Proof.Release
import SmartTraffic.Proof.Preemption
import SmartTraffic.Dashboard.ViewModel
import SmartTraffic.Proof.Dashboard
import SmartTraffic.Lib.Mailbox
import SmartTraffic.Server.Slots
import SmartTraffic.Proof.Slots
import SmartTraffic.Control.Serial
import SmartTraffic.Server.Output
import SmartTraffic.Proof.Output
import SmartTraffic.Perception.VehicleState
import SmartTraffic.Proof.Predictions
import SmartTraffic.Split.Commands
import SmartTraffic.Proof.Commands
import SmartTraffic.Lib.Lease
import SmartTraffic.Server.WebRTC
import SmartTraffic.Server.PeerTable
import SmartTraffic.Server.Ingest
import SmartTraffic.Proof.WebRTC
import SmartTraffic.Perception.History
import SmartTraffic.Proof.Lifecycle
import SmartTraffic.Proof.QueueTime
import SmartTraffic.Proof.Outage
import SmartTraffic.Lib.Ranking
import SmartTraffic.Signal.Keys
import SmartTraffic.Proof.Override
import SmartTraffic.Proof.Partition
import SmartTraffic.Proof.Serial
import SmartTraffic.Proof.Malformed
import SmartTraffic.Proof.Rejection
import SmartTraffic.Lib.Chunks
import SmartTraffic.Perception.Detector
import SmartTraffic.Server.Inference
import SmartTraffic.Proof.Boxes
import SmartTraffic.Proof.Batching
import SmartTraffic.Lib.Waiting
import SmartTraffic.Lib.FirstGreatest
import SmartTraffic.Lib.Raising
import SmartTraffic.Lib.Text
import SmartTraffic.Lib.Decimal
import SmartTraffic.Lib.Greedy
import SmartTraffic.Lib.Precision
import SmartTraffic.Signal.Fairness
import SmartTraffic.Signal.Payload
import SmartTraffic.Perception.Calibration
import SmartTraffic.Evaluation.Evaluator
import SmartTraffic.Evaluation.Dataset
import SmartTraffic.Proof.Fairness
import SmartTraffic.Proof.Smoothing
import SmartTraffic.Proof.Payload
import SmartTraffic.Proof.Calibration
import SmartTraffic.Proof.Conservation
import SmartTraffic.Proof.Matchers
import SmartTraffic.Proof.Precision
import SmartTraffic.Proof.Dataset
import SmartTraffic.Lib.Expiry
import SmartTraffic.Simulator.Replay
import SmartTraffic.Proof.Replay
import SmartTraffic.Split.Telemetry
import SmartTraffic.Proof.Remote
import SmartTraffic.Dashboard.Connection
import SmartTraffic.Proof.Connection
import SmartTraffic.Lib.Csv
import SmartTraffic.Lib.JsonText
import SmartTraffic.Pipeline.Health
import SmartTraffic.Control.DecisionLog
import SmartTraffic.Proof.Audit
import SmartTraffic.Proof.Health
import SmartTraffic.Lib.Digits
import SmartTraffic.Startup.Profile
import SmartTraffic.Startup.Manager
import SmartTraffic.Proof.Startup
import SmartTraffic.Proof.Steps
import SmartTraffic.Rest.Access
import SmartTraffic.Rest.Service
import SmartTraffic.Rest.Stretch
import SmartTraffic.Proof.Rest
import SmartTraffic.Proof.Nodes
import SmartTraffic.Server.LocalSources
import SmartTraffic.Proof.Sources
import SmartTraffic.Proof.Attached
