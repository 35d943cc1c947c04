import SmartTraffic.Control.Manager
import SmartTraffic.Server.Handler

/-!
# Frame snapshots

The snapshot that `_process_frame_locked` builds from a `PipelineResult`. Its
fields about the signal are kept apart in `SignalFields`: the ticker writes the
same fields from a result of its own.
-/

namespace SmartTraffic

open Lib

/-- The fields of a payload that show the signal. -/
structure SignalFields where
  activePhase : String
  signalState : SignalState
  greenDuration : Int
  timeRemaining : Int
  phaseReason : Option String := none
  deriving DecidableEq, Repr

/-- One approach of `lanes`. -/
structure LanePayload where
  vehicles : Int := 0
  historicalCount : Option Int := none
  queue : Int := 0
  wait : Rat := 0
  pce : Rat := 0
  density : Density := .low
  priority : Rat := 0
  rawCount : Int := 0
  smoothedCount : Rat := 0
  deriving DecidableEq, Repr

/-- What `normalize_frame_orientation` did to a frame. -/
structure Orientation where
  rotation : Int
  inputWidth : Nat
  inputHeight : Nat
  width : Nat
  height : Nat
  deriving DecidableEq, Repr

/-- `latency_metrics`, without the performance counters of the whole step and the rates. -/
structure LatencyMetrics where
  yoloMs : Rat := 0
  trackingMs : Rat := 0
  detectorRan : Bool := false
  deriving DecidableEq, Repr

/-- The snapshot of a frame. -/
structure FrameSnapshot where
  timestamp : Rat
  frameId : Json
  signal : SignalFields
  totalVehicles : Int
  detectedVehicles : Nat
  assignedVehicles : Int
  queueLength : Rat
  pceScore : Rat
  operatingMode : String := "AUTOMATIC"
  frameProcessingErrors : Nat
  latencyMetrics : LatencyMetrics
  stabilityMetrics : Option StabilityMetrics
  lanes : List (LaneName × LanePayload)
  captureTimestamp : Int
  uploadTimestamp : Int
  backendReceiveTimestamp : Int
  decodeTimestamp : Int
  yoloStartTimestamp : Option Int
  yoloEndTimestamp : Option Int
  trackingTimestamp : Int
  schedulerTimestamp : Int
  stageCounters : StageCounters
  frameOrientation : Orientation

namespace PipelineResult

/-- The fairness-adjusted score of a lane: a later score overwrites an earlier one. -/
def priorityOf (r : PipelineResult) (lane : LaneName) : Rat :=
  ((((r.priorityResult.map (·.scores)).getD []).reverse.find? (·.lane = lane)).map (·.score)).getD 0

def lanePayload (r : PipelineResult) (lane : LaneName) : LanePayload :=
  match r.laneStats.lookup lane with
  | none => {}
  | some st =>
      { vehicles := st.liveCount
        historicalCount := some st.historicalCount
        queue := st.stoppedCount
        wait := roundDigits 1 st.maxQueueTimeSec
        pce := roundDigits 1 st.pceScore
        density := st.density
        priority := roundDigits 2 (r.priorityOf lane)
        rawCount := st.rawCount
        smoothedCount := roundDigits 2 st.smoothedCount }

/-- `lanes_payload`. -/
def lanesPayload (r : PipelineResult) : List (LaneName × LanePayload) :=
  [.north, .south, .east, .west].map fun lane => (lane, r.lanePayload lane)

/-- The signal as the snapshot of a frame of `direction` shows it. -/
def frameSignal (r : PipelineResult) (direction : LaneName) : SignalFields where
  -- without a green approach the direction of the frame is named
  activePhase := ((r.intersectionState.bind (·.greenLane)).getD direction).value
  signalState := r.signalState
  greenDuration := (r.signalDecision.map (·.greenDurationSec)).getD 0
  timeRemaining := r.remainingGreenSec

end PipelineResult

/-- `apply_signal`. A result without a decision changes nothing. -/
def applySignal (payload : SignalFields) (result : PipelineResult) : SignalFields :=
  match result.signalDecision with
  | none => payload
  | some d =>
      { activePhase := d.greenLane.value
        signalState := result.signalState
        greenDuration := d.greenDurationSec
        timeRemaining := result.remainingGreenSec
        phaseReason := some d.reasonDetails }

end SmartTraffic
