import SmartTraffic.Pipeline.Step
import SmartTraffic.Simulator.Intersection

/-!
# The live intersection

`DigitalIntersection.get_snapshot` outside simulation mode: the lamps follow the
active decision of the pipeline and its start time, the camera states follow the
time each lane was last seen, and a stall turns every lamp red. Without a
pipeline, or while the system is stopped, the safe hold is shown.

The timestamp of a snapshot is left out. The reading of the monotonic clock is an
argument.
-/

namespace SmartTraffic

open Lib

/-- The parts of `ApplicationContext` that the live snapshot reads. -/
structure LiveContext where
  pipeline : Option TrafficPipeline := none
  systemRunning : Bool := true
  lanes : LaneContext := {}
  isPipelineStalled : Bool := false
  lastFrameMonotonic : Rat := 0
  frameUpdatedAt : Dict String Rat := ∅

namespace LiveContext

/-- An entry of `camera_statuses`. -/
def cameraStatus (ctx : LiveContext) (now : Rat) (lane : LaneName) : String :=
  if now - (ctx.lanes.laneLastSeen lane).getD 0 < 3 then "HEALTHY" else "OFFLINE"

/-- No approach has been seen for three seconds. -/
def allOffline (ctx : LiveContext) (now : Rat) : Bool :=
  approachNames.all fun lane => ctx.cameraStatus now lane = "OFFLINE"

def aiStalled (ctx : LiveContext) (now : Rat) : Bool :=
  ctx.isPipelineStalled
    || (decide (5 < now - ctx.lastFrameMonotonic) && decide (ctx.frameUpdatedAt.items ≠ []))

/-- The approach of the active decision and its signal; a stall leaves none. -/
def signal (ctx : LiveContext) (p : TrafficPipeline) (now : Rat) :
    Option (LaneName × SignalState) :=
  if ctx.aiStalled now then none
  else p.activeDecision.map fun d =>
    (d.greenLane, TrafficPipeline.signalStateAt d (p.elapsedSec now))

/-- `remaining_time_sec`. -/
def remainingTimeSec (ctx : LiveContext) (p : TrafficPipeline) (allRedSec : Int) (now : Rat) :
    Int :=
  if ctx.aiStalled now then 0
  else match p.activeDecision with
    | none => 0
    | some d =>
        let deadline : Int := match TrafficPipeline.signalStateAt d (p.elapsedSec now) with
          | .green => d.greenDurationSec
          | .yellow => d.greenDurationSec + d.yellowDurationSec
          | .allRed => d.greenDurationSec + d.yellowDurationSec + allRedSec
        max 0 ⌈(deadline : Rat) - p.elapsedSec now⌉

/-- The statistics and the camera state of an approach. -/
def approach (ctx : LiveContext) (p : TrafficPipeline) (now : Rat) (lane : LaneName)
    (signal : SignalColor) : DigitalIntersection.ApproachState :=
  let stat := ctx.lanes.laneStatsHistory lane
  let scores := (p.lastPriorityResult.map (·.scores)).getD []
  { vehicles := (stat.map (·.rawCount)).getD 0
    queue := (stat.map (·.stoppedCount)).getD 0
    pce := roundDigits 2 ((stat.map (·.pceScore)).getD 0)
    -- a later score of the lane overwrites an earlier one
    priority := roundDigits 2 (((scores.reverse.find? (·.lane = lane)).map (·.score)).getD 0)
    cameraStatus := ctx.cameraStatus now lane
    signal := signal }

end LiveContext

/-- The colour of an approach when `signal` is shown. -/
def colorOf (signal : Option (LaneName × SignalState)) (lane : LaneName) : SignalColor :=
  if signal = some (lane, .green) then .green
  else if signal = some (lane, .yellow) then .yellow
  else .red

namespace DigitalIntersection

/-- `get_snapshot` of a running pipeline. -/
def liveSnapshot (d : DigitalIntersection) (ctx : LiveContext) (p : TrafficPipeline) (now : Rat) :
    SimSnapshot where
  activePhase :=
    match ctx.signal p now with
    | some (lane, .green) => lane.key ++ "_green"
    | some (lane, .yellow) => lane.key ++ "_yellow"
    | _ => "all_red"
  currentGreenLane :=
    match ctx.signal p now with
    | some (lane, .green) => some lane
    | _ => none
  currentYellowLane :=
    match ctx.signal p now with
    | some (lane, .yellow) => some lane
    | _ => none
  remainingTimeSeconds := ctx.remainingTimeSec p d.allRedSec now
  approaches lane := ctx.approach p now lane (colorOf (ctx.signal p now) lane)
  safetyStatus :=
    if ctx.aiStalled now || ctx.allOffline now then .allRedHold
    else if approachNames.any fun lane => ctx.cameraStatus now lane ≠ "HEALTHY" then .degraded
    else .normal
  cycleCount := p.phaseCounter / 4

/-- `_get_safe_hold_snapshot`. -/
def safeHoldSnapshot (ctx : LiveContext) (now : Rat) : SimSnapshot where
  activePhase := "all_red"
  currentGreenLane := none
  currentYellowLane := none
  remainingTimeSeconds := 0
  approaches lane :=
    { vehicles := 0, queue := 0, pce := 0, priority := 0
      cameraStatus := ctx.cameraStatus now lane, signal := .red }
  safetyStatus :=
    if approachNames.any fun lane => ctx.cameraStatus now lane = "HEALTHY" then .degraded
    else .allRedHold
  cycleCount := 0

def getSnapshot (d : DigitalIntersection) (simulationMode : Bool) (ctx : LiveContext) (now : Rat) :
    SimSnapshot :=
  if simulationMode then d.buildSimSnapshot
  else match ctx.pipeline with
    | none => safeHoldSnapshot ctx now
    | some p => if ctx.systemRunning then d.liveSnapshot ctx p now else safeHoldSnapshot ctx now

end DigitalIntersection

/-- An approach is lit exactly when the signal is its green or its yellow. -/
theorem colorOf_ne_red {signal : Option (LaneName × SignalState)} {lane : LaneName} :
    colorOf signal lane ≠ .red ↔ signal = some (lane, .green) ∨ signal = some (lane, .yellow) := by
  unfold colorOf
  split_ifs with hgreen hyellow
  · simp [hgreen]
  · simp [hyellow]
  · simp [hgreen, hyellow]

end SmartTraffic
