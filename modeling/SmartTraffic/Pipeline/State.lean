import SmartTraffic.Perception.Stabilizer
import SmartTraffic.Signal.Scheduler
import SmartTraffic.Lib.Dict

/-!
# The state of the traffic pipeline

`TrafficPipeline` with the parts of its state that decisions read, the lane
tables of `ApplicationContext` it shares, the input of one `process_step` call
and the `PipelineResult` it returns.

Detection and tracking are outside the model: a frame carries the statistics
that the detector, the tracker and the analysers yield for it, and the step uses
them when the detector is due. Clock readings, and the order in which the set of
known lanes is walked, are inputs as well.
-/

namespace SmartTraffic

open Lib

/-- One approach's entry of `frames_data`. -/
structure FramePayload where
  timestamp : Rat
  hasFrame : Bool := true
  connected : Bool := true
  /-- What `generate_stats` yields when the detector runs on the frame. -/
  observation : LaneStatistics
  deriving DecidableEq, Repr

/-- The four lanes as they are walked where no other order is given. -/
theorem laneOrder_refl : List.Perm [LaneName.north, .east, .south, .west]
    [.north, .east, .south, .west] := List.Perm.refl _

/-- The input of one `process_step`, with the readings it takes while it runs. -/
structure StepInput where
  frames : Dict LaneName FramePayload
  /-- `now_mono`, read before the statistics are merged. -/
  nowMono : Rat
  /-- `current_mono_time`, read after it. -/
  currentMonoTime : Rat
  /-- `time.time()`. -/
  wallTime : Rat := 0
  /-- The order in which the set of known lanes is walked. -/
  laneOrder : List LaneName := [.north, .east, .south, .west]
  laneOrder_perm : laneOrder.Perm [.north, .east, .south, .west] := by exact laneOrder_refl

structure SignalController where
  phaseCounter : Nat := 0
  deriving DecidableEq, Repr

def SignalController.generateCommand (c : SignalController) (d : SignalDecision LaneName) :
    HardwareCommand × SignalController :=
  ({ phaseId := c.phaseCounter + 1
     greenLane := d.greenLane
     greenDurationSec := d.greenDurationSec
     yellowDurationSec := d.yellowDurationSec
     redLanes := d.redLanes
     priorityScore := d.priorityScore
     reason := d.reason
     reasonDetails := d.reasonDetails
     timestamp := d.timestamp },
   { phaseCounter := c.phaseCounter + 1 })

/-- `TrafficPipeline`: what perception and decisions keep between steps. -/
structure TrafficPipeline where
  detectorFps : Rat := 2
  lastDetectionTs : LaneName → Option Rat := fun _ => none
  lastAuthoritativeStats : LaneName → Option LaneStatistics := fun _ => none
  countStabilizer : CountStabilizer LaneName := {}
  signalScheduler : SignalScheduler := {}
  signalController : SignalController := {}
  phaseCounter : Nat := 0
  activeDecision : Option (SignalDecision LaneName) := none
  activeHardwareCmd : Option HardwareCommand := none
  lastPriorityResult : Option PriorityResult := none
  phaseStartTime : Rat := 0
  activeEmptySince : Option Rat := none

/-- The lane tables of `ApplicationContext`. -/
structure LaneContext where
  laneStatsHistory : LaneName → Option LaneStatistics := fun _ => none
  laneLastSeen : LaneName → Option Rat := fun _ => none

/-- A pipeline and the lane tables it shares. -/
structure PipelineWorld where
  pipeline : TrafficPipeline := {}
  ctx : LaneContext := {}

structure IntersectionState where
  lanes : List (LaneName × LaneStatistics)
  timestamp : Rat
  totalVehicles : Int
  activePhaseId : Nat
  greenLane : Option LaneName
  remainingGreenSec : Int := 0
  deriving DecidableEq, Repr

structure PipelineResult where
  hasFrame : Bool
  intersectionState : Option IntersectionState := none
  laneStats : List (LaneName × LaneStatistics) := []
  priorityResult : Option PriorityResult := none
  signalDecision : Option (SignalDecision LaneName) := none
  hardwareCommand : Option HardwareCommand := none
  remainingGreenSec : Int := 0
  signalState : SignalState := .allRed
  isPhaseChange : Bool := false
  stabilityMetrics : Option StabilityMetrics := none
  deriving DecidableEq, Repr

/-! ## Lane statistics of a step -/

def detectorIsDue (lastDetectionTs : Option Rat) (frameTs detectorFps : Rat) : Bool :=
  match lastDetectionTs with
  | none => true
  | some last => frameTs < last || 1 / detectorFps ≤ frameTs - last

/-- The feed is connected and delivered a frame. -/
def FramePayload.isLive (f : FramePayload) : Bool := f.connected && f.hasFrame

namespace TrafficPipeline

/-- The detector runs on this frame. -/
def runsDetector (p : TrafficPipeline) (lane : LaneName) (f : FramePayload) : Bool :=
  f.isLive && detectorIsDue (p.lastDetectionTs lane) f.timestamp p.detectorFps

/-- `observed_stats_map`. -/
def observedStats (p : TrafficPipeline) (frames : Dict LaneName FramePayload) :
    List (LaneName × LaneStatistics) :=
  (frames.items.filter fun (lane, f) => p.runsDetector lane f).map fun (lane, f) =>
    (lane, f.observation)

/-- A frame's entry of `lane_stats_map` before the stabilizer's are written over it. -/
def frameStats (p : TrafficPipeline) (lane : LaneName) (f : FramePayload) : LaneStatistics :=
  if f.isLive = false then { laneName := lane.key }
  else if p.runsDetector lane f then f.observation
  else (p.lastAuthoritativeStats lane).getD { laneName := lane.key }

/-- `lane_stats_map` after `lane_stats_map.update(stabilized)`. -/
def stepStats (p : TrafficPipeline) (frames : Dict LaneName FramePayload) (lane : LaneName) :
    Option LaneStatistics :=
  (frames.get? lane).map fun f =>
    ((p.countStabilizer.stabilize double (p.observedStats frames)).1.lookup lane).getD
      (p.frameStats lane f)

/-- The pipeline after the frames were perceived and the counts stabilized. -/
def perceive (p : TrafficPipeline) (frames : Dict LaneName FramePayload) : TrafficPipeline :=
  let (stabilized, stabilizer) := p.countStabilizer.stabilize double (p.observedStats frames)
  { p with
    lastDetectionTs := updateAll p.lastDetectionTs
      ((frames.items.filter fun (lane, f) => p.runsDetector lane f).map fun (lane, f) =>
        (lane, some f.timestamp))
    countStabilizer := stabilizer
    lastAuthoritativeStats := updateAll p.lastAuthoritativeStats
      (stabilized.map fun (lane, st) => (lane, some st)) }

end TrafficPipeline

/-- Statistics of a lane not seen for more than three seconds: the queue is forgotten. -/
def decayedStats (hist : LaneStatistics) : LaneStatistics := { laneName := hist.laneName }

namespace PipelineWorld

/-- A known lane without a frame: its history, or the decayed history. -/
def agedStats (w : PipelineWorld) (now : Rat) (lane : LaneName) : Option LaneStatistics :=
  (w.ctx.laneStatsHistory lane).map fun hist =>
    if 3 < now - (w.ctx.laneLastSeen lane).getD 0 then decayedStats hist else hist

/-- `all_intersection_lanes`. -/
def mergedStats (w : PipelineWorld) (i : StepInput) (lane : LaneName) : LaneStatistics :=
  match w.pipeline.stepStats i.frames lane with
  | some st => st
  | none => (w.agedStats i.nowMono lane).getD { laneName := lane.key }

/-- The lane tables after the merge. -/
def mergeContext (w : PipelineWorld) (i : StepInput) : LaneContext where
  laneStatsHistory lane :=
    match w.pipeline.stepStats i.frames lane with
    | some st => some st
    | none => w.agedStats i.nowMono lane
  laneLastSeen lane := if i.frames.contains lane then some i.nowMono else w.ctx.laneLastSeen lane

/-- `fresh_lanes`, on the merged tables. -/
def freshLanes (w : PipelineWorld) (i : StepInput) : List LaneName :=
  i.laneOrder.filter fun lane =>
    i.nowMono - ((w.mergeContext i).laneLastSeen lane).getD 0 < 3

/-- The items of the merged `lane_stats_map`. -/
def statsItems (w : PipelineWorld) (i : StepInput) : List (LaneName × LaneStatistics) :=
  i.laneOrder.map fun lane => (lane, w.mergedStats i lane)

def hasEmergency (w : PipelineWorld) (i : StepInput) : Bool :=
  (w.statsItems i).any fun item => item.2.hasPriorityVehicle

end PipelineWorld

end SmartTraffic
