import SmartTraffic.Pipeline.Phase

/-!
# The health of a step

`PipelineHealth.evaluate` compares the counts and the results of the stages of a step.
A step passes the detections of its first camera for both of the first two stages, so
their number is an input here; detections themselves are not in the model.
-/

namespace SmartTraffic

inductive HealthSeverity
  | info
  | warning
  | error
  deriving DecidableEq, Repr

def HealthSeverity.value : HealthSeverity → String
  | info => "INFO"
  | warning => "WARNING"
  | error => "ERROR"

structure PipelineHealth where
  detectionCount : Nat
  trackedCount : Nat
  mappedCount : Int
  analyticsOk : Bool
  decisionActive : Bool
  phaseId : Nat
  remainingTimeSec : Int
  warnings : List String := []
  severity : HealthSeverity := .info
  deriving DecidableEq, Repr

namespace PipelineHealth

/-- A rule that found something; a warning does not replace an error. -/
def warn (h : PipelineHealth) (found : Bool) (text : String) (level : HealthSeverity) :
    PipelineHealth :=
  if found then
    { h with
      warnings := h.warnings ++ [text]
      severity := if level = .error ∨ h.severity ≠ .error then level else h.severity }
  else h

/-- What the rules go by. -/
def counted (rawDetections trackedDetections : Nat) (laneStats : List (LaneName × LaneStatistics))
    (decisionActive : Bool) (phaseId : Nat) (remainingTimeSec : Int) : PipelineHealth where
  detectionCount := rawDetections
  trackedCount := trackedDetections
  mappedCount := (laneStats.map fun item => item.2.liveCount).sum
  analyticsOk := laneStats ≠ []
  decisionActive := decisionActive
  phaseId := phaseId
  remainingTimeSec := remainingTimeSec

def trackingRule (h : PipelineHealth) : PipelineHealth :=
  h.warn (0 < h.detectionCount && h.trackedCount = 0)
    s!"Tracking Failure: {h.detectionCount} detections exist but 0 tracked" .error

def mappingRule (h : PipelineHealth) : PipelineHealth :=
  h.warn (0 < h.trackedCount && h.mappedCount = 0)
    s!"Lane Mapping Warning: {h.trackedCount} tracks outside lane ROIs" .warning

def analyticsRule (h : PipelineHealth) : PipelineHealth :=
  h.warn (0 < h.mappedCount && !h.analyticsOk)
    "Analytics Warning: Lane statistics empty despite mapped vehicles" .warning

def schedulerRule (h : PipelineHealth) (hasPriority : Bool) : PipelineHealth :=
  h.warn (hasPriority && !h.decisionActive)
    "Scheduler Failure: Priority computed but decision is None" .error

def controllerRule (h : PipelineHealth) (hasCommand : Bool) : PipelineHealth :=
  h.warn (h.decisionActive && !hasCommand)
    "Controller Failure: Decision exists but hardware command is None" .error

def evaluate (rawDetections trackedDetections : Nat)
    (laneStats : List (LaneName × LaneStatistics)) (priorityResult : Option PriorityResult)
    (decision : Option (SignalDecision LaneName)) (hardwareCmd : Option HardwareCommand)
    (phaseId : Nat) (remainingTimeSec : Int) : PipelineHealth :=
  let h := counted rawDetections trackedDetections laneStats decision.isSome phaseId
    remainingTimeSec
  ((h.trackingRule.mappingRule.analyticsRule).schedulerRule priorityResult.isSome).controllerRule
    hardwareCmd.isSome

end PipelineHealth

namespace PipelineWorld

/-- `health` of a result that a step got to with the pipeline `p`. -/
def healthOf (w : PipelineWorld) (i : StepInput) (detections : Nat) (p : TrafficPipeline) :
    PipelineHealth :=
  .evaluate detections detections (w.statsItems i) p.lastPriorityResult p.activeDecision
    p.activeHardwareCmd p.phaseCounter (p.remainingGreenSec i.currentMonoTime)

/-- `health` of the result of a step whose first camera shows so many detections. -/
def health (w : PipelineWorld) (i : StepInput) (detections : Nat) : Option PipelineHealth :=
  if i.frames.items = [] ∧ w.pipeline.activeDecision = none then none
  else if w.changesPhase i then
    (w.startedPhase i).map fun (r, d) =>
      w.healthOf i detections ((w.selecting i).startPhase r d i.currentMonoTime)
  else some (w.healthOf i detections (w.observed i))

end PipelineWorld

end SmartTraffic
