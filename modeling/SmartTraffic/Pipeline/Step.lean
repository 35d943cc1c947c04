import SmartTraffic.Pipeline.State
import SmartTraffic.Lib.Run

/-!
# One pipeline step

`TrafficPipeline._process_step_unlocked` from the merged statistics on: the
empty-lane release, the expiry and pre-emption of the phase, the start of a new
phase, and the reported signal state.

A step does one of four things: it returns at once when there is nothing to do,
it keeps the running phase, it ends the phase without a successor, or it starts
a phase. `processStep_idle`, `processStep_hold`, `processStep_lapse` and
`processStep_start` say when.
-/

namespace SmartTraffic

open Lib

namespace TrafficPipeline

/-- `elapsed_sec`. A start time of zero means that no phase was ever started. -/
def elapsedSec (p : TrafficPipeline) (now : Rat) : Rat :=
  if 0 < p.phaseStartTime then now - p.phaseStartTime else 999

/-- `active_is_empty`: the step has a frame for the green approach and counts nobody there. -/
def activeIsEmpty (p : TrafficPipeline) (frames : Dict LaneName FramePayload)
    (merged : LaneName → LaneStatistics) : Bool :=
  p.activeDecision.any fun d =>
    frames.contains d.greenLane && decide ((merged d.greenLane).rawCount = 0)

/-- The empty approach has been confirmed for long enough while it was green. -/
def releasesEmpty (p : TrafficPipeline) (frames : Dict LaneName FramePayload)
    (merged : LaneName → LaneStatistics) (now : Rat) : Bool :=
  p.activeIsEmpty frames merged
    && p.activeEmptySince.any (fun since => Config.emptyLaneReleaseSec ≤ now - since)
    && p.activeDecision.any fun d => p.elapsedSec now < d.greenDurationSec

/-- `max(1, int(math.floor(elapsed_sec)))`. -/
def releasedGreen (p : TrafficPipeline) (now : Rat) : Int := max 1 ⌊p.elapsedSec now⌋

/-- The empty-lane rule: shorten the green of an approach confirmed empty. -/
def emptyRule (p : TrafficPipeline) (frames : Dict LaneName FramePayload)
    (merged : LaneName → LaneStatistics) (now : Rat) : TrafficPipeline :=
  match p.activeDecision with
  | none => p
  | some d =>
      if p.activeIsEmpty frames merged then
        if p.activeEmptySince = none then { p with activeEmptySince := some now }
        else if p.releasesEmpty frames merged now then
          { p with activeDecision := some { d with greenDurationSec := p.releasedGreen now } }
        else p
      else if frames.contains d.greenLane then { p with activeEmptySince := none }
      else p

def isPhaseExpired (p : TrafficPipeline) (now : Rat) : Bool :=
  match p.activeDecision with
  | none => true
  | some d => (d.greenDurationSec + d.yellowDurationSec + Config.allRedSec : Int) ≤ p.elapsedSec now

/-- A priority vehicle somewhere replaces a phase that is not an emergency phase itself. -/
def preempts (p : TrafficPipeline) (hasEmergency : Bool) : Bool :=
  hasEmergency && p.activeDecision.any fun d => decide (d.reason ≠ .emergency)

/-- `signal_state` of a decision whose phase has run for `elapsed` seconds. -/
def signalStateAt (d : SignalDecision LaneName) (elapsed : Rat) : SignalState :=
  if elapsed < d.greenDurationSec then .green
  else if elapsed < (d.greenDurationSec + d.yellowDurationSec : Int) then .yellow
  else .allRed

def remainingGreenSec (p : TrafficPipeline) (now : Rat) : Int :=
  match p.activeDecision with
  | none => 0
  | some d => max 0 ⌈(d.greenDurationSec : Rat) - (now - p.phaseStartTime)⌉

def signalState (p : TrafficPipeline) (now : Rat) : SignalState :=
  match p.activeDecision with
  | none => .allRed
  | some d => signalStateAt d (now - p.phaseStartTime)

/-- The reason of a decision whose lane has a priority vehicle. -/
def markEmergency (hasPriorityVehicle : Bool) (d : SignalDecision LaneName) :
    SignalDecision LaneName :=
  if hasPriorityVehicle then
    { d with
      reason := .emergency
      reasonDetails := "Fresh emergency vehicle detection pre-empted the normal cycle" }
  else d

/-- The decision a selection leads to: `schedule`, and the reason of an emergency. -/
def decisionFor (p : TrafficPipeline) (r : PriorityResult) (merged : LaneName → LaneStatistics)
    (wallTime : Rat) : Option (SignalDecision LaneName) :=
  (p.signalScheduler.schedule r p.phaseCounter wallTime).toOption.map fun d =>
    markEmergency (merged d.greenLane).hasPriorityVehicle d

/-- The pipeline after it started the phase of `d`. -/
def startPhase (p : TrafficPipeline) (r : PriorityResult) (d : SignalDecision LaneName)
    (now : Rat) : TrafficPipeline :=
  let (cmd, controller) := p.signalController.generateCommand d
  { p with
    activeDecision := some d
    lastPriorityResult := some r
    phaseStartTime := now
    activeEmptySince := none
    countStabilizer := (p.countStabilizer.updateDecisionStability d.greenLane.value).2
    activeHardwareCmd := some cmd
    signalController := controller }

end TrafficPipeline

namespace PipelineWorld

/-- `intersection_state` as it is first built. -/
def intersectionState (w : PipelineWorld) (i : StepInput) : IntersectionState where
  lanes := w.statsItems i
  timestamp := i.wallTime
  totalVehicles := ((w.statsItems i).map fun item => item.2.liveCount).sum
  activePhaseId := w.pipeline.phaseCounter
  greenLane := w.pipeline.activeDecision.map (·.greenLane)

/-- The `PipelineResult` at the end of a step that got there with the pipeline `p`. -/
def report (w : PipelineWorld) (i : StepInput) (p : TrafficPipeline) (isPhaseChange : Bool) :
    PipelineResult where
  hasFrame := true
  intersectionState := some
    { w.intersectionState i with
      activePhaseId := p.phaseCounter
      greenLane := p.activeDecision.map (·.greenLane)
      remainingGreenSec := p.remainingGreenSec i.currentMonoTime }
  laneStats := w.statsItems i
  priorityResult := p.lastPriorityResult
  signalDecision := p.activeDecision
  hardwareCommand := p.activeHardwareCmd
  remainingGreenSec := p.remainingGreenSec i.currentMonoTime
  signalState := p.signalState i.currentMonoTime
  isPhaseChange := isPhaseChange
  stabilityMetrics := some p.countStabilizer.metrics

/-- The `PipelineResult` of a step that found no eligible approach. -/
def lapseResult (w : PipelineWorld) (i : StepInput) : PipelineResult where
  hasFrame := i.frames.items ≠ []
  laneStats := w.statsItems i
  intersectionState := some (w.intersectionState i)
  signalState := .allRed

/-- The pipeline after perception and the empty-lane rule. -/
def observed (w : PipelineWorld) (i : StepInput) : TrafficPipeline :=
  (w.pipeline.perceive i.frames).emptyRule i.frames (w.mergedStats i) i.currentMonoTime

/-- The step selects a new phase: the old one has expired or is pre-empted. -/
def changesPhase (w : PipelineWorld) (i : StepInput) : Bool :=
  (w.observed i).isPhaseExpired i.currentMonoTime || (w.observed i).preempts (w.hasEmergency i)

/-- The priority result handed to `select_eligible`. -/
def priorityResult (w : PipelineWorld) (i : StepInput) : PriorityResult :=
  checkAndOverride Config.emergencyBoostScore
    (calculate PriorityWeights.default (w.statsItems i) i.wallTime) (w.statsItems i)

/-- The selection of a step that changes phase. -/
def selection (w : PipelineWorld) (i : StepInput) : Option PriorityResult × SignalScheduler :=
  (w.observed i).signalScheduler.selectEligible (w.priorityResult i) (w.statsItems i)
    (w.freshLanes i)

/-- The pipeline right after the selection: the phase counter and the cursor have moved. -/
def selecting (w : PipelineWorld) (i : StepInput) : TrafficPipeline :=
  { w.observed i with
    phaseCounter := (w.observed i).phaseCounter + 1
    signalScheduler := (w.selection i).2 }

/-- The pipeline after a selection that found no eligible approach. -/
def lapsed (w : PipelineWorld) (i : StepInput) : TrafficPipeline :=
  { w.selecting i with activeDecision := none, activeHardwareCmd := none }

/-- The phase a step starts, if it starts one. -/
def startedPhase (w : PipelineWorld) (i : StepInput) :
    Option (PriorityResult × SignalDecision LaneName) :=
  (w.selection i).1.bind fun r =>
    ((w.selecting i).decisionFor r (w.mergedStats i) i.wallTime).map fun d => (r, d)

/-- `TrafficPipeline._process_step_unlocked`. -/
def processStep (w : PipelineWorld) (i : StepInput) : PipelineWorld × PipelineResult :=
  if i.frames.items = [] ∧ w.pipeline.activeDecision = none then (w, { hasFrame := false })
  else if w.changesPhase i then
    match w.startedPhase i with
    | none => ({ pipeline := w.lapsed i, ctx := w.mergeContext i }, w.lapseResult i)
    | some (r, d) =>
        let p := (w.selecting i).startPhase r d i.currentMonoTime
        ({ pipeline := p, ctx := w.mergeContext i }, w.report i p true)
  else
    ({ pipeline := w.observed i, ctx := w.mergeContext i }, w.report i (w.observed i) false)

end PipelineWorld

/-- Marking an emergency changes the reason only. -/
theorem markEmergency_spec (b : Bool) (d : SignalDecision LaneName) :
    (TrafficPipeline.markEmergency b d).greenLane = d.greenLane
      ∧ (TrafficPipeline.markEmergency b d).greenDurationSec = d.greenDurationSec
      ∧ (TrafficPipeline.markEmergency b d).yellowDurationSec = d.yellowDurationSec
      ∧ (TrafficPipeline.markEmergency b d).phaseId = d.phaseId
      ∧ (TrafficPipeline.markEmergency b d).reason = if b then .emergency else d.reason := by
  cases b with
  | true => exact ⟨rfl, rfl, rfl, rfl, rfl⟩
  | false => exact ⟨rfl, rfl, rfl, rfl, rfl⟩

/-! ## The decision and the empty-lane rule -/

section

variable (p : TrafficPipeline) (frames : Dict LaneName FramePayload)
  (merged : LaneName → LaneStatistics) (now : Rat)

/-- The rule changes the empty timer, or the green of the active decision, and nothing else. -/
theorem emptyRule_spec : ∃ d since,
    p.emptyRule frames merged now = { p with activeDecision := d, activeEmptySince := since } := by
  unfold TrafficPipeline.emptyRule
  cases hd : p.activeDecision with
  | none => exact ⟨p.activeDecision, p.activeEmptySince, rfl⟩
  | some d =>
      dsimp only
      split_ifs
      · exact ⟨p.activeDecision, some now, by rw [hd]⟩
      · exact ⟨some { d with greenDurationSec := p.releasedGreen now }, p.activeEmptySince, rfl⟩
      · exact ⟨p.activeDecision, p.activeEmptySince, rfl⟩
      · exact ⟨p.activeDecision, none, by rw [hd]⟩
      · exact ⟨p.activeDecision, p.activeEmptySince, rfl⟩

/-- **The rule shortens the green exactly when it releases an empty approach.** -/
theorem emptyRule_activeDecision : (p.emptyRule frames merged now).activeDecision
    = if p.releasesEmpty frames merged now then
        p.activeDecision.map fun d => { d with greenDurationSec := p.releasedGreen now }
      else p.activeDecision := by
  unfold TrafficPipeline.emptyRule
  cases hd : p.activeDecision with
  | none =>
      have hno : ¬p.releasesEmpty frames merged now = true := by
        unfold TrafficPipeline.releasesEmpty; rw [hd]; simp
      rw [if_neg hno]; exact hd
  | some d =>
      dsimp only
      by_cases hempty : p.activeIsEmpty frames merged = true
      · rw [if_pos hempty]
        by_cases hsince : p.activeEmptySince = none
        · have hno : ¬p.releasesEmpty frames merged now = true := by
            unfold TrafficPipeline.releasesEmpty; rw [hsince]; simp
          rw [if_pos hsince, if_neg hno]
        · rw [if_neg hsince]
          by_cases hrel : p.releasesEmpty frames merged now = true
          · rw [if_pos hrel, if_pos hrel]; rfl
          · rw [if_neg hrel, if_neg hrel]; exact hd
      · have hno : ¬p.releasesEmpty frames merged now = true := by
          unfold TrafficPipeline.releasesEmpty
          rw [Bool.and_assoc, Bool.and_eq_true]; exact fun h => hempty h.1
        rw [if_neg hempty, if_neg hno]
        by_cases hc : frames.contains d.greenLane = true
        · rw [if_pos hc]
        · rw [if_neg hc]; exact hd

end

/-! ## The four outcomes of a step -/

namespace PipelineWorld

variable {w : PipelineWorld} {i : StepInput}

theorem processStep_idle (h : i.frames.items = [] ∧ w.pipeline.activeDecision = none) :
    w.processStep i = (w, { hasFrame := false }) := by
  unfold processStep; rw [if_pos h]

theorem processStep_hold (h : ¬(i.frames.items = [] ∧ w.pipeline.activeDecision = none))
    (hc : w.changesPhase i = false) : w.processStep i
      = ({ pipeline := w.observed i, ctx := w.mergeContext i },
        w.report i (w.observed i) false) := by
  unfold processStep; rw [if_neg h, hc]; rfl

theorem processStep_lapse (h : ¬(i.frames.items = [] ∧ w.pipeline.activeDecision = none))
    (hc : w.changesPhase i = true) (hs : w.startedPhase i = none) : w.processStep i
      = ({ pipeline := w.lapsed i, ctx := w.mergeContext i }, w.lapseResult i) := by
  unfold processStep; rw [if_neg h, if_pos hc, hs]

theorem processStep_start (h : ¬(i.frames.items = [] ∧ w.pipeline.activeDecision = none))
    (hc : w.changesPhase i = true) {r : PriorityResult} {d : SignalDecision LaneName}
    (hs : w.startedPhase i = some (r, d)) : w.processStep i
      = ({ pipeline := (w.selecting i).startPhase r d i.currentMonoTime, ctx := w.mergeContext i },
         w.report i ((w.selecting i).startPhase r d i.currentMonoTime) true) := by
  unfold processStep; rw [if_neg h, if_pos hc, hs]

end PipelineWorld

end SmartTraffic
