import SmartTraffic.Signal.Scheduler
import SmartTraffic.Lib.Dict

/-!
# The intersection simulator

`DigitalIntersection` in simulation mode: the three-phase machine that
`step_simulation` advances, the camera and stall triggers, and the snapshot built
from its state. The order of the approaches is that of `APPROACH_NAMES`.

The timestamp of a snapshot is left out. The wall clock only reaches the
timestamp of a scheduler decision, which nothing reads here, and is zero.
-/

namespace SmartTraffic

open Lib

def approachNames : List LaneName := [.north, .east, .south, .west]

inductive SignalColor
  | red
  | yellow
  | green
  deriving DecidableEq, Repr

inductive SafetyStatus
  | normal
  | allRedHold
  | degraded
  deriving DecidableEq, Repr

/-- `sim_phase_state`. -/
inductive SimPhase
  | green
  | yellow
  | allRed
  deriving DecidableEq, Repr

/-- One approach's entry of `lane_demands`; a key that is not given keeps the old value. -/
structure LaneDemand where
  vehicles : Option Int := none
  queue : Option Int := none
  pce : Option Rat := none
  hasPriority : Option Bool := none
  deriving DecidableEq, Repr

/-- `DigitalIntersection`, its simulation state. -/
structure DigitalIntersection where
  yellowSec : Int
  allRedSec : Int
  simScheduler : SignalScheduler
  simPhaseState : SimPhase := .allRed
  simActiveLane : Option LaneName := none
  simRemainingSec : Rat := 0
  simCycleCount : Nat := 0
  simLanesServedInCycle : Finset LaneName := ∅
  simAiStalled : Bool := false
  simCameraStatus : LaneName → String := fun _ => "HEALTHY"
  simStats : LaneName → LaneStatistics := fun l => { laneName := l.key }
  simLastPriorityScores : LaneName → Rat := fun _ => 0

namespace DigitalIntersection

def init (minGreenSec maxGreenSec yellowSec allRedSec : Int) : DigitalIntersection where
  yellowSec := yellowSec
  allRedSec := allRedSec
  simScheduler :=
    { minGreenSec := minGreenSec, maxGreenSec := maxGreenSec, yellowSec := yellowSec }

/-! ## The triggers -/

def triggerCameraDropout (d : DigitalIntersection) (laneName status : String) :
    DigitalIntersection :=
  match LaneName.ofKey? laneName.toLower with
  | none => d
  | some lane =>
      let d := { d with simCameraStatus := Function.update d.simCameraStatus lane status }
      if d.simActiveLane = some lane ∧ d.simPhaseState = .green then
        { d with simPhaseState := .yellow, simRemainingSec := d.yellowSec }
      else d

/-- The fail-safe state of a stall or of cameras that are all offline. -/
def hold (d : DigitalIntersection) : DigitalIntersection :=
  { d with simPhaseState := .allRed, simActiveLane := none, simRemainingSec := 0 }

def triggerAiStall (d : DigitalIntersection) (stalled : Bool) : DigitalIntersection :=
  let d := { d with simAiStalled := stalled }
  if stalled then d.hold else d

/-! ## One simulation step -/

/-- The statistics after one entry of `lane_demands`. -/
def applyDemand (stats : LaneName → LaneStatistics) (item : String × LaneDemand) :
    LaneName → LaneStatistics :=
  match LaneName.ofKey? item.1.toLower with
  | none => stats
  | some lane =>
      let rawCount := item.2.vehicles.getD (stats lane).rawCount
      Function.update stats lane
        { laneName := lane.key
          liveCount := rawCount
          rawCount := rawCount
          stoppedCount := item.2.queue.getD (stats lane).stoppedCount
          pceScore := item.2.pce.getD (stats lane).pceScore
          hasPriorityVehicle := item.2.hasPriority.getD (stats lane).hasPriorityVehicle }

def allCamerasOffline (d : DigitalIntersection) : Bool :=
  approachNames.all fun lane => d.simCameraStatus lane = "OFFLINE"

/-- The step only holds: the AI is stalled or every camera is offline. -/
def isHeld (d : DigitalIntersection) : Bool := d.simAiStalled || d.allCamerasOffline

/-- The items of `sim_stats`. -/
def statsItems (d : DigitalIntersection) : List (LaneName × LaneStatistics) :=
  approachNames.map fun lane => (lane, d.simStats lane)

def activeFresh (d : DigitalIntersection) : List LaneName :=
  approachNames.filter fun lane => d.simCameraStatus lane ≠ "OFFLINE"

def priorityRes (d : DigitalIntersection) : PriorityResult :=
  calculate PriorityWeights.default d.statsItems 0

/-- The state after the demand was entered and the scores were recorded. -/
def scored (d : DigitalIntersection) (demands : List (String × LaneDemand)) : DigitalIntersection :=
  let d := { d with simStats := demands.foldl applyDemand d.simStats }
  if d.isHeld then d
  else
    { d with
      simLastPriorityScores := updateAll d.simLastPriorityScores
        (d.priorityRes.scores.map fun s => (s.lane, s.score)) }

/-- The winner and the decision when the all-red time is over. -/
def nextGreen (d : DigitalIntersection) : Option (PriorityScore × SignalDecision LaneName) :=
  let (eligible, scheduler) :=
    d.simScheduler.selectEligible d.priorityRes d.statsItems d.activeFresh
  eligible.bind fun r => r.highestPriority.bind fun winner =>
    (scheduler.schedule r 1 0).toOption.map fun decision => (winner, decision)

/-- The scheduler after that selection. -/
def nextScheduler (d : DigitalIntersection) : SignalScheduler :=
  (d.simScheduler.selectEligible d.priorityRes d.statsItems d.activeFresh).2

/-- `sim_cycle_count` and `sim_lanes_served_in_cycle` after `lane` is served. -/
def countServed (d : DigitalIntersection) (lane : LaneName) : Nat × Finset LaneName :=
  if lane ∈ d.simLanesServedInCycle ∨ 4 ≤ d.simLanesServedInCycle.card then
    (d.simCycleCount + 1, {lane})
  else if (insert lane d.simLanesServedInCycle).card = 4 then (d.simCycleCount + 1, ∅)
  else (d.simCycleCount, insert lane d.simLanesServedInCycle)

/-- The end of the all-red time: the next green, or another wait. -/
def finishAllRed (d : DigitalIntersection) :
    DigitalIntersection × Option (SignalDecision LaneName) :=
  match d.nextGreen with
  | some (winner, decision) =>
      ({ d with
          simScheduler := d.nextScheduler
          simActiveLane := some winner.lane
          simPhaseState := .green
          simRemainingSec := decision.greenDurationSec
          simCycleCount := (d.countServed winner.lane).1
          simLanesServedInCycle := (d.countServed winner.lane).2 },
       some decision)
  | none => ({ d.hold with simScheduler := d.nextScheduler }, none)

/-- The phase machine of `step_simulation`; the second part is the decision it took, if any. -/
def progress (d : DigitalIntersection) (dt : Rat) :
    DigitalIntersection × Option (SignalDecision LaneName) :=
  match d.simPhaseState with
  | .green =>
      if d.simRemainingSec - dt ≤ 0 then
        ({ d with simPhaseState := .yellow, simRemainingSec := d.yellowSec }, none)
      else ({ d with simRemainingSec := d.simRemainingSec - dt }, none)
  | .yellow =>
      if d.simRemainingSec - dt ≤ 0 then
        ({ d with simPhaseState := .allRed, simRemainingSec := d.allRedSec }, none)
      else ({ d with simRemainingSec := d.simRemainingSec - dt }, none)
  | .allRed =>
      let d := { d with simRemainingSec := max 0 (d.simRemainingSec - dt) }
      if d.simRemainingSec ≤ 0 then d.finishAllRed else (d, none)

/-- The state change of `step_simulation`, with the decision it took. -/
def advance (d : DigitalIntersection) (dt : Rat) (demands : List (String × LaneDemand)) :
    DigitalIntersection × Option (SignalDecision LaneName) :=
  if (d.scored demands).isHeld then ((d.scored demands).hold, none)
  else (d.scored demands).progress dt

/-! ## The snapshot -/

/-- The colour `_build_sim_snapshot` gives an approach. -/
def signalOf (d : DigitalIntersection) (lane : LaneName) : SignalColor :=
  if d.simPhaseState = .green ∧ d.simActiveLane = some lane then .green
  else if d.simPhaseState = .yellow ∧ d.simActiveLane = some lane then .yellow
  else .red

structure ApproachState where
  vehicles : Int
  queue : Int
  pce : Rat
  priority : Rat
  cameraStatus : String
  signal : SignalColor
  deriving DecidableEq, Repr

/-- What `_build_sim_snapshot` returns. -/
structure SimSnapshot where
  activePhase : String
  currentGreenLane : Option LaneName
  currentYellowLane : Option LaneName
  remainingTimeSeconds : Int
  approaches : LaneName → ApproachState
  safetyStatus : SafetyStatus
  cycleCount : Nat

def buildSimSnapshot (d : DigitalIntersection) : SimSnapshot where
  activePhase :=
    match d.simPhaseState, d.simActiveLane with
    | .green, some lane => lane.key ++ "_green"
    | .yellow, some lane => lane.key ++ "_yellow"
    | _, _ => "all_red"
  currentGreenLane := if d.simPhaseState = .green then d.simActiveLane else none
  currentYellowLane := if d.simPhaseState = .yellow then d.simActiveLane else none
  remainingTimeSeconds := max 0 ⌈d.simRemainingSec⌉
  approaches lane :=
    { vehicles := (d.simStats lane).rawCount
      queue := (d.simStats lane).stoppedCount
      pce := roundDigits 2 (d.simStats lane).pceScore
      priority := roundDigits 2 (d.simLastPriorityScores lane)
      cameraStatus := d.simCameraStatus lane
      signal := d.signalOf lane }
  safetyStatus :=
    if d.isHeld then .allRedHold
    else if approachNames.any fun lane => d.simCameraStatus lane ≠ "HEALTHY" then .degraded
    else .normal
  cycleCount := d.simCycleCount

/-- The step, and the snapshot that is returned with it. -/
def stepSimulation (d : DigitalIntersection) (dt : Rat) (demands : List (String × LaneDemand)) :
    DigitalIntersection × SimSnapshot :=
  ((d.advance dt demands).1, (d.advance dt demands).1.buildSimSnapshot)

end DigitalIntersection

/-! ## Operations -/

/-- The calls a simulator receives. -/
inductive SimOp
  | step (dt : Rat) (demands : List (String × LaneDemand))
  | cameraDropout (laneName status : String)
  | aiStall (stalled : Bool)

/-- The simulated time an operation takes. -/
def SimOp.dt : SimOp → Rat
  | .step dt _ => dt
  | .cameraDropout _ _ => 0
  | .aiStall _ => 0

/-- One call: the next state, and the decision a step took. -/
def DigitalIntersection.apply (d : DigitalIntersection) :
    SimOp → DigitalIntersection × Option (SignalDecision LaneName)
  | .step dt demands => d.advance dt demands
  | .cameraDropout laneName status => (d.triggerCameraDropout laneName status, none)
  | .aiStall stalled => (d.triggerAiStall stalled, none)

/-- The call enforces ALL_RED_HOLD: a stall, or a step that finds the machine held. -/
def DigitalIntersection.holds (d : DigitalIntersection) : SimOp → Bool
  | .step _ _ => d.isHeld
  | .cameraDropout _ _ => false
  | .aiStall stalled => stalled

namespace DigitalIntersection

@[simp] theorem scored_simPhaseState (d : DigitalIntersection)
    (demands : List (String × LaneDemand)) :
    (d.scored demands).simPhaseState = d.simPhaseState := by
  unfold scored; dsimp only; split_ifs <;> rfl

@[simp] theorem scored_simActiveLane (d : DigitalIntersection)
    (demands : List (String × LaneDemand)) :
    (d.scored demands).simActiveLane = d.simActiveLane := by
  unfold scored; dsimp only; split_ifs <;> rfl

@[simp] theorem scored_simRemainingSec (d : DigitalIntersection)
    (demands : List (String × LaneDemand)) :
    (d.scored demands).simRemainingSec = d.simRemainingSec := by
  unfold scored; dsimp only; split_ifs <;> rfl

@[simp] theorem scored_yellowSec (d : DigitalIntersection) (demands : List (String × LaneDemand)) :
    (d.scored demands).yellowSec = d.yellowSec := by
  unfold scored; dsimp only; split_ifs <;> rfl

@[simp] theorem scored_allRedSec (d : DigitalIntersection) (demands : List (String × LaneDemand)) :
    (d.scored demands).allRedSec = d.allRedSec := by
  unfold scored; dsimp only; split_ifs <;> rfl

/-- Entering demand does not change whether the machine is held. -/
@[simp] theorem scored_isHeld (d : DigitalIntersection) (demands : List (String × LaneDemand)) :
    (d.scored demands).isHeld = d.isHeld := by
  unfold scored; dsimp only; split_ifs <;> rfl

/-- The next green is a scored lane, and its decision is for that lane. -/
theorem nextGreen_lane {d : DigitalIntersection} {winner : PriorityScore}
    {decision : SignalDecision LaneName} (h : d.nextGreen = some (winner, decision)) :
    decision.greenLane = winner.lane := by
  unfold nextGreen at h
  obtain ⟨r, hr, h⟩ := Option.bind_eq_some_iff.mp h
  obtain ⟨w, hw, rfl⟩ := selectEligible_some hr
  rw [Option.bind_some, schedule_selected _ (mem_demandOf hw).1] at h
  obtain ⟨rfl, rfl⟩ := Prod.mk.inj (Option.some.inj h)
  rfl

end DigitalIntersection

end SmartTraffic
