import SmartTraffic.Lib.Json
import SmartTraffic.Signal.Scheduler

/-!
# The replay lab

`TrafficReplayLab`: a scenario gives the load of the four approaches at each step, the
scheduler gives one of them the green, and the clock of the simulation moves past the
phase. Every run starts with a new scheduler.

The wall clock only reaches the timestamp of a scheduler decision, which no record
shows, and is zero.
-/

namespace SmartTraffic

open Lib

/-- `TrafficScenario`. -/
inductive TrafficScenario
  | balancedNormal
  | heavyNorth
  | allBusyGridlock
  | cameraDisconnect
  | emergencyPreemption
  | suddenSpike
  deriving DecidableEq, Repr

def TrafficScenario.value : TrafficScenario → String
  | balancedNormal => "BALANCED_NORMAL"
  | heavyNorth => "HEAVY_NORTH"
  | allBusyGridlock => "ALL_BUSY_GRIDLOCK"
  | cameraDisconnect => "CAMERA_DISCONNECT"
  | emergencyPreemption => "EMERGENCY_PREEMPTION"
  | suddenSpike => "SUDDEN_SPIKE"

/-- `ReplayStepRecord`. -/
structure ReplayStepRecord where
  stepIndex : Nat
  activeGreenLane : LaneName
  greenDurationSec : Int
  yellowDurationSec : Int
  reason : DecisionReason
  decisionDetails : String
  laneCounts : List (LaneName × Int)
  lanePce : List (LaneName × Rat)
  laneQueues : List (LaneName × Rat)
  priorityScores : List (LaneName × Rat)
  timestamp : Rat
  deriving DecidableEq, Repr

/-- `ReplayRunResult`. -/
structure ReplayRunResult where
  scenarioName : String
  totalSteps : Int
  steps : List ReplayStepRecord := []
  greenAllocationsByLane : LaneName → Nat := fun _ => 0
  emergencyPreemptions : Nat := 0
  disconnectedDropouts : Nat := 0

/-! ## The load of a step -/

/-- The `lanes` of `_generate_scenario_traffic`. -/
def replayLanes : List LaneName := [.north, .south, .east, .west]

/-- The statistics a scenario enters for an approach. -/
def replayLoad (lane : LaneName) (count : Int) (pce : Rat) (stopped : Int) (queueSec : Rat)
    (hasPriority : Bool) : LaneStatistics :=
  { laneName := lane.key, liveCount := count, rawCount := count, pceScore := pce
    stoppedCount := stopped, totalQueueTimeSec := queueSec, hasPriorityVehicle := hasPriority }

/-- `_generate_scenario_traffic`: the statistics in the order in which they are entered, and the
fresh lanes. -/
def generateScenarioTraffic (scenario : String) (step : Nat) :
    List (LaneName × LaneStatistics) × List LaneName :=
  if scenario = TrafficScenario.balancedNormal.value then
    (replayLanes.map fun l => (l, replayLoad l 5 5 2 15 false), replayLanes)
  else if scenario = TrafficScenario.heavyNorth.value then
    ((.north, replayLoad .north 18 24 12 110 false)
      :: [.south, .east, .west].map fun l => (l, replayLoad l 2 2 1 5 false), replayLanes)
  else if scenario = TrafficScenario.allBusyGridlock.value then
    (replayLanes.map fun l => (l, replayLoad l 15 20 10 90 false), replayLanes)
  else if scenario = TrafficScenario.cameraDisconnect.value then
    (replayLanes.map fun l => (l, replayLoad l 4 4 1 10 false),
      if 3 < step then replayLanes.erase .east else replayLanes)
  else if scenario = TrafficScenario.emergencyPreemption.value then
    (replayLanes.map fun l => (l, replayLoad l 6 6 2 20 (l = .south && decide (2 ≤ step))),
      replayLanes)
  else if scenario = TrafficScenario.suddenSpike.value then
    let westCount : Int := if 4 ≤ step then 20 else 1
    ((.west, replayLoad .west westCount (westCount * (12 / 10)) (westCount / 2) (westCount * 5)
        false)
      :: [.north, .south, .east].map fun l => (l, replayLoad l 3 3 1 10 false), replayLanes)
  else (replayLanes.map fun l => (l, replayLoad l 1 0 0 0 false), replayLanes)

/-- The score of one approach, before it is ranked. -/
def replayScore (laneStats : List (LaneName × LaneStatistics)) (fresh : List LaneName)
    (lane : LaneName) : PriorityScore :=
  match statsOf laneStats lane, fresh.contains lane with
  | some st, true =>
      { lane := lane
        score :=
          if st.hasPriorityVehicle then 1000
          else st.pceScore * (45 / 100) + st.totalQueueTimeSec / 10 * (35 / 100)
            + st.stoppedCount * (20 / 100)
        rank := 1
        breakdown :=
          { pce := st.pceScore, queue := st.totalQueueTimeSec, congestion := st.stoppedCount
            rawPce := st.pceScore, rawQueueSec := st.totalQueueTimeSec } }
  | _, _ =>
      { lane := lane, score := 0, rank := 1
        breakdown := { pce := 0, queue := 0, congestion := 0 } }

/-- `_calculate_priority`. -/
def replayPriority (laneStats : List (LaneName × LaneStatistics)) (fresh : List LaneName) :
    PriorityResult :=
  let scores := assignRanks (sortByScore (replayLanes.map (replayScore laneStats fresh)))
  { scores := scores, highestPriority := scores.head?, timestamp := 0 }

/-! ## A run -/

/-- What the loop of `run_scenario` carries along. -/
structure ReplayState where
  scheduler : SignalScheduler
  simTime : Rat := 1000
  result : ReplayRunResult

/-- `record`. -/
def replayRecord (scenario : String) (step : Nat) (simTime : Rat)
    (decision : SignalDecision LaneName) : ReplayStepRecord :=
  let (laneStats, fresh) := generateScenarioTraffic scenario step
  { stepIndex := step
    activeGreenLane := decision.greenLane
    greenDurationSec := decision.greenDurationSec
    yellowDurationSec := decision.yellowDurationSec
    reason := decision.reason
    decisionDetails := decision.reasonDetails
    laneCounts := laneStats.map fun (lane, st) => (lane, st.rawCount)
    lanePce := laneStats.map fun (lane, st) => (lane, st.pceScore)
    laneQueues := laneStats.map fun (lane, st) => (lane, st.totalQueueTimeSec)
    priorityScores := (replayPriority laneStats fresh).scores.map fun s => (s.lane, s.score)
    timestamp := simTime }

/-- The counters and the record of a step, and the clock after it. -/
def ReplayState.finish (scenario : String) (s : ReplayState) (step : Nat)
    (scheduler : SignalScheduler) (decision : SignalDecision LaneName) : ReplayState :=
  let (laneStats, fresh) := generateScenarioTraffic scenario step
  let preempts := (statsOf laneStats decision.greenLane).any (·.hasPriorityVehicle)
  { scheduler := scheduler
    simTime := s.simTime + decision.greenDurationSec + decision.yellowDurationSec + 2
    result :=
      { s.result with
        steps := s.result.steps ++ [replayRecord scenario step s.simTime decision]
        greenAllocationsByLane := Function.update s.result.greenAllocationsByLane
          decision.greenLane (s.result.greenAllocationsByLane decision.greenLane + 1)
        emergencyPreemptions := s.result.emergencyPreemptions + if preempts then 1 else 0
        disconnectedDropouts := s.result.disconnectedDropouts + (4 - fresh.length) } }

/-- One step of the loop. The fallback names `DecisionReason.ALL_RED_FALLBACK`, which the enum
does not have. -/
def replayStep (scenario : String) (s : ReplayState) (step : Nat) : Except PyError ReplayState :=
  let (laneStats, fresh) := generateScenarioTraffic scenario step
  let (eligible, scheduler) :=
    s.scheduler.selectEligible (replayPriority laneStats fresh) laneStats fresh
  match eligible.bind fun r => r.highestPriority.map fun winner => (r, winner) with
  | none => .error .attributeError
  | some (r, winner) =>
      .ok (s.finish scenario step scheduler
        (scheduler.buildDecision winner (scheduler.calculateGreenTime winner r) r (step + 1) 0))

/-- `TrafficReplayLab`. -/
structure TrafficReplayLab where
  scheduler : SignalScheduler

namespace TrafficReplayLab

def create (minGreen maxGreen yellowSec : Int) : TrafficReplayLab where
  scheduler := { minGreenSec := minGreen, maxGreenSec := maxGreen, yellowSec := yellowSec }

/-- The state before the first step: a new scheduler with the bounds of the old one. -/
def start (lab : TrafficReplayLab) (scenario : String) (totalSteps : Int) : ReplayState where
  scheduler :=
    { minGreenSec := lab.scheduler.minGreenSec, maxGreenSec := lab.scheduler.maxGreenSec
      yellowSec := lab.scheduler.yellowSec }
  result := { scenarioName := scenario, totalSteps := totalSteps }

/-- `run_scenario`, with the lab it leaves. -/
def runScenario (lab : TrafficReplayLab) (scenario : String) (totalSteps : Int) :
    Except PyError (ReplayRunResult × TrafficReplayLab) :=
  ((List.range totalSteps.toNat).foldlM (replayStep scenario) (lab.start scenario totalSteps)).map
    fun s => (s.result, { scheduler := s.scheduler })

end TrafficReplayLab

end SmartTraffic
