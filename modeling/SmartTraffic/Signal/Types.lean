import SmartTraffic.Lib.Binary64

/-!
# Signal data types and configuration

The enums and dataclasses of `ai/signal/signal_types.py`, `signal_decision.py`
and `analytics_exporter.py`, and the constants of `config/signal.py` and
`config/traffic.py` that the signal path reads.

Python floats are exact rationals here. Lanes are the four `LaneName` members;
a dictionary keyed by the lower-case approach name is keyed by the member
itself.
-/

namespace SmartTraffic

open Lib

inductive LaneName
  | north
  | south
  | east
  | west
  deriving DecidableEq, Repr

namespace LaneName

def value : LaneName → String
  | north => "North"
  | south => "South"
  | east => "East"
  | west => "West"

/-- The lower-case dictionary key of an approach. -/
def key : LaneName → String
  | north => "north"
  | south => "south"
  | east => "east"
  | west => "west"

/-- The approach a lower-case key names. -/
def ofKey? : String → Option LaneName
  | "north" => some north
  | "south" => some south
  | "east" => some east
  | "west" => some west
  | _ => none

instance : Fintype LaneName where
  elems := {.north, .south, .east, .west}
  complete lane := by cases lane <;> decide

end LaneName

inductive DecisionReason
  | normal
  | emergency
  | starvation
  | manualOverride
  deriving DecidableEq, Repr

/-- The value `PipelineResult.signal_state` takes. -/
inductive SignalState
  | green
  | yellow
  | allRed
  deriving DecidableEq, Repr

/-- The density levels of `CongestionAnalyzer._classify_density`. -/
inductive Density
  | low
  | medium
  | high
  | congested
  deriving DecidableEq, Repr

namespace Config

/-! ## `config/signal.py` and the smoothing constants of `config/traffic.py` -/

def minGreenSec : Int := 10
def maxGreenSec : Int := 60
def yellowSec : Int := 3
def allRedSec : Int := 2
def emptyLaneReleaseSec : Rat := 1
def fullGreenPce : Rat := 20
def fullGreenQueueSec : Rat := 120
def emergencyBoostScore : Rat := 1000
def emaAlpha : Rat := Lib.double (2 / 5)
def countHistorySize : Nat := 10

end Config

/-- `LaneStatistics`: the metrics of one approach. `vehicle_breakdown` and the display-only averages
are not read by the modelled code and are left out. -/
structure LaneStatistics where
  laneName : String
  liveCount : Int := 0
  pceScore : Rat := 0
  stoppedCount : Int := 0
  totalQueueTimeSec : Rat := 0
  maxQueueTimeSec : Rat := 0
  congestionIndex : Rat := 0
  density : Density := .low
  historicalCount : Int := 0
  hasPriorityVehicle : Bool := false
  rawCount : Int := 0
  smoothedCount : Rat := 0
  deriving DecidableEq, Repr

structure PriorityBreakdown where
  pce : Rat
  queue : Rat
  congestion : Rat
  fairnessBonus : Rat := 0
  rawPce : Rat := 0
  rawQueueSec : Rat := 0
  rawCongestionIndex : Rat := 0
  deriving DecidableEq, Repr

structure PriorityScore where
  lane : LaneName
  score : Rat
  rank : Nat
  breakdown : PriorityBreakdown
  deriving DecidableEq, Repr

structure PriorityResult where
  scores : List PriorityScore
  highestPriority : Option PriorityScore
  timestamp : Rat
  deriving DecidableEq, Repr

/-- `SignalDecision`, over the type its lanes are drawn from. -/
structure SignalDecision (L : Type) where
  phaseId : Nat
  greenLane : L
  greenDurationSec : Int
  yellowDurationSec : Int
  redLanes : List L
  priorityScore : Rat
  reason : DecisionReason
  reasonDetails : String
  timestamp : Rat
  deriving DecidableEq, Repr

structure HardwareCommand where
  phaseId : Nat
  greenLane : LaneName
  greenDurationSec : Int
  yellowDurationSec : Int
  redLanes : List LaneName
  priorityScore : Rat
  reason : DecisionReason
  reasonDetails : String
  timestamp : Rat
  deriving DecidableEq, Repr

/-- `"{:.2f}".format(q)`. -/
def fixed2 (q : Rat) : String :=
  let cents := roundHalfEven (q * 100)
  let sign := if cents < 0 then "-" else ""
  let digits := toString (cents.natAbs % 100)
  sign ++ toString (cents.natAbs / 100) ++ "."
    ++ (if digits.length = 1 then "0" ++ digits else digits)

end SmartTraffic
