import SmartTraffic.Lib.Dict
import SmartTraffic.Pipeline.State

/-!
# Lanes and their keys

The dictionaries of the signal path are keyed by strings, and a lane goes back and
forth between the enum and strings of different case. This is the path with those
conversions written out: `calculate` and `check_and_override` on string keys,
`select_eligible` with a set of fresh keys, `generate_command` with its attempts to
read a lane from a string.

Over the four lower-case keys it is the path of `LaneName` keys, step by step. Keys
are ASCII where `lower` and `capitalize` are applied to them.
-/

namespace SmartTraffic

open Lib

/-- `s.capitalize()`. -/
def capitalize (s : String) : String :=
  match s.toList with
  | [] => ""
  | c :: cs => String.ofList (c.toUpper :: cs.map Char.toLower)

namespace LaneName

/-- `LaneName(value)`, or `none` for its `ValueError`. -/
def ofValue? (s : String) : Option LaneName := [north, south, east, west].find? (·.value = s)

/-- `str(lane)`: the class and the member. -/
def pyStr : LaneName → String
  | north => "LaneName.NORTH"
  | south => "LaneName.SOUTH"
  | east => "LaneName.EAST"
  | west => "LaneName.WEST"

/-- `LaneName(str(lane).capitalize())`, and the lane itself where that is no value. -/
def reread (lane : LaneName) : LaneName := (ofValue? (capitalize lane.pyStr)).getD lane

end LaneName

/-- The lane `calculate` reads from a key; `none` stands for a key that stays a string. -/
def laneOfKey (key : String) : Option LaneName :=
  (LaneName.ofValue? (capitalize key)).or (LaneName.ofValue? key)

/-- `getattr(score.lane, "value", ..).lower()`. -/
def PriorityScore.key (s : PriorityScore) : String := s.lane.value.toLower

/-- `calculate`; `none` stands for scores that carry a string in place of a lane. -/
def calculateKeyed (w : PriorityWeights) (laneStats : Dict String LaneStatistics) (now : Rat) :
    Option PriorityResult :=
  (laneStats.items.mapM fun (key, stats) =>
    (laneOfKey key).map fun lane => scoreOf w lane stats).map fun scores =>
      let sorted := assignRanks (sortByScore scores)
      { scores := sorted, highestPriority := sorted.head?, timestamp := now }

/-- `emergency_lanes`. -/
def emergencyKeys (laneStats : Dict String LaneStatistics) : List String :=
  (laneStats.items.filter fun (_, s) => s.hasPriorityVehicle).map fun (key, _) => key.toLower

/-- A score with the emergency boost. -/
def PriorityScore.boosted (boost : Rat) (s : PriorityScore) : PriorityScore :=
  { s with score := roundFloat 2 (double (s.score + boost)), rank := 0 }

/-- `check_and_override`; `now` is the clock it falls back to for the timestamp. -/
def checkAndOverrideKeyed (boost : Rat) (result : PriorityResult)
    (laneStats : Dict String LaneStatistics) (now : Rat) : PriorityResult :=
  if result.scores = [] then result
  else if emergencyKeys laneStats = [] then result
  else
    let overridden := result.scores.map fun s =>
      if s.key ∈ emergencyKeys laneStats then s.boosted boost else s
    let sorted := assignRanks (sortByScore overridden)
    { scores := sorted, highestPriority := sorted.head?
      timestamp := if result.timestamp ≠ 0 then result.timestamp else now }

namespace SignalScheduler

/-- `demand`. -/
def demandKeyed (result : PriorityResult) (laneStats : Dict String LaneStatistics)
    (fresh : List String) : List PriorityScore :=
  result.scores.filter fun s =>
    fresh.contains s.key && (laneStats.get? s.key).any fun st => 0 < st.rawCount

/-- `emergency`. -/
def emergencyKeyed (laneStats : Dict String LaneStatistics) (demand : List PriorityScore) :
    List PriorityScore :=
  demand.filter fun s => (laneStats.get? s.key).any (·.hasPriorityVehicle)

/-- The clockwise scan, in a dictionary keyed by the keys of the scores. -/
def cursorWinnerKeyed (s : SignalScheduler) (demand : List PriorityScore) : Option PriorityScore :=
  (List.finRange 4).findSome? fun offset =>
    demand.reverse.find? (·.key = (cycleOrder (s.nextCycleIndex + offset)).value.toLower)

/-- `select_eligible`. -/
def selectEligibleKeyed (s : SignalScheduler) (result : PriorityResult)
    (laneStats : Dict String LaneStatistics) (fresh : List String) :
    Option PriorityResult × SignalScheduler :=
  let demand := demandKeyed result laneStats fresh
  if demand = [] then (none, s)
  else
    match (emergencyKeyed laneStats demand).argmax (·.score) with
    | some winner =>
        (some { result with highestPriority := some winner }, s.advanceAfter winner.lane)
    | none =>
        match s.cursorWinnerKeyed demand with
        | none => (none, s)
        | some winner =>
            (some { result with highestPriority := some winner }, s.advanceAfter winner.lane)

end SignalScheduler

/-- `generate_command`. -/
def SignalController.generateCommandKeyed (c : SignalController) (d : SignalDecision LaneName) :
    HardwareCommand × SignalController :=
  ({ phaseId := c.phaseCounter + 1
     greenLane := d.greenLane.reread
     greenDurationSec := d.greenDurationSec
     yellowDurationSec := d.yellowDurationSec
     redLanes := d.redLanes.map LaneName.reread
     priorityScore := d.priorityScore
     reason := d.reason
     reasonDetails := d.reasonDetails
     timestamp := d.timestamp },
   { phaseCounter := c.phaseCounter + 1 })

/-- The whole path from the statistics to the command. -/
def commandFor (w : PriorityWeights) (boost : Rat) (s : SignalScheduler) (c : SignalController)
    (laneStats : Dict String LaneStatistics) (fresh : List String) (phaseId : Nat) (now : Rat) :
    Option HardwareCommand := do
  let base ← calculateKeyed w laneStats now
  let (selected, s) :=
    s.selectEligibleKeyed (checkAndOverrideKeyed boost base laneStats now) laneStats fresh
  let decision ← (s.schedule (← selected) phaseId now).toOption
  some (c.generateCommandKeyed decision).1

/-! ## The conversions lose nothing -/

@[simp] theorem value_toLower (lane : LaneName) : lane.value.toLower = lane.key := by
  cases lane <;> decide +kernel

@[simp] theorem laneOfKey_key (lane : LaneName) : laneOfKey lane.key = some lane := by
  cases lane <;> decide +kernel

@[simp] theorem reread_eq (lane : LaneName) : lane.reread = lane := by
  cases lane <;> decide +kernel

theorem key_injective : Function.Injective LaneName.key := by
  intro a b h
  have hlane := congrArg laneOfKey h
  rw [laneOfKey_key, laneOfKey_key] at hlane
  exact Option.some.inj hlane

@[simp] theorem PriorityScore.key_eq (s : PriorityScore) : s.key = s.lane.key :=
  value_toLower s.lane

theorem generateCommandKeyed_eq (c : SignalController) (d : SignalDecision LaneName) :
    c.generateCommandKeyed d = c.generateCommand d := by
  unfold SignalController.generateCommandKeyed SignalController.generateCommand
  rw [reread_eq, List.map_congr_left fun lane _ => reread_eq lane, List.map_id']

/-- The dictionary with a lower-case key for each lane. -/
structure OverLanes (laneStats : Dict String LaneStatistics)
    (lanes : List (LaneName × LaneStatistics)) : Prop where
  items : laneStats.items = lanes.map fun (lane, st) => (lane.key, st)

namespace OverLanes

variable {laneStats : Dict String LaneStatistics} {lanes : List (LaneName × LaneStatistics)}

theorem nodup (h : OverLanes laneStats lanes) : (lanes.map Prod.fst).Nodup := by
  have hkeys := laneStats.nodup
  rw [h.items, List.map_map] at hkeys
  have hfst : (lanes.map (Prod.fst ∘ fun x : LaneName × LaneStatistics => (x.1.key, x.2)))
      = (lanes.map Prod.fst).map LaneName.key := by rw [List.map_map]; rfl
  rw [hfst] at hkeys
  exact hkeys.of_map _

theorem get?_key (h : OverLanes laneStats lanes) (lane : LaneName) :
    laneStats.get? lane.key = statsOf lanes lane := by
  unfold Dict.get? statsOf
  rw [h.items]
  clear h
  induction lanes with
  | nil => rfl
  | cons item rest ih =>
      obtain ⟨lane₀, st⟩ := item
      rw [List.map_cons, List.lookup_cons, List.lookup_cons, ih]
      have hbeq : (lane.key == lane₀.key) = (lane == lane₀) := by
        rw [Bool.eq_iff_iff, beq_iff_eq, beq_iff_eq]
        exact key_injective.eq_iff
      rw [hbeq]

theorem calculateKeyed_eq (h : OverLanes laneStats lanes) (w : PriorityWeights) (now : Rat) :
    calculateKeyed w laneStats now = some (calculate w lanes now) := by
  have hscores : ∀ lanes : List (LaneName × LaneStatistics),
      ((lanes.map fun (lane, st) => (lane.key, st)).mapM fun (key, stats) =>
        (laneOfKey key).map fun lane => scoreOf w lane stats)
        = some (lanes.map fun (lane, st) => scoreOf w lane st) := by
    intro lanes
    induction lanes with
    | nil => rfl
    | cons item rest ih =>
        rw [List.map_cons, List.mapM_cons, ih]
        simp
  unfold calculateKeyed
  rw [h.items, hscores]
  rfl

/-- The keys of the emergency lanes are those of the flagged lanes. -/
theorem mem_emergencyKeys (h : OverLanes laneStats lanes) (lane : LaneName) :
    lane.key ∈ emergencyKeys laneStats
      ↔ lane ∈ (lanes.filter fun (_, s) => s.hasPriorityVehicle).map Prod.fst := by
  have hlower : ∀ lane : LaneName, lane.key.toLower = lane.key := by
    intro lane
    cases lane <;> decide +kernel
  unfold emergencyKeys
  rw [h.items]
  simp only [List.mem_map, List.mem_filter]
  constructor
  · rintro ⟨item, ⟨⟨⟨lane', st⟩, hmem, rfl⟩, hflag⟩, hkey⟩
    rw [hlower] at hkey
    obtain rfl := key_injective hkey
    exact ⟨(lane', st), ⟨hmem, hflag⟩, rfl⟩
  · rintro ⟨⟨lane', st⟩, ⟨hmem, hflag⟩, rfl⟩
    exact ⟨(lane'.key, st), ⟨⟨(lane', st), hmem, rfl⟩, hflag⟩, hlower lane'⟩

end OverLanes

end SmartTraffic
