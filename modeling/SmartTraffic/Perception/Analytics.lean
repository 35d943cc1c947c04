import SmartTraffic.Signal.Types
import SmartTraffic.Lib.Dict

/-!
# Lane statistics from confirmed vehicles

`OccupancyAnalyzer.analyze`, `CongestionAnalyzer.analyze` and the part of
`AnalyticsExporter.generate_stats` that turns the confirmed vehicles of one
approach into its `LaneStatistics`. The weights are tenths as written and
doubles as stored; every sum and product of floats rounds.
-/

namespace SmartTraffic

open Lib

/-- What the analysers read of a `VehicleState`. -/
structure VehicleState where
  className : String
  queueTimeSec : Rat := 0
  isQueued : Bool := false
  isPriority : Bool := false
  deriving DecidableEq, Repr

def pceWeights : List (String × Rat) :=
  [("car", 1), ("bus", 3 / 2), ("truck", 2), ("motorcycle", 1 / 2), ("bicycle", 1 / 2),
   ("two-wheeler", 1 / 2), ("three-wheeler", double (4 / 5)), ("hatchback", 1), ("sedan", 1),
   ("suv", double (6 / 5)), ("muv", double (6 / 5)), ("van", double (6 / 5)), ("lcv", 3 / 2),
   ("tempo-traveller", 3 / 2), ("mini-bus", 2), ("other", 1)]

/-- `self.pce_weights.get(state.class_name.lower(), 1.0)`. -/
def pceWeight (v : VehicleState) : Rat := (pceWeights.lookup v.className.toLower).getD 1

/-- `total_live` and `pce_score` of `OccupancyAnalyzer.analyze`. -/
structure Occupancy where
  totalLive : Int
  pceScore : Rat
  deriving DecidableEq, Repr

/-- `OccupancyAnalyzer.analyze`. -/
def analyzeOccupancy (vehicles : List VehicleState) : Occupancy :=
  { totalLive := vehicles.length, pceScore := roundFloat 2 (runningSum (vehicles.map pceWeight)) }

def classifyDensity (index : Rat) : Density :=
  if index < 8 then .low
  else if index < 18 then .medium
  else if index < 30 then .high
  else .congested

/-- What `CongestionAnalyzer.analyze` returns, less the display-only average motion. -/
structure Congestion where
  stoppedCount : Int
  totalQueueTimeSec : Rat
  maxQueueTimeSec : Rat
  congestionIndex : Rat
  density : Density
  hasPriorityVehicle : Bool
  deriving DecidableEq, Repr

/-- `CongestionAnalyzer.analyze`. -/
def analyzeCongestion (vehicles : List VehicleState) (pceScore : Rat) : Congestion :=
  if vehicles = [] then
    { stoppedCount := 0, totalQueueTimeSec := 0, maxQueueTimeSec := 0, congestionIndex := 0,
      density := .low, hasPriorityVehicle := false }
  else
    let stopped := vehicles.filter fun v => v.isQueued || 0 < v.queueTimeSec
    let totalQueueTime := runningSum (stopped.map (·.queueTimeSec))
    let maxQueueTime := (stopped.map (·.queueTimeSec)).foldl max 0
    let congestionIndex :=
      double (double (double (1 * pceScore) + double (double (1 / 5) * totalQueueTime))
        + double (5 * stopped.length))
    { stoppedCount := stopped.length
      totalQueueTimeSec := roundFloat 1 totalQueueTime
      maxQueueTimeSec := roundFloat 1 maxQueueTime
      congestionIndex := roundFloat 2 congestionIndex
      density := classifyDensity congestionIndex
      hasPriorityVehicle := vehicles.any (·.isPriority) }

/-- The entry `generate_stats` makes for one approach. -/
def generateLaneStats (laneName : String) (vehicles : List VehicleState) (historicalCount : Int) :
    LaneStatistics :=
  let occ := analyzeOccupancy vehicles
  let cong := analyzeCongestion vehicles occ.pceScore
  { laneName := laneName
    liveCount := occ.totalLive
    pceScore := occ.pceScore
    stoppedCount := cong.stoppedCount
    totalQueueTimeSec := cong.totalQueueTimeSec
    maxQueueTimeSec := cong.maxQueueTimeSec
    congestionIndex := cong.congestionIndex
    density := cong.density
    historicalCount := historicalCount
    hasPriorityVehicle := cong.hasPriorityVehicle
    rawCount := occ.totalLive }

/-! ## Weights are tenths -/

/-- The weight of a vehicle in tenths. -/
def pceTenths (v : VehicleState) : Int := roundHalfEven (pceWeight v * 10)

/-- Every weight is the double of its tenths, between one half and two. -/
theorem pceTenths_spec (v : VehicleState) :
    pceWeight v = double (pceTenths v / 10) ∧ 5 ≤ pceTenths v ∧ pceTenths v ≤ 20 := by
  unfold pceTenths pceWeight
  cases h : pceWeights.lookup v.className.toLower with
  | none => decide +kernel
  | some w =>
      have hmem : w ∈ pceWeights.map Prod.snd :=
        List.mem_map_of_mem (f := Prod.snd) (mem_of_lookup h)
      have hall : ∀ w ∈ pceWeights.map Prod.snd, w = double (roundHalfEven (w * 10) / 10)
          ∧ 5 ≤ roundHalfEven (w * 10) ∧ roundHalfEven (w * 10) ≤ 20 := by
        decide +kernel
      exact hall w hmem

/-- A weight that is bounded bounds its tenths, but for the rounding of the weight. -/
theorem pceTenths_le {v : VehicleState} {w : Rat} (h : pceWeight v ≤ w) :
    (pceTenths v : Rat) / 10 ≤ w + 1 / 2 ^ 52 := by
  obtain ⟨hweight, hlow, hhigh⟩ := pceTenths_spec v
  have hlow' : (5 : Rat) ≤ pceTenths v := by exact_mod_cast hlow
  have hhigh' : (pceTenths v : Rat) ≤ 20 := by exact_mod_cast hhigh
  have hsize : |(pceTenths v : Rat) / 10| < 2 ^ 2 := by
    rw [abs_of_nonneg (by positivity)]
    linarith
  have herror := (abs_le.mp (abs_double_sub_le_of_lt hsize)).1
  rw [← hweight] at herror
  linarith

theorem half_le_pceWeight (v : VehicleState) : 1 / 2 ≤ pceWeight v := by
  obtain ⟨hweight, hlow, -⟩ := pceTenths_spec v
  have hlow' : (5 : Rat) ≤ pceTenths v := by exact_mod_cast hlow
  rw [hweight]
  exact le_double (by decide +kernel) (by linarith)

/-- Anything on the approach counts for at least one half. -/
theorem half_le_pceScore {vehicles : List VehicleState} (hne : vehicles ≠ []) :
    1 / 2 ≤ (analyzeOccupancy vehicles).pceScore := by
  have hsum : 1 / 2 ≤ runningSum (vehicles.map pceWeight) := by
    refine le_runningSum (by decide +kernel) (by norm_num) (by simpa using hne) fun x hx => ?_
    obtain ⟨v, -, rfl⟩ := List.mem_map.mp hx
    exact half_le_pceWeight v
  have hhalf : roundFloat 2 (1 / 2) = 1 / 2 := by decide +kernel
  exact hhalf.symm.trans_le (roundFloat_mono 2 hsum)

/-- The weights in tenths. -/
def tenthsOf (vehicles : List VehicleState) : Int := (vehicles.map pceTenths).sum

theorem tenthsOf_le {vehicles : List VehicleState} {t : Int}
    (h : ∀ v ∈ vehicles, pceTenths v ≤ t) : tenthsOf vehicles ≤ vehicles.length * t := by
  have hsum := List.sum_le_card_nsmul (vehicles.map pceTenths) t fun x hx => by
    obtain ⟨v, hv, rfl⟩ := List.mem_map.mp hx
    exact h v hv
  rwa [List.length_map, nsmul_eq_mul] at hsum

theorem tenthsOf_nonneg (vehicles : List VehicleState) : 0 ≤ tenthsOf vehicles := by
  refine List.sum_nonneg fun x hx => ?_
  obtain ⟨v, -, rfl⟩ := List.mem_map.mp hx
  exact (by norm_num : (0 : Int) ≤ 5).trans (pceTenths_spec v).2.1

/-- What storing the weights as doubles changes in their sum. -/
theorem abs_weights_sub_le (vehicles : List VehicleState) :
    |(vehicles.map pceWeight).sum - tenthsOf vehicles / 10| ≤ vehicles.length / 2 ^ 52 := by
  induction vehicles with
  | nil => simp [tenthsOf]
  | cons v vs ih =>
      obtain ⟨hweight, hlow, hhigh⟩ := pceTenths_spec v
      have hlow' : (5 : Rat) ≤ pceTenths v := by exact_mod_cast hlow
      have hhigh' : (pceTenths v : Rat) ≤ 20 := by exact_mod_cast hhigh
      have hsize : |(pceTenths v : Rat) / 10| < 2 ^ 2 := by
        rw [abs_of_nonneg (by positivity)]
        linarith
      have herror := abs_double_sub_le_of_lt hsize
      rw [← hweight] at herror
      have hsplit : (((v :: vs).map pceWeight).sum - (tenthsOf (v :: vs) : Rat) / 10)
          = (pceWeight v - pceTenths v / 10)
            + ((vs.map pceWeight).sum - (tenthsOf vs : Rat) / 10) := by
        unfold tenthsOf
        rw [List.map_cons, List.sum_cons, List.map_cons, List.sum_cons]
        push_cast
        ring
      rw [hsplit, List.length_cons]
      push_cast
      calc |pceWeight v - pceTenths v / 10 + ((vs.map pceWeight).sum - (tenthsOf vs : Rat) / 10)|
          ≤ |pceWeight v - pceTenths v / 10|
            + |(vs.map pceWeight).sum - (tenthsOf vs : Rat) / 10| := abs_add_le _ _
        _ ≤ 2 ^ 2 / 2 ^ 54 + vs.length / 2 ^ 52 := add_le_add herror ih
        _ = (vs.length + 1) / 2 ^ 52 := by ring

/-- **The score of a few vehicles is the double of their weights in tenths.** -/
theorem pceScore_eq {vehicles : List VehicleState} (hlen : vehicles.length ≤ 40) :
    (analyzeOccupancy vehicles).pceScore = double (tenthsOf vehicles / 10) := by
  have hlen' : (vehicles.length : Rat) ≤ 40 := by exact_mod_cast hlen
  have hweights := abs_weights_sub_le vehicles
  have hrun : |runningSum (vehicles.map pceWeight) - (vehicles.map pceWeight).sum|
      ≤ (vehicles.map pceWeight).length * (2 ^ 8 / 2 ^ 54) := by
    refine abs_runningSum_sub_le (b := 3) (fun x hx => ?_) (by norm_num) ?_ ?_
    · obtain ⟨v, -, rfl⟩ := List.mem_map.mp hx
      have hhigh : (pceTenths v : Rat) ≤ 20 := by exact_mod_cast (pceTenths_spec v).2.2
      have hlow := half_le_pceWeight v
      refine ⟨by linarith, ?_⟩
      rw [(pceTenths_spec v).1]
      exact double_le (by decide +kernel) (by linarith)
    · rw [List.length_map]
      linarith
    · rw [List.length_map]
      omega
  rw [List.length_map] at hrun
  have hnear : |runningSum (vehicles.map pceWeight)
      - ((tenthsOf vehicles * 10 : Int) : Rat) / 10 ^ 2| < 1 / 2 / 10 ^ 2 := by
    obtain ⟨hlow, hhigh⟩ := abs_le.mp hweights
    obtain ⟨hlow', hhigh'⟩ := abs_le.mp hrun
    rw [abs_lt]
    push_cast
    constructor <;> linarith
  show double (roundDigits 2 (runningSum (vehicles.map pceWeight))) = _
  rw [roundDigits_eq_of_abs_lt hnear]
  push_cast
  congr 1
  ring

end SmartTraffic
