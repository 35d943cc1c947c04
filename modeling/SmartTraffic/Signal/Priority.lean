import SmartTraffic.Signal.Types

/-!
# Priority scores

`PriorityCalculator.calculate` and `EmergencyOverride.check_and_override`: the
weighted base score of each approach, ranked, and the boost of the approaches
that carry a priority vehicle. Every operation on floats rounds to a double.
-/

namespace SmartTraffic

open Lib

/-- The normalised weights `PriorityCalculator.__init__` stores. -/
structure PriorityWeights where
  pce : Rat
  queue : Rat
  congestion : Rat
  deriving DecidableEq, Repr

def normalizeWeights (w : PriorityWeights) : PriorityWeights :=
  let total := floatSum [w.pce, w.queue, w.congestion]
  if total ≤ 0 then
    { pce := double (45 / 100), queue := double (35 / 100), congestion := double (20 / 100) }
  else
    { pce := roundFloat 4 (double (w.pce / total))
      queue := roundFloat 4 (double (w.queue / total))
      congestion := roundFloat 4 (double (w.congestion / total)) }

/-- `PRIORITY_WEIGHTS`, normalised. -/
def PriorityWeights.default : PriorityWeights :=
  normalizeWeights
    { pce := double (45 / 100), queue := double (35 / 100), congestion := double (20 / 100) }

/-- The unranked score of one lane, as the loop of `calculate` builds it. -/
def scoreOf (w : PriorityWeights) (lane : LaneName) (stats : LaneStatistics) : PriorityScore :=
  let pceContrib := double (w.pce * stats.pceScore)
  let queueContrib := double (w.queue * stats.totalQueueTimeSec)
  let congestionContrib := double (w.congestion * stats.congestionIndex)
  { lane := lane
    score := roundFloat 2 (double (double (pceContrib + queueContrib) + congestionContrib))
    rank := 0
    breakdown :=
      { pce := roundFloat 2 pceContrib
        queue := roundFloat 2 queueContrib
        congestion := roundFloat 2 congestionContrib
        rawPce := stats.pceScore
        rawQueueSec := stats.totalQueueTimeSec
        rawCongestionIndex := stats.congestionIndex } }

/-- `scores.sort(key=lambda s: s.score, reverse=True)`: stable, highest first. -/
def sortByScore (scores : List PriorityScore) : List PriorityScore :=
  scores.insertionSort fun a b => b.score ≤ a.score

/-- `for rank_idx, s in enumerate(scores, start=1): s.rank = rank_idx`. -/
def assignRanks (scores : List PriorityScore) : List PriorityScore :=
  scores.zipIdx.map fun (s, i) => { s with rank := i + 1 }

/-- `PriorityCalculator.calculate` over the items of a `lane_stats` dictionary. -/
def calculate (w : PriorityWeights) (laneStats : List (LaneName × LaneStatistics)) (now : Rat) :
    PriorityResult :=
  let sorted := assignRanks (sortByScore (laneStats.map fun (lane, stats) => scoreOf w lane stats))
  { scores := sorted, highestPriority := sorted.head?, timestamp := now }

def checkAndOverride (boost : Rat) (result : PriorityResult)
    (laneStats : List (LaneName × LaneStatistics)) : PriorityResult :=
  if result.scores = [] then result
  else
    let emergencyLanes := (laneStats.filter fun (_, s) => s.hasPriorityVehicle).map Prod.fst
    if emergencyLanes = [] then result
    else
      let overridden := result.scores.map fun s =>
        if s.lane ∈ emergencyLanes then
          { s with score := roundFloat 2 (double (s.score + boost)), rank := 0 }
        else s
      let sorted := assignRanks (sortByScore overridden)
      { scores := sorted, highestPriority := sorted.head?, timestamp := result.timestamp }

/-! ## What the ranking preserves -/

theorem mem_assignRanks {scores : List PriorityScore} {s : PriorityScore}
    (h : s ∈ assignRanks scores) : ∃ s₀ ∈ scores, ∃ r, s = { s₀ with rank := r } := by
  unfold assignRanks at h
  obtain ⟨⟨s₀, i⟩, hmem, rfl⟩ := List.mem_map.mp h
  exact ⟨s₀, (List.mem_zipIdx' hmem).2 ▸ List.getElem_mem _, i + 1, rfl⟩

theorem sortByScore_perm (scores : List PriorityScore) : (sortByScore scores).Perm scores :=
  List.perm_insertionSort _ _

/-- Every score of `calculate` is the score of an item, up to its rank. -/
theorem mem_calculate {w : PriorityWeights} {laneStats : List (LaneName × LaneStatistics)}
    {now : Rat} {s : PriorityScore} (h : s ∈ (calculate w laneStats now).scores) :
    ∃ lane stats, (lane, stats) ∈ laneStats ∧ ∃ r, s = { scoreOf w lane stats with rank := r } := by
  obtain ⟨s₀, hmem, r, rfl⟩ := mem_assignRanks h
  obtain ⟨⟨lane, stats⟩, hin, rfl⟩ := List.mem_map.mp ((sortByScore_perm _).mem_iff.mp hmem)
  exact ⟨lane, stats, hin, r, rfl⟩

/-- Ranking changes nothing but the ranks. -/
theorem assignRanks_map {B : Type} (f : PriorityScore → B)
    (hf : ∀ s r, f { s with rank := r } = f s) (scores : List PriorityScore) :
    (assignRanks scores).map f = scores.map f := by
  unfold assignRanks
  rw [List.map_map]
  have hfst : scores.zipIdx.map (fun item => f item.1) = (scores.zipIdx.map Prod.fst).map f := by
    rw [List.map_map]
    rfl
  rw [List.zipIdx_map_fst] at hfst
  rw [← hfst]
  exact List.map_congr_left fun item _ => hf item.1 (item.2 + 1)

theorem assignRanks_lanes (scores : List PriorityScore) :
    (assignRanks scores).map (·.lane) = scores.map (·.lane) :=
  assignRanks_map (·.lane) (fun _ _ => rfl) scores

/-- Ranking keeps the lanes. -/
theorem mem_ranked_lanes {scores : List PriorityScore} {lane : LaneName} :
    lane ∈ (assignRanks (sortByScore scores)).map (·.lane) ↔ lane ∈ scores.map (·.lane) := by
  rw [assignRanks_lanes]
  exact ((sortByScore_perm scores).map _).mem_iff

theorem mem_calculate_lanes {w : PriorityWeights} {laneStats : List (LaneName × LaneStatistics)}
    {now : Rat} {lane : LaneName} :
    lane ∈ (calculate w laneStats now).scores.map (·.lane) ↔ lane ∈ laneStats.map Prod.fst := by
  unfold calculate
  rw [mem_ranked_lanes, List.map_map]
  rfl

/-- An emergency boosts scores and loses no lane. -/
theorem mem_checkAndOverride_lanes {boost : Rat} {result : PriorityResult}
    {laneStats : List (LaneName × LaneStatistics)} {lane : LaneName} :
    lane ∈ (checkAndOverride boost result laneStats).scores.map (·.lane)
      ↔ lane ∈ result.scores.map (·.lane) := by
  unfold checkAndOverride
  split_ifs with hnone
  · rfl
  · dsimp only
    split_ifs
    · rfl
    · rw [mem_ranked_lanes, List.map_map]
      have hlane : ∀ s : PriorityScore, ((fun s : PriorityScore => s.lane) ∘ fun s =>
          if s.lane ∈ (laneStats.filter fun x => x.2.hasPriorityVehicle).map Prod.fst then
            { s with score := roundFloat 2 (double (s.score + boost)), rank := 0 }
          else s) s = s.lane := by
        intro s
        dsimp only [Function.comp]
        split_ifs <;> rfl
      rw [List.map_congr_left fun s _ => hlane s]

end SmartTraffic
