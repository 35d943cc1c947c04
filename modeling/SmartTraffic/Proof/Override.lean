import SmartTraffic.Lib.Ranking
import SmartTraffic.Signal.Keys

/-!
# Emergencies first

The override adds a fixed boost to the scores of the flagged lanes and sorts again.
Scores grow with the time spent in queues and have no bound, so the boost puts the
flagged lanes first exactly as long as no other lane is that far ahead.
-/

namespace SmartTraffic

open Lib

/-! ## Ranks -/

instance : Std.Total fun a b : PriorityScore => b.score ≤ a.score := ⟨fun _ _ => le_total _ _⟩

instance : IsTrans PriorityScore fun a b => b.score ≤ a.score := ⟨fun _ _ _ h h' => h'.trans h⟩

theorem assignRanks_ranks (scores : List PriorityScore) :
    (assignRanks scores).map (·.rank) = List.range' 1 scores.length := by
  have hranks : ∀ n, (scores.zipIdx n).map (fun item => item.2 + 1)
      = List.range' (n + 1) scores.length := by
    induction scores with
    | nil => intro n; rfl
    | cons s scores ih =>
        intro n
        rw [List.zipIdx_cons, List.map_cons, ih, List.length_cons, List.range'_succ]
  unfold assignRanks
  rw [List.map_map]
  exact hranks 0

/-- Ranks grow along the list. -/
theorem assignRanks_pairwise (scores : List PriorityScore) :
    (assignRanks scores).Pairwise fun a b => a.rank < b.rank := by
  have hranks : ((assignRanks scores).map (·.rank)).Pairwise (· < ·) := by
    rw [assignRanks_ranks]
    exact List.pairwise_lt_range'
  exact List.pairwise_map.mp hranks

/-- The ranked list is sorted. -/
theorem ranked_sorted (scores : List PriorityScore) :
    (assignRanks (sortByScore scores)).Pairwise fun a b => b.score ≤ a.score := by
  have hsorted : (sortByScore scores).Pairwise fun a b => b.score ≤ a.score :=
    List.pairwise_insertionSort _ scores
  have hscores : ((assignRanks (sortByScore scores)).map (·.score)).Pairwise (· ≥ ·) := by
    rw [assignRanks_map (·.score) fun _ _ => rfl]
    exact List.pairwise_map.mpr hsorted
  exact List.pairwise_map.mp hscores

/-- Ranking does not see more of a score than its lane, where a class is one of lanes. -/
theorem leads_assignRanks (p : LaneName → Prop) (scores : List PriorityScore) :
    Leads (fun s => p s.lane) (assignRanks scores) ↔ Leads (fun s => p s.lane) scores := by
  have hmap : ∀ l : List PriorityScore,
      Leads (fun s => p s.lane) l ↔ (l.map (·.lane)).Pairwise fun x y => p y → p x := by
    intro l
    unfold Leads
    rw [List.pairwise_map]
  rw [hmap, hmap, assignRanks_lanes]

/-! ## The override -/

/-- The lane is flagged by the statistics. -/
def Flagged (laneStats : Dict String LaneStatistics) (lane : LaneName) : Prop :=
  lane.key ∈ emergencyKeys laneStats

instance (laneStats : Dict String LaneStatistics) (lane : LaneName) :
    Decidable (Flagged laneStats lane) := inferInstanceAs (Decidable (_ ∈ _))

/-- The override of a result puts the flagged lanes first. -/
structure EmergenciesFirst (result : PriorityResult) (laneStats : Dict String LaneStatistics)
    (overridden : PriorityResult) : Prop where
  lanes : (overridden.scores.map (·.lane)).Perm (result.scores.map (·.lane))
  sorted : overridden.scores.Pairwise fun a b => b.score ≤ a.score
  ranks : overridden.scores.map (·.rank) = List.range' 1 result.scores.length
  first : ∀ a ∈ overridden.scores, ∀ b ∈ overridden.scores,
    Flagged laneStats a.lane → ¬Flagged laneStats b.lane → a.rank < b.rank
  highest : ∃ s, overridden.highestPriority = some s ∧ Flagged laneStats s.lane

/-- No lane that is not flagged is ahead of a flagged one with the boost, added and rounded to two
decimals as floats are, nor level with it if it is listed first. -/
def BoostSuffices (result : PriorityResult) (laneStats : Dict String LaneStatistics) : Prop :=
  result.scores.Pairwise fun a b =>
    (Flagged laneStats a.lane → ¬Flagged laneStats b.lane →
        b.score ≤ roundFloat 2 (double (a.score + Config.emergencyBoostScore)))
      ∧ (¬Flagged laneStats a.lane → Flagged laneStats b.lane →
        a.score < roundFloat 2 (double (b.score + Config.emergencyBoostScore)))

/-- The scores before they are sorted again. -/
def overriddenScores (result : PriorityResult) (laneStats : Dict String LaneStatistics) :
    List PriorityScore :=
  result.scores.map fun s =>
    if Flagged laneStats s.lane then s.boosted Config.emergencyBoostScore else s

/-- With a flagged lane among the scores, the override takes effect. -/
theorem checkAndOverrideKeyed_of_flagged {result : PriorityResult}
    {laneStats : Dict String LaneStatistics}
    (h : ∃ s ∈ result.scores, Flagged laneStats s.lane) (now : Rat) :
    (checkAndOverrideKeyed Config.emergencyBoostScore result laneStats now).scores
        = assignRanks (sortByScore (overriddenScores result laneStats))
      ∧ (checkAndOverrideKeyed Config.emergencyBoostScore result laneStats now).highestPriority
        = (assignRanks (sortByScore (overriddenScores result laneStats))).head? := by
  obtain ⟨s, hs, hflag⟩ := h
  have hscores : result.scores ≠ [] := List.ne_nil_of_mem hs
  have hkeys : emergencyKeys laneStats ≠ [] := List.ne_nil_of_mem hflag
  have hsame : (result.scores.map fun s =>
      if s.key ∈ emergencyKeys laneStats then s.boosted Config.emergencyBoostScore else s)
      = overriddenScores result laneStats := by
    refine List.map_congr_left fun s _ => ?_
    rw [PriorityScore.key_eq]
    rfl
  unfold checkAndOverrideKeyed
  rw [if_neg hscores, if_neg hkeys, hsame]
  exact ⟨rfl, rfl⟩

@[simp] theorem overriddenScores_lanes (result : PriorityResult)
    (laneStats : Dict String LaneStatistics) :
    (overriddenScores result laneStats).map (·.lane) = result.scores.map (·.lane) := by
  unfold overriddenScores
  rw [List.map_map]
  refine List.map_congr_left fun s _ => ?_
  dsimp only [Function.comp]
  split_ifs <;> rfl

/-- **The flagged lanes lead exactly if the boost suffices.** -/
theorem leads_overridden_iff (result : PriorityResult) (laneStats : Dict String LaneStatistics) :
    Leads (fun s => Flagged laneStats s.lane)
        (assignRanks (sortByScore (overriddenScores result laneStats)))
      ↔ BoostSuffices result laneStats := by
  rw [leads_assignRanks]
  unfold sortByScore
  rw [leads_insertionSort_iff]
  unfold overriddenScores BoostSuffices
  rw [List.pairwise_map]
  refine iff_of_eq (congrArg (List.Pairwise · result.scores) ?_)
  funext a b
  -- only the flagged one of the two is boosted
  by_cases ha : Flagged laneStats a.lane
  · by_cases hb : Flagged laneStats b.lane
    · simp [ha, hb, PriorityScore.boosted]
    · simp [ha, hb, PriorityScore.boosted]
  · by_cases hb : Flagged laneStats b.lane
    · simp [ha, hb, PriorityScore.boosted]
    · simp [ha, hb]

theorem boostSuffices_of_emergenciesFirst {result : PriorityResult}
    {laneStats : Dict String LaneStatistics} {now : Rat}
    (hflag : ∃ s ∈ result.scores, Flagged laneStats s.lane)
    (h : EmergenciesFirst result laneStats
      (checkAndOverrideKeyed Config.emergencyBoostScore result laneStats now)) :
    BoostSuffices result laneStats := by
  obtain ⟨hscores, -⟩ := checkAndOverrideKeyed_of_flagged hflag now
  rw [← leads_overridden_iff, leads_iff_rank_lt (assignRanks_pairwise _)]
  intro a ha b hb
  rw [← hscores] at ha hb
  exact h.first a ha b hb

namespace Proof

/--
**The override puts emergencies first exactly if the boost suffices.** For every
result with a flagged lane, the override yields the same lanes, sorted, with ranks
from one, every flagged lane above every other and a flagged lane as the highest
priority, if and only if no other lane's score is ahead of a flagged lane's with the
boost, rounded to two decimals, nor level with it when it is listed first.
-/
theorem emergencies_first_iff (result : PriorityResult) (laneStats : Dict String LaneStatistics)
    (now : Rat) (hflag : ∃ s ∈ result.scores, Flagged laneStats s.lane) :
    EmergenciesFirst result laneStats
        (checkAndOverrideKeyed Config.emergencyBoostScore result laneStats now)
      ↔ BoostSuffices result laneStats := by
  obtain ⟨hscores, hhighest⟩ := checkAndOverrideKeyed_of_flagged hflag now
  have hranks := assignRanks_pairwise (sortByScore (overriddenScores result laneStats))
  constructor
  · exact boostSuffices_of_emergenciesFirst hflag
  · intro hsuffices
    have hleads := (leads_overridden_iff result laneStats).mpr hsuffices
    -- neither the boost nor the ranking loses a lane
    have hlanes : ((assignRanks (sortByScore (overriddenScores result laneStats))).map
        (·.lane)).Perm (result.scores.map (·.lane)) := by
      rw [assignRanks_lanes, ← overriddenScores_lanes result laneStats]
      exact (sortByScore_perm _).map _
    refine ⟨?_, ?_, ?_, ?_, ?_⟩
    · rw [hscores]
      exact hlanes
    · rw [hscores]
      exact ranked_sorted _
    · -- the ranks count from one to the number of lanes
      have hlength : (sortByScore (overriddenScores result laneStats)).length
          = result.scores.length := by
        rw [(sortByScore_perm _).length_eq]
        unfold overriddenScores
        rw [List.length_map]
      rw [hscores, assignRanks_ranks, hlength]
    · rw [hscores]
      exact (leads_iff_rank_lt hranks).mp hleads
    · -- the flagged lane is among the ranked ones, so their head is flagged
      obtain ⟨s, hs, hflagged⟩ := hflag
      have hmem : ∃ s' ∈ assignRanks (sortByScore (overriddenScores result laneStats)),
          Flagged laneStats s'.lane := by
        have hin := hlanes.symm.subset (List.mem_map_of_mem hs)
        obtain ⟨s', hs', hlane⟩ := List.mem_map.mp hin
        exact ⟨s', hs', hlane ▸ hflagged⟩
      rw [hhighest]
      cases hsorted : assignRanks (sortByScore (overriddenScores result laneStats)) with
      | nil =>
          rw [hsorted] at hmem
          obtain ⟨s', hs', -⟩ := hmem
          cases hs'
      | cons first rest =>
          rw [hsorted] at hmem hleads
          exact ⟨first, rfl, hleads.head hmem⟩

/-- A queue of six thousand seconds in the north outweighs the emergency in the south. -/
theorem long_queue_outranks_emergency :
    let north : LaneStatistics := { laneName := "north", totalQueueTimeSec := 6000 }
    let south : LaneStatistics := { laneName := "south", pceScore := 1, hasPriorityVehicle := true }
    let laneStats := ((∅ : Dict String LaneStatistics).set "north" north).set "south" south
    let result := calculate PriorityWeights.default [(.north, north), (.south, south)] 0
    calculateKeyed PriorityWeights.default laneStats 0 = some result
      ∧ (∀ s ∈ result.scores, 0 ≤ s.score)
      ∧ (∃ s ∈ result.scores, Flagged laneStats s.lane)
      ∧ ¬EmergenciesFirst result laneStats
        (checkAndOverrideKeyed Config.emergencyBoostScore result laneStats 0) := by
  intro north south laneStats result
  have hover : OverLanes laneStats [(.north, north), (.south, south)] := ⟨rfl⟩
  have hflag : ∃ s ∈ result.scores, Flagged laneStats s.lane := by decide +kernel
  refine ⟨hover.calculateKeyed_eq _ 0, by decide +kernel, hflag, fun h => ?_⟩
  have hsuffices := boostSuffices_of_emergenciesFirst hflag h
  revert hsuffices
  unfold BoostSuffices
  decide +kernel

/-- A short queue does not. -/
theorem emergencies_first_iff_south :
    let north : LaneStatistics := { laneName := "north", totalQueueTimeSec := 60 }
    let south : LaneStatistics := { laneName := "south", pceScore := 1, hasPriorityVehicle := true }
    let laneStats := ((∅ : Dict String LaneStatistics).set "North" north).set "South" south
    let result := calculate PriorityWeights.default [(.north, north), (.south, south)] 0
    EmergenciesFirst result laneStats
      (checkAndOverrideKeyed Config.emergencyBoostScore result laneStats 0) := by
  intro north south laneStats result
  have hsuffices : BoostSuffices result laneStats := by
    unfold BoostSuffices
    decide +kernel
  exact (emergencies_first_iff result laneStats 0 (by decide +kernel)).mpr hsuffices

end Proof

end SmartTraffic
