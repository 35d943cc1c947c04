import SmartTraffic.Signal.Keys

/-!
# A command partitions the intersection

The five steps from the statistics to the command sort, copy, filter and convert the
four lanes. What is followed here is the list of lanes: every step permutes it, the
selection takes one of them as green, and the others are red.
-/

namespace SmartTraffic

open Lib

/-! ## The lanes of the four keys -/

/-- A dictionary over the four lower-case keys is one over the four lanes. -/
theorem overLanes_of_keys {laneStats : Dict String LaneStatistics}
    (h : laneStats.keys.Perm ["north", "south", "east", "west"]) :
    ∃ lanes, OverLanes laneStats lanes
      ∧ (lanes.map Prod.fst).Perm [.north, .south, .east, .west] := by
  -- the items are those of a list over lane names
  have hnamed : ∀ items : List (String × LaneStatistics),
      (∀ item ∈ items, ∃ lane : LaneName, item.1 = lane.key) →
      ∃ lanes : List (LaneName × LaneStatistics),
        items = lanes.map fun item => (item.1.key, item.2) := by
    intro items
    induction items with
    | nil => intro _; exact ⟨[], rfl⟩
    | cons item items ih =>
        intro hall
        obtain ⟨lane, hlane⟩ := hall item List.mem_cons_self
        obtain ⟨lanes, rfl⟩ := ih fun item hitem => hall item (List.mem_cons_of_mem _ hitem)
        refine ⟨(lane, item.2) :: lanes, ?_⟩
        rw [List.map_cons]
        show item :: _ = (lane.key, item.2) :: _
        rw [← hlane]
  have hall : ∀ item ∈ laneStats.items, ∃ lane : LaneName, item.1 = lane.key := by
    intro item hitem
    have hkey : item.1 ∈ ["north", "south", "east", "west"] :=
      h.subset (List.mem_map_of_mem hitem)
    simp only [List.mem_cons, List.not_mem_nil, or_false] at hkey
    rcases hkey with hkey | hkey | hkey | hkey
    · exact ⟨.north, hkey⟩
    · exact ⟨.south, hkey⟩
    · exact ⟨.east, hkey⟩
    · exact ⟨.west, hkey⟩
  obtain ⟨lanes, hlanes⟩ := hnamed laneStats.items hall
  refine ⟨lanes, ⟨hlanes⟩, ?_⟩
  -- the keys are those of the lanes, and the keys tell the lanes apart
  have hkeys : laneStats.keys = (lanes.map Prod.fst).map LaneName.key := by
    unfold Dict.keys
    rw [hlanes, List.map_map, List.map_map]
    rfl
  have hfour : ["north", "south", "east", "west"]
      = [LaneName.north, .south, .east, .west].map LaneName.key := rfl
  rw [hkeys, hfour] at h
  exact (List.map_perm_map_iff key_injective).mp h

/-! ## What each step keeps -/

theorem calculate_lanes_perm (w : PriorityWeights) (lanes : List (LaneName × LaneStatistics))
    (now : Rat) : ((calculate w lanes now).scores.map (·.lane)).Perm (lanes.map Prod.fst) := by
  unfold calculate
  rw [assignRanks_lanes]
  refine ((sortByScore_perm _).map _).trans (.of_eq ?_)
  rw [List.map_map]
  rfl

/-- The scores the override hands on. -/
theorem checkAndOverrideKeyed_scores (boost : Rat) (result : PriorityResult)
    (laneStats : Dict String LaneStatistics) (now : Rat) :
    (checkAndOverrideKeyed boost result laneStats now).scores = result.scores
      ∨ (checkAndOverrideKeyed boost result laneStats now).scores
        = assignRanks (sortByScore (result.scores.map fun s =>
            if s.key ∈ emergencyKeys laneStats then s.boosted boost else s)) := by
  unfold checkAndOverrideKeyed
  by_cases hnone : result.scores = []
  · rw [if_pos hnone]
    exact .inl rfl
  · by_cases hkeys : emergencyKeys laneStats = []
    · rw [if_neg hnone, if_pos hkeys]
      exact .inl rfl
    · rw [if_neg hnone, if_neg hkeys]
      exact .inr rfl

/-- The override keeps the lanes. -/
theorem checkAndOverrideKeyed_lanes_perm (boost : Rat) (result : PriorityResult)
    (laneStats : Dict String LaneStatistics) (now : Rat) :
    ((checkAndOverrideKeyed boost result laneStats now).scores.map (·.lane)).Perm
      (result.scores.map (·.lane)) := by
  obtain hsame | hsorted := checkAndOverrideKeyed_scores boost result laneStats now
  · rw [hsame]
  · have hlanes : (result.scores.map fun s =>
        if s.key ∈ emergencyKeys laneStats then s.boosted boost else s).map (·.lane)
        = result.scores.map (·.lane) := by
      rw [List.map_map]
      refine List.map_congr_left fun s _ => ?_
      dsimp only [Function.comp]
      by_cases hs : s.key ∈ emergencyKeys laneStats
      · rw [if_pos hs]
        rfl
      · rw [if_neg hs]
    rw [hsorted, assignRanks_lanes, ← hlanes]
    exact (sortByScore_perm _).map _

/-- The score of an emergency lane after the override. -/
def emergencyScore (w : PriorityWeights) (boost : Rat) (lane : LaneName) (st : LaneStatistics) :
    Rat := roundFloat 2 (double ((scoreOf w lane st).score + boost))

/-- **What a score of the override says about the statistics of its lane.** -/
theorem mem_overridden {laneStats : Dict String LaneStatistics}
    {lanes : List (LaneName × LaneStatistics)} (h : OverLanes laneStats lanes)
    {w : PriorityWeights} {boost now : Rat} {s : PriorityScore}
    (hs : s ∈ (checkAndOverrideKeyed boost (calculate w lanes now) laneStats now).scores) :
    ∃ st, laneStats.get? s.lane.key = some st
      ∧ (st.hasPriorityVehicle = true → s.score = emergencyScore w boost s.lane st) := by
  -- every base score is that of a lane of the statistics
  have hbase : ∀ s₀ ∈ (calculate w lanes now).scores,
      ∃ st, laneStats.get? s₀.lane.key = some st ∧ (s₀.lane, st) ∈ lanes
        ∧ s₀.score = (scoreOf w s₀.lane st).score := by
    intro s₀ hs₀
    obtain ⟨lane, st, hmem, r, rfl⟩ := mem_calculate hs₀
    refine ⟨st, ?_, hmem, rfl⟩
    show laneStats.get? lane.key = some st
    rw [h.get?_key]
    exact lookup_eq_some_of_mem h.nodup hmem
  -- a flagged lane is among the emergency keys
  have hkey : ∀ lane st, (lane, st) ∈ lanes → st.hasPriorityVehicle = true →
      lane.key ∈ emergencyKeys laneStats := by
    intro lane st hmem hflag
    refine (h.mem_emergencyKeys lane).mpr (List.mem_map.mpr ⟨(lane, st), ?_, rfl⟩)
    exact List.mem_filter.mpr ⟨hmem, hflag⟩
  unfold checkAndOverrideKeyed at hs
  by_cases hnone : (calculate w lanes now).scores = []
  · rw [if_pos hnone, hnone] at hs
    cases hs
  rw [if_neg hnone] at hs
  by_cases hkeys : emergencyKeys laneStats = []
  · -- no lane is flagged
    rw [if_pos hkeys] at hs
    obtain ⟨st, hget, hmem, -⟩ := hbase s hs
    refine ⟨st, hget, fun hflag => ?_⟩
    have hin := hkey s.lane st hmem hflag
    rw [hkeys] at hin
    cases hin
  · rw [if_neg hkeys] at hs
    -- the scores are those of the map, ranked anew
    obtain ⟨s₁, hs₁, r, rfl⟩ := mem_assignRanks hs
    obtain ⟨s₀, hs₀, rfl⟩ := List.mem_map.mp ((sortByScore_perm _).mem_iff.mp hs₁)
    obtain ⟨st, hget, hmem, hscore⟩ := hbase s₀ hs₀
    rw [PriorityScore.key_eq]
    by_cases hflagged : s₀.lane.key ∈ emergencyKeys laneStats
    · rw [if_pos hflagged]
      refine ⟨st, hget, fun _ => ?_⟩
      show roundFloat 2 (double (s₀.score + boost)) = emergencyScore w boost s₀.lane st
      rw [hscore]
      rfl
    · rw [if_neg hflagged]
      exact ⟨st, hget, fun hflag => absurd (hkey s₀.lane st hmem hflag) hflagged⟩

theorem mem_demandKeyed {result : PriorityResult} {laneStats : Dict String LaneStatistics}
    {fresh : List String} {s : PriorityScore} :
    s ∈ SignalScheduler.demandKeyed result laneStats fresh
      ↔ s ∈ result.scores ∧ s.lane.key ∈ fresh
        ∧ ∃ st, laneStats.get? s.lane.key = some st ∧ 0 < st.rawCount := by
  unfold SignalScheduler.demandKeyed
  rw [List.mem_filter, PriorityScore.key_eq, Bool.and_eq_true, List.contains_iff_mem,
    Option.any_eq_true]
  simp only [decide_eq_true_eq]

/-- **A selection is in demand, and it is the highest emergency if there is one.** -/
theorem selectEligibleKeyed_some {s : SignalScheduler} {result r : PriorityResult}
    {laneStats : Dict String LaneStatistics} {fresh : List String}
    (h : (s.selectEligibleKeyed result laneStats fresh).1 = some r) :
    ∃ winner ∈ SignalScheduler.demandKeyed result laneStats fresh,
      r = { result with highestPriority := some winner }
        ∧ ∀ e ∈ SignalScheduler.emergencyKeyed laneStats
            (SignalScheduler.demandKeyed result laneStats fresh),
          winner ∈ SignalScheduler.emergencyKeyed laneStats
            (SignalScheduler.demandKeyed result laneStats fresh) ∧ e.score ≤ winner.score := by
  unfold SignalScheduler.selectEligibleKeyed at h
  dsimp only at h
  split_ifs at h
  cases hmax : (SignalScheduler.emergencyKeyed laneStats
      (SignalScheduler.demandKeyed result laneStats fresh)).argmax (·.score) with
  | some winner =>
      rw [hmax] at h
      have hmem := List.argmax_mem hmax
      refine ⟨winner, (List.mem_filter.mp hmem).1, (Option.some.inj h).symm, fun e he => ?_⟩
      exact ⟨hmem, List.le_of_mem_argmax he hmax⟩
  | none =>
      rw [hmax] at h
      have hempty := List.argmax_eq_none.mp hmax
      cases hcursor : s.cursorWinnerKeyed (SignalScheduler.demandKeyed result laneStats fresh) with
      | none =>
          rw [hcursor] at h
          cases h
      | some winner =>
          rw [hcursor] at h
          obtain ⟨offset, -, hfound⟩ := List.exists_of_findSome?_eq_some hcursor
          have hmem := List.mem_reverse.mp (List.mem_of_find?_eq_some hfound)
          refine ⟨winner, hmem, (Option.some.inj h).symm, fun e he => ?_⟩
          rw [hempty] at he
          cases he

/-- Green and red together are the lanes of the scores. -/
theorem buildDecision_lanes_perm (s : SignalScheduler) (result : PriorityResult)
    {w : PriorityScore} (hw : w ∈ result.scores) (hnd : (result.scores.map (·.lane)).Nodup)
    (green : Int) (phaseId : Nat) (now : Rat) :
    let d := s.buildDecision w green result phaseId now
    (d.greenLane :: d.redLanes).Perm (result.scores.map (·.lane)) := by
  have hred : (result.scores.filter (·.lane ≠ w.lane)).map (·.lane)
      = (result.scores.map (·.lane)).erase w.lane := by
    rw [hnd.erase_eq_filter, List.filter_map]
    congr 1
    -- the lanes differ, so dropping the winner drops one entry
    refine List.filter_congr fun s' _ => ?_
    by_cases hlane : s'.lane = w.lane <;> simp [hlane]
  intro d
  show (w.lane :: (result.scores.filter (·.lane ≠ w.lane)).map (·.lane)).Perm _
  rw [hred]
  exact (List.perm_cons_erase (List.mem_map_of_mem hw)).symm

namespace Proof

/--
**Every command partitions the intersection.** Take statistics over the four
approaches, any set of fresh lanes and any scheduler. If the path from the statistics
yields a command, its green lane and its red lanes are together the four lanes, each
once; the green lane is fresh and occupied; and if some fresh and occupied lane has an
emergency, so has the green one, with the highest boosted score of them all.
-/
theorem command_partitions (w : PriorityWeights) (boost : Rat) (s : SignalScheduler)
    (c : SignalController) (laneStats : Dict String LaneStatistics)
    (hkeys : laneStats.keys.Perm ["north", "south", "east", "west"]) (fresh : List String)
    (phaseId : Nat) (now : Rat) (cmd : HardwareCommand)
    (h : commandFor w boost s c laneStats fresh phaseId now = some cmd) :
    (cmd.greenLane :: cmd.redLanes).Perm [.north, .south, .east, .west]
      ∧ cmd.greenLane.key ∈ fresh
      ∧ ∃ g, laneStats.get? cmd.greenLane.key = some g ∧ 0 < g.rawCount
        ∧ ∀ (lane : LaneName) st, lane.key ∈ fresh → laneStats.get? lane.key = some st →
          0 < st.rawCount → st.hasPriorityVehicle = true →
          g.hasPriorityVehicle = true
            ∧ emergencyScore w boost lane st ≤ emergencyScore w boost cmd.greenLane g := by
  obtain ⟨lanes, hover, hfour⟩ := overLanes_of_keys hkeys
  unfold commandFor at h
  rw [hover.calculateKeyed_eq w now] at h
  simp only [Option.bind_eq_bind, Option.bind_some] at h
  obtain ⟨r, hr, h⟩ := Option.bind_eq_some_iff.mp h
  obtain ⟨decision, hdecision, h⟩ := Option.bind_eq_some_iff.mp h
  obtain rfl := Option.some.inj h
  rw [generateCommandKeyed_eq]
  let final := checkAndOverrideKeyed boost (calculate w lanes now) laneStats now
  -- the override and the calculation keep the lanes
  have hperm : (final.scores.map (·.lane)).Perm [.north, .south, .east, .west] :=
    ((checkAndOverrideKeyed_lanes_perm boost _ laneStats now).trans
      (calculate_lanes_perm w lanes now)).trans hfour
  -- what is selected is in demand, and so it is scored
  obtain ⟨winner, hdemand, rfl, hemergency⟩ := selectEligibleKeyed_some hr
  obtain ⟨hwinner, hfresh, g, hg, hoccupied⟩ := mem_demandKeyed.mp hdemand
  rw [schedule_selected _ hwinner] at hdecision
  obtain rfl := Option.some.inj hdecision
  have hnd : (final.scores.map (·.lane)).Nodup := hperm.nodup_iff.mpr (by decide)
  refine ⟨?_, hfresh, g, hg, hoccupied, ?_⟩
  · have hlanes := buildDecision_lanes_perm (s.selectEligibleKeyed final laneStats fresh).2
      { final with highestPriority := some winner } hwinner hnd
      ((s.selectEligibleKeyed final laneStats fresh).2.calculateGreenTime winner
        { final with highestPriority := some winner }) phaseId now
    exact hlanes.trans hperm
  · intro lane st hlane hst hraw hflag
    -- the lane has a score, and that score is an emergency in demand
    have hin : lane ∈ final.scores.map (·.lane) := by
      rw [hperm.mem_iff]
      cases lane <;> decide
    obtain ⟨e, he, rfl⟩ := List.mem_map.mp hin
    have hedemand : e ∈ SignalScheduler.emergencyKeyed laneStats
        (SignalScheduler.demandKeyed final laneStats fresh) := by
      refine List.mem_filter.mpr ⟨mem_demandKeyed.mpr ⟨he, hlane, st, hst, hraw⟩, ?_⟩
      rw [PriorityScore.key_eq, hst]
      exact hflag
    obtain ⟨hwin, hle⟩ := hemergency e hedemand
    have hgflag : g.hasPriorityVehicle = true := by
      have hany := (List.mem_filter.mp hwin).2
      rw [PriorityScore.key_eq, hg] at hany
      exact hany
    -- both scores are boosted ones, and the winner's is not the lower
    obtain ⟨st', hst', hscore⟩ := mem_overridden hover he
    obtain ⟨g', hg', hgscore⟩ := mem_overridden hover hwinner
    obtain rfl := Option.some.inj (hst.symm.trans hst')
    obtain rfl := Option.some.inj (hg.symm.trans hg')
    refine ⟨hgflag, ?_⟩
    rw [hscore hflag, hgscore hgflag] at hle
    exact hle

/-- Four occupied lanes and an emergency in the east: the east goes, the others wait. -/
theorem command_partitions_east :
    let busy : LaneStatistics := { laneName := "", pceScore := 8, rawCount := 4 }
    let ambulance : LaneStatistics :=
      { laneName := "east", pceScore := 1, rawCount := 1, hasPriorityVehicle := true }
    let laneStats := ((((∅ : Dict String LaneStatistics).set "north" busy).set "south" busy).set
      "east" ambulance).set "west" busy
    ∃ cmd, commandFor PriorityWeights.default Config.emergencyBoostScore {} {} laneStats
        laneStats.keys 1 0 = some cmd
      ∧ (cmd.greenLane :: cmd.redLanes).Perm [.north, .south, .east, .west]
      ∧ cmd.greenLane = .east := by
  intro busy ambulance laneStats
  have hgreen : (commandFor PriorityWeights.default Config.emergencyBoostScore {} {} laneStats
      laneStats.keys 1 0).map (·.greenLane) = some .east := by decide +kernel
  obtain ⟨cmd, hcmd, heast⟩ := Option.map_eq_some_iff.mp hgreen
  exact ⟨cmd, hcmd, (command_partitions PriorityWeights.default Config.emergencyBoostScore {} {}
    laneStats (by decide +kernel) laneStats.keys 1 0 cmd hcmd).1, heast⟩

end Proof

end SmartTraffic
