import SmartTraffic.Simulator.Replay

/-!
# The turns of a replay

Every scenario loads every approach at every step, so an approach has demand exactly if its
camera is fresh, and the lane of a step depends on the number of the step alone. From that
the whole run can be told in advance: the fallback is never reached, and the totals are
those of the closed form.
-/

namespace SmartTraffic.Proof

open SmartTraffic Lib TrafficReplayLab

/-! ## The load of a step -/

/-- The east camera is lost. -/
def losesEast (scenario : String) (step : Nat) : Prop :=
  scenario = TrafficScenario.cameraDisconnect.value ∧ 3 < step

instance (scenario : String) (step : Nat) : Decidable (losesEast scenario step) :=
  inferInstanceAs (Decidable (_ ∧ _))

/-- The ambulance waits in the south. -/
def sendsAmbulance (scenario : String) (step : Nat) : Prop :=
  scenario = TrafficScenario.emergencyPreemption.value ∧ 2 ≤ step

instance (scenario : String) (step : Nat) : Decidable (sendsAmbulance scenario step) :=
  inferInstanceAs (Decidable (_ ∧ _))

/-- What a scenario makes of an approach at a step. -/
structure Loaded (scenario : String) (step : Nat) (lane : LaneName) (st : LaneStatistics) :
    Prop where
  stats : statsOf (generateScenarioTraffic scenario step).1 lane = some st
  demand : 0 < st.rawCount
  priority : st.hasPriorityVehicle = true ↔ sendsAmbulance scenario step ∧ lane = .south
  /-- There is a load to measure, or none at all. -/
  worth : (0 < st.pceScore ∧ 0 ≤ st.totalQueueTimeSec ∧ 0 ≤ st.stoppedCount)
    ∨ (st.pceScore = 0 ∧ st.totalQueueTimeSec = 0 ∧ st.stoppedCount = 0
      ∧ st.hasPriorityVehicle = false)

theorem generateScenarioTraffic_other {scenario : String}
    (h : ∀ t : TrafficScenario, scenario ≠ t.value) (step : Nat) :
    generateScenarioTraffic scenario step
      = (replayLanes.map fun l => (l, replayLoad l 1 0 0 0 false), replayLanes) := by
  unfold generateScenarioTraffic
  rw [if_neg (h .balancedNormal), if_neg (h .heavyNorth), if_neg (h .allBusyGridlock),
    if_neg (h .cameraDisconnect), if_neg (h .emergencyPreemption), if_neg (h .suddenSpike)]

/-- **Every approach is loaded at every step.** -/
theorem exists_loaded (scenario : String) (step : Nat) (lane : LaneName) :
    ∃ st, Loaded scenario step lane st := by
  by_cases hnamed : ∃ t : TrafficScenario, scenario = t.value
  · obtain ⟨t, rfl⟩ := hnamed
    cases t with
    | emergencyPreemption =>
        cases lane <;> exact ⟨_, rfl, Int.one_pos.trans_le (by simp [replayLoad]),
          by simp [replayLoad, sendsAmbulance], Or.inl (by simp [replayLoad])⟩
    | suddenSpike =>
        cases lane with
        | west =>
            have hcount : 0 < if 4 ≤ step then (20 : Int) else 1 := by split_ifs <;> omega
            refine ⟨_, rfl, hcount, by simp [replayLoad, sendsAmbulance, TrafficScenario.value],
              Or.inl ⟨?_, ?_, ?_⟩⟩
            · exact mul_pos (by exact_mod_cast hcount) (by norm_num)
            · exact mul_nonneg (by exact_mod_cast hcount.le) (by norm_num)
            · exact Int.ediv_nonneg hcount.le (by norm_num)
        | _ => exact ⟨_, rfl, by decide,
            by simp [replayLoad, sendsAmbulance, TrafficScenario.value],
            Or.inl (by simp [replayLoad])⟩
    | _ =>
        cases lane <;> exact ⟨_, rfl, by decide,
          by simp [replayLoad, sendsAmbulance, TrafficScenario.value],
          Or.inl (by simp [replayLoad])⟩
  · have hother : ∀ t : TrafficScenario, scenario ≠ t.value := fun t h => hnamed ⟨t, h⟩
    have hcalm : ¬sendsAmbulance scenario step := fun h => hother _ h.1
    have hgen := generateScenarioTraffic_other hother step
    cases lane <;> exact ⟨_, by rw [hgen]; rfl, Int.one_pos, by simp [replayLoad, hcalm],
      Or.inr (by simp [replayLoad])⟩

theorem generateScenarioTraffic_fresh (scenario : String) (step : Nat) :
    (generateScenarioTraffic scenario step).2
      = if losesEast scenario step then replayLanes.erase .east else replayLanes := by
  by_cases hnamed : ∃ t : TrafficScenario, scenario = t.value
  · obtain ⟨t, rfl⟩ := hnamed
    cases t with
    | cameraDisconnect => simp [generateScenarioTraffic, losesEast, TrafficScenario.value]
    | _ => simp [generateScenarioTraffic, losesEast, TrafficScenario.value]
  · have hother : ∀ t : TrafficScenario, scenario ≠ t.value := fun t h => hnamed ⟨t, h⟩
    rw [generateScenarioTraffic_other hother, if_neg fun h => hother _ h.1]

/-! ## The turn of a step -/

/-- Whether the camera of the lane works at a step. -/
def hasCamera (scenario : String) (step : Nat) (lane : LaneName) : Bool :=
  !(decide (losesEast scenario step) && lane = .east)

theorem mem_fresh_iff {scenario : String} {step : Nat} {lane : LaneName} :
    lane ∈ (generateScenarioTraffic scenario step).2 ↔ hasCamera scenario step lane = true := by
  rw [generateScenarioTraffic_fresh]
  unfold hasCamera
  by_cases h : losesEast scenario step
  · cases lane <;> simp [h, replayLanes]
  · cases lane <;> simp [h, replayLanes]

theorem replayScore_lane (laneStats : List (LaneName × LaneStatistics)) (fresh : List LaneName)
    (lane : LaneName) : (replayScore laneStats fresh lane).lane = lane := by
  unfold replayScore
  cases statsOf laneStats lane with
  | none => rfl
  | some st => cases fresh.contains lane <;> rfl

theorem replayPriority_lanes (laneStats : List (LaneName × LaneStatistics))
    (fresh : List LaneName) (lane : LaneName) :
    lane ∈ (replayPriority laneStats fresh).scores.map (·.lane) := by
  unfold replayPriority
  rw [mem_ranked_lanes, List.map_map]
  have hcomp : (fun score : PriorityScore => score.lane) ∘ replayScore laneStats fresh = id :=
    funext fun l => replayScore_lane laneStats fresh l
  rw [hcomp, List.map_id]
  cases lane <;> simp [replayLanes]

/-- **An approach has demand exactly if its camera works.** -/
theorem isEligible_replay (scenario : String) (step : Nat) (lane : LaneName) :
    isEligible (replayPriority (generateScenarioTraffic scenario step).1
        (generateScenarioTraffic scenario step).2) (generateScenarioTraffic scenario step).1
      (generateScenarioTraffic scenario step).2 lane = hasCamera scenario step lane := by
  rw [Bool.eq_iff_iff, isEligible_iff, mem_fresh_iff]
  obtain ⟨st, hst⟩ := exists_loaded scenario step lane
  exact ⟨fun h => h.2.1, fun h => ⟨replayPriority_lanes _ _ lane, h, st, hst.stats, hst.demand⟩⟩

/-- The lane of a step from the cursor. -/
def nextServed (scenario : String) (step : Nat) (cursor : Fin 4) : LaneName :=
  if sendsAmbulance scenario step then .south
  else if losesEast scenario step ∧ cursor = cycleIndex .east then .south
  else cycleOrder cursor

/-- **A step serves the lane at the cursor**, unless its camera is lost or the ambulance waits. -/
theorem selectEligible_replay (s : SignalScheduler) (scenario : String) (step : Nat) :
    let traffic := generateScenarioTraffic scenario step
    let priority := replayPriority traffic.1 traffic.2
    let lane := nextServed scenario step s.nextCycleIndex
    (s.selectedLane priority traffic.1 traffic.2) = some lane
      ∧ (s.selectEligible priority traffic.1 traffic.2).2 = s.advanceAfter lane := by
  intro traffic priority lane
  have hturn := selectEligible_turn s priority traffic.1 traffic.2
  have hwinner : (turnOf priority traffic.1 traffic.2).winner s.nextCycleIndex
      = some (cycleIndex lane) := by
    unfold turnOf
    cases hem : emergencyWinner priority traffic.1 traffic.2 with
    | some w =>
        -- only the ambulance has priority
        obtain ⟨st, hst⟩ := exists_loaded scenario step w.lane
        have hpri := (emergencyWinner_mem hem).2
        rw [hst.stats] at hpri
        obtain ⟨hsends, hsouth⟩ := hst.priority.mp hpri
        have hlane : lane = w.lane := by
          rw [hsouth]
          exact if_pos hsends
        rw [hlane]
        rfl
    | none =>
        -- with an ambulance the south would have won
        have hcalm : ¬sendsAmbulance scenario step := by
          intro hsends
          obtain ⟨st, hst⟩ := exists_loaded scenario step .south
          have hel := isEligible_replay scenario step .south
          have hcamera : hasCamera scenario step .south = true := by simp [hasCamera]
          rw [hcamera] at hel
          obtain ⟨score, hscore, hsouth⟩ := List.any_eq_true.mp hel
          obtain hsouth := of_decide_eq_true hsouth
          refine absurd (List.argmax_eq_none.mp hem) (List.ne_nil_of_mem
            (List.mem_filter.mpr ⟨hscore, ?_⟩))
          rw [hsouth, hst.stats]
          exact hst.priority.mpr ⟨hsends, rfl⟩
        have hscan : (fun i => isEligible priority traffic.1 traffic.2 (cycleOrder i))
            = fun i => hasCamera scenario step (cycleOrder i) :=
          funext fun i => isEligible_replay scenario step (cycleOrder i)
        dsimp only [Turn.winner]
        rw [hscan]
        show nextFrom s.nextCycleIndex _
          = some (cycleIndex (nextServed scenario step s.nextCycleIndex))
        unfold nextServed hasCamera
        rw [if_neg hcalm]
        -- four cursors, with and without the east
        generalize s.nextCycleIndex = c
        by_cases hlost : losesEast scenario step
        · simp only [hlost, decide_true, Bool.true_and, true_and]
          revert c
          decide
        · simp only [hlost, decide_false, Bool.false_and, false_and, if_false]
          revert c
          decide
  rw [hwinner] at hturn
  refine ⟨?_, hturn.2⟩
  obtain ⟨winner, hselected, hindex⟩ := Option.map_eq_some_iff.mp hturn.1
  rw [hselected, cycleIndex_inj hindex]

/-! ## The whole run -/

/-- The turn of a step in the full cycle. -/
def replayTurn (step : Nat) : LaneName :=
  match step % 4 with
  | 0 => .north
  | 1 => .east
  | 2 => .south
  | _ => .west

/-- The lane of a step: the cycle, but the south from the ambulance on, and the cycle without
the east once its camera is lost. -/
def replayLane (scenario : String) (step : Nat) : LaneName :=
  if sendsAmbulance scenario step then .south
  else if losesEast scenario step then
    if step % 3 = 1 then .north else if step % 3 = 2 then .south else .west
  else replayTurn step

/-- The cursor before a step. -/
def replayCursor (scenario : String) : Nat → Fin 4
  | 0 => firstCycleIndex
  | step + 1 => (({} : SignalScheduler).advanceAfter (replayLane scenario step)).nextCycleIndex

theorem cycleOrder_after_replayTurn (step : Nat) :
    cycleOrder (cycleIndex (replayTurn step) + 1) = replayTurn (step + 1) := by
  unfold replayTurn
  rcases (by omega : step % 4 = 0 ∨ step % 4 = 1 ∨ step % 4 = 2 ∨ step % 4 = 3) with
    h | h | h | h
  · rw [h, (by omega : (step + 1) % 4 = 1)]; rfl
  · rw [h, (by omega : (step + 1) % 4 = 2)]; rfl
  · rw [h, (by omega : (step + 1) % 4 = 3)]; rfl
  · rw [h, (by omega : (step + 1) % 4 = 0)]; rfl

theorem not_sendsAmbulance_of_losesEast {scenario : String} {step step' : Nat}
    (h : losesEast scenario step) : ¬sendsAmbulance scenario step' := by
  intro hsends
  have hname := h.1.symm.trans hsends.1
  exact absurd hname (by decide)

theorem replayLane_of_losesEast {scenario : String} {step : Nat} (h : losesEast scenario step) :
    replayLane scenario step
      = if step % 3 = 1 then .north else if step % 3 = 2 then .south else .west := by
  unfold replayLane
  rw [if_neg (not_sendsAmbulance_of_losesEast h), if_pos h]

theorem replayLane_regular {scenario : String} {step : Nat} (hcalm : ¬sendsAmbulance scenario step)
    (hkept : ¬losesEast scenario step) :
    replayLane scenario step = replayTurn step := by
  unfold replayLane
  rw [if_neg hcalm, if_neg hkept]

theorem nextServed_replayCursor (scenario : String) (step : Nat) :
    nextServed scenario step (replayCursor scenario step) = replayLane scenario step := by
  unfold nextServed
  by_cases hsends : sendsAmbulance scenario step
  · unfold replayLane
    rw [if_pos hsends, if_pos hsends]
  rw [if_neg hsends]
  cases step with
  | zero =>
      have hkept : ¬losesEast scenario 0 := fun h => by have := h.2; omega
      rw [if_neg fun h => hkept h.1, replayLane_regular hsends hkept]
      rfl
  | succ step =>
      have hcalm : ¬sendsAmbulance scenario step := fun h => hsends ⟨h.1, h.2.trans (by omega)⟩
      show (if losesEast scenario (step + 1) ∧ cycleIndex (replayLane scenario step) + 1
          = cycleIndex .east
          then LaneName.south else cycleOrder (cycleIndex (replayLane scenario step) + 1))
        = replayLane scenario (step + 1)
      by_cases hlost : losesEast scenario (step + 1)
      · have hstep := hlost.2
        rw [replayLane_of_losesEast hlost]
        by_cases hlong : losesEast scenario step
        · -- the cycle without the east goes on
          rw [replayLane_of_losesEast hlong]
          rcases (by omega : step % 3 = 0 ∨ step % 3 = 1 ∨ step % 3 = 2) with h | h | h
          · rw [h, (by omega : (step + 1) % 3 = 1)]
            simp [hlost, cycleIndex, cycleOrder]
          · rw [h, (by omega : (step + 1) % 3 = 2)]
            simp [hlost, cycleIndex]
          · rw [h, (by omega : (step + 1) % 3 = 0)]
            simp [hlost, cycleIndex, cycleOrder]
        · have hthree : step = 3 := by
            have hle : ¬3 < step := fun h => hlong ⟨hlost.1, h⟩
            omega
          subst hthree
          rw [replayLane_regular hcalm hlong]
          simp [cycleOrder, cycleIndex, replayTurn]
      · have hkept : ¬losesEast scenario step := fun h => hlost ⟨h.1, by have := h.2; omega⟩
        rw [replayLane_regular hcalm hkept, replayLane_regular hsends hlost,
          if_neg fun h => hlost h.1]
        exact cycleOrder_after_replayTurn step

/-! ## The green of a load -/

/-- The share of the range between the bounds that a load earns. -/
def loadShare (pce queueSec : Rat) : Rat :=
  double (double (3 / 4 * min 1 (double (pce / Config.fullGreenPce)))
    + double (1 / 4 * min 1 (double (queueSec / Config.fullGreenQueueSec))))

/-- The green time that a load earns: the minimum, if there is none. -/
def greenFor (s : SignalScheduler) (pce queueSec : Rat) : Int :=
  if pce ≤ 0 ∧ queueSec ≤ 0 then s.minGreenSec
  else
    max s.minGreenSec (min s.maxGreenSec (roundHalfEven (double (double s.minGreenSec
      + double (loadShare pce queueSec * double (s.maxGreenSec - s.minGreenSec : Int))))))

theorem greenFor_zero (s : SignalScheduler) : greenFor s 0 0 = s.minGreenSec := by
  unfold greenFor
  rw [if_pos ⟨le_rfl, le_rfl⟩]

theorem greenFor_within (s : SignalScheduler) (pce queueSec : Rat) :
    s.minGreenSec ≤ greenFor s pce queueSec
      ∧ greenFor s pce queueSec ≤ max s.minGreenSec s.maxGreenSec := by
  unfold greenFor
  split_ifs
  · exact ⟨le_rfl, le_max_left _ _⟩
  · exact ⟨le_max_left _ _, max_le_max le_rfl (min_le_left _ _)⟩

theorem loadShare_mono {pce pce' queueSec queueSec' : Rat} (hpce : pce ≤ pce')
    (hqueue : queueSec ≤ queueSec') : loadShare pce queueSec ≤ loadShare pce' queueSec' := by
  have hp : double (pce / Config.fullGreenPce) ≤ double (pce' / Config.fullGreenPce) :=
    double_mono (by unfold Config.fullGreenPce; gcongr)
  have hq : double (queueSec / Config.fullGreenQueueSec)
      ≤ double (queueSec' / Config.fullGreenQueueSec) :=
    double_mono (by unfold Config.fullGreenQueueSec; gcongr)
  unfold loadShare
  refine double_mono (add_le_add (double_mono ?_) (double_mono ?_)) <;> gcongr

/-- **A heavier load never earns a shorter green.** -/
theorem greenFor_mono (s : SignalScheduler) {pce pce' queueSec queueSec' : Rat} (hpce : pce ≤ pce')
    (hqueue : queueSec ≤ queueSec') : greenFor s pce queueSec ≤ greenFor s pce' queueSec' := by
  unfold greenFor
  by_cases hnone : pce' ≤ 0 ∧ queueSec' ≤ 0
  · rw [if_pos hnone, if_pos ⟨hpce.trans hnone.1, hqueue.trans hnone.2⟩]
  rw [if_neg hnone]
  split_ifs
  · exact le_max_left _ _
  rcases le_or_gt s.maxGreenSec s.minGreenSec with hle | hlt
  · -- then there is nothing to choose
    omega
  · have hspan : (0 : Rat) ≤ double (s.maxGreenSec - s.minGreenSec : Int) :=
      double_nonneg (by exact_mod_cast sub_nonneg.mpr hlt.le)
    -- every operation is monotone, and so is every rounding
    refine max_le_max le_rfl (min_le_min le_rfl (roundHalfEven_mono (double_mono ?_)))
    have hshare := mul_le_mul_of_nonneg_right (loadShare_mono hpce hqueue) hspan
    exact add_le_add le_rfl (double_mono hshare)

/-- **The green of a step is the one its lane's load earns.** -/
theorem calculateGreenTime_replay {s : SignalScheduler} {scenario : String} {step : Nat}
    {w : PriorityScore} {st : LaneStatistics} (hst : Loaded scenario step w.lane st)
    (hcamera : hasCamera scenario step w.lane = true) (r : PriorityResult)
    (hw : w ∈ (replayPriority (generateScenarioTraffic scenario step).1
      (generateScenarioTraffic scenario step).2).scores) :
    s.calculateGreenTime w r = greenFor s st.pceScore st.totalQueueTimeSec := by
  -- up to its rank, the score is the one of the lane's load
  obtain ⟨w₀, hw₀, rank, rfl⟩ := mem_assignRanks hw
  obtain ⟨lane, -, rfl⟩ := List.mem_map.mp ((sortByScore_perm _).mem_iff.mp hw₀)
  have hfresh := List.contains_iff_mem.mpr (mem_fresh_iff.mpr hcamera)
  have hlane : (replayScore (generateScenarioTraffic scenario step).1
      (generateScenarioTraffic scenario step).2 lane).lane = lane := replayScore_lane _ _ lane
  dsimp only at hst hfresh
  rw [hlane] at hst hfresh
  have hscore : replayScore (generateScenarioTraffic scenario step).1
      (generateScenarioTraffic scenario step).2 lane
      = { lane := lane
          score :=
            if st.hasPriorityVehicle then 1000
            else st.pceScore * (45 / 100) + st.totalQueueTimeSec / 10 * (35 / 100)
              + st.stoppedCount * (20 / 100)
          rank := 1
          breakdown :=
            { pce := st.pceScore, queue := st.totalQueueTimeSec, congestion := st.stoppedCount
              rawPce := st.pceScore, rawQueueSec := st.totalQueueTimeSec } } := by
    unfold replayScore
    rw [hst.stats, hfresh]
  rw [hscore]
  unfold SignalScheduler.calculateGreenTime
  dsimp only
  rcases hst.worth with ⟨hpce, hqueue, hstopped⟩ | ⟨hpce, hqueue, hstopped, hcalm⟩
  · have hpos : 0 < if st.hasPriorityVehicle = true then (1000 : Rat)
        else st.pceScore * (45 / 100) + st.totalQueueTimeSec / 10 * (35 / 100)
          + st.stoppedCount * (20 / 100) := by
      have hstopped' : (0 : Rat) ≤ st.stoppedCount := by exact_mod_cast hstopped
      split_ifs <;> positivity
    unfold greenFor
    rw [if_neg (not_le.mpr hpos), max_eq_right hpce.le, max_eq_right hqueue,
      if_pos (Or.inl hpce), if_neg fun h => absurd h.1 (not_le.mpr hpce)]
    rfl
  · rw [hcalm, hpce, hqueue, hstopped, greenFor_zero]
    simp

/-! ## The run -/

/-- What the record of a step shows, in a lab with the bounds of `s`. -/
structure RecordOf (s : SignalScheduler) (step : Nat) (lane : LaneName) (r : ReplayStepRecord) :
    Prop where
  stepIndex : r.stepIndex = step
  served : r.activeGreenLane = lane
  reason : r.reason = .normal
  yellow : r.yellowDurationSec = s.yellowSec
  /-- The green is the one that the load of the record's lane earns. -/
  green : ∃ pce queueSec, r.lanePce.lookup lane = some pce
    ∧ r.laneQueues.lookup lane = some queueSec ∧ r.greenDurationSec = greenFor s pce queueSec

/-- The time from a record to the next one: green, yellow and two seconds of all-red. -/
def phaseSec (r : ReplayStepRecord) : Rat := r.greenDurationSec + r.yellowDurationSec + 2

/-- The result after a step that gave `r`. -/
def recorded (scenario : String) (result : ReplayRunResult) (r : ReplayStepRecord) :
    ReplayRunResult :=
  { result with
    steps := result.steps ++ [r]
    greenAllocationsByLane := Function.update result.greenAllocationsByLane r.activeGreenLane
      (result.greenAllocationsByLane r.activeGreenLane + 1)
    emergencyPreemptions := result.emergencyPreemptions
      + if sendsAmbulance scenario r.stepIndex then 1 else 0
    disconnectedDropouts := result.disconnectedDropouts
      + if losesEast scenario r.stepIndex then 1 else 0 }

theorem nextServed_hasCamera (scenario : String) (step : Nat) (cursor : Fin 4) :
    hasCamera scenario step (nextServed scenario step cursor) = true := by
  unfold hasCamera nextServed
  by_cases hsends : sendsAmbulance scenario step
  · simp [hsends]
  · by_cases hlost : losesEast scenario step
    · rw [if_neg hsends]
      simp only [hlost, decide_true, Bool.true_and, true_and]
      revert cursor
      decide
    · simp [hlost]

/-- **No step reaches the fallback**, and each serves the lane at its cursor. -/
theorem replayStep_eq (scenario : String) (s : ReplayState) (step : Nat) :
    ∃ r, RecordOf s.scheduler step (nextServed scenario step s.scheduler.nextCycleIndex) r
      ∧ r.timestamp = s.simTime
      ∧ replayStep scenario s step = .ok
        { scheduler :=
            s.scheduler.advanceAfter (nextServed scenario step s.scheduler.nextCycleIndex)
          simTime := s.simTime + phaseSec r
          result := recorded scenario s.result r } := by
  set lane := nextServed scenario step s.scheduler.nextCycleIndex with hlane
  -- the lane that is served is the next one, and the turn goes on behind it
  obtain ⟨hselected, hmoved⟩ := selectEligible_replay s.scheduler scenario step
  rw [← hlane] at hselected hmoved
  obtain ⟨r, hr, hwinner⟩ := Option.bind_eq_some_iff.mp hselected
  obtain ⟨w, hw, hrw⟩ := selectEligible_some hr
  have hwlane : w.lane = lane := by
    rw [hrw] at hwinner
    exact Option.some.inj hwinner
  obtain ⟨hscore, -, st, hst, -⟩ := mem_demandOf hw
  obtain ⟨st', hloaded⟩ := exists_loaded scenario step w.lane
  obtain rfl : st = st' := Option.some.inj (hst.symm.trans hloaded.stats)
  have hcamera : hasCamera scenario step w.lane = true := by
    rw [hwlane]
    exact nextServed_hasCamera scenario step _
  set decision := (s.scheduler.advanceAfter lane).buildDecision w
    ((s.scheduler.advanceAfter lane).calculateGreenTime w r) r (step + 1) 0 with hdecision
  -- the step is one decision, and its end
  have hstep : replayStep scenario s step
      = .ok (s.finish scenario step (s.scheduler.advanceAfter lane) decision) := by
    have heligible : s.scheduler.selectEligible
        (replayPriority (generateScenarioTraffic scenario step).1
          (generateScenarioTraffic scenario step).2)
        (generateScenarioTraffic scenario step).1 (generateScenarioTraffic scenario step).2
        = (some r, s.scheduler.advanceAfter lane) := Prod.ext hr hmoved
    have hhighest : r.highestPriority = some w := by rw [hrw]
    unfold replayStep
    dsimp only
    rw [heligible]
    dsimp only [Option.bind_some]
    rw [hhighest]
    rfl
  have hgreenLane : decision.greenLane = lane := hwlane
  -- an ambulance is the only vehicle with priority
  have hpreempts : ((statsOf (generateScenarioTraffic scenario step).1 lane).any
      (·.hasPriorityVehicle)) = decide (sendsAmbulance scenario step) := by
    rw [← hwlane, hst, Bool.eq_iff_iff, decide_eq_true_iff]
    refine ⟨fun h => (hloaded.priority.mp h).1, fun h => hloaded.priority.mpr ⟨h, ?_⟩⟩
    rw [hwlane, hlane]
    exact if_pos h
  have hdropouts : 4 - (generateScenarioTraffic scenario step).2.length
      = if losesEast scenario step then 1 else 0 := by
    rw [generateScenarioTraffic_fresh]
    split_ifs <;> rfl
  refine ⟨replayRecord scenario step s.simTime decision, ⟨rfl, hgreenLane, rfl, rfl, ?_⟩, rfl, ?_⟩
  · -- what the record takes from the statistics is that of the served lane
    have hlookup : ∀ f : LaneStatistics → Rat,
        ((generateScenarioTraffic scenario step).1.map fun item => (item.1, f item.2)).lookup lane
          = some (f st) := by
      intro f
      have hmap :=
        lookup_mapValues (generateScenarioTraffic scenario step).1 (fun _ st => f st) lane
      rw [← hwlane] at hmap ⊢
      exact hmap.trans (congrArg (Option.map f) hst)
    exact ⟨_, _, hlookup _, hlookup _, calculateGreenTime_replay hloaded hcamera r hscore⟩
  · rw [hstep]
    unfold ReplayState.finish recorded phaseSec
    dsimp only
    rw [hgreenLane, hpreempts, hdropouts]
    simp [replayRecord, hgreenLane, add_assoc]

/-- The time at which the record at place `i` starts. -/
def replayTime (steps : List ReplayStepRecord) (i : Nat) : Rat :=
  1000 + ((steps.take i).map phaseSec).sum

/-- The state of a run of `scenario` after `n` steps, in a lab with the bounds of `lab`. -/
structure Replayed (lab : TrafficReplayLab) (scenario : String) (n : Nat) (s : ReplayState) :
    Prop where
  scheduler : s.scheduler = { lab.scheduler with nextCycleIndex := replayCursor scenario n }
  steps : s.result.steps.length = n
  records : ∀ i r, s.result.steps[i]? = some r →
    RecordOf lab.scheduler i (replayLane scenario i) r ∧ r.timestamp = replayTime s.result.steps i
  clock : s.simTime = replayTime s.result.steps n
  allocations : ∀ lane, s.result.greenAllocationsByLane lane
    = s.result.steps.countP (·.activeGreenLane = lane)
  preemptions : s.result.emergencyPreemptions
    = if scenario = TrafficScenario.emergencyPreemption.value then n - 2 else 0
  dropouts : s.result.disconnectedDropouts
    = if scenario = TrafficScenario.cameraDisconnect.value then n - 4 else 0

theorem replayTime_append {steps : List ReplayStepRecord} {i : Nat} (h : i ≤ steps.length)
    (r : ReplayStepRecord) : replayTime (steps ++ [r]) i = replayTime steps i := by
  unfold replayTime
  rw [List.take_append_of_le_length h]

/-- A counter that counts the steps from `k` on, if at all. -/
theorem count_from {p : Prop} [Decidable p] (k n : Nat) [Decidable (p ∧ k ≤ n)] :
    ((if p then n - k else 0) + if p ∧ k ≤ n then 1 else 0) = if p then n + 1 - k else 0 := by
  by_cases hp : p
  · by_cases hk : k ≤ n
    · rw [if_pos hp, if_pos ⟨hp, hk⟩, if_pos hp]
      omega
    · rw [if_pos hp, if_neg fun h => hk h.2, if_pos hp]
      omega
  · rw [if_neg hp, if_neg fun h => hp h.1, if_neg hp]

theorem replayed_start (lab : TrafficReplayLab) (scenario : String) (totalSteps : Int) :
    Replayed lab scenario 0 (lab.start scenario totalSteps) where
  scheduler := rfl
  steps := rfl
  records i r h := by cases h
  clock := by simp [start, replayTime]
  allocations lane := rfl
  preemptions := by simp [start]
  dropouts := by simp [start]

/-- **One step of a run.** -/
theorem replayed_step {lab : TrafficReplayLab} {scenario : String} {n : Nat} {s : ReplayState}
    (h : Replayed lab scenario n s) :
    ∃ s', replayStep scenario s n = .ok s' ∧ s'.result.totalSteps = s.result.totalSteps
      ∧ s'.result.scenarioName = s.result.scenarioName ∧ Replayed lab scenario (n + 1) s' := by
  obtain ⟨r, hrecord, htime, hstep⟩ := replayStep_eq scenario s n
  have hserved : nextServed scenario n s.scheduler.nextCycleIndex = replayLane scenario n := by
    rw [h.scheduler]
    exact nextServed_replayCursor scenario n
  rw [hserved] at hrecord hstep
  have hrecord' : RecordOf lab.scheduler n (replayLane scenario n) r := by
    rw [h.scheduler] at hrecord
    exact ⟨hrecord.stepIndex, hrecord.served, hrecord.reason, hrecord.yellow, hrecord.green⟩
  refine ⟨_, hstep, rfl, rfl, ?_, ?_, fun i r' hr' => ?_, ?_, fun lane => ?_, ?_, ?_⟩
  · rw [h.scheduler]
    rfl
  · show (s.result.steps ++ [r]).length = n + 1
    rw [List.length_append, h.steps, List.length_singleton]
  · -- an earlier record, or the new one
    have hplace : (s.result.steps ++ [r])[i]? = some r' := hr'
    have hlen := (List.getElem?_eq_some_iff.mp hplace).1
    rw [List.length_append, List.length_singleton] at hlen
    show RecordOf _ _ _ r' ∧ r'.timestamp = replayTime (s.result.steps ++ [r]) i
    rw [replayTime_append (by omega)]
    by_cases hlast : i = n
    · subst hlast
      rw [← h.steps, List.getElem?_concat_length] at hplace
      obtain rfl := Option.some.inj hplace
      exact ⟨hrecord', htime.trans h.clock⟩
    · have hlt : i < s.result.steps.length := by have := h.steps; omega
      rw [List.getElem?_append_left hlt] at hplace
      exact h.records i r' hplace
  · show s.simTime + phaseSec r = replayTime (s.result.steps ++ [r]) (n + 1)
    rw [h.clock]
    unfold replayTime
    rw [List.take_of_length_le h.steps.le, List.take_of_length_le (by simp [h.steps]),
      List.map_append, List.sum_append]
    simp [add_assoc]
  · show Function.update s.result.greenAllocationsByLane r.activeGreenLane
        (s.result.greenAllocationsByLane r.activeGreenLane + 1) lane
      = (s.result.steps ++ [r]).countP (·.activeGreenLane = lane)
    rw [List.countP_append, List.countP_singleton, ← h.allocations lane]
    by_cases hlane : r.activeGreenLane = lane
    · subst hlane
      simp
    · rw [Function.update_of_ne (Ne.symm hlane)]
      simp [hlane]
  · show s.result.emergencyPreemptions + (if sendsAmbulance scenario r.stepIndex then 1 else 0) = _
    rw [h.preemptions, hrecord.stepIndex]
    exact count_from 2 n
  · show s.result.disconnectedDropouts + (if losesEast scenario r.stepIndex then 1 else 0) = _
    rw [h.dropouts, hrecord.stepIndex]
    exact count_from 4 n

theorem replayed_run (lab : TrafficReplayLab) (scenario : String) (totalSteps : Int) (n : Nat) :
    ∃ s, (List.range n).foldlM (replayStep scenario) (lab.start scenario totalSteps) = .ok s
      ∧ s.result.totalSteps = totalSteps ∧ s.result.scenarioName = scenario
      ∧ Replayed lab scenario n s := by
  induction n with
  | zero => exact ⟨_, rfl, rfl, rfl, replayed_start lab scenario totalSteps⟩
  | succ n ih =>
      obtain ⟨s, hrun, htotal, hname, hs⟩ := ih
      obtain ⟨s', hstep, htotal', hname', hs'⟩ := replayed_step hs
      refine ⟨s', ?_, htotal'.trans htotal, hname'.trans hname, hs'⟩
      rw [List.range_succ, List.foldlM_append, hrun]
      simp [hstep, bind, Except.bind, pure, Except.pure]

/-- A run of the lab, as its result and the lab it leaves. -/
theorem runScenario_eq (lab : TrafficReplayLab) (scenario : String) (totalSteps : Int) :
    ∃ s, lab.runScenario scenario totalSteps = .ok (s.result, { scheduler := s.scheduler })
      ∧ s.result.totalSteps = totalSteps ∧ s.result.scenarioName = scenario
      ∧ Replayed lab scenario totalSteps.toNat s := by
  obtain ⟨s, hrun, htotal, hname, hs⟩ := replayed_run lab scenario totalSteps totalSteps.toNat
  refine ⟨s, ?_, htotal, hname, hs⟩
  unfold runScenario
  rw [hrun]
  rfl

/--
**The turns of a replay.** Every run of every scenario returns, with one record for each step.
A step serves the next approach of the cycle, without the east once its camera is lost, and
the south from the moment the ambulance waits there. The totals count the records.
-/
theorem runScenario_turns (lab : TrafficReplayLab) (scenario : String) (totalSteps : Int) :
    ∃ result lab', lab.runScenario scenario totalSteps = .ok (result, lab')
      ∧ result.steps.length = totalSteps.toNat
      ∧ (∀ i r, result.steps[i]? = some r → r.stepIndex = i
        ∧ r.activeGreenLane = replayLane scenario i ∧ r.reason = .normal)
      ∧ (∀ lane, result.greenAllocationsByLane lane
        = result.steps.countP (·.activeGreenLane = lane))
      ∧ result.emergencyPreemptions
        = (if scenario = TrafficScenario.emergencyPreemption.value then totalSteps.toNat - 2
          else 0)
      ∧ result.disconnectedDropouts
        = if scenario = TrafficScenario.cameraDisconnect.value then totalSteps.toNat - 4
          else 0 := by
  obtain ⟨s, hrun, -, -, hs⟩ := runScenario_eq lab scenario totalSteps
  refine ⟨s.result, _, hrun, hs.steps, fun i r hr => ?_, hs.allocations, hs.preemptions,
    hs.dropouts⟩
  obtain ⟨hrecord, -⟩ := hs.records i r hr
  exact ⟨hrecord.stepIndex, hrecord.served, hrecord.reason⟩

example : (List.range 7).map (replayLane TrafficScenario.cameraDisconnect.value)
    = [.north, .east, .south, .west, .north, .south, .west] := by decide

/--
**The clock of a replay.** Each record starts when the phase before it has ended, its green is
within the bounds of the lab, and an approach with the heavier load never gets the shorter
green, whichever steps of the run are compared.
-/
theorem runScenario_timing (lab : TrafficReplayLab) (scenario : String) (totalSteps : Int) :
    ∃ result lab', lab.runScenario scenario totalSteps = .ok (result, lab')
      ∧ (∀ i r, result.steps[i]? = some r → r.timestamp = replayTime result.steps i
        ∧ lab.scheduler.minGreenSec ≤ r.greenDurationSec
        ∧ r.greenDurationSec ≤ max lab.scheduler.minGreenSec lab.scheduler.maxGreenSec)
      ∧ ∀ r ∈ result.steps, ∀ r' ∈ result.steps, ∀ pce queueSec pce' queueSec',
        r.lanePce.lookup r.activeGreenLane = some pce →
        r.laneQueues.lookup r.activeGreenLane = some queueSec →
        r'.lanePce.lookup r'.activeGreenLane = some pce' →
        r'.laneQueues.lookup r'.activeGreenLane = some queueSec' →
        pce ≤ pce' → queueSec ≤ queueSec' → r.greenDurationSec ≤ r'.greenDurationSec := by
  obtain ⟨s, hrun, -, -, hs⟩ := runScenario_eq lab scenario totalSteps
  have hgreen : ∀ r ∈ s.result.steps, ∃ pce queueSec,
      r.lanePce.lookup r.activeGreenLane = some pce
        ∧ r.laneQueues.lookup r.activeGreenLane = some queueSec
        ∧ r.greenDurationSec = greenFor lab.scheduler pce queueSec := by
    intro r hr
    obtain ⟨i, hi⟩ := List.getElem?_of_mem hr
    have hrecord := (hs.records i r hi).1
    rw [hrecord.served]
    exact hrecord.green
  refine ⟨s.result, _, hrun, fun i r hr => ?_, ?_⟩
  · obtain ⟨pce, queueSec, -, -, heq⟩ := hgreen r (List.mem_of_getElem? hr)
    refine ⟨(hs.records i r hr).2, ?_, ?_⟩
    · rw [heq]
      exact (greenFor_within lab.scheduler pce queueSec).1
    · rw [heq]
      exact (greenFor_within lab.scheduler pce queueSec).2
  · intro r hr r' hr' pce queueSec pce' queueSec' hp hq hp' hq' hpce hqueue
    obtain ⟨_, _, hp₁, hq₁, heq⟩ := hgreen r hr
    obtain ⟨_, _, hp₂, hq₂, heq'⟩ := hgreen r' hr'
    rw [hp] at hp₁
    rw [hq] at hq₁
    rw [hp'] at hp₂
    rw [hq'] at hq₂
    obtain rfl := Option.some.inj hp₁
    obtain rfl := Option.some.inj hq₁
    obtain rfl := Option.some.inj hp₂
    obtain rfl := Option.some.inj hq₂
    rw [heq, heq']
    exact greenFor_mono lab.scheduler hpce hqueue

/-! ## One run after another -/

/-- The lab after some runs. -/
def labAfter (lab : TrafficReplayLab) (runs : List (String × Int)) : TrafficReplayLab :=
  runs.foldl (fun lab run => ((lab.runScenario run.1 run.2).toOption.map Prod.snd).getD lab) lab

theorem labAfter_bounds (lab : TrafficReplayLab) (runs : List (String × Int)) :
    ∃ i, (labAfter lab runs).scheduler = { lab.scheduler with nextCycleIndex := i } := by
  induction runs generalizing lab with
  | nil => exact ⟨_, rfl⟩
  | cons run runs ih =>
      obtain ⟨s, hrun, -, -, hs⟩ := runScenario_eq lab run.1 run.2
      have hafter : labAfter lab (run :: runs) = labAfter { scheduler := s.scheduler } runs := by
        unfold labAfter
        rw [List.foldl_cons, hrun]
        rfl
      obtain ⟨i, hi⟩ := ih { scheduler := s.scheduler }
      refine ⟨i, ?_⟩
      rw [hafter, hi]
      dsimp only
      rw [hs.scheduler]

/-- **A replay can be repeated**: its result does not depend on the runs before it. -/
theorem runScenario_reproducible (lab : TrafficReplayLab) (runs : List (String × Int))
    (scenario : String) (totalSteps : Int) :
    ((labAfter lab runs).runScenario scenario totalSteps).map Prod.fst
      = (lab.runScenario scenario totalSteps).map Prod.fst := by
  obtain ⟨i, hi⟩ := labAfter_bounds lab runs
  have hstart : (labAfter lab runs).start scenario totalSteps = lab.start scenario totalSteps := by
    unfold start
    rw [hi]
  unfold runScenario
  rw [hstart]

end SmartTraffic.Proof
