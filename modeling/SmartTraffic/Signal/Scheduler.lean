import SmartTraffic.Signal.Priority
import SmartTraffic.Lib.Rotation

/-!
# The signal scheduler

`SignalScheduler`: the clockwise turn (`select_eligible`, `_advance_after`) and
the green time of the chosen approach (`schedule`, `_calculate_green_time`).

`select_eligible` is an instance of the rotor with interrupts of
`Lib/Rotation.lean`: a call with an eligible priority vehicle is an interrupt,
any other call serves the first eligible approach from the cursor. The last
section states that refinement; the fairness results rest on it alone.
-/

namespace SmartTraffic

open Lib

/-- `_next_cycle_index` of a new scheduler. -/
def firstCycleIndex : Fin 4 := 0

/-- `SignalScheduler`. The cursor is kept inside the cycle by its type. -/
structure SignalScheduler where
  minGreenSec : Int := Config.minGreenSec
  maxGreenSec : Int := Config.maxGreenSec
  yellowSec : Int := Config.yellowSec
  nextCycleIndex : Fin 4 := firstCycleIndex
  deriving DecidableEq, Repr

def cycleOrder : Fin 4 → LaneName := ![.north, .east, .south, .west]

/-- The index `_advance_after` finds for a lane. -/
def cycleIndex : LaneName → Fin 4
  | .north => 0
  | .east => 1
  | .south => 2
  | .west => 3

def SignalScheduler.advanceAfter (s : SignalScheduler) (lane : LaneName) : SignalScheduler :=
  { s with nextCycleIndex := cycleIndex lane + 1 }

/-- `lane_stats.get(key)`. -/
def statsOf (laneStats : List (LaneName × LaneStatistics)) (lane : LaneName) :
    Option LaneStatistics :=
  laneStats.lookup lane

/-- The filter of `demand`: scored approaches that are fresh and occupied. -/
def isDemand (laneStats : List (LaneName × LaneStatistics)) (fresh : List LaneName)
    (s : PriorityScore) : Bool :=
  fresh.contains s.lane && (statsOf laneStats s.lane).any fun st => 0 < st.rawCount

/-- `demand`. -/
def demandOf (result : PriorityResult) (laneStats : List (LaneName × LaneStatistics))
    (fresh : List LaneName) : List PriorityScore :=
  result.scores.filter (isDemand laneStats fresh)

/-- `max(emergency, key=lambda s: s.score)`: the first of the highest, if there is an emergency. -/
def emergencyWinner (result : PriorityResult) (laneStats : List (LaneName × LaneStatistics))
    (fresh : List LaneName) : Option PriorityScore :=
  ((demandOf result laneStats fresh).filter fun s =>
    (statsOf laneStats s.lane).any (·.hasPriorityVehicle)).argmax (·.score)

/-- `demand_by_lane.get(lane)`: a later score of the same lane replaces an earlier one. -/
def demandByLane (demand : List PriorityScore) (lane : LaneName) : Option PriorityScore :=
  demand.reverse.find? (·.lane = lane)

/-- The clockwise scan of `select_eligible`. -/
def cursorWinner (s : SignalScheduler) (demand : List PriorityScore) : Option PriorityScore :=
  (List.finRange 4).findSome? fun offset =>
    demandByLane demand (cycleOrder (s.nextCycleIndex + offset))

/-- `SignalScheduler.select_eligible`: the result with its new `highest_priority`, or nothing. -/
def SignalScheduler.selectEligible (s : SignalScheduler) (result : PriorityResult)
    (laneStats : List (LaneName × LaneStatistics)) (fresh : List LaneName) :
    Option PriorityResult × SignalScheduler :=
  let demand := demandOf result laneStats fresh
  if demand = [] then (none, s)
  else
    match emergencyWinner result laneStats fresh with
    | some winner =>
        (some { result with highestPriority := some winner }, s.advanceAfter winner.lane)
    | none =>
        match cursorWinner s demand with
        | none => (none, s)
        | some winner =>
            (some { result with highestPriority := some winner }, s.advanceAfter winner.lane)

/-! ## Green time -/

def selectGreenLane (result : PriorityResult) (h : result.scores ≠ []) : PriorityScore :=
  result.highestPriority.getD (result.scores.head h)

def SignalScheduler.calculateGreenTime (s : SignalScheduler) (winner : PriorityScore)
    (result : PriorityResult) : Int :=
  if winner.score ≤ 0 then s.minGreenSec
  else
    let pce := max 0 winner.breakdown.rawPce
    let queueSec := max 0 winner.breakdown.rawQueueSec
    let ratio : Rat :=
      if 0 < pce ∨ 0 < queueSec then
        let loadRatio := min 1 (double (pce / Config.fullGreenPce))
        let queueRatio := min 1 (double (queueSec / Config.fullGreenQueueSec))
        double (double (3 / 4 * loadRatio) + double (1 / 4 * queueRatio))
      else
        let totalScoreSum := floatSum (result.scores.map fun s => max 0 s.score)
        if totalScoreSum ≠ 0 then double (max 0 winner.score / totalScoreSum) else 0
    let span : Rat := double (s.maxGreenSec - s.minGreenSec : Int)
    let rawDuration : Rat := double (double s.minGreenSec + double (ratio * span))
    max s.minGreenSec (min s.maxGreenSec (roundHalfEven rawDuration))

def SignalScheduler.buildDecision (s : SignalScheduler) (winner : PriorityScore)
    (greenDurationSec : Int) (result : PriorityResult) (phaseId : Nat) (now : Rat) :
    SignalDecision LaneName :=
  { phaseId := phaseId
    greenLane := winner.lane
    greenDurationSec := greenDurationSec
    yellowDurationSec := s.yellowSec
    redLanes := (result.scores.filter (·.lane ≠ winner.lane)).map (·.lane)
    priorityScore := winner.score
    reason := .normal
    reasonDetails := "Fair adaptive cycle selected lane '" ++ winner.lane.value
      ++ "' with demand score " ++ fixed2 winner.score ++ "."
    timestamp := if result.timestamp ≠ 0 then result.timestamp else now }

/-- `SignalScheduler.schedule`; `now` is the wall clock it falls back to for the timestamp. -/
def SignalScheduler.schedule (s : SignalScheduler) (result : PriorityResult) (phaseId : Nat)
    (now : Rat) : Except String (SignalDecision LaneName) :=
  if h : result.scores = [] then
    .error "PriorityResult must not be None and must contain at least one score."
  else
    let winner := selectGreenLane result h
    .ok (s.buildDecision winner (s.calculateGreenTime winner result) result phaseId now)

/-! ## What a selection says -/

theorem mem_demandOf {result : PriorityResult} {laneStats : List (LaneName × LaneStatistics)}
    {fresh : List LaneName} {w : PriorityScore} (h : w ∈ demandOf result laneStats fresh) :
    w ∈ result.scores ∧ w.lane ∈ fresh
      ∧ ∃ st, statsOf laneStats w.lane = some st ∧ 0 < st.rawCount := by
  obtain ⟨hmem, hd⟩ := List.mem_filter.mp h
  unfold isDemand at hd
  obtain ⟨hfresh, hraw⟩ := Bool.and_eq_true_iff.mp hd
  refine ⟨hmem, List.contains_iff_mem.mp hfresh, ?_⟩
  cases hst : statsOf laneStats w.lane with
  | none => rw [hst] at hraw; exact absurd hraw Bool.false_ne_true
  | some st => rw [hst] at hraw; exact ⟨st, rfl, of_decide_eq_true hraw⟩

theorem emergencyWinner_mem {result : PriorityResult}
    {laneStats : List (LaneName × LaneStatistics)} {fresh : List LaneName} {w : PriorityScore}
    (h : emergencyWinner result laneStats fresh = some w) :
    w ∈ demandOf result laneStats fresh
      ∧ (statsOf laneStats w.lane).any (·.hasPriorityVehicle) = true := by
  unfold emergencyWinner at h
  exact List.mem_filter.mp (List.argmax_mem h)

theorem demandByLane_lane {demand : List PriorityScore} {lane : LaneName} {s : PriorityScore}
    (h : demandByLane demand lane = some s) : s ∈ demand ∧ s.lane = lane := by
  unfold demandByLane at h
  exact ⟨List.mem_reverse.mp (List.mem_of_find?_eq_some h), by simpa using List.find?_some h⟩

theorem cursorWinner_mem {s : SignalScheduler} {demand : List PriorityScore} {w : PriorityScore}
    (h : cursorWinner s demand = some w) : w ∈ demand := by
  obtain ⟨offset, -, hoff⟩ := List.exists_of_findSome?_eq_some h
  exact (demandByLane_lane hoff).1

/-- **A selection is one of the scored approaches, fresh and occupied.** -/
theorem selectEligible_some {s : SignalScheduler} {result r : PriorityResult}
    {laneStats : List (LaneName × LaneStatistics)} {fresh : List LaneName}
    (h : (s.selectEligible result laneStats fresh).1 = some r) :
    ∃ w ∈ demandOf result laneStats fresh, r = { result with highestPriority := some w } := by
  unfold SignalScheduler.selectEligible at h
  dsimp only at h
  by_cases hd : demandOf result laneStats fresh = []
  · rw [if_pos hd] at h; exact absurd h (by simp)
  · rw [if_neg hd] at h
    cases hem : emergencyWinner result laneStats fresh with
    | some w =>
        rw [hem] at h
        exact ⟨w, (emergencyWinner_mem hem).1, (Option.some.inj h).symm⟩
    | none =>
        rw [hem] at h
        cases hc : cursorWinner s (demandOf result laneStats fresh) with
        | none => rw [hc] at h; exact absurd h (by simp)
        | some w =>
            rw [hc] at h
            exact ⟨w, cursorWinner_mem hc, (Option.some.inj h).symm⟩

/-- A selection only moves the cursor. -/
theorem selectEligible_snd (s : SignalScheduler) (result : PriorityResult)
    (laneStats : List (LaneName × LaneStatistics)) (fresh : List LaneName) :
    ∃ i, (s.selectEligible result laneStats fresh).2 = { s with nextCycleIndex := i } := by
  unfold SignalScheduler.selectEligible
  dsimp only
  split_ifs
  · exact ⟨s.nextCycleIndex, rfl⟩
  · split
    · exact ⟨_, rfl⟩
    · split
      · exact ⟨s.nextCycleIndex, rfl⟩
      · exact ⟨_, rfl⟩

/-- **After a selection, `schedule` grants its lane.** -/
theorem schedule_selected (s : SignalScheduler) {result : PriorityResult} {w : PriorityScore}
    (hw : w ∈ result.scores) (phaseId : Nat) (now : Rat) :
    s.schedule { result with highestPriority := some w } phaseId now
      = .ok (s.buildDecision w (s.calculateGreenTime w { result with highestPriority := some w })
          { result with highestPriority := some w } phaseId now) := by
  unfold SignalScheduler.schedule
  rw [dif_neg (List.ne_nil_of_mem hw)]
  rfl

/-! ## Bounds on the green -/

theorem minGreenSec_le_calculateGreenTime (s : SignalScheduler) (w : PriorityScore)
    (r : PriorityResult) : s.minGreenSec ≤ s.calculateGreenTime w r := by
  unfold SignalScheduler.calculateGreenTime
  by_cases h : w.score ≤ 0
  · rw [if_pos h]
  · rw [if_neg h]; exact le_max_left _ _

theorem calculateGreenTime_le_max (s : SignalScheduler) (w : PriorityScore) (r : PriorityResult) :
    s.calculateGreenTime w r ≤ max s.minGreenSec s.maxGreenSec := by
  unfold SignalScheduler.calculateGreenTime
  by_cases h : w.score ≤ 0
  · rw [if_pos h]; exact le_max_left _ _
  · rw [if_neg h]; exact max_le_max (le_refl _) (min_le_left _ _)

/-- More than what the roundings of a raw duration can add up to. -/
def SignalScheduler.slack (s : SignalScheduler) : Rat :=
  (|(s.minGreenSec : Rat)| + (s.maxGreenSec - s.minGreenSec) + 1) / 2 ^ 40

/-- What the load of at most `b` may make of its ratio. -/
theorem loadRatio_le {pce b : Rat} (hpce : 0 ≤ pce)
    (hle : 20 ≤ b ∨ pce ≤ b + 1 / 2 ^ 40) :
    min 1 (double (pce / Config.fullGreenPce)) ≤ min 1 (b / 20) + 1 / 2 ^ 43 := by
  unfold Config.fullGreenPce
  rcases le_or_gt 20 b with hfull | hpart
  · rw [min_eq_left ((one_le_div (by norm_num : (0 : Rat) < 20)).mpr hfull)]
    exact (min_le_left _ _).trans (by norm_num)
  · have hpb : pce ≤ b + 1 / 2 ^ 40 := hle.resolve_left (not_le.mpr hpart)
    rw [min_eq_right ((div_le_one (by norm_num : (0 : Rat) < 20)).mpr hpart.le)]
    refine (min_le_right _ _).trans ?_
    have hsize : |pce / 20| < 2 ^ 1 := by
      rw [abs_of_nonneg (by positivity), div_lt_iff₀ (by norm_num)]
      linarith
    have herror := (abs_le.mp (abs_double_sub_le_of_lt hsize)).2
    linarith

/-- What a share of the span may become on its way to a duration. -/
theorem rawDuration_le (minGreen : Rat) {span ratio share : Rat} (hspan : 0 ≤ span)
    (hratio : 0 ≤ ratio) (hle : ratio ≤ share + 1 / 2 ^ 42) (hshare : 0 ≤ share)
    (hone : share ≤ 1) :
    double (double minGreen + double (ratio * double span))
      ≤ minGreen + share * span + (|minGreen| + span + 1) / 2 ^ 40 := by
  have hspan' : double span ≤ span + span / 2 ^ 53 + 1 / 2 ^ 54 := by
    have herror := (abs_le.mp (abs_double_sub_le_add span)).2
    rw [abs_of_nonneg hspan] at herror
    linarith
  have hproduct : ratio * double span ≤ share * span + span / 2 ^ 41 + 1 / 2 ^ 53 := by
    calc ratio * double span ≤ (share + 1 / 2 ^ 42) * (span + span / 2 ^ 53 + 1 / 2 ^ 54) :=
          mul_le_mul hle hspan' (double_nonneg hspan) (by positivity)
      _ = share * span + span / 2 ^ 42 + span / 2 ^ 95 + 1 / 2 ^ 96
          + share * (span / 2 ^ 53 + 1 / 2 ^ 54) := by ring
      _ ≤ share * span + span / 2 ^ 42 + span / 2 ^ 95 + 1 / 2 ^ 96
          + 1 * (span / 2 ^ 53 + 1 / 2 ^ 54) := by gcongr
      _ ≤ share * span + span / 2 ^ 41 + 1 / 2 ^ 53 := by linarith
  have hshare_le : share * span ≤ span := mul_le_of_le_one_left hspan hone
  have hproduct0 : 0 ≤ ratio * double span := mul_nonneg hratio (double_nonneg hspan)
  have hgain : double (ratio * double span) ≤ share * span + span / 2 ^ 41 + span / 2 ^ 51
      + 1 / 2 ^ 51 := by
    have herror := (abs_le.mp (abs_double_sub_le_add (ratio * double span))).2
    rw [abs_of_nonneg hproduct0] at herror
    linarith
  have hgain0 := double_nonneg hproduct0
  have hmin := abs_le.mp (abs_double_sub_le_add minGreen)
  obtain ⟨habs, habs'⟩ := abs_le.mp (le_refl |minGreen|)
  have hsize : |double minGreen + double (ratio * double span)| ≤ 2 * (|minGreen| + span + 1) := by
    rw [abs_le]
    constructor <;> linarith [hmin.1, hmin.2]
  have herror := (abs_le.mp (abs_double_sub_le_add
    (double minGreen + double (ratio * double span)))).2
  linarith [hmin.2]

/--
**A light load gives a short green.** With some load, no queue, and a PCE score that
passes `b` by next to nothing, the green exceeds the minimum by no more than any
integer `m` to whose upper middle the share of `b` keeps the slack.
-/
theorem calculateGreenTime_le {s : SignalScheduler} (hmm : s.minGreenSec ≤ s.maxGreenSec)
    {w : PriorityScore} (r : PriorityResult) {b : Rat} (hb : 0 ≤ b)
    (hpos : 0 < w.breakdown.rawPce) (hle : 20 ≤ b ∨ w.breakdown.rawPce ≤ b + 1 / 2 ^ 40)
    (hqueue : w.breakdown.rawQueueSec = 0) {m : Int} (hm : 0 ≤ m)
    (hclear : 3 / 4 * min 1 (b / 20) * (s.maxGreenSec - s.minGreenSec) + s.slack < m + 1 / 2) :
    s.calculateGreenTime w r ≤ s.minGreenSec + m := by
  unfold SignalScheduler.calculateGreenTime
  by_cases hscore : w.score ≤ 0
  · rw [if_pos hscore]; omega
  · rw [if_neg hscore]
    dsimp only
    rw [hqueue, max_self, max_eq_right hpos.le, if_pos (Or.inl hpos)]
    refine max_le (by omega) ((min_le_right _ _).trans (roundHalfEven_le_of_lt ?_))
    have hzero : double (1 / 4 * min 1 (double (0 / Config.fullGreenQueueSec))) = 0 := by
      rw [zero_div, double_zero, min_eq_right zero_le_one, mul_zero, double_zero]
    rw [hzero, add_zero, double_double, Int.cast_sub]
    have hspan : (0 : Rat) ≤ s.maxGreenSec - s.minGreenSec := by
      have : (s.minGreenSec : Rat) ≤ s.maxGreenSec := by exact_mod_cast hmm
      linarith
    -- the ratio of the load is the share of `b`, but for its roundings
    have hload := loadRatio_le hpos.le hle
    have hload0 : 0 ≤ min 1 (double (w.breakdown.rawPce / Config.fullGreenPce)) :=
      le_min zero_le_one (double_nonneg (by unfold Config.fullGreenPce; positivity))
    have hload1 : min 1 (double (w.breakdown.rawPce / Config.fullGreenPce)) ≤ 1 := min_le_left _ _
    have hshare0 : 0 ≤ min 1 (b / 20) := le_min zero_le_one (by positivity)
    have hshare1 : min 1 (b / 20) ≤ 1 := min_le_left _ _
    have hratio : double (3 / 4 * min 1 (double (w.breakdown.rawPce / Config.fullGreenPce)))
        ≤ 3 / 4 * min 1 (b / 20) + 1 / 2 ^ 42 := by
      have hsize : |3 / 4 * min 1 (double (w.breakdown.rawPce / Config.fullGreenPce))| < 2 ^ 0 := by
        rw [abs_of_nonneg (by positivity), pow_zero]
        linarith
      have herror := (abs_le.mp (abs_double_sub_le_of_lt hsize)).2
      linarith
    have hraw := rawDuration_le s.minGreenSec hspan
      (double_nonneg (by positivity)) hratio (by positivity) (by linarith)
    unfold SignalScheduler.slack at hclear
    push_cast
    linarith

/-! ## The cycle -/

@[simp] theorem cycleOrder_cycleIndex (lane : LaneName) : cycleOrder (cycleIndex lane) = lane := by
  cases lane <;> rfl

@[simp] theorem cycleIndex_cycleOrder (i : Fin 4) : cycleIndex (cycleOrder i) = i := by
  fin_cases i <;> rfl

theorem cycleIndex_inj {a b : LaneName} (h : cycleIndex a = cycleIndex b) : a = b := by
  rw [← cycleOrder_cycleIndex a, h, cycleOrder_cycleIndex]

/-- A lane is eligible in a call: some score of it passes the `demand` filter. -/
def isEligible (result : PriorityResult) (laneStats : List (LaneName × LaneStatistics))
    (fresh : List LaneName) (lane : LaneName) : Bool :=
  (demandOf result laneStats fresh).any (·.lane = lane)

theorem demandByLane_isSome (demand : List PriorityScore) (lane : LaneName) :
    (demandByLane demand lane).isSome = demand.any (·.lane = lane) := by
  unfold demandByLane
  rw [Bool.eq_iff_iff, List.find?_isSome, List.any_eq_true]
  simp only [List.mem_reverse]

/-- **The scan finds the rotor's next position.** -/
theorem cursorWinner_lane (s : SignalScheduler) (demand : List PriorityScore) :
    (cursorWinner s demand).map (fun w => cycleIndex w.lane)
      = nextFrom s.nextCycleIndex (fun i => demand.any (·.lane = cycleOrder i)) := by
  unfold cursorWinner nextFrom
  dsimp only
  -- over the offsets the scan has not looked at yet
  induction List.finRange 4 with
  | nil => rfl
  | cons off rest ih =>
      rw [List.findSome?_cons, List.findSome?_cons]
      have hsome := demandByLane_isSome demand (cycleOrder (s.nextCycleIndex + off))
      cases hd : demandByLane demand (cycleOrder (s.nextCycleIndex + off)) with
      | none =>
          rw [hd, Option.isSome_none] at hsome
          have hno : ¬(demand.any fun x =>
              decide (x.lane = cycleOrder (s.nextCycleIndex + off))) = true := by
            rw [← hsome]; exact Bool.false_ne_true
          rw [if_neg hno]
          exact ih
      | some w =>
          rw [hd, Option.isSome_some] at hsome
          rw [if_pos hsome.symm]
          simp [(demandByLane_lane hd).2]

/-! ## One call as a turn of the rotor -/

/-- The turn a call of `select_eligible` takes. -/
def turnOf (result : PriorityResult) (laneStats : List (LaneName × LaneStatistics))
    (fresh : List LaneName) : Turn 4 :=
  match emergencyWinner result laneStats fresh with
  | some w => .interrupt (cycleIndex w.lane)
  | none => .serve fun i => isEligible result laneStats fresh (cycleOrder i)

/-- The scheduler after the rotor took `w`. -/
def SignalScheduler.moveCursor (s : SignalScheduler) (w : Option (Fin 4)) : SignalScheduler :=
  { s with nextCycleIndex := advance s.nextCycleIndex w }

/-- The lane a call selects. -/
def SignalScheduler.selectedLane (s : SignalScheduler) (result : PriorityResult)
    (laneStats : List (LaneName × LaneStatistics)) (fresh : List LaneName) : Option LaneName :=
  (s.selectEligible result laneStats fresh).1.bind fun r => r.highestPriority.map (·.lane)

/--
**`select_eligible` refines the rotor.** The lane it selects is the winner of the call's turn, and
its cursor moves as the rotor's does.
-/
theorem selectEligible_turn (s : SignalScheduler) (result : PriorityResult)
    (laneStats : List (LaneName × LaneStatistics)) (fresh : List LaneName) :
    (s.selectedLane result laneStats fresh).map cycleIndex
        = (turnOf result laneStats fresh).winner s.nextCycleIndex
      ∧ (s.selectEligible result laneStats fresh).2
        = s.moveCursor ((turnOf result laneStats fresh).winner s.nextCycleIndex) := by
  unfold SignalScheduler.selectedLane SignalScheduler.selectEligible turnOf
  have hscan := cursorWinner_lane s (demandOf result laneStats fresh)
  by_cases hd : demandOf result laneStats fresh = []
  · -- nobody is eligible: no emergency, and the scan comes back empty
    have hnone : emergencyWinner result laneStats fresh = none := by
      unfold emergencyWinner; rw [hd]; rfl
    have hwin : nextFrom s.nextCycleIndex
        (fun i => isEligible result laneStats fresh (cycleOrder i)) = none := by
      rw [nextFrom_none_iff]; intro i; unfold isEligible; rw [hd]; rfl
    rw [hnone]
    dsimp only [Turn.winner]
    rw [hwin, if_pos hd]
    exact ⟨rfl, rfl⟩
  · dsimp only
    rw [if_neg hd]
    cases hem : emergencyWinner result laneStats fresh with
    | some w => exact ⟨rfl, rfl⟩
    | none =>
        dsimp only [Turn.winner]
        unfold isEligible
        rw [← hscan]
        cases hc : cursorWinner s (demandOf result laneStats fresh) with
        | none => exact ⟨rfl, rfl⟩
        | some w => exact ⟨rfl, rfl⟩

/-- **Nothing is selected exactly when no lane is eligible.** -/
theorem selectedLane_eq_none_iff {s : SignalScheduler} {result : PriorityResult}
    {laneStats : List (LaneName × LaneStatistics)} {fresh : List LaneName} :
    s.selectedLane result laneStats fresh = none
      ↔ ∀ lane, isEligible result laneStats fresh lane = false := by
  rw [← Option.map_eq_none_iff (f := cycleIndex), (selectEligible_turn s result laneStats fresh).1]
  unfold turnOf
  cases hem : emergencyWinner result laneStats fresh with
  | some w =>
      refine iff_of_false (fun h => nomatch h) fun h => ?_
      have hel : isEligible result laneStats fresh w.lane = true :=
        List.any_eq_true.mpr ⟨w, (emergencyWinner_mem hem).1, decide_eq_true rfl⟩
      exact Bool.false_ne_true ((h w.lane).symm.trans hel)
  | none =>
      dsimp only [Turn.winner]
      rw [nextFrom_none_iff]
      constructor
      · intro h lane
        rw [← cycleOrder_cycleIndex lane]
        exact h (cycleIndex lane)
      · exact fun h i => h (cycleOrder i)

/-- A lane is eligible when it is scored, fresh and occupied. -/
theorem isEligible_iff {result : PriorityResult} {laneStats : List (LaneName × LaneStatistics)}
    {fresh : List LaneName} {lane : LaneName} : isEligible result laneStats fresh lane = true
      ↔ lane ∈ result.scores.map (·.lane) ∧ lane ∈ fresh
        ∧ ∃ st, statsOf laneStats lane = some st ∧ 0 < st.rawCount := by
  constructor
  · intro h
    obtain ⟨w, hw, hlane⟩ := List.any_eq_true.mp h
    obtain rfl := of_decide_eq_true hlane
    obtain ⟨hmem, hfresh, hst⟩ := mem_demandOf hw
    exact ⟨List.mem_map_of_mem hmem, hfresh, hst⟩
  · rintro ⟨hmem, hfresh, st, hst, hraw⟩
    obtain ⟨w, hw, rfl⟩ := List.mem_map.mp hmem
    refine List.any_eq_true.mpr ⟨w, List.mem_filter.mpr ⟨hw, ?_⟩, decide_eq_true rfl⟩
    unfold isDemand
    rw [hst, List.contains_iff_mem.mpr hfresh]
    exact decide_eq_true hraw

/-- **An eligible lane with a priority vehicle makes the selection one.** -/
theorem selectedLane_emergency {s : SignalScheduler} {result : PriorityResult}
    {laneStats : List (LaneName × LaneStatistics)} {fresh : List LaneName} {lane : LaneName}
    (hel : isEligible result laneStats fresh lane = true)
    (hpri : (statsOf laneStats lane).any (·.hasPriorityVehicle) = true) :
    ∃ winner, s.selectedLane result laneStats fresh = some winner
      ∧ (statsOf laneStats winner).any (·.hasPriorityVehicle) = true := by
  obtain ⟨score, hscore, hlane⟩ := List.any_eq_true.mp hel
  obtain rfl := of_decide_eq_true hlane
  have hturn := (selectEligible_turn s result laneStats fresh).1
  cases hem : emergencyWinner result laneStats fresh with
  | none =>
      -- the lane's own score is among those the maximum is taken of
      have hnil := List.argmax_eq_none.mp hem
      exact absurd (List.mem_filter.mpr ⟨hscore, hpri⟩) (hnil ▸ List.not_mem_nil)
  | some w =>
      refine ⟨w.lane, ?_, (emergencyWinner_mem hem).2⟩
      unfold turnOf at hturn
      rw [hem] at hturn
      obtain ⟨winner, hwinner, heq⟩ := Option.map_eq_some_iff.mp hturn
      rw [hwinner, cycleIndex_inj heq]

end SmartTraffic
