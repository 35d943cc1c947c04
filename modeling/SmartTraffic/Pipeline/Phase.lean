import SmartTraffic.Pipeline.Step

/-!
# The phase a step runs

What one `process_step` does to the active phase, in the words the run proofs
use. A step idles, holds the phase, lets it lapse, or starts one
(`processStep_outcome`). A started phase belongs to the selected approach, has
the scheduler's yellow time and at least its minimum green
(`startedPhase_cases`). The timing parameters of the scheduler never change.
-/

namespace SmartTraffic

open Lib

namespace TrafficPipeline

/-- The time at which the phase of `d` and its clearance are over. -/
def phaseEnd (p : TrafficPipeline) (d : SignalDecision LaneName) : Rat :=
  p.phaseStartTime + d.greenDurationSec + d.yellowDurationSec + Config.allRedSec

theorem isPhaseExpired_iff {p : TrafficPipeline} {d : SignalDecision LaneName} {now : Rat}
    (hd : p.activeDecision = some d) (hstart : 0 < p.phaseStartTime) :
    p.isPhaseExpired now = true ↔ p.phaseEnd d ≤ now := by
  unfold isPhaseExpired elapsedSec phaseEnd
  rw [hd, if_pos hstart]
  dsimp only
  rw [decide_eq_true_iff]
  push_cast
  constructor
  · intro h; linarith
  · intro h; linarith

end TrafficPipeline

namespace PipelineWorld

/-- The selection replaces a phase that has not expired. -/
def cutsShort (w : PipelineWorld) (i : StepInput) : Bool :=
  !(w.observed i).isPhaseExpired i.currentMonoTime && (w.observed i).preempts (w.hasEmergency i)

/-- The lane `select_eligible` picks in a step that changes phase. -/
def selectedLane (w : PipelineWorld) (i : StepInput) : Option LaneName :=
  (w.selection i).1.bind fun r => r.highestPriority.map (·.lane)

/-- The lane of the active decision. -/
def activeLane (w : PipelineWorld) : Option LaneName := w.pipeline.activeDecision.map (·.greenLane)

/-- The empty-lane rule shortens the active green in this step. -/
def releasesEmpty (w : PipelineWorld) (i : StepInput) : Bool :=
  w.pipeline.releasesEmpty i.frames (w.mergedStats i) i.currentMonoTime

/-- The step finds the green approach empty. -/
def activeIsEmpty (w : PipelineWorld) (i : StepInput) : Bool :=
  w.pipeline.activeIsEmpty i.frames (w.mergedStats i)

theorem changesPhase_cases {w : PipelineWorld} {i : StepInput} (h : w.changesPhase i = true) :
    (w.observed i).isPhaseExpired i.currentMonoTime = true ∨ w.cutsShort i = true := by
  unfold changesPhase at h
  unfold cutsShort
  cases hex : (w.observed i).isPhaseExpired i.currentMonoTime with
  | true => exact Or.inl rfl
  | false => rw [hex] at h; exact Or.inr h

/-! ## Perception and the empty-lane rule -/

/-- Up to the selection a step touches only the decision's green and the empty timer. -/
theorem observed_spec (w : PipelineWorld) (i : StepInput) : ∃ d since,
    w.observed i
      = { w.pipeline.perceive i.frames with activeDecision := d, activeEmptySince := since } :=
  emptyRule_spec _ _ _ _

theorem observed_phaseStartTime (w : PipelineWorld) (i : StepInput) :
    (w.observed i).phaseStartTime = w.pipeline.phaseStartTime := by
  obtain ⟨d, since, h⟩ := w.observed_spec i
  rw [h]; rfl

theorem observed_signalScheduler (w : PipelineWorld) (i : StepInput) :
    (w.observed i).signalScheduler = w.pipeline.signalScheduler := by
  obtain ⟨d, since, h⟩ := w.observed_spec i
  rw [h]; rfl

theorem observed_activeHardwareCmd (w : PipelineWorld) (i : StepInput) :
    (w.observed i).activeHardwareCmd = w.pipeline.activeHardwareCmd := by
  obtain ⟨d, since, h⟩ := w.observed_spec i
  rw [h]; rfl

theorem observed_phaseCounter (w : PipelineWorld) (i : StepInput) :
    (w.observed i).phaseCounter = w.pipeline.phaseCounter := by
  obtain ⟨d, since, h⟩ := w.observed_spec i
  rw [h]; rfl

theorem observed_activeDecision (w : PipelineWorld) (i : StepInput) :
    (w.observed i).activeDecision
      = if w.releasesEmpty i then
          w.pipeline.activeDecision.map fun d =>
            { d with greenDurationSec := w.pipeline.releasedGreen i.currentMonoTime }
        else w.pipeline.activeDecision := emptyRule_activeDecision _ _ _ _

/-- The rule only releases an approach that is found empty. -/
theorem releasesEmpty_of_not_empty {w : PipelineWorld} {i : StepInput}
    (h : w.activeIsEmpty i = false) : w.releasesEmpty i = false := by
  unfold releasesEmpty TrafficPipeline.releasesEmpty
  unfold activeIsEmpty at h
  rw [h, Bool.false_and, Bool.false_and]

theorem observed_activeDecision_of_not_released {w : PipelineWorld} {i : StepInput}
    (h : w.releasesEmpty i = false) :
    (w.observed i).activeDecision = w.pipeline.activeDecision := by
  rw [observed_activeDecision, h]; rfl

/-- **The empty timer** starts with the first empty observation, and a frame of an occupied green
approach stops it. -/
theorem observed_activeEmptySince (w : PipelineWorld) (i : StepInput) :
    (w.observed i).activeEmptySince
      = if w.activeIsEmpty i then some (w.pipeline.activeEmptySince.getD i.currentMonoTime)
        else if w.activeLane.any i.frames.contains then none else w.pipeline.activeEmptySince := by
  unfold observed TrafficPipeline.emptyRule activeIsEmpty activeLane
  have hd : (w.pipeline.perceive i.frames).activeDecision = w.pipeline.activeDecision := rfl
  have hs : (w.pipeline.perceive i.frames).activeEmptySince = w.pipeline.activeEmptySince := rfl
  have he : (w.pipeline.perceive i.frames).activeIsEmpty i.frames (w.mergedStats i)
    = w.pipeline.activeIsEmpty i.frames (w.mergedStats i) := rfl
  rw [hd, hs, he]
  cases hactive : w.pipeline.activeDecision with
  | none =>
      have hempty : w.pipeline.activeIsEmpty i.frames (w.mergedStats i) = false := by
        unfold TrafficPipeline.activeIsEmpty; rw [hactive]; rfl
      rw [hempty]; rfl
  | some d =>
      dsimp only [Option.map_some, Option.any_some]
      cases hempty : w.pipeline.activeIsEmpty i.frames (w.mergedStats i) with
      | true =>
          rw [if_pos rfl, if_pos rfl]
          cases hsince : w.pipeline.activeEmptySince with
          | none => rw [if_pos rfl]; rfl
          | some since =>
              -- a running timer is left alone, whether the green is shortened or not
              rw [if_neg (Option.some_ne_none since)]
              split_ifs
              · rfl
              · exact hs.trans hsince
      | false =>
          rw [if_neg Bool.false_ne_true, if_neg Bool.false_ne_true]
          split_ifs
          · rfl
          · exact hs

/-- An approach is released when it is found empty, its timer has run long enough and its green
is not over. -/
theorem releasesEmpty_iff {w : PipelineWorld} {i : StepInput} : w.releasesEmpty i = true
    ↔ w.activeIsEmpty i = true
      ∧ (∃ since, w.pipeline.activeEmptySince = some since
        ∧ Config.emptyLaneReleaseSec ≤ i.currentMonoTime - since)
      ∧ ∃ d, w.pipeline.activeDecision = some d
        ∧ w.pipeline.elapsedSec i.currentMonoTime < d.greenDurationSec := by
  unfold releasesEmpty TrafficPipeline.releasesEmpty activeIsEmpty
  rw [Bool.and_eq_true, Bool.and_eq_true, Option.any_eq_true, Option.any_eq_true]
  simp only [decide_eq_true_eq, and_assoc]

/-! ## The selection -/

/-- The selection moves the cursor; the timing stays the scheduler's own. -/
theorem selecting_signalScheduler (w : PipelineWorld) (i : StepInput) :
    ∃ c, (w.selecting i).signalScheduler
      = { w.pipeline.signalScheduler with nextCycleIndex := c } := by
  obtain ⟨c, hc⟩ := selectEligible_snd (w.observed i).signalScheduler (w.priorityResult i)
    (w.statsItems i) (w.freshLanes i)
  refine ⟨c, ?_⟩
  rw [← observed_signalScheduler w i]
  exact hc

/-- **A step that changes phase starts the phase of the selected approach, or none.** -/
theorem startedPhase_cases (w : PipelineWorld) (i : StepInput) :
    (w.selectedLane i = none ∧ w.startedPhase i = none)
      ∨ ∃ win ∈ demandOf (w.priorityResult i) (w.statsItems i) (w.freshLanes i), ∃ r d,
          w.startedPhase i = some (r, d) ∧ w.selectedLane i = some win.lane
            ∧ d.greenLane = win.lane
            ∧ d.yellowDurationSec = w.pipeline.signalScheduler.yellowSec
            ∧ w.pipeline.signalScheduler.minGreenSec ≤ d.greenDurationSec
            ∧ d.phaseId = w.pipeline.phaseCounter + 1
            ∧ d.reason = if (w.mergedStats i win.lane).hasPriorityVehicle then .emergency
                else .normal := by
  unfold startedPhase selectedLane
  cases hsel : (w.selection i).1 with
  | none => exact Or.inl ⟨rfl, rfl⟩
  | some r =>
      obtain ⟨win, hwin, rfl⟩ := selectEligible_some hsel
      have hscored := (mem_demandOf hwin).1
      obtain ⟨c, hsched⟩ := selecting_signalScheduler w i
      refine Or.inr ⟨win, hwin, { w.priorityResult i with highestPriority := some win }, ?_⟩
      have hdec := schedule_selected (w.selecting i).signalScheduler hscored
        (w.selecting i).phaseCounter i.wallTime
      have hmin := minGreenSec_le_calculateGreenTime (w.selecting i).signalScheduler win
        { w.priorityResult i with highestPriority := some win }
      have hcount : (w.selecting i).phaseCounter = w.pipeline.phaseCounter + 1 := by
        rw [← observed_phaseCounter w i]; rfl
      rw [hsched] at hdec hmin
      rw [hcount] at hdec
      rw [Option.bind_some, Option.bind_some]
      unfold TrafficPipeline.decisionFor
      rw [hsched, hcount, hdec]
      obtain ⟨h1, h2, h3, h4, h5⟩ :=
        markEmergency_spec (w.mergedStats i win.lane).hasPriorityVehicle
          ({ w.pipeline.signalScheduler with nextCycleIndex := c }.buildDecision win
            ({ w.pipeline.signalScheduler with nextCycleIndex := c }.calculateGreenTime win
              { w.priorityResult i with highestPriority := some win })
            { w.priorityResult i with highestPriority := some win }
            (w.pipeline.phaseCounter + 1) i.wallTime)
      exact ⟨_, rfl, rfl, h1, h3, hmin.trans_eq h2.symm, h4, h5⟩

theorem statsOf_statsItems {w : PipelineWorld} {i : StepInput} {lane : LaneName}
    {st : LaneStatistics} (h : statsOf (w.statsItems i) lane = some st) :
    st = w.mergedStats i lane := by
  obtain ⟨l, -, heq⟩ := List.mem_map.mp (mem_of_lookup h)
  rw [Prod.mk.injEq] at heq
  rw [← heq.2, heq.1]

theorem mem_laneOrder (i : StepInput) (lane : LaneName) : lane ∈ i.laneOrder := by
  rw [i.laneOrder_perm.mem_iff]
  cases lane <;> decide

/-- Every approach has merged statistics. -/
theorem statsOf_statsItems_self (w : PipelineWorld) (i : StepInput) (lane : LaneName) :
    statsOf (w.statsItems i) lane = some (w.mergedStats i lane) := by
  cases hst : statsOf (w.statsItems i) lane with
  | some st => rw [statsOf_statsItems hst]
  | none =>
      have hmem : (lane, w.mergedStats i lane) ∈ w.statsItems i :=
        List.mem_map_of_mem (mem_laneOrder i lane)
      have hne := List.lookup_eq_none_iff.mp hst _ hmem
      exact absurd hne (by simp)

/-- Every approach is scored. -/
theorem mem_priorityResult_lanes (w : PipelineWorld) (i : StepInput) (lane : LaneName) :
    lane ∈ (w.priorityResult i).scores.map (·.lane) := by
  unfold priorityResult
  rw [mem_checkAndOverride_lanes, mem_calculate_lanes]
  unfold statsItems
  rw [List.map_map]
  exact List.mem_map.mpr ⟨lane, mem_laneOrder i lane, rfl⟩

/-- **A selection comes back empty exactly when no fresh approach is occupied.** -/
theorem selectedLane_eq_none_iff_unoccupied {w : PipelineWorld} {i : StepInput} :
    w.selectedLane i = none ↔ ∀ lane ∈ w.freshLanes i, (w.mergedStats i lane).rawCount ≤ 0 := by
  show (w.observed i).signalScheduler.selectedLane (w.priorityResult i) (w.statsItems i)
    (w.freshLanes i) = none ↔ _
  rw [selectedLane_eq_none_iff]
  constructor
  · intro h lane hfresh
    by_contra hraw
    refine Bool.false_ne_true ((h lane).symm.trans (isEligible_iff.mpr
      ⟨mem_priorityResult_lanes w i lane, hfresh, _, statsOf_statsItems_self w i lane, ?_⟩))
    omega
  · intro h lane
    rw [Bool.eq_false_iff]
    intro hel
    obtain ⟨-, hfresh, st, hst, hraw⟩ := isEligible_iff.mp hel
    rw [statsOf_statsItems hst] at hraw
    have hle := h lane hfresh
    omega

/-! ## The outcome of a step -/

/-- What is known of the phase of `d` that a step starts. -/
structure Started (w : PipelineWorld) (i : StepInput) (d : SignalDecision LaneName) : Prop where
  /-- It belongs to the lane `select_eligible` picks. -/
  selected : w.selectedLane i = some d.greenLane
  /-- The lane is fresh and occupied. -/
  fresh : d.greenLane ∈ w.freshLanes i
  occupied : 0 < (w.mergedStats i d.greenLane).rawCount
  /-- Its timing is the scheduler's. -/
  yellow : d.yellowDurationSec = w.pipeline.signalScheduler.yellowSec
  minGreen : w.pipeline.signalScheduler.minGreenSec ≤ d.greenDurationSec
  /-- It carries the next phase number. -/
  phaseId : d.phaseId = w.pipeline.phaseCounter + 1
  /-- It is an emergency phase exactly when its lane has a priority vehicle. -/
  reason : d.reason =
    if (w.mergedStats i d.greenLane).hasPriorityVehicle then .emergency else .normal

/--
**What a step does.** It idles without frames and without a phase; or it holds
the running phase; or the phase is over and either no lane is eligible, or a new
phase starts.
-/
theorem processStep_outcome (w : PipelineWorld) (i : StepInput) :
    (w.pipeline.activeDecision = none ∧ w.processStep i = (w, { hasFrame := false }))
      ∨ (∃ d, (w.observed i).activeDecision = some d
          ∧ (w.observed i).isPhaseExpired i.currentMonoTime = false ∧ w.cutsShort i = false
          ∧ w.processStep i = (⟨w.observed i, w.mergeContext i⟩, w.report i (w.observed i) false))
      ∨ (w.changesPhase i = true ∧ w.selectedLane i = none
          ∧ w.processStep i = (⟨w.lapsed i, w.mergeContext i⟩, w.lapseResult i))
      ∨ (w.changesPhase i = true ∧ ∃ r d, w.Started i d
          ∧ w.processStep i = (⟨(w.selecting i).startPhase r d i.currentMonoTime, w.mergeContext i⟩,
              w.report i ((w.selecting i).startPhase r d i.currentMonoTime) true)) := by
  by_cases hidle : i.frames.items = [] ∧ w.pipeline.activeDecision = none
  · exact Or.inl ⟨hidle.2, processStep_idle hidle⟩
  · refine Or.inr ?_
    cases hc : w.changesPhase i with
    | false =>
        refine Or.inl ?_
        have hcases := Bool.or_eq_false_iff.mp hc
        have hcut : w.cutsShort i = false := by
          unfold cutsShort; rw [hcases.2, Bool.and_false]
        -- an unexpired phase has a decision
        cases hd : (w.observed i).activeDecision with
        | none =>
            have hexp := hcases.1
            unfold TrafficPipeline.isPhaseExpired at hexp
            rw [hd] at hexp
            exact absurd hexp (by simp)
        | some d => exact ⟨d, rfl, hcases.1, hcut, processStep_hold hidle hc⟩
    | true =>
        refine Or.inr ?_
        -- an expired or pre-empted phase has a successor, or the approaches go all red
        rcases startedPhase_cases w i with
          ⟨hsel, hno⟩ | ⟨win, hwin, r, d, hst, hsel, h1, h2, h3, h4, h5⟩
        · exact Or.inl ⟨rfl, hsel, processStep_lapse hidle hc hno⟩
        · obtain ⟨-, hfresh, st, hstat, hraw⟩ := mem_demandOf hwin
          rw [← h1] at hsel hfresh hstat h5
          rw [statsOf_statsItems hstat] at hraw
          exact Or.inr ⟨rfl, r, d, ⟨hsel, hfresh, hraw, h2, h3, h4, h5⟩,
            processStep_start hidle hc hst⟩

/-! ## Phase starts -/

/-- A granted green is within the scheduler's bounds. -/
theorem startedPhase_green_le {w : PipelineWorld} {i : StepInput} {r : PriorityResult}
    {d : SignalDecision LaneName} (h : w.startedPhase i = some (r, d)) :
    d.greenDurationSec
      ≤ max w.pipeline.signalScheduler.minGreenSec w.pipeline.signalScheduler.maxGreenSec := by
  obtain ⟨c, hsched⟩ := selecting_signalScheduler w i
  unfold startedPhase at h
  obtain ⟨r', -, h⟩ := Option.bind_eq_some_iff.mp h
  obtain ⟨d', hd', hpair⟩ := Option.map_eq_some_iff.mp h
  obtain ⟨rfl, rfl⟩ := Prod.mk.inj hpair
  unfold TrafficPipeline.decisionFor at hd'
  rw [hsched] at hd'
  obtain ⟨d₀, hd₀, rfl⟩ := Option.map_eq_some_iff.mp hd'
  rw [(markEmergency_spec _ d₀).2.1]
  unfold SignalScheduler.schedule at hd₀
  split_ifs at hd₀ with hscores
  · exact absurd hd₀ (by simp [Except.toOption])
  · obtain rfl := Option.some.inj hd₀
    exact calculateGreenTime_le_max _ _ _

/-- **A result that announces a phase change is the one of a started phase.** -/
theorem processStep_of_isPhaseChange {w : PipelineWorld} {i : StepInput}
    (h : (w.processStep i).2.isPhaseChange = true) : ∃ r d, w.startedPhase i = some (r, d)
      ∧ w.processStep i
        = (⟨(w.selecting i).startPhase r d i.currentMonoTime, w.mergeContext i⟩,
          w.report i ((w.selecting i).startPhase r d i.currentMonoTime) true) := by
  by_cases hidle : i.frames.items = [] ∧ w.pipeline.activeDecision = none
  · rw [processStep_idle hidle] at h; exact absurd h Bool.false_ne_true
  · cases hc : w.changesPhase i with
    | false => rw [processStep_hold hidle hc] at h; exact absurd h Bool.false_ne_true
    | true =>
        cases hs : w.startedPhase i with
        | none => rw [processStep_lapse hidle hc hs] at h; exact absurd h Bool.false_ne_true
        | some started =>
            obtain ⟨r, d⟩ := started
            exact ⟨r, d, rfl, processStep_start hidle hc hs⟩

/-- **A step that announces no phase change** keeps the decision as the empty rule left it, or
ends without one. -/
theorem processStep_of_not_isPhaseChange {w : PipelineWorld} {i : StepInput}
    (h : (w.processStep i).2.isPhaseChange = false) :
    ((w.processStep i).1.pipeline.activeDecision = none)
      ∨ ∃ d, (w.observed i).activeDecision = some d
        ∧ w.processStep i =
            (⟨w.observed i, w.mergeContext i⟩, w.report i (w.observed i) false) := by
  rcases processStep_outcome w i with
    ⟨hnone, hw⟩ | ⟨d, hd, -, -, hw⟩ | ⟨-, -, hw⟩ | ⟨-, r, d, -, hw⟩
  · rw [hw]; exact Or.inl hnone
  · exact Or.inr ⟨d, hd, hw⟩
  · rw [hw]; exact Or.inl rfl
  · rw [hw] at h; exact absurd h.symm Bool.false_ne_true

/-- The result shows the phase of `d` after `elapsed` seconds. -/
structure ShowsPhase (out : PipelineResult) (d : SignalDecision LaneName) (elapsed : Rat) :
    Prop where
  decision : out.signalDecision = some d
  state : out.signalState = TrafficPipeline.signalStateAt d elapsed
  remaining : out.remainingGreenSec = max 0 ⌈(d.greenDurationSec : Rat) - elapsed⌉

/-- The result shows no phase. -/
structure ShowsNoPhase (out : PipelineResult) : Prop where
  decision : out.signalDecision = none
  state : out.signalState = .allRed
  remaining : out.remainingGreenSec = 0

theorem showsPhase_report {w : PipelineWorld} {i : StepInput} {p : TrafficPipeline} {b : Bool}
    {d : SignalDecision LaneName} (hd : p.activeDecision = some d) :
    ShowsPhase (w.report i p b) d (i.currentMonoTime - p.phaseStartTime) := by
  refine ⟨hd, ?_, ?_⟩
  · show p.signalState i.currentMonoTime = _
    unfold TrafficPipeline.signalState; rw [hd]
  · show p.remainingGreenSec i.currentMonoTime = _
    unfold TrafficPipeline.remainingGreenSec; rw [hd]

/-- **What a result shows is the phase the pipeline is left with.** -/
theorem processStep_shows (w : PipelineWorld) (i : StepInput) :
    ((w.processStep i).1.pipeline.activeDecision = none ∧ ShowsNoPhase (w.processStep i).2)
      ∨ ∃ d, (w.processStep i).1.pipeline.activeDecision = some d
        ∧ ShowsPhase (w.processStep i).2 d
          (i.currentMonoTime - (w.processStep i).1.pipeline.phaseStartTime) := by
  rcases processStep_outcome w i with
    ⟨hnone, hw⟩ | ⟨d, hd, -, -, hw⟩ | ⟨-, -, hw⟩ | ⟨-, r, d, -, hw⟩
  · rw [hw]; exact Or.inl ⟨hnone, rfl, rfl, rfl⟩
  · rw [hw]; exact Or.inr ⟨d, hd, showsPhase_report hd⟩
  · rw [hw]; exact Or.inl ⟨rfl, rfl, rfl, rfl⟩
  · rw [hw]; exact Or.inr ⟨d, rfl, showsPhase_report rfl⟩

/-- A step moves the cursor of the scheduler and nothing else of it. -/
theorem processStep_signalScheduler (w : PipelineWorld) (i : StepInput) :
    ∃ c, (w.processStep i).1.pipeline.signalScheduler
      = { w.pipeline.signalScheduler with nextCycleIndex := c } := by
  rcases processStep_outcome w i with ⟨-, h⟩ | ⟨d, -, -, -, h⟩ | ⟨-, -, h⟩ | ⟨-, r, d, -, h⟩
  · rw [h]; exact ⟨_, rfl⟩
  · rw [h]; exact ⟨_, observed_signalScheduler w i⟩
  · rw [h]; exact selecting_signalScheduler w i
  · rw [h]; exact selecting_signalScheduler w i

/-- The timing parameters of the scheduler survive every step. -/
theorem processStep_timing (w : PipelineWorld) (i : StepInput) :
    (w.processStep i).1.pipeline.signalScheduler.yellowSec = w.pipeline.signalScheduler.yellowSec
      ∧ (w.processStep i).1.pipeline.signalScheduler.minGreenSec
        = w.pipeline.signalScheduler.minGreenSec := by
  obtain ⟨c, h⟩ := processStep_signalScheduler w i
  rw [h]
  exact ⟨rfl, rfl⟩

end PipelineWorld

end SmartTraffic
