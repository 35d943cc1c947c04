import SmartTraffic.Pipeline.Health
import SmartTraffic.Proof.Phases

/-!
# The health a running pipeline reports

Five rules look for trouble between the stages of a step. In a run of the pipeline only the
one about detections outside every approach can find any: a step hands the same detections
to the first two stages, a vehicle is counted only where there are statistics, and a result
with a health check has both a decision and a command.
-/

namespace SmartTraffic.Proof

open SmartTraffic Lib PipelineWorld

/-! ## The rules -/

theorem warn_of_not {h : PipelineHealth} {found : Bool} (hfound : found = false) (text : String)
    (level : HealthSeverity) : h.warn found text level = h := by
  unfold PipelineHealth.warn
  rw [hfound, if_neg Bool.false_ne_true]

/-- A rule writes its warning and the severity, nothing else. -/
theorem warn_keeps (h : PipelineHealth) (found : Bool) (text : String) (level : HealthSeverity) :
    (h.warn found text level).decisionActive = h.decisionActive
      ∧ (h.warn found text level).mappedCount = h.mappedCount
      ∧ (h.warn found text level).analyticsOk = h.analyticsOk := by
  unfold PipelineHealth.warn
  split_ifs <;> exact ⟨rfl, rfl, rfl⟩

/-- Vehicles are counted only where there are statistics. -/
theorem counted_analyticsOk {n m : Nat} {stats : List (LaneName × LaneStatistics)} {active : Bool}
    {phaseId : Nat} {remaining : Int}
    (h : 0 < (PipelineHealth.counted n m stats active phaseId remaining).mappedCount) :
    (PipelineHealth.counted n m stats active phaseId remaining).analyticsOk = true := by
  cases stats with
  | nil => exact absurd h (lt_irrefl 0)
  | cons item items => rfl

/-- Detections, and no vehicle on any approach. -/
def OutsideEveryLane (detections : Nat) (stats : List (LaneName × LaneStatistics)) : Prop :=
  0 < detections ∧ (stats.map fun item => item.2.liveCount).sum = 0

/-- The warning of the mapping rule. -/
def mappingWarning (detections : Nat) : String :=
  s!"Lane Mapping Warning: {detections} tracks outside lane ROIs"

/-- The health shows nothing but detections outside every approach, and those if there are any. -/
structure OnlyMapping (h : PipelineHealth) (detections : Nat)
    (stats : List (LaneName × LaneStatistics)) : Prop where
  active : h.decisionActive = true
  found : OutsideEveryLane detections stats →
    h.severity = .warning ∧ h.warnings = [mappingWarning detections]
  quiet : ¬OutsideEveryLane detections stats → h.severity = .info ∧ h.warnings = []

/-- With a decision and a command, and statistics for what is counted, the last three rules find
nothing. -/
theorem laterRules_quiet (h : PipelineHealth) (hactive : h.decisionActive = true)
    (hok : 0 < h.mappedCount → h.analyticsOk = true) (hasPriority : Bool) :
    (h.analyticsRule.schedulerRule hasPriority).controllerRule true = h := by
  have hanalytics : h.analyticsRule = h := by
    refine warn_of_not ?_ _ _
    rw [Bool.and_eq_false_iff, decide_eq_false_iff_not, Bool.not_eq_false']
    exact or_iff_not_imp_left.mpr fun hpos => hok (not_not.mp hpos)
  have hscheduler : h.schedulerRule hasPriority = h := by
    refine warn_of_not ?_ _ _
    rw [hactive, Bool.not_true, Bool.and_false]
  rw [hanalytics, hscheduler]
  refine warn_of_not ?_ _ _
  rw [Bool.not_true, Bool.and_false]

/-- **With the same detections twice, a decision and its command, one rule is left.** -/
theorem evaluate_onlyMapping (detections : Nat) (stats : List (LaneName × LaneStatistics))
    (priority : Option PriorityResult) {decision : Option (SignalDecision LaneName)}
    {cmd : Option HardwareCommand} (hd : decision.isSome = true) (hcmd : cmd.isSome = true)
    (phaseId : Nat) (remaining : Int) :
    OnlyMapping
      (.evaluate detections detections stats priority decision cmd phaseId remaining)
      detections stats := by
  unfold PipelineHealth.evaluate
  rw [hd, hcmd]
  -- the counts are those of the report before any rule
  generalize hc : PipelineHealth.counted detections detections stats true phaseId remaining = h
  have hactive : h.decisionActive = true := by rw [← hc]; rfl
  have hquiet : h.severity = .info ∧ h.warnings = [] := by rw [← hc]; exact ⟨rfl, rfl⟩
  have hcount : h.detectionCount = detections ∧ h.trackedCount = detections := by
    rw [← hc]
    exact ⟨rfl, rfl⟩
  have hmapped : h.mappedCount = (stats.map fun item => item.2.liveCount).sum := by
    rw [← hc]
    rfl
  have hanalytics : 0 < h.mappedCount → h.analyticsOk = true := by
    rw [← hc]
    exact counted_analyticsOk
  have htracking : h.trackingRule = h := by
    refine warn_of_not ?_ _ _
    rw [hcount.1, hcount.2, Bool.and_eq_false_iff]
    simp only [decide_eq_false_iff_not]
    omega
  -- what the later rules ask about is as the mapping rule leaves it
  obtain ⟨hkeepsActive, hkeepsMapped, hkeepsOk⟩ :
      h.mappingRule.decisionActive = h.decisionActive
        ∧ h.mappingRule.mappedCount = h.mappedCount
        ∧ h.mappingRule.analyticsOk = h.analyticsOk := warn_keeps h _ _ _
  have hlater := laterRules_quiet h.mappingRule (hkeepsActive.trans hactive)
    (by rw [hkeepsMapped, hkeepsOk]; exact hanalytics) priority.isSome
  dsimp only
  rw [htracking, hlater]
  by_cases hout : OutsideEveryLane detections stats
  · -- detections, but none of them in a lane
    have hfound : (decide (0 < h.trackedCount) && decide (h.mappedCount = 0)) = true := by
      rw [hcount.2, hmapped, Bool.and_eq_true, decide_eq_true_eq, decide_eq_true_eq]
      exact hout
    have hmapping : h.mappingRule
        = { h with warnings := [mappingWarning detections], severity := .warning } := by
      unfold PipelineHealth.mappingRule PipelineHealth.warn
      rw [if_pos hfound, hquiet.1, hquiet.2, hcount.2]
      rfl
    rw [hmapping]
    exact ⟨hactive, fun _ => ⟨rfl, rfl⟩, fun hno => absurd hout hno⟩
  · -- no warning, so the report stays as it was
    have hmapping : h.mappingRule = h := by
      refine warn_of_not ?_ _ _
      rw [hcount.2, hmapped, ← Bool.not_eq_true, Bool.and_eq_true, decide_eq_true_eq,
        decide_eq_true_eq]
      exact hout
    rw [hmapping]
    exact ⟨hactive, fun hyes => absurd hyes hout, fun _ => hquiet⟩

/-! ## Runs -/

/-- There is a decision exactly if there is a command. -/
def Paired (w : PipelineWorld) : Prop :=
  w.pipeline.activeDecision.isSome = w.pipeline.activeHardwareCmd.isSome

theorem paired_step (w : PipelineWorld) (op : PipelineOp) (h : Paired w) :
    Paired (pipelineStep w op).1 := by
  unfold Paired at *
  obtain ⟨-, ⟨-, d, hs⟩ | ⟨hn, -⟩⟩ := pipelineStep_counts w op
  · have hcmd := congrArg Option.isSome hs.command
    rw [Option.isSome_map] at hcmd
    rw [hs.decision, hcmd]
    rfl
  · rcases hn.active with ⟨hd, hcmd⟩ | ⟨hd, hcmd⟩
    · have hsame := congrArg Option.isSome hd
      rw [Option.isSome_map, Option.isSome_map] at hsame
      rw [hsame, hcmd, h]
    · rw [hd, hcmd]
      rfl

/-- The health of one step. -/
theorem health_step {w : PipelineWorld} (h : Paired w) (i : StepInput) (detections : Nat) :
    ∀ health ∈ w.health i detections, OnlyMapping health detections (w.statsItems i) := by
  intro health hhealth
  unfold PipelineWorld.health at hhealth
  by_cases hidle : i.frames.items = [] ∧ w.pipeline.activeDecision = none
  · rw [if_pos hidle] at hhealth
    cases hhealth
  · rw [if_neg hidle] at hhealth
    cases hchange : w.changesPhase i with
    | true =>
        rw [hchange, if_pos rfl] at hhealth
        obtain ⟨started, -, rfl⟩ := Option.map_eq_some_iff.mp hhealth
        exact evaluate_onlyMapping _ _ _ rfl rfl _ _
    | false =>
        rw [hchange, if_neg Bool.false_ne_true] at hhealth
        obtain rfl := Option.some.inj hhealth
        -- a phase that goes on has a decision, and so it has a command
        have hexpired := (Bool.or_eq_false_iff.mp hchange).1
        have hd : (w.observed i).activeDecision.isSome = true := by
          cases hd : (w.observed i).activeDecision with
          | none =>
              unfold TrafficPipeline.isPhaseExpired at hexpired
              rw [hd] at hexpired
              cases hexpired
          | some d => rfl
        have hbefore : w.pipeline.activeDecision.isSome = true := by
          have hsame := congrArg Option.isSome (observed_phaseId w i)
          rw [Option.isSome_map, Option.isSome_map] at hsame
          exact hsame.symm.trans hd
        have hcmd : (w.observed i).activeHardwareCmd.isSome = true := by
          rw [observed_activeHardwareCmd]
          exact h.symm.trans hbefore
        exact evaluate_onlyMapping _ _ _ hd hcmd _ _

/--
**The only trouble a pipeline reports is detections outside every approach.**

After any run of a pipeline that starts without a phase, the next step reports no error. It
reports a warning exactly when the first camera shows detections and no approach counts a
vehicle, and then that one warning; whatever it reports, it reports an active decision.
-/
theorem health_only_mapping (run : List PipelineOp) (i : StepInput) (detections : Nat) :
    ∀ health ∈ (final pipelineStep {} run).health i detections,
      OnlyMapping health detections ((final pipelineStep {} run).statsItems i) := by
  have hstart : Paired {} := rfl
  exact health_step (final_invariant_of_step paired_step hstart run) i detections

/-- Two vehicles are counted in the north. -/
def northCounted : FramePayload :=
  { timestamp := 10, observation := { laneName := "north", rawCount := 2, liveCount := 2 } }

def northCountedStep : StepInput where
  frames := { items := [(.north, northCounted)], nodup := List.nodup_singleton LaneName.north }
  nowMono := 10
  currentMonoTime := 10

theorem health_only_mapping_north :
    OnlyMapping ((PipelineWorld.health {} northCountedStep 3).get (by decide +kernel)) 3
      (PipelineWorld.statsItems {} northCountedStep) :=
  health_only_mapping [] northCountedStep 3 _ (Option.get_mem _)

end SmartTraffic.Proof
