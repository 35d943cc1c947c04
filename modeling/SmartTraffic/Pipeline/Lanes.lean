import SmartTraffic.Pipeline.Phase

/-!
# Where a lane's statistics come from

What one step does to the tables it keeps for each lane: the time of the last
detection, the statistics of the last detection, the history shared with the
context, and the time the lane was last seen. A lane that the step has a frame
for carries what its detector observes, or else what was observed last; without
a live frame it carries nothing. A lane without a frame keeps its history or
loses it.
-/

namespace SmartTraffic

open Lib

/-- Stabilizing the counts smooths each observation by itself. -/
theorem stabilize_lookup (s : CountStabilizer LaneName)
    (observed : List (LaneName × LaneStatistics)) (lane : LaneName) :
    ∃ e, (s.stabilize double observed).1.lookup lane
      = (observed.lookup lane).map fun st => CountStabilizer.smoothed double st e := by
  induction observed generalizing s with
  | nil => exact ⟨0, rfl⟩
  | cons item rest ih =>
      obtain ⟨l, stats⟩ := item
      obtain ⟨e, he⟩ := ih (s.record double l stats.liveCount)
      unfold CountStabilizer.stabilize
      dsimp only
      rw [List.lookup_cons, List.lookup_cons]
      by_cases hl : lane = l
      · subst hl
        rw [beq_self_eq_true]
        exact ⟨_, rfl⟩
      · rw [beq_false_of_ne hl]
        exact ⟨e, he⟩

theorem stabilize_keys (s : CountStabilizer LaneName)
    (observed : List (LaneName × LaneStatistics)) :
    (s.stabilize double observed).1.map Prod.fst = observed.map Prod.fst := by
  induction observed generalizing s with
  | nil => rfl
  | cons item rest ih =>
      obtain ⟨l, stats⟩ := item
      unfold CountStabilizer.stabilize
      rw [List.map_cons, List.map_cons]
      exact congrArg (l :: ·) (ih _)

namespace TrafficPipeline

variable (p : TrafficPipeline) (frames : Dict LaneName FramePayload) (lane : LaneName)

/-- The frame of a lane, if the detector runs on it. -/
def detected : Option FramePayload := (frames.get? lane).filter fun f => p.runsDetector lane f

theorem detected_lookup {V : Type} (g : FramePayload → V) :
    ((frames.items.filter fun (lane, f) => p.runsDetector lane f).map fun (lane, f) =>
      (lane, g f)).lookup lane = (p.detected frames lane).map g := by
  show ((frames.filter fun item => p.runsDetector item.1 item.2).mapValues
    fun _ f => g f).get? lane = _
  rw [Dict.get?_mapValues, Dict.get?_filter]
  rfl

theorem detected_nodup {V : Type} (g : FramePayload → V) :
    (((frames.items.filter fun (lane, f) => p.runsDetector lane f).map fun (lane, f) =>
      (lane, g f)).map Prod.fst).Nodup :=
  ((frames.filter fun item => p.runsDetector item.1 item.2).mapValues fun _ f => g f).nodup

/-- **A detection leaves its frame time.** -/
theorem perceive_lastDetectionTs : (p.perceive frames).lastDetectionTs lane
    = ((p.detected frames lane).map fun f => some f.timestamp).getD (p.lastDetectionTs lane) := by
  show updateAll p.lastDetectionTs _ lane = _
  rw [updateAll_eq_lookup _ (p.detected_nodup frames fun f => some f.timestamp),
    p.detected_lookup frames lane fun f => some f.timestamp]

/-- Each detection is smoothed by itself. -/
theorem stabilized_lookup : ∃ e,
    (p.countStabilizer.stabilize double (p.observedStats frames)).1.lookup lane
      = (p.detected frames lane).map fun f => CountStabilizer.smoothed double f.observation e := by
  obtain ⟨e, he⟩ := stabilize_lookup p.countStabilizer (p.observedStats frames) lane
  refine ⟨e, ?_⟩
  rw [he]
  show (((frames.items.filter fun (lane, f) => p.runsDetector lane f).map fun (lane, f) =>
    (lane, f.observation)).lookup lane).map _ = _
  rw [p.detected_lookup frames lane (·.observation), Option.map_map]
  rfl

/-- **A detection leaves its smoothed statistics.** -/
theorem perceive_lastAuthoritativeStats : ∃ e, (p.perceive frames).lastAuthoritativeStats lane
    = ((p.detected frames lane).map fun f =>
        some (CountStabilizer.smoothed double f.observation e)).getD
      (p.lastAuthoritativeStats lane) := by
  obtain ⟨e, he⟩ := p.stabilized_lookup frames lane
  refine ⟨e, ?_⟩
  show updateAll p.lastAuthoritativeStats
    ((p.countStabilizer.stabilize double (p.observedStats frames)).1.map fun item =>
      (item.1, some item.2)) lane = _
  have hkeys : (((p.countStabilizer.stabilize double (p.observedStats frames)).1.map fun item =>
      (item.1, some item.2)).map Prod.fst).Nodup := by
    rw [List.map_map]
    show ((p.countStabilizer.stabilize double (p.observedStats frames)).1.map Prod.fst).Nodup
    rw [stabilize_keys]
    exact p.detected_nodup frames (·.observation)
  rw [updateAll_eq_lookup _ hkeys, lookup_mapValues _ (fun _ st => some st), he, Option.map_map]
  rfl

/--
**What a lane carries that the step has a frame for**: its own observation with the
count smoothed, or what was detected last when the detector is not due, or nothing.
-/
theorem stepStats_cases {f : FramePayload} {st : LaneStatistics}
    (hf : frames.get? lane = some f) (hst : p.stepStats frames lane = some st) :
    (p.detected frames lane = some f ∧ f.isLive = true
        ∧ ∃ e, st = CountStabilizer.smoothed double f.observation e)
      ∨ (p.detected frames lane = none
        ∧ (st = { laneName := lane.key }
          ∨ (f.isLive = true ∧ p.lastAuthoritativeStats lane = some st
            ∧ detectorIsDue (p.lastDetectionTs lane) f.timestamp p.detectorFps = false))) := by
  obtain ⟨e, he⟩ := p.stabilized_lookup frames lane
  unfold stepStats at hst
  rw [hf, Option.map_some, he] at hst
  have hst := Option.some.inj hst
  by_cases hruns : p.runsDetector lane f = true
  · -- the stabilized observation is written over the frame's entry
    have hdet : p.detected frames lane = some f := by
      unfold detected; rw [hf, Option.filter_some, if_pos hruns]
    rw [hdet] at hst
    exact Or.inl ⟨hdet, (Bool.and_eq_true_iff.mp hruns).1, e, hst.symm⟩
  · have hdet : p.detected frames lane = none := by
      unfold detected; rw [hf, Option.filter_some, if_neg hruns]
    rw [hdet, Option.map_none, Option.getD_none] at hst
    unfold frameStats at hst
    refine Or.inr ⟨hdet, ?_⟩
    by_cases hlive : f.isLive = false
    · rw [if_pos hlive] at hst
      exact Or.inl hst.symm
    · rw [if_neg hlive, if_neg hruns] at hst
      have hlive : f.isLive = true := by simpa using hlive
      cases hauth : p.lastAuthoritativeStats lane with
      | none => rw [hauth, Option.getD_none] at hst; exact Or.inl hst.symm
      | some st' =>
          rw [hauth, Option.getD_some] at hst
          refine Or.inr ⟨hlive, by rw [hst], ?_⟩
          unfold runsDetector at hruns
          rw [hlive, Bool.true_and] at hruns
          exact Bool.not_eq_true _ |>.mp hruns

/-- A lane that carries somebody has a live frame, and was counted on it or on the last one. -/
theorem stepStats_rawCount {f : FramePayload} {st : LaneStatistics}
    (hf : frames.get? lane = some f) (hst : p.stepStats frames lane = some st)
    (hraw : 0 < st.rawCount) : f.isLive = true
      ∧ ((p.detected frames lane = some f ∧ st.rawCount = f.observation.liveCount)
        ∨ (p.detected frames lane = none ∧ p.lastAuthoritativeStats lane = some st
          ∧ detectorIsDue (p.lastDetectionTs lane) f.timestamp p.detectorFps = false)) := by
  rcases p.stepStats_cases frames lane hf hst with
    ⟨hdet, hlive, e, rfl⟩ | ⟨hdet, rfl | ⟨hlive, hauth, hdue⟩⟩
  · exact ⟨hlive, Or.inl ⟨hdet, rfl⟩⟩
  · exact absurd hraw (lt_irrefl 0)
  · exact ⟨hlive, Or.inr ⟨hdet, hauth, hdue⟩⟩

end TrafficPipeline

namespace PipelineWorld

variable (w : PipelineWorld) (i : StepInput)

/-- The empty-lane rule leaves the tables of the detections alone. -/
theorem observed_lanes :
    (w.observed i).lastDetectionTs = (w.pipeline.perceive i.frames).lastDetectionTs
      ∧ (w.observed i).lastAuthoritativeStats
        = (w.pipeline.perceive i.frames).lastAuthoritativeStats
      ∧ (w.observed i).detectorFps = w.pipeline.detectorFps := by
  obtain ⟨d, since, hobs⟩ := w.observed_spec i
  rw [hobs]
  exact ⟨rfl, rfl, rfl⟩

/-- **The tables after a step**: those of the merge, unless the step had nothing to do. -/
theorem processStep_lanes : (i.frames.items = [] ∧ (w.processStep i).1 = w)
    ∨ ((w.processStep i).1.ctx = w.mergeContext i
      ∧ (w.processStep i).1.pipeline.lastDetectionTs
        = (w.pipeline.perceive i.frames).lastDetectionTs
      ∧ (w.processStep i).1.pipeline.lastAuthoritativeStats
        = (w.pipeline.perceive i.frames).lastAuthoritativeStats
      ∧ (w.processStep i).1.pipeline.detectorFps = w.pipeline.detectorFps) := by
  have htables := w.observed_lanes i
  by_cases hidle : i.frames.items = [] ∧ w.pipeline.activeDecision = none
  · exact Or.inl ⟨hidle.1, by rw [processStep_idle hidle]⟩
  · refine Or.inr ?_
    cases hc : w.changesPhase i with
    | false =>
        rw [processStep_hold hidle hc]
        exact ⟨rfl, htables⟩
    | true =>
        -- neither the lapse nor a new phase touches the tables
        cases hs : w.startedPhase i with
        | none =>
            rw [processStep_lapse hidle hc hs]
            exact ⟨rfl, htables⟩
        | some started =>
            obtain ⟨r, decision⟩ := started
            rw [processStep_start hidle hc hs]
            exact ⟨rfl, htables⟩

/-- A lane without a frame that still counts somebody has its history. -/
theorem agedStats_rawCount {now : Rat} {lane : LaneName} {st : LaneStatistics}
    (h : w.agedStats now lane = some st) (hraw : 0 < st.rawCount) :
    w.ctx.laneStatsHistory lane = some st := by
  obtain ⟨hist, hhist, heq⟩ := Option.map_eq_some_iff.mp h
  split_ifs at heq
  · rw [← heq] at hraw
    exact absurd hraw (lt_irrefl 0)
  · rw [hhist, heq]

end PipelineWorld

end SmartTraffic
