import SmartTraffic.Perception.Analytics
import SmartTraffic.Proof.Release

/-!
# Who may pre-empt

A step replaces a phase that has not expired when some known lane has a priority
vehicle. The replacement is chosen among the fresh occupied lanes. A remembered lane
loses its priority vehicle when it was last seen more than three seconds ago, and is
fresh while it was last seen less than three seconds ago. So there is one age at
which a lane can trigger a pre-emption and cannot win it.
-/

namespace SmartTraffic.Proof

open SmartTraffic Lib PipelineWorld TrafficPipeline

/-- The step leaves an emergency phase of a fresh lane that has a priority vehicle. -/
def StartsEmergency (w : PipelineWorld) (i : StepInput) : Prop :=
  ∃ d ∈ (w.processStep i).1.pipeline.activeDecision, d.greenLane ∈ w.freshLanes i
    ∧ (w.mergedStats i d.greenLane).hasPriorityVehicle = true ∧ d.reason = .emergency

instance (w : PipelineWorld) (i : StepInput) : Decidable (StartsEmergency w i) :=
  inferInstanceAs (Decidable (∃ d ∈ (w.processStep i).1.pipeline.activeDecision, _))

/-- The step comes when the active phase has expired. -/
def ComesExpired (e : StepEvent) : Prop :=
  (e.pre.observed e.input).isPhaseExpired e.input.currentMonoTime = true

/-- Only emergencies pre-empt, and none of them is pre-empted before it expires. -/
structure OnlyEmergencies (w : PipelineWorld) (run : List StepInput) : Prop where
  emergency : ∀ e ∈ events processStep w run, e.pre.cutsShort e.input = true →
    StartsEmergency e.pre e.input
  once : ∀ before i mid i' after, run = before ++ i :: mid ++ i' :: after →
    (final processStep w before).cutsShort i = true →
    (final processStep w (before ++ i :: mid)).cutsShort i' = true →
      ∃ x ∈ events processStep (final processStep w (before ++ [i])) mid, ComesExpired x

/-- A lane with a priority vehicle counts somebody. -/
def Counted (st : LaneStatistics) : Prop := st.hasPriorityVehicle = true → 0 < st.rawCount

/-- What the detector yields for a frame counts the vehicle that has priority. -/
def SoundFrames (i : StepInput) : Prop :=
  ∀ item ∈ i.frames.items, item.2.observation.hasPriorityVehicle = true →
    0 < item.2.observation.liveCount

instance (i : StepInput) : Decidable (SoundFrames i) :=
  inferInstanceAs (Decidable (∀ item ∈ i.frames.items, _ → _))

/-- Every remembered priority vehicle was counted. -/
structure PriorityCounted (w : PipelineWorld) : Prop where
  history : ∀ lane st, w.ctx.laneStatsHistory lane = some st → Counted st
  authoritative : ∀ lane st, w.pipeline.lastAuthoritativeStats lane = some st → Counted st

/-- No lane without a frame has a remembered priority vehicle that is exactly three seconds old. -/
def OffBoundary (w : PipelineWorld) (i : StepInput) : Prop :=
  ∀ lane, i.frames.contains lane = false →
    (w.ctx.laneStatsHistory lane).any (·.hasPriorityVehicle) = true →
      i.nowMono - (w.ctx.laneLastSeen lane).getD 0 ≠ 3

instance (w : PipelineWorld) (i : StepInput) : Decidable (OffBoundary w i) :=
  inferInstanceAs (Decidable (∀ lane, i.frames.contains lane = false → _ → _))

/-- `generate_stats` sees a priority vehicle among the vehicles it counts. -/
theorem generateLaneStats_counted {name : String} {vehicles : List VehicleState} {n : Int}
    (h : (generateLaneStats name vehicles n).hasPriorityVehicle = true) :
    0 < (generateLaneStats name vehicles n).liveCount := by
  cases vehicles with
  | nil => exact absurd h Bool.false_ne_true
  | cons v vs =>
      show (0 : Int) < ((v :: vs).length : Int)
      rw [List.length_cons]; omega

/-- What the analyzers yield for the frames of the detector is sound. -/
theorem soundFrames_of_generated {i : StepInput} (h : ∀ item ∈ i.frames.items,
    ∃ name vehicles n, item.2.observation = generateLaneStats name vehicles n) :
    SoundFrames i := by
  intro item hitem
  obtain ⟨name, vehicles, n, hobservation⟩ := h item hitem
  rw [hobservation]
  exact generateLaneStats_counted

/-! ## Remembered priority vehicles were counted -/

theorem counted_default (name : String) : Counted { laneName := name } :=
  fun h => absurd h Bool.false_ne_true

theorem counted_smoothed {st : LaneStatistics} {ema : Rat}
    (h : st.hasPriorityVehicle = true → 0 < st.liveCount) :
    Counted (CountStabilizer.smoothed double st ema) := h

theorem observation_counted {i : StepInput} (h : SoundFrames i) {lane : LaneName}
    {f : FramePayload} (hf : i.frames.get? lane = some f) :
    f.observation.hasPriorityVehicle = true → 0 < f.observation.liveCount :=
  h (lane, f) (mem_of_lookup hf)

theorem stepStats_counted {w : PipelineWorld} {i : StepInput} (h : PriorityCounted w)
    (hi : SoundFrames i) {lane : LaneName} {st : LaneStatistics}
    (hst : w.pipeline.stepStats i.frames lane = some st) : Counted st := by
  cases hf : i.frames.get? lane with
  | none => unfold stepStats at hst; rw [hf] at hst; cases hst
  | some f =>
      rcases w.pipeline.stepStats_cases i.frames lane hf hst with
        ⟨-, -, e, rfl⟩ | ⟨-, rfl | ⟨-, hauth, -⟩⟩
      · exact counted_smoothed (observation_counted hi hf)
      · exact counted_default _
      · exact h.authoritative lane st hauth

theorem agedStats_counted {w : PipelineWorld} (h : PriorityCounted w) {now : Rat}
    {lane : LaneName} {st : LaneStatistics} (hst : w.agedStats now lane = some st) :
    Counted st := by
  obtain ⟨hist, hhist, rfl⟩ := Option.map_eq_some_iff.mp hst
  split_ifs
  · exact counted_default _
  · exact h.history lane hist hhist

theorem mergedStats_counted {w : PipelineWorld} {i : StepInput} (h : PriorityCounted w)
    (hi : SoundFrames i) (lane : LaneName) : Counted (w.mergedStats i lane) := by
  unfold mergedStats
  cases hst : w.pipeline.stepStats i.frames lane with
  | some st => exact stepStats_counted h hi hst
  | none =>
      dsimp only
      cases ha : w.agedStats i.nowMono lane with
      | none => exact counted_default _
      | some st => exact agedStats_counted h ha

/-- **A step only remembers priority vehicles that were counted.** -/
theorem priorityCounted_step {w : PipelineWorld} {i : StepInput} (h : PriorityCounted w)
    (hi : SoundFrames i) : PriorityCounted (w.processStep i).1 := by
  rcases processStep_lanes w i with ⟨-, hw⟩ | ⟨hctx, -, hauth, -⟩
  · rw [hw]; exact h
  · refine ⟨fun lane st hst => ?_, fun lane st hst => ?_⟩
    · rw [hctx] at hst
      unfold mergeContext at hst
      dsimp only at hst
      cases hs : w.pipeline.stepStats i.frames lane with
      | some st' =>
          rw [hs] at hst
          obtain rfl := Option.some.inj hst
          exact stepStats_counted h hi hs
      | none => rw [hs] at hst; exact agedStats_counted h hst
    · rw [hauth] at hst
      obtain ⟨e, he⟩ := w.pipeline.perceive_lastAuthoritativeStats i.frames lane
      rw [he] at hst
      cases hdet : w.pipeline.detected i.frames lane with
      | none => rw [hdet] at hst; exact h.authoritative lane st hst
      | some f =>
          rw [hdet] at hst
          obtain rfl := Option.some.inj hst
          exact counted_smoothed (observation_counted hi (detected_eq_some hdet))

/-! ## One step -/

theorem freshLanes_of_lastSeen {w : PipelineWorld} {i : StepInput} {lane : LaneName}
    (h : i.nowMono - ((w.mergeContext i).laneLastSeen lane).getD 0 < 3) :
    lane ∈ w.freshLanes i :=
  List.mem_filter.mpr ⟨mem_laneOrder i lane, decide_eq_true h⟩

/-- **A lane that still has a priority vehicle is fresh**, unless it is on the boundary. -/
theorem fresh_of_priority {w : PipelineWorld} {i : StepInput} (ho : OffBoundary w i)
    {lane : LaneName} (hpri : (w.mergedStats i lane).hasPriorityVehicle = true) :
    lane ∈ w.freshLanes i := by
  refine freshLanes_of_lastSeen ?_
  show i.nowMono - (if i.frames.contains lane then some i.nowMono
    else w.ctx.laneLastSeen lane).getD 0 < 3
  by_cases hc : i.frames.contains lane = true
  · rw [if_pos hc, Option.getD_some, sub_self]; norm_num
  · have hc' : i.frames.contains lane = false := Bool.not_eq_true _ |>.mp hc
    rw [if_neg hc]
    have hnone : w.pipeline.stepStats i.frames lane = none := by
      unfold stepStats
      rw [Option.map_eq_none_iff]
      exact Option.not_isSome_iff_eq_none.mp hc
    unfold mergedStats agedStats at hpri
    rw [hnone] at hpri
    dsimp only at hpri
    cases hhist : w.ctx.laneStatsHistory lane with
    | none => rw [hhist] at hpri; exact absurd hpri Bool.false_ne_true
    | some hist =>
        rw [hhist, Option.map_some, Option.getD_some] at hpri
        split_ifs at hpri with hold
        · -- a decayed history has no priority vehicle
          exact absurd hpri Bool.false_ne_true
        · have hne := ho lane hc' (by rw [hhist]; exact hpri)
          exact lt_of_le_of_ne (not_lt.mp hold) hne

theorem isEligible_of_merged {w : PipelineWorld} {i : StepInput} {lane : LaneName}
    (hfresh : lane ∈ w.freshLanes i) (hraw : 0 < (w.mergedStats i lane).rawCount) :
    isEligible (w.priorityResult i) (w.statsItems i) (w.freshLanes i) lane = true :=
  isEligible_iff.mpr ⟨mem_priorityResult_lanes w i lane, hfresh, _,
    statsOf_statsItems_self w i lane, hraw⟩

/--
**What a pre-emption starts**: an emergency phase exactly when a fresh occupied lane
has a priority vehicle.
-/
theorem startsEmergency_iff {w : PipelineWorld} {i : StepInput} (hcut : w.cutsShort i = true) :
    StartsEmergency w i ↔ ∃ lane ∈ w.freshLanes i, 0 < (w.mergedStats i lane).rawCount
      ∧ (w.mergedStats i lane).hasPriorityVehicle = true := by
  have hnot := Bool.and_eq_true_iff.mp hcut
  rcases processStep_outcome w i with
    ⟨hnone, -⟩ | ⟨-, -, -, hno, -⟩ | ⟨-, hsel, hw⟩ | ⟨-, r, d, hst, hw⟩
  · -- an idle step has nothing to cut short
    have hexp : (w.observed i).isPhaseExpired i.currentMonoTime = true := by
      unfold isPhaseExpired
      rw [observed_activeDecision, hnone]
      split_ifs <;> rfl
    rw [hexp] at hnot; cases hnot.1
  · rw [hno] at hcut; cases hcut
  · constructor
    · rintro ⟨d, hd, -⟩
      rw [hw] at hd; cases hd
    · rintro ⟨lane, hfresh, hraw, -⟩
      exact absurd (selectedLane_eq_none_iff_unoccupied.mp hsel lane hfresh) (not_le.mpr hraw)
  · constructor
    · rintro ⟨d', hd', hfresh, hpri, -⟩
      rw [hw] at hd'
      obtain rfl : d = d' := Option.some.inj hd'
      exact ⟨d.greenLane, hfresh, hst.occupied, hpri⟩
    · rintro ⟨lane, hfresh, hraw, hpri⟩
      obtain ⟨winner, hwinner, hwpri⟩ := selectedLane_emergency
        (s := (w.observed i).signalScheduler) (isEligible_of_merged hfresh hraw)
        (by rw [statsOf_statsItems_self]; exact hpri)
      have hsel : w.selectedLane i = some winner := hwinner
      obtain rfl := Option.some.inj (hst.selected.symm.trans hsel)
      rw [statsOf_statsItems_self, Option.any_some] at hwpri
      refine ⟨d, by rw [hw]; rfl, hst.fresh, hwpri, ?_⟩
      rw [hst.reason, if_pos hwpri]

theorem startsEmergency_of_cutsShort {w : PipelineWorld} {i : StepInput} (h : PriorityCounted w)
    (hi : SoundFrames i) (ho : OffBoundary w i) (hcut : w.cutsShort i = true) :
    StartsEmergency w i := by
  -- some known lane has a priority vehicle
  have hem : w.hasEmergency i = true :=
    (Bool.and_eq_true_iff.mp (Bool.and_eq_true_iff.mp hcut).2).1
  obtain ⟨item, hitem, hpri⟩ := List.any_eq_true.mp hem
  obtain ⟨lane, -, rfl⟩ := List.mem_map.mp hitem
  exact (startsEmergency_iff hcut).mpr
    ⟨lane, fresh_of_priority ho hpri, mergedStats_counted h hi lane hpri, hpri⟩

/-! ## Runs -/

/-- The active phase, if there is one, is an emergency phase. -/
def InEmergency (w : PipelineWorld) : Prop :=
  ∀ d, w.pipeline.activeDecision = some d → d.reason = .emergency

theorem observed_reason {w : PipelineWorld} {i : StepInput} (h : InEmergency w)
    {d : SignalDecision LaneName} (hd : (w.observed i).activeDecision = some d) :
    d.reason = .emergency := by
  rw [observed_activeDecision] at hd
  split_ifs at hd
  · obtain ⟨d₀, hd₀, rfl⟩ := Option.map_eq_some_iff.mp hd
    exact h d₀ hd₀
  · exact h d hd

theorem not_cutsShort_of_emergency {w : PipelineWorld} (i : StepInput) (h : InEmergency w) :
    w.cutsShort i = false := by
  have hno : (w.observed i).preempts (w.hasEmergency i) = false := by
    unfold preempts
    cases hd : (w.observed i).activeDecision with
    | none => rw [Option.any_none, Bool.and_false]
    | some d =>
        rw [Option.any_some, observed_reason h hd]
        exact Bool.and_false _
  unfold cutsShort
  rw [hno, Bool.and_false]

/-- **An emergency phase lasts until it expires.** -/
theorem inEmergency_step {w : PipelineWorld} {i : StepInput} (h : InEmergency w)
    (hexp : ¬(w.observed i).isPhaseExpired i.currentMonoTime = true) :
    InEmergency (w.processStep i).1 := by
  rcases processStep_outcome w i with ⟨-, hw⟩ | ⟨-, -, -, -, hw⟩ | ⟨hch, -, -⟩ | ⟨hch, -, -, -, -⟩
  · rw [hw]; exact h
  · rw [hw]; exact fun d hd => observed_reason h hd
  · rcases changesPhase_cases hch with hexp' | hcut
    · exact absurd hexp' hexp
    · rw [not_cutsShort_of_emergency i h] at hcut; cases hcut
  · rcases changesPhase_cases hch with hexp' | hcut
    · exact absurd hexp' hexp
    · rw [not_cutsShort_of_emergency i h] at hcut; cases hcut

/-- Between two pre-emptions, the first of which started an emergency, that phase expires. -/
theorem expired_between {w : PipelineWorld} {mid : List StepInput} {i : StepInput}
    (h : InEmergency w) (hcut : (final processStep w mid).cutsShort i = true) :
    ∃ x ∈ events processStep w mid, ComesExpired x := by
  by_contra hno
  push Not at hno
  have hstep : ∀ s j, InEmergency s → ¬(s.observed j).isPhaseExpired j.currentMonoTime = true →
      InEmergency (s.processStep j).1 := fun s j hs hj => inEmergency_step hs hj
  have hend := final_invariant hstep h hno
  rw [not_cutsShort_of_emergency i hend] at hcut
  cases hcut

theorem priorityCounted_of_unseen {w : PipelineWorld} (h : Unseen w) : PriorityCounted w where
  history lane st hst := by rw [h.history lane] at hst; cases hst
  authoritative lane st hst := by rw [h.authoritative lane] at hst; cases hst

/-- A pre-emption that starts an emergency leaves an emergency phase. -/
theorem inEmergency_of_startsEmergency {w : PipelineWorld} {i : StepInput}
    (h : StartsEmergency w i) : InEmergency (w.processStep i).1 := by
  obtain ⟨d, hd, -, -, hreason⟩ := h
  intro d' hd'
  obtain rfl := Option.some.inj ((Option.mem_def.mp hd).symm.trans hd')
  exact hreason

/--
**Only emergencies pre-empt**, away from the boundary.

In every run of `process_step` whose frames count the vehicles that have priority: if
no step finds a lane with a remembered priority vehicle that was last seen exactly
three seconds ago, then every step that replaces a phase which has not expired starts
an emergency phase of a fresh lane with a priority vehicle, and the next such step
comes only after that phase has expired.
-/
theorem preempted_only_by_emergencies (w : PipelineWorld) (hw : Unseen w) (run : List StepInput)
    (hframes : ∀ i ∈ run, SoundFrames i)
    (hok : ∀ e ∈ events processStep w run, OffBoundary e.pre e.input) :
    OnlyEmergencies w run := by
  have hcounted := events_invariant
    (fun s i hs hi => priorityCounted_step hs hi) (priorityCounted_of_unseen hw)
    fun e he => hframes e.input (input_mem_of_mem_events he)
  have hemergency : ∀ e ∈ events processStep w run, e.pre.cutsShort e.input = true →
      StartsEmergency e.pre e.input := fun e he hcut =>
    startsEmergency_of_cutsShort (hcounted e he).1
      (hframes e.input (input_mem_of_mem_events he)) (hok e he) hcut
  refine ⟨hemergency, ?_⟩
  rintro before i mid i' after rfl hcut hcut'
  have hfirst : eventOf processStep (final processStep w before) i
      ∈ events processStep w (before ++ i :: mid ++ i' :: after) :=
    (mem_events_iff _).mpr ⟨before, i, mid ++ i' :: after, by simp, rfl⟩
  have hstarts := inEmergency_of_startsEmergency (hemergency _ hfirst hcut)
  rw [final_append, final_cons] at hcut'
  rw [final_append]
  exact expired_between hstarts hcut'

/-- A step at time `t` with a frame of one lane, in which the detector finds these vehicles. -/
def detectedStep (lane : LaneName) (vehicles : List VehicleState) (t : Rat) : StepInput where
  frames := { items := [(lane, { timestamp := t
                                 observation := generateLaneStats lane.value vehicles 0 })]
              nodup := List.nodup_singleton lane }
  nowMono := t
  currentMonoTime := t

theorem soundFrames_detectedStep (lane : LaneName) (vehicles : List VehicleState) (t : Rat) :
    SoundFrames (detectedStep lane vehicles t) := by
  refine soundFrames_of_generated fun item hitem => ?_
  obtain rfl := List.mem_singleton.mp hitem
  exact ⟨_, _, _, rfl⟩

theorem preempted_only_by_emergencies_north_east :
    OnlyEmergencies {} [detectedStep .north [{ className := "car" }] 10,
      detectedStep .east [{ className := "van", isPriority := true }] 12,
      detectedStep .north [{ className := "bus", isPriority := true }] 14] := by
  refine preempted_only_by_emergencies {} ⟨fun _ => rfl, fun _ => rfl, fun _ => rfl, fun _ => rfl⟩
    _ (fun i hi => ?_) (by decide +kernel)
  simp only [List.mem_cons, List.not_mem_nil, or_false] at hi
  rcases hi with rfl | rfl | rfl <;> exact soundFrames_detectedStep _ _ _

/--
The emergency in the north lasts from 10 to 27, the one in the east is last seen at 24. At 27 the
south starts, and at the same reading it is pre-empted, by itself and for no emergency.
-/
theorem boundary_preempts_without_emergency : ¬∀ (w : PipelineWorld), Unseen w →
    ∀ run : List StepInput, (∀ i ∈ run, SoundFrames i) →
      (run.map (·.nowMono)).Pairwise (· ≤ ·) → (run.map (·.currentMonoTime)).Pairwise (· ≤ ·) →
      OnlyEmergencies w run := by
  intro h
  have hrun := h {} ⟨fun _ => rfl, fun _ => rfl, fun _ => rfl, fun _ => rfl⟩
    [sampleStep .north true 10, sampleStep .east true 24, sampleStep .south false 27,
      sampleStep .south false 27] (by decide +kernel) (by decide +kernel) (by decide +kernel)
  exact absurd hrun.emergency (by decide +kernel)

end SmartTraffic.Proof
