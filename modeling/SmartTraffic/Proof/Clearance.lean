import SmartTraffic.Pipeline.Phase
import SmartTraffic.Server.Command

/-!
# Clearance between conflicting greens

A step that reports GREEN for a lane leaves a debt: until the lane's yellow and
the all-red interval have passed, no other lane may start a phase. The debt is
carried by the active decision, whose phase ends late enough, or it has been
paid by the clock.

Expiry pays the debt. A pre-emption and an operator command drop the decision
while the debt is open, and nothing else remembers it. So the law holds in the
runs in which every pre-emption reselects the lane that is green, and every
STOP or RESTART finds the phase already expired.
-/

namespace SmartTraffic.Proof

open SmartTraffic Lib PipelineWorld

/-! ## Reports and starts -/

/-- The result reports GREEN for the lane of `d`. -/
def ReportsGreen (out : PipelineResult) (d : SignalDecision LaneName) : Prop :=
  out.signalState = .green ∧ out.signalDecision = some d

/-- The step that gave the result started the phase of `d`. -/
def StartsPhase (out : PipelineResult) (d : SignalDecision LaneName) : Prop :=
  out.isPhaseChange = true ∧ out.signalDecision = some d

/--
The law between an earlier and a later step: after a GREEN report for one lane,
another lane starts no earlier than the yellow and the all-red interval later.
-/
def Clearance (t : Rat) (out : PipelineResult) (t' : Rat) (out' : PipelineResult) : Prop :=
  ∀ d d', ReportsGreen out d → StartsPhase out' d' → d'.greenLane ≠ d.greenLane →
    t + d.yellowDurationSec + Config.allRedSec ≤ t'

theorem clearance_iff {t t' : Rat} {out out' : PipelineResult} : Clearance t out t' out'
    ↔ ∀ d ∈ out.signalDecision, ∀ d' ∈ out'.signalDecision, out.signalState = .green →
        out'.isPhaseChange = true → d'.greenLane ≠ d.greenLane →
        t + d.yellowDurationSec + Config.allRedSec ≤ t' :=
  ⟨fun h d hd d' hd' hg hc => h d d' ⟨hg, hd⟩ ⟨hc, hd'⟩,
   fun h d d' hr hs => h d hr.2 d' hs.2 hr.1 hs.1⟩

instance (t t' : Rat) (out out' : PipelineResult) : Decidable (Clearance t out t' out') :=
  decidable_of_iff' _ clearance_iff

/-! ## The debt of a green report -/

/-- What every reachable pipeline satisfies. -/
structure Timed (w : PipelineWorld) : Prop where
  /-- Greens are not negative. -/
  minGreen : 0 ≤ w.pipeline.signalScheduler.minGreenSec
  /-- An active phase was started at a positive reading, and has the scheduler's timing. -/
  started : ∀ d, w.pipeline.activeDecision = some d →
    0 < w.pipeline.phaseStartTime ∧ 0 ≤ d.greenDurationSec
      ∧ d.yellowDurationSec = w.pipeline.signalScheduler.yellowSec

/-- An active phase was started at a positive reading and has the scheduler's yellow time. -/
def Clocked (w : PipelineWorld) : Prop :=
  ∀ d, w.pipeline.activeDecision = some d →
    0 < w.pipeline.phaseStartTime ∧ d.yellowDurationSec = w.pipeline.signalScheduler.yellowSec

theorem Timed.clocked {w : PipelineWorld} (h : Timed w) : Clocked w := by
  intro d hd
  obtain ⟨hstart, -, hyellow⟩ := h.started d hd
  exact ⟨hstart, hyellow⟩

/--
`lane` owes clearance until `due`, seen at the reading `c`: its phase is active
and ends no earlier, or the debt is paid.
-/
structure Owes (lane : LaneName) (due : Rat) (w : PipelineWorld) (c : Rat) : Prop where
  /-- The debt is no longer than one clearance. -/
  recent : due ≤ c + w.pipeline.signalScheduler.yellowSec + Config.allRedSec
  /-- Who pays it. -/
  payer : (∃ d, w.pipeline.activeDecision = some d ∧ d.greenLane = lane
      ∧ due ≤ w.pipeline.phaseEnd d) ∨ due ≤ c

/-- A step the clearance law can cope with. -/
structure Orderly (w : PipelineWorld) (i : StepInput) : Prop where
  /-- The clock reads a positive time: zero is the code's mark for "never started". -/
  clock_pos : 0 < i.currentMonoTime
  /-- The green approach is not observed empty. -/
  not_empty : w.activeIsEmpty i = false
  /-- A phase that is cut short is followed by one of the same lane. -/
  cut_self : w.cutsShort i = true → w.selectedLane i = w.activeLane

instance (w : PipelineWorld) (i : StepInput) : Decidable (Orderly w i) :=
  decidable_of_iff (0 < i.currentMonoTime ∧ w.activeIsEmpty i = false
      ∧ (w.cutsShort i = true → w.selectedLane i = w.activeLane))
    ⟨fun ⟨h1, h2, h3⟩ => ⟨h1, h2, h3⟩, fun ⟨h1, h2, h3⟩ => ⟨h1, h2, h3⟩⟩

/-- Without an empty approach the active decision reaches the selection unchanged. -/
theorem observed_of_orderly {w : PipelineWorld} {i : StepInput} (h : Orderly w i) :
    (w.observed i).activeDecision = w.pipeline.activeDecision :=
  observed_activeDecision_of_not_released (releasesEmpty_of_not_empty h.not_empty)

theorem timed_init {w : PipelineWorld} (hnone : w.pipeline.activeDecision = none)
    (hmin : 0 ≤ w.pipeline.signalScheduler.minGreenSec) : Timed w :=
  ⟨hmin, fun d hd => absurd (hnone.symm.trans hd) (by simp)⟩

theorem timed_step {w : PipelineWorld} {i : StepInput} (h : Timed w) (ho : Orderly w i) :
    Timed (w.processStep i).1 := by
  obtain ⟨hy, hm⟩ := processStep_timing w i
  refine ⟨by rw [hm]; exact h.minGreen, ?_⟩
  rw [hy]
  intro d hd
  rcases processStep_outcome w i with ⟨-, hw⟩ | ⟨d', -, -, -, hw⟩ | ⟨-, -, hw⟩ | ⟨-, r, d', hst, hw⟩
  · rw [hw] at hd ⊢
    exact h.started d hd
  · -- the phase is held
    rw [hw] at hd ⊢
    dsimp only at hd ⊢
    rw [observed_of_orderly ho] at hd
    rw [observed_phaseStartTime]
    exact h.started d hd
  · rw [hw] at hd
    exact absurd hd (by simp [lapsed])
  · -- the new phase starts at this step's reading
    rw [hw] at hd ⊢
    obtain rfl : d' = d := Option.some.inj hd
    exact ⟨ho.clock_pos, h.minGreen.trans hst.minGreen, hst.yellow⟩

/-- A phase that expires has seen its clearance out. -/
theorem phaseEnd_le_of_expired {w : PipelineWorld} {i : StepInput} (h : Timed w)
    (ho : Orderly w i) {d : SignalDecision LaneName} (hd : w.pipeline.activeDecision = some d)
    (hexp : (w.observed i).isPhaseExpired i.currentMonoTime = true) :
    w.pipeline.phaseEnd d ≤ i.currentMonoTime := by
  have hstart := (h.started d hd).1
  rw [← observed_phaseStartTime w i] at hstart
  have hactive := (observed_of_orderly ho).trans hd
  have hend := (TrafficPipeline.isPhaseExpired_iff hactive hstart).mp hexp
  unfold TrafficPipeline.phaseEnd at hend ⊢
  rw [observed_phaseStartTime] at hend
  exact hend

/-- **A step keeps every debt.** -/
theorem owes_step {w : PipelineWorld} {i : StepInput} {lane : LaneName} {due c : Rat}
    (h : Timed w) (ho : Orderly w i) (hc : c ≤ i.currentMonoTime) (howes : Owes lane due w c) :
    Owes lane due (w.processStep i).1 i.currentMonoTime := by
  obtain ⟨hy, -⟩ := processStep_timing w i
  obtain ⟨hrecent, hpayer⟩ := howes
  refine ⟨by rw [hy]; linarith, ?_⟩
  -- the lane still holds the phase, or the debt is paid
  rcases hpayer with ⟨d, hd, hlane, hdue⟩ | hpaid
  · rcases processStep_outcome w i with
      ⟨hnone, -⟩ | ⟨d', hd', -, -, hw⟩ | ⟨hch, hsel, hw⟩ | ⟨hch, r, d', hst, hw⟩
    · exact absurd (hnone.symm.trans hd) (by simp)
    · -- the phase is held, and its end has not moved
      rw [observed_of_orderly ho, hd] at hd'
      obtain rfl := Option.some.inj hd'
      left
      refine ⟨d, ?_, hlane, ?_⟩
      · rw [hw]
        exact (observed_of_orderly ho).trans hd
      · unfold TrafficPipeline.phaseEnd at hdue ⊢
        rw [hw]
        dsimp only
        rw [observed_phaseStartTime]
        exact hdue
    · -- nobody follows: the phase had expired
      rcases changesPhase_cases hch with hexp | hcut
      · exact Or.inr (hdue.trans (phaseEnd_le_of_expired h ho hd hexp))
      · have hself := ho.cut_self hcut
        rw [hsel] at hself
        unfold activeLane at hself
        rw [hd] at hself
        exact absurd hself (by simp)
    · rcases changesPhase_cases hch with hexp | hcut
      · exact Or.inr (hdue.trans (phaseEnd_le_of_expired h ho hd hexp))
      · -- the lane follows itself, and the new phase ends a full clearance after this step
        left
        have hself := ho.cut_self hcut
        rw [hst.selected] at hself
        unfold activeLane at hself
        rw [hd] at hself
        refine ⟨d', by rw [hw]; rfl, (Option.some.inj hself).trans hlane, ?_⟩
        have hgreen : (0 : Rat) ≤ d'.greenDurationSec := by
          exact_mod_cast h.minGreen.trans hst.minGreen
        rw [hw]
        show due ≤ i.currentMonoTime + d'.greenDurationSec + d'.yellowDurationSec + Config.allRedSec
        rw [hst.yellow]
        linarith
  · exact Or.inr (hpaid.trans hc)

/-- **A lane that owes clearance is not followed by another before the debt is due.** -/
theorem owes_start {w : PipelineWorld} {i : StepInput} {lane : LaneName} {due c : Rat}
    (h : Timed w) (ho : Orderly w i) (hc : c ≤ i.currentMonoTime) (howes : Owes lane due w c)
    {d' : SignalDecision LaneName} (hs : StartsPhase (w.processStep i).2 d')
    (hne : d'.greenLane ≠ lane) : due ≤ i.currentMonoTime := by
  obtain ⟨hchange, hdec⟩ := hs
  rcases howes.payer with ⟨d, hd, hlane, hdue⟩ | hpaid
  · rcases processStep_outcome w i with
      ⟨-, hw⟩ | ⟨-, -, -, -, hw⟩ | ⟨-, -, hw⟩ | ⟨hch, r, d₀, hst, hw⟩
    · rw [hw] at hchange; exact absurd hchange Bool.false_ne_true
    · rw [hw] at hchange; exact absurd hchange Bool.false_ne_true
    · rw [hw] at hchange; exact absurd hchange Bool.false_ne_true
    · rw [hw] at hdec
      obtain rfl : d₀ = d' := Option.some.inj hdec
      rcases changesPhase_cases hch with hexp | hcut
      · exact hdue.trans (phaseEnd_le_of_expired h ho hd hexp)
      · exfalso
        have hself := ho.cut_self hcut
        rw [hst.selected] at hself
        unfold activeLane at hself
        rw [hd] at hself
        exact hne ((Option.some.inj hself).trans hlane)
  · exact hpaid.trans hc

/-- **A GREEN report leaves its lane owing one clearance.** -/
theorem owes_report {w : PipelineWorld} {i : StepInput} (hnext : Clocked (w.processStep i).1)
    {d : SignalDecision LaneName} (hr : ReportsGreen (w.processStep i).2 d) :
    Owes d.greenLane (i.currentMonoTime + d.yellowDurationSec + Config.allRedSec)
      (w.processStep i).1 i.currentMonoTime := by
  obtain ⟨hgreen, hdec⟩ := hr
  have hactive : (w.processStep i).1.pipeline.activeDecision = some d
      ∧ (w.processStep i).1.pipeline.signalState i.currentMonoTime = .green := by
    rcases processStep_outcome w i with ⟨-, hw⟩ | ⟨-, -, -, -, hw⟩ | ⟨-, -, hw⟩ | ⟨-, r, d₀, -, hw⟩
    · rw [hw] at hdec; exact absurd hdec (by simp)
    · rw [hw] at hdec hgreen ⊢; exact ⟨hdec, hgreen⟩
    · rw [hw] at hdec; exact absurd hdec (by simp [lapseResult])
    · rw [hw] at hdec hgreen ⊢; exact ⟨hdec, hgreen⟩
  obtain ⟨hd, hstate⟩ := hactive
  obtain ⟨-, hyellow⟩ := hnext d hd
  refine ⟨by rw [hyellow], Or.inl ⟨d, hd, rfl, ?_⟩⟩
  -- GREEN is reported while less than the green time has passed
  unfold TrafficPipeline.signalState TrafficPipeline.signalStateAt at hstate
  rw [hd] at hstate
  dsimp only at hstate
  unfold TrafficPipeline.phaseEnd
  -- a step that is not before the end of the green reports another state
  by_cases hlt : i.currentMonoTime - (w.processStep i).1.pipeline.phaseStartTime
      < d.greenDurationSec
  · linarith
  · rw [if_neg hlt] at hstate
    split_ifs at hstate

/-! ## Pre-emption -/

/-- What a GREEN report has left in the state at the reading `c`. -/
def Since (e : Event PipelineWorld StepInput PipelineResult) (w : PipelineWorld) (c : Rat) : Prop :=
  ∀ d, ReportsGreen e.out d →
    Owes d.greenLane (e.input.currentMonoTime + d.yellowDurationSec + Config.allRedSec) w c

theorem clearance_rule : SinceRule processStep StepInput.currentMonoTime Timed Orderly Since
    fun e e' => Clearance e.input.currentMonoTime e.out e'.input.currentMonoTime e'.out where
  inv _ _ h ho := timed_step h ho
  establish _ _ h ho := fun _ hr => owes_report (timed_step h ho).clocked hr
  keep _ _ _ _ h ho hc hs := fun d hr => owes_step h ho hc (hs d hr)
  relate _ _ _ _ h ho hc hs := fun d _ hr hstart hne => owes_start h ho hc (hs d hr) hstart hne

/--
**Clearance holds while no pre-emption changes the lane.**

In every run of `process_step` from a pipeline without an active phase, with any
frames and flags and readings that never decrease: if the green approach is never
observed empty, and every step that cuts an unexpired phase short selects the
lane that is green already, then a GREEN report for a lane is followed by another
lane's phase only after the yellow and the all-red interval.
-/
theorem clearance_without_lane_change (w : PipelineWorld) (run : List StepInput)
    (hnone : w.pipeline.activeDecision = none)
    (hmin : 0 ≤ w.pipeline.signalScheduler.minGreenSec)
    (hclock : (run.map (·.currentMonoTime)).Pairwise (· ≤ ·))
    (hok : ∀ e ∈ events processStep w run, Orderly e.pre e.input) :
    (events processStep w run).Pairwise fun e e' =>
      Clearance e.input.currentMonoTime e.out e'.input.currentMonoTime e'.out :=
  clearance_rule.pairwise (timed_init hnone hmin) hclock hok

/-- A frame of one lane with one vehicle of weight one. -/
def sampleFrame (lane : LaneName) (priority : Bool) (t : Rat) : Dict LaneName FramePayload where
  items := [(lane, { timestamp := t, observation :=
    { laneName := lane.value, liveCount := 1, pceScore := 1, congestionIndex := 1,
      hasPriorityVehicle := priority, rawCount := 1 } })]
  nodup := List.nodup_singleton lane

/-- A step at time `t` with such a frame. -/
def sampleStep (lane : LaneName) (priority : Bool) (t : Rat) : StepInput where
  frames := sampleFrame lane priority t
  nowMono := t
  currentMonoTime := t

theorem clearance_without_lane_change_north_east :
    (events processStep {} [sampleStep .north false 10, sampleStep .north true 12,
      sampleStep .east false 29]).Pairwise fun e e' =>
        Clearance e.input.currentMonoTime e.out e'.input.currentMonoTime e'.out :=
  clearance_without_lane_change {} _ rfl (by decide) (by decide +kernel) (by decide +kernel)

/-- North turns green at 10, and the emergency in the east is green at 11. -/
theorem emergency_skips_clearance : ¬∀ (w : PipelineWorld) (run : List StepInput),
    w.pipeline.activeDecision = none → 0 ≤ w.pipeline.signalScheduler.minGreenSec →
    (run.map (·.currentMonoTime)).Pairwise (· ≤ ·) →
    (∀ e ∈ events processStep w run,
      0 < e.input.currentMonoTime ∧ e.pre.activeIsEmpty e.input = false) →
    (events processStep w run).Pairwise fun e e' =>
      Clearance e.input.currentMonoTime e.out e'.input.currentMonoTime e'.out := by
  intro h
  have hrun := h {} [sampleStep .north false 10, sampleStep .east true 11] rfl (by decide)
    (by decide +kernel) (by decide +kernel)
  exact absurd hrun (by decide +kernel)

/-! ## Operator commands -/

/-- A step, or an operator command at a time. -/
inductive Op
  | step (i : StepInput)
  | command (c : OperatorCommand) (time : Rat)

/-- When an operation happens. -/
def Op.time : Op → Rat
  | .step i => i.currentMonoTime
  | .command _ t => t

/-- One operation; a command has no result. -/
def opStep (w : PipelineWorld) : Op → PipelineWorld × Option PipelineResult
  | .step i => ((w.processStep i).1, some (w.processStep i).2)
  | .command c _ => (w.command c, none)

/-- The clearance law between two operations. -/
def OpClearance (e e' : Event PipelineWorld Op (Option PipelineResult)) : Prop :=
  ∀ out ∈ e.out, ∀ out' ∈ e'.out, Clearance e.input.time out e'.input.time out'

instance (e e' : Event PipelineWorld Op (Option PipelineResult)) : Decidable (OpClearance e e') :=
  inferInstanceAs (Decidable (∀ out ∈ e.out, ∀ out' ∈ e'.out, _))

/-- No priority vehicle arrives, and the green approach is not observed empty. -/
def QuietOp (w : PipelineWorld) : Op → Prop
  | .step i => 0 < i.currentMonoTime ∧ w.activeIsEmpty i = false ∧ w.hasEmergency i = false
  | .command _ _ => True

/-- A command that clears the decision comes when the phase has expired. -/
def TimelyCommand (w : PipelineWorld) : Op → Prop
  | .step _ => True
  | .command c t => c.resets = true → w.pipeline.isPhaseExpired t = true

instance (w : PipelineWorld) (op : Op) : Decidable (QuietOp w op) :=
  match op with
  | .step _ => inferInstanceAs (Decidable (_ ∧ _ ∧ _))
  | .command _ _ => inferInstanceAs (Decidable True)

instance (w : PipelineWorld) (op : Op) : Decidable (TimelyCommand w op) :=
  match op with
  | .step _ => inferInstanceAs (Decidable True)
  | .command _ _ => inferInstanceAs (Decidable (_ → _))

theorem orderly_of_quiet {w : PipelineWorld} {i : StepInput} (h : QuietOp w (.step i)) :
    Orderly w i := by
  obtain ⟨hpos, hempty, hem⟩ := h
  refine ⟨hpos, hempty, fun hcut => ?_⟩
  -- nothing pre-empts without a priority vehicle
  unfold cutsShort TrafficPipeline.preempts at hcut
  rw [hem, Bool.false_and, Bool.and_false] at hcut
  exact absurd hcut Bool.false_ne_true

theorem timed_command {w : PipelineWorld} (h : Timed w) (c : OperatorCommand) :
    Timed (w.command c) := by
  unfold PipelineWorld.command
  by_cases hr : c.resets = true
  · rw [if_pos hr]
    exact ⟨h.minGreen, fun d hd => absurd hd (by simp [TrafficPipeline.resetPhase])⟩
  · rw [if_neg hr]; exact h

/-- **A timely command keeps every debt**: it drops a decision only when its debt is paid. -/
theorem owes_command {w : PipelineWorld} (h : Timed w) {c : OperatorCommand} {t : Rat}
    (ht : TimelyCommand w (.command c t)) {lane : LaneName} {due c' : Rat} (hc : c' ≤ t)
    (howes : Owes lane due w c') : Owes lane due (w.command c) t := by
  obtain ⟨hrecent, hpayer⟩ := howes
  unfold PipelineWorld.command
  by_cases hr : c.resets = true
  · rw [if_pos hr]
    refine ⟨?_, Or.inr ?_⟩
    · show due ≤ t + w.pipeline.signalScheduler.yellowSec + Config.allRedSec
      linarith
    · rcases hpayer with ⟨d, hd, -, hdue⟩ | hpaid
      · exact hdue.trans
          ((TrafficPipeline.isPhaseExpired_iff hd (h.started d hd).1).mp (ht hr))
      · exact hpaid.trans hc
  · rw [if_neg hr]
    refine ⟨by linarith, hpayer.imp_right fun hpaid => hpaid.trans hc⟩

theorem op_clearance_rule : SinceRule opStep Op.time Timed
    (fun w op => QuietOp w op ∧ TimelyCommand w op)
    (fun e w c => ∀ out ∈ e.out, ∀ d, ReportsGreen out d →
      Owes d.greenLane (e.input.time + d.yellowDurationSec + Config.allRedSec) w c)
    OpClearance where
  inv w op h ho := by
    cases op with
    | step i => exact timed_step h (orderly_of_quiet ho.1)
    | command c t => exact timed_command h c
  establish w op h ho := by
    intro out hout d hr
    cases op with
    | step i =>
        obtain rfl := Option.some.inj hout
        exact owes_report (timed_step h (orderly_of_quiet ho.1)).clocked hr
    | command c t => exact absurd hout (by simp [eventOf, opStep])
  keep e w c op h ho hc hs := by
    intro out hout d hr
    cases op with
    | step i => exact owes_step h (orderly_of_quiet ho.1) hc (hs out hout d hr)
    | command cmd t => exact owes_command h ho.2 hc (hs out hout d hr)
  relate e w c op h ho hc hs := by
    intro out hout out' hout' d d' hr hstart hne
    cases op with
    | step i =>
        obtain rfl := Option.some.inj hout'
        exact owes_start h (orderly_of_quiet ho.1) hc (hs out hout d hr) hstart hne
    | command cmd t => exact absurd hout' (by simp [eventOf, opStep])

/--
**Clearance holds across commands that come when the phase has expired.**

In every run that mixes steps with START, STOP and RESTART at any times, without
priority vehicles and without an empty green approach: if every STOP and RESTART
comes when no phase is active or the active one has expired, then a GREEN report
for a lane is followed by another lane's phase only after the yellow and the
all-red interval.
-/
theorem clearance_across_timely_commands (w : PipelineWorld) (run : List Op)
    (hnone : w.pipeline.activeDecision = none)
    (hmin : 0 ≤ w.pipeline.signalScheduler.minGreenSec)
    (hclock : (run.map Op.time).Pairwise (· ≤ ·))
    (hquiet : ∀ e ∈ events opStep w run, QuietOp e.pre e.input)
    (htimely : ∀ e ∈ events opStep w run, TimelyCommand e.pre e.input) :
    (events opStep w run).Pairwise OpClearance :=
  op_clearance_rule.pairwise (timed_init hnone hmin) hclock
    fun e he => ⟨hquiet e he, htimely e he⟩

theorem clearance_across_timely_commands_restart :
    (events opStep {} [.step (sampleStep .north false 10), .command .restart 27,
      .step (sampleStep .east false 27)]).Pairwise OpClearance :=
  clearance_across_timely_commands {} _ rfl (by decide) (by decide +kernel) (by decide +kernel)
    (by decide +kernel)

/-- North is green at 10, a RESTART drops its phase, and the east is green at 11. -/
theorem restart_skips_clearance : ¬∀ (w : PipelineWorld) (run : List Op),
    w.pipeline.activeDecision = none → 0 ≤ w.pipeline.signalScheduler.minGreenSec →
    (run.map Op.time).Pairwise (· ≤ ·) →
    (∀ e ∈ events opStep w run, QuietOp e.pre e.input) →
    (events opStep w run).Pairwise OpClearance := by
  intro h
  have hrun := h {} [.step (sampleStep .north false 10), .command .restart 10,
    .step (sampleStep .east false 11)] rfl (by decide) (by decide +kernel) (by decide +kernel)
  exact absurd hrun (by decide +kernel)

end SmartTraffic.Proof
