import SmartTraffic.Proof.Progress

/-!
# Ending an empty green early

What the empty-lane rule does to the clearance, and what it takes for evidence.

The rule rounds the green down to whole seconds, while steps come at any time. A
step that still showed GREEN in the second that is cut off gets less than its full
clearance. So the clearance law holds in the runs in which no step lies between
the shortened green and its release.

The rule counts every payload of the green approach as an observation, also one
of a camera that is disconnected or has no frame, whose statistics are zero by
default. So a shortened green rests on what was seen in the runs in which the
green approach sends no such payload while its green lasts.
-/

namespace SmartTraffic.Proof

open SmartTraffic Lib PipelineWorld

/-! ## Clearance -/

/-- No priority vehicle is known, and the clock reads a positive time. -/
def QuietStep (w : PipelineWorld) (i : StepInput) : Prop :=
  0 < i.currentMonoTime ∧ w.hasEmergency i = false

instance (w : PipelineWorld) (i : StepInput) : Decidable (QuietStep w i) :=
  inferInstanceAs (Decidable (_ ∧ _))

/-- The whole second since its phase start to which a release cuts the green back. -/
def releasePoint (w : PipelineWorld) (i : StepInput) : Rat :=
  w.pipeline.phaseStartTime + w.pipeline.releasedGreen i.currentMonoTime

/-- If the later step releases its approach, the earlier one is not in the second that is cut. -/
def ReleasesOnTime (e e' : StepEvent) : Prop :=
  e'.pre.releasesEmpty e'.input = true → e.input.currentMonoTime ≤ releasePoint e'.pre e'.input

instance (e e' : StepEvent) : Decidable (ReleasesOnTime e e') :=
  inferInstanceAs (Decidable (_ → _))

/-- A release keeps `due` if the clearance after the shortened green ends no earlier. -/
def KeepsDue (due : Rat) (w : PipelineWorld) (i : StepInput) : Prop :=
  w.releasesEmpty i = true →
    due ≤ releasePoint w i + w.pipeline.signalScheduler.yellowSec + Config.allRedSec

theorem cutsShort_of_quiet {w : PipelineWorld} {i : StepInput} (h : QuietStep w i) :
    w.cutsShort i = false := by
  -- nothing pre-empts without a priority vehicle
  unfold cutsShort TrafficPipeline.preempts
  rw [h.2, Bool.false_and, Bool.and_false]

theorem clocked_step {w : PipelineWorld} {i : StepInput} (h : Clocked w) (hq : QuietStep w i) :
    Clocked (w.processStep i).1 := by
  obtain ⟨hy, -⟩ := processStep_timing w i
  intro d hd
  rw [hy]
  rcases processStep_outcome w i with ⟨-, hw⟩ | ⟨d', -, -, -, hw⟩ | ⟨-, -, hw⟩ | ⟨-, r, d', hst, hw⟩
  · rw [hw] at hd ⊢
    exact h d hd
  · rw [hw] at hd ⊢
    dsimp only at hd ⊢
    rw [observed_phaseStartTime]
    rw [observed_activeDecision] at hd
    split_ifs at hd with hrel
    · -- a release touches the green alone
      obtain ⟨d₀, hd₀, rfl⟩ := Option.map_eq_some_iff.mp hd
      exact h d₀ hd₀
    · exact h d hd
  · rw [hw] at hd; cases hd
  · rw [hw] at hd ⊢
    obtain rfl : d' = d := Option.some.inj hd
    exact ⟨hq.1, hst.yellow⟩

/-- **The empty rule keeps a debt** that the clearance after the shortened green covers. -/
theorem owes_observed {w : PipelineWorld} {i : StepInput} {due : Rat} (h : Clocked w)
    (hdue : KeepsDue due w i) {d : SignalDecision LaneName}
    (hd : w.pipeline.activeDecision = some d) (hend : due ≤ w.pipeline.phaseEnd d) :
    ∃ d', (w.observed i).activeDecision = some d' ∧ d'.greenLane = d.greenLane
      ∧ due ≤ (w.observed i).phaseEnd d' := by
  rw [observed_activeDecision, hd]
  unfold TrafficPipeline.phaseEnd at hend ⊢
  rw [observed_phaseStartTime]
  cases hrel : w.releasesEmpty i with
  | false => exact ⟨d, rfl, rfl, hend⟩
  | true =>
      refine ⟨_, rfl, rfl, ?_⟩
      have hkept := hdue hrel
      rw [← (h d hd).2] at hkept
      exact hkept

/-- A quiet step that changes phase finds the debt paid. -/
theorem due_of_changesPhase {w : PipelineWorld} {i : StepInput} {due : Rat} (h : Clocked w)
    (hq : QuietStep w i) (hdue : KeepsDue due w i) (hch : w.changesPhase i = true)
    {d : SignalDecision LaneName} (hd : w.pipeline.activeDecision = some d)
    (hend : due ≤ w.pipeline.phaseEnd d) : due ≤ i.currentMonoTime := by
  obtain ⟨d', hd', -, hend'⟩ := owes_observed h hdue hd hend
  rcases changesPhase_cases hch with hexp | hcut
  · have hstart := (h d hd).1
    rw [← observed_phaseStartTime w i] at hstart
    exact hend'.trans ((TrafficPipeline.isPhaseExpired_iff hd' hstart).mp hexp)
  · rw [cutsShort_of_quiet hq] at hcut
    exact absurd hcut Bool.false_ne_true

theorem owes_quiet_step {w : PipelineWorld} {i : StepInput} {lane : LaneName} {due c : Rat}
    (h : Clocked w) (hq : QuietStep w i) (hdue : KeepsDue due w i) (hc : c ≤ i.currentMonoTime)
    (howes : Owes lane due w c) : Owes lane due (w.processStep i).1 i.currentMonoTime := by
  obtain ⟨hy, -⟩ := processStep_timing w i
  obtain ⟨hrecent, hpayer⟩ := howes
  refine ⟨by rw [hy]; linarith, ?_⟩
  rcases hpayer with ⟨d, hd, hlane, hend⟩ | hpaid
  · rcases processStep_outcome w i with
      ⟨hnone, -⟩ | ⟨d', -, -, -, hw⟩ | ⟨hch, -, -⟩ | ⟨hch, r, d', -, -⟩
    · rw [hnone] at hd; cases hd
    · left
      obtain ⟨d', hd', hlane', hend'⟩ := owes_observed h hdue hd hend
      rw [hw]
      exact ⟨d', hd', hlane'.trans hlane, hend'⟩
    · exact Or.inr (due_of_changesPhase h hq hdue hch hd hend)
    · exact Or.inr (due_of_changesPhase h hq hdue hch hd hend)
  · exact Or.inr (hpaid.trans hc)

theorem owes_quiet_start {w : PipelineWorld} {i : StepInput} {lane : LaneName} {due c : Rat}
    (h : Clocked w) (hq : QuietStep w i) (hdue : KeepsDue due w i) (hc : c ≤ i.currentMonoTime)
    (howes : Owes lane due w c) {d' : SignalDecision LaneName}
    (hs : StartsPhase (w.processStep i).2 d') : due ≤ i.currentMonoTime := by
  rcases howes.payer with ⟨d, hd, -, hend⟩ | hpaid
  · rcases processStep_outcome w i with
      ⟨-, hw⟩ | ⟨-, -, -, -, hw⟩ | ⟨-, -, hw⟩ | ⟨hch, r, d₀, -, -⟩
    · have hchange := hs.1; rw [hw] at hchange; exact absurd hchange Bool.false_ne_true
    · have hchange := hs.1; rw [hw] at hchange; exact absurd hchange Bool.false_ne_true
    · have hchange := hs.1; rw [hw] at hchange; exact absurd hchange Bool.false_ne_true
    · exact due_of_changesPhase h hq hdue hch hd hend
  · exact hpaid.trans hc

/-- **No phase starts before a debt is due** that every release on the way keeps. -/
theorem due_of_owes {lane : LaneName} {due c : Rat} {w : PipelineWorld} {run : List StepInput}
    (h : Clocked w) (howes : Owes lane due w c)
    (hclock : (c :: run.map (·.currentMonoTime)).Pairwise (· ≤ ·))
    (hok : ∀ e ∈ events processStep w run, QuietStep e.pre e.input ∧ KeepsDue due e.pre e.input) :
    ∀ e ∈ events processStep w run, ∀ d', StartsPhase e.out d' →
      due ≤ e.input.currentMonoTime := by
  induction run generalizing w c with
  | nil => intro e he; exact absurd he List.not_mem_nil
  | cons i run ih =>
      obtain ⟨hq, hdue⟩ := hok _ List.mem_cons_self
      obtain ⟨hle, hrest⟩ := List.pairwise_cons.mp hclock
      have hci : c ≤ i.currentMonoTime := hle _ (List.mem_map_of_mem List.mem_cons_self)
      intro e he d' hs
      rcases List.mem_cons.mp he with rfl | he
      · exact owes_quiet_start h hq hdue hci howes hs
      · exact ih (clocked_step h hq) (owes_quiet_step h hq hdue hci howes) hrest
          (fun e he => hok e (List.mem_cons_of_mem _ he)) e he d' hs

/-- The yellow time of the scheduler is the same at every step. -/
theorem yellowSec_pre {w : PipelineWorld} {run : List StepInput} {e : StepEvent}
    (he : e ∈ events processStep w run) :
    e.pre.pipeline.signalScheduler.yellowSec = w.pipeline.signalScheduler.yellowSec := by
  obtain ⟨before, i, rest, -, rfl⟩ := (mem_events_iff _).mp he
  obtain ⟨c, hc⟩ := final_signalScheduler w before
  show (final processStep w before).pipeline.signalScheduler.yellowSec = _
  rw [hc]

theorem yellow_of_reportsGreen {w : PipelineWorld} {i : StepInput}
    (hnext : Clocked (w.processStep i).1) {d : SignalDecision LaneName}
    (hr : ReportsGreen (w.processStep i).2 d) :
    d.yellowDurationSec = (w.processStep i).1.pipeline.signalScheduler.yellowSec := by
  rcases processStep_shows w i with ⟨-, hshows⟩ | ⟨d', hd', hshows⟩
  · exact absurd (hshows.decision.symm.trans hr.2) (by simp)
  · obtain rfl := Option.some.inj (hshows.decision.symm.trans hr.2)
    exact (hnext d' hd').2

/-- The law from one report on. -/
theorem clearance_from {w : PipelineWorld} {i : StepInput} {run : List StepInput}
    (hnext : Clocked (w.processStep i).1)
    (hclock : (i.currentMonoTime :: run.map (·.currentMonoTime)).Pairwise (· ≤ ·))
    (hquiet : ∀ e ∈ events processStep (w.processStep i).1 run, QuietStep e.pre e.input)
    (hontime : ∀ e ∈ events processStep (w.processStep i).1 run,
      e.pre.releasesEmpty e.input = true → i.currentMonoTime ≤ releasePoint e.pre e.input) :
    ∀ e ∈ events processStep (w.processStep i).1 run,
      Clearance i.currentMonoTime (w.processStep i).2 e.input.currentMonoTime e.out := by
  intro e he d d' hr hs _
  refine due_of_owes hnext (owes_report hnext hr) hclock (fun e' he' => ?_) e he d' hs
  refine ⟨hquiet e' he', fun hrel => ?_⟩
  -- the clearance is counted from the report, and the report is not in the second that is cut
  have hpoint := hontime e' he' hrel
  rw [yellowSec_pre he', ← yellow_of_reportsGreen hnext hr]
  linarith

theorem clearance_of_clocked {w : PipelineWorld} {run : List StepInput} (h : Clocked w)
    (hclock : (run.map (·.currentMonoTime)).Pairwise (· ≤ ·))
    (hquiet : ∀ e ∈ events processStep w run, QuietStep e.pre e.input)
    (hontime : (events processStep w run).Pairwise ReleasesOnTime) :
    (events processStep w run).Pairwise fun e e' =>
      Clearance e.input.currentMonoTime e.out e'.input.currentMonoTime e'.out := by
  induction run generalizing w with
  | nil => exact List.Pairwise.nil
  | cons i run ih =>
      have hnext : Clocked (w.processStep i).1 := clocked_step h (hquiet _ List.mem_cons_self)
      have hquiet' : ∀ e ∈ events processStep (w.processStep i).1 run, QuietStep e.pre e.input :=
        fun e he => hquiet e (List.mem_cons_of_mem _ he)
      obtain ⟨hfirst, hrest⟩ := List.pairwise_cons.mp hontime
      exact List.pairwise_cons.mpr ⟨clearance_from hnext hclock hquiet' hfirst,
        ih hnext (List.pairwise_cons.mp hclock).2 hquiet' hrest⟩

/--
**Clearance holds while no report lies in the second that a release cuts off.**

In every run of `process_step` from a pipeline without an active phase, with any
frames, readings that never decrease and no priority vehicle: if every step that ends
an empty green early cuts it to a whole second no step has come after, then a GREEN
report for a lane is followed by another lane's phase only after the yellow and the
all-red interval.
-/
theorem clearance_with_releases_on_time (w : PipelineWorld) (run : List StepInput)
    (hnone : w.pipeline.activeDecision = none)
    (hclock : (run.map (·.currentMonoTime)).Pairwise (· ≤ ·))
    (hquiet : ∀ e ∈ events processStep w run, QuietStep e.pre e.input)
    (hontime : (events processStep w run).Pairwise ReleasesOnTime) :
    (events processStep w run).Pairwise fun e e' =>
      Clearance e.input.currentMonoTime e.out e'.input.currentMonoTime e'.out := by
  refine clearance_of_clocked (fun d hd => ?_) hclock hquiet hontime
  rw [hnone] at hd; cases hd

theorem clearance_with_releases_on_time_north_east :
    (events processStep {} [sampleStep .north false 10, emptyStep .north 12,
      emptyStep .north 14, sampleStep .east false 19]).Pairwise fun e e' =>
        Clearance e.input.currentMonoTime e.out e'.input.currentMonoTime e'.out :=
  clearance_with_releases_on_time {} _ rfl (by decide +kernel) (by decide +kernel)
    (by decide +kernel)

/-- North is green at 15.4, released at 15.6 with five seconds of green, and the east starts at
20. -/
theorem release_cuts_clearance : ¬∀ (w : PipelineWorld) (run : List StepInput),
    w.pipeline.activeDecision = none → (run.map (·.currentMonoTime)).Pairwise (· ≤ ·) →
    (∀ e ∈ events processStep w run, QuietStep e.pre e.input) →
    (events processStep w run).Pairwise fun e e' =>
      Clearance e.input.currentMonoTime e.out e'.input.currentMonoTime e'.out := by
  intro h
  have hrun := h {} [sampleStep .north false 10, emptyStep .north (29 / 2),
    emptyStep .north (77 / 5), emptyStep .north (78 / 5), sampleStep .east false 20] rfl
    (by decide +kernel) (by decide +kernel)
  exact absurd hrun (by decide +kernel)

/-! ## Evidence of emptiness -/

/-- The step comes in the phase number `n`, while `lane` is its approach. -/
def InPhaseOf (lane : LaneName) (n : Nat) (e : StepEvent) : Prop :=
  e.pre.activeLane = some lane ∧ e.pre.pipeline.phaseCounter = n

/-- The step has a payload of the lane from a connected camera, with a frame. -/
def HasLiveFrame (lane : LaneName) (e : StepEvent) : Prop :=
  ∃ f, e.input.frames.get? lane = some f ∧ f.connected = true ∧ f.hasFrame = true

/-- If the step has a payload of the lane, it is such a frame and counts nobody. -/
def SeenEmpty (lane : LaneName) (e : StepEvent) : Prop :=
  e.input.frames.contains lane = true →
    HasLiveFrame lane e ∧ (e.pre.mergedStats e.input lane).rawCount = 0

/-- From `first` on, the steps of `es` are in one phase of the lane and see it empty. -/
structure EmptySince (lane : LaneName) (n : Nat) (es : List StepEvent) (first : StepEvent) :
    Prop where
  live : HasLiveFrame lane first
  since : ∃ before mid, es = before ++ first :: mid
    ∧ ∀ e ∈ first :: mid, InPhaseOf lane n e ∧ SeenEmpty lane e

/--
What must lie behind a shortened green: a live frame earlier in this phase and the
one of this step, at least the release time apart, with no payload of the lane from
the one to the other that was not live or counted somebody.
-/
def EmptyEvidence (lane : LaneName) (es : List StepEvent) (last : StepEvent) : Prop :=
  ∃ first ∈ es, EmptySince lane last.pre.pipeline.phaseCounter (es ++ [last]) first
    ∧ HasLiveFrame lane last
    ∧ Config.emptyLaneReleaseSec ≤ last.input.currentMonoTime - first.input.currentMonoTime

/-- The step goes on with a shorter green of the lane than it found. -/
def LowersGreen (lane : LaneName) (w : PipelineWorld) (i : StepInput) : Prop :=
  ∃ d ∈ w.pipeline.activeDecision, d.greenLane = lane
    ∧ ∃ d' ∈ (w.observed i).activeDecision, d'.greenDurationSec < d.greenDurationSec

/-- While the green lasts, a payload of its lane is live. -/
def LiveWhileGreen (w : PipelineWorld) (i : StepInput) : Prop :=
  ∀ d ∈ w.pipeline.activeDecision, w.pipeline.elapsedSec i.currentMonoTime < d.greenDurationSec →
    ∀ f ∈ i.frames.get? d.greenLane, f.isLive = true

instance (lane : LaneName) (w : PipelineWorld) (i : StepInput) :
    Decidable (LowersGreen lane w i) :=
  inferInstanceAs (Decidable (∃ d ∈ w.pipeline.activeDecision, _ ∧ ∃ d' ∈ _, _))

instance (w : PipelineWorld) (i : StepInput) : Decidable (LiveWhileGreen w i) :=
  inferInstanceAs (Decidable (∀ d ∈ w.pipeline.activeDecision, _ → ∀ f ∈ _, _))

/-- The green of `d` is over by every reading from the newest one on. -/
def GreenOver (es : List StepEvent) (w : PipelineWorld) (d : SignalDecision LaneName) : Prop :=
  ∀ c, (∀ e ∈ es, e.input.currentMonoTime ≤ c) →
    (d.greenDurationSec : Rat) ≤ w.pipeline.elapsedSec c

/-- **Where the timer comes from.** Unless the green is over, it started with a live frame of an
empty approach, and the approach was seen empty ever since. -/
def TimerFrom (es : List StepEvent) (w : PipelineWorld) : Prop :=
  ∀ d since, w.pipeline.activeDecision = some d → w.pipeline.activeEmptySince = some since →
    GreenOver es w d ∨ ∃ first, first.input.currentMonoTime = since
      ∧ EmptySince d.greenLane w.pipeline.phaseCounter es first

theorem elapsedSec_mono {p : TrafficPipeline} {c c' : Rat} (h : c ≤ c') :
    p.elapsedSec c ≤ p.elapsedSec c' := by
  unfold TrafficPipeline.elapsedSec
  split_ifs
  · linarith
  · exact le_refl _

theorem releasesEmpty_of_lowersGreen {lane : LaneName} {w : PipelineWorld} {i : StepInput}
    (h : LowersGreen lane w i) : w.releasesEmpty i = true := by
  obtain ⟨d, hd, -, d', hd', hlt⟩ := h
  by_contra hrel
  rw [observed_activeDecision_of_not_released (Bool.not_eq_true _ |>.mp hrel)] at hd'
  obtain rfl := Option.some.inj (hd.symm.trans hd')
  exact lt_irrefl _ hlt

theorem hasLiveFrame_of_contains {w : PipelineWorld} {i : StepInput}
    {d : SignalDecision LaneName} (hok : LiveWhileGreen w i)
    (hd : w.pipeline.activeDecision = some d)
    (hgreen : w.pipeline.elapsedSec i.currentMonoTime < d.greenDurationSec)
    (hc : i.frames.contains d.greenLane = true) :
    HasLiveFrame d.greenLane (eventOf processStep w i) := by
  obtain ⟨f, hf⟩ := Option.isSome_iff_exists.mp hc
  obtain ⟨hconn, hframe⟩ := Bool.and_eq_true_iff.mp (hok d hd hgreen f hf)
  exact ⟨f, hf, hconn, hframe⟩

theorem activeIsEmpty_iff {w : PipelineWorld} {i : StepInput} {d : SignalDecision LaneName}
    (hd : w.pipeline.activeDecision = some d) : w.activeIsEmpty i = true
      ↔ i.frames.contains d.greenLane = true ∧ (w.mergedStats i d.greenLane).rawCount = 0 := by
  unfold activeIsEmpty TrafficPipeline.activeIsEmpty
  rw [hd, Option.any_some, Bool.and_eq_true, decide_eq_true_eq]

/-- While the green lasts, a step either counts somebody on a payload or sees the lane empty. -/
theorem seenEmpty_of_green {w : PipelineWorld} {i : StepInput} {d : SignalDecision LaneName}
    (hok : LiveWhileGreen w i) (hd : w.pipeline.activeDecision = some d)
    (hgreen : w.pipeline.elapsedSec i.currentMonoTime < d.greenDurationSec)
    (hempty : w.activeIsEmpty i = true ∨ i.frames.contains d.greenLane = false) :
    SeenEmpty d.greenLane (eventOf processStep w i) := by
  intro hc
  have hc' : i.frames.contains d.greenLane = true := hc
  rcases hempty with hempty | hno
  · exact ⟨hasLiveFrame_of_contains hok hd hgreen hc', ((activeIsEmpty_iff hd).mp hempty).2⟩
  · rw [hno] at hc'; cases hc'

theorem EmptySince.append {lane : LaneName} {n : Nat} {es : List StepEvent} {first e : StepEvent}
    (h : EmptySince lane n es first) (hphase : InPhaseOf lane n e) (hseen : SeenEmpty lane e) :
    EmptySince lane n (es ++ [e]) first := by
  obtain ⟨hlive, before, mid, rfl, hall⟩ := h
  refine ⟨hlive, before, mid ++ [e], by simp, fun e' he' => ?_⟩
  rw [← List.cons_append] at he'
  rcases List.mem_append.mp he' with he' | he'
  · exact hall e' he'
  · rw [List.mem_singleton.mp he']; exact ⟨hphase, hseen⟩

/-- A step that holds the phase keeps the source of its timer. -/
theorem timerFrom_hold {es : List StepEvent} {w : PipelineWorld} {i : StepInput}
    (h : TimerFrom es w) (hok : LiveWhileGreen w i)
    (hlast : ∀ e ∈ es, e.input.currentMonoTime ≤ i.currentMonoTime)
    {d d' : SignalDecision LaneName} {since : Rat} (hd : w.pipeline.activeDecision = some d)
    (hd' : (w.observed i).activeDecision = some d')
    (hsince : (w.observed i).activeEmptySince = some since) :
    (w.releasesEmpty i = false
        ∧ (d.greenDurationSec : Rat) ≤ w.pipeline.elapsedSec i.currentMonoTime ∧ d' = d)
      ∨ ∃ first, first.input.currentMonoTime = since
        ∧ EmptySince d'.greenLane w.pipeline.phaseCounter (es ++ [eventOf processStep w i])
            first := by
  rw [observed_activeDecision, hd] at hd'
  rcases lt_or_ge (w.pipeline.elapsedSec i.currentMonoTime) d.greenDurationSec with hgreen | hover
  · right
    have hlane : d'.greenLane = d.greenLane := by
      split_ifs at hd'
      · obtain rfl := Option.some.inj hd'; rfl
      · obtain rfl := Option.some.inj hd'; rfl
    have hphase : InPhaseOf d.greenLane w.pipeline.phaseCounter (eventOf processStep w i) := by
      refine ⟨?_, rfl⟩
      show w.activeLane = _
      unfold activeLane; rw [hd]; rfl
    have hactive : w.activeLane.any i.frames.contains = i.frames.contains d.greenLane := by
      unfold activeLane; rw [hd]; rfl
    rw [observed_activeEmptySince, hactive] at hsince
    rw [hlane]
    -- the payload of this step is empty, or there is none
    have hempty : w.activeIsEmpty i = true ∨ i.frames.contains d.greenLane = false := by
      split_ifs at hsince with h1 h2
      · exact Or.inl h1
      · exact Or.inr (Bool.not_eq_true _ |>.mp h2)
    have hseen := seenEmpty_of_green hok hd hgreen hempty
    cases hs : w.pipeline.activeEmptySince with
    | some s =>
        have heq : s = since := by
          rw [hs] at hsince
          split_ifs at hsince
          · exact Option.some.inj hsince
          · exact Option.some.inj hsince
        rcases h d s hd hs with hover | ⟨first, hfirst, hfrom⟩
        · exact absurd (hover _ hlast) (not_le.mpr hgreen)
        · exact ⟨first, hfirst.trans heq, hfrom.append hphase hseen⟩
    | none =>
        -- the timer starts now
        rw [hs] at hsince
        split_ifs at hsince with h1
        have hc := ((activeIsEmpty_iff hd).mp h1).1
        refine ⟨_, Option.some.inj hsince, hasLiveFrame_of_contains hok hd hgreen hc, es, [], rfl,
          fun e he => ?_⟩
        rw [List.mem_singleton.mp he]
        exact ⟨hphase, hseen⟩
  · left
    have hrel : w.releasesEmpty i = false := by
      by_contra hrel
      obtain ⟨-, -, d₀, hd₀, hlt⟩ := releasesEmpty_iff.mp (Bool.not_eq_false _ |>.mp hrel)
      obtain rfl := Option.some.inj (hd.symm.trans hd₀)
      exact absurd hover (not_le.mpr hlt)
    rw [hrel] at hd'
    exact ⟨hrel, hover, (Option.some.inj hd').symm⟩

/-- **A step keeps the source of the timer.** -/
theorem timerFrom_step {es : List StepEvent} {w : PipelineWorld} {i : StepInput}
    (h : TimerFrom es w) (hok : LiveWhileGreen w i)
    (hlast : ∀ e ∈ es, e.input.currentMonoTime ≤ i.currentMonoTime) :
    TimerFrom (es ++ [eventOf processStep w i]) (w.processStep i).1 := by
  intro d' since hd' hsince
  rcases processStep_outcome w i with
    ⟨hnone, hw⟩ | ⟨d₁, -, -, -, hw⟩ | ⟨-, -, hw⟩ | ⟨-, r, d₁, -, hw⟩
  · rw [hw, hnone] at hd'; cases hd'
  · rw [hw] at hd' hsince ⊢
    dsimp only at hd' hsince ⊢
    rw [observed_phaseCounter]
    cases hd : w.pipeline.activeDecision with
    | none =>
        rw [observed_activeDecision, hd] at hd'
        split_ifs at hd'
        cases hd'
    | some d =>
        rcases timerFrom_hold h hok hlast hd hd' hsince with ⟨-, hover, rfl⟩ | hfrom
        · -- the green stays over
          refine Or.inl fun c hc => ?_
          have hle : i.currentMonoTime ≤ c :=
            hc _ (List.mem_append_right _ List.mem_cons_self)
          refine hover.trans ((elapsedSec_mono hle).trans_eq ?_)
          unfold TrafficPipeline.elapsedSec
          rw [observed_phaseStartTime]
        · exact Or.inr hfrom
  · rw [hw] at hd'; cases hd'
  · -- a new phase has no timer
    rw [hw] at hsince; cases hsince

theorem timerFrom_final {w : PipelineWorld} (hnone : w.pipeline.activeDecision = none)
    (run : List StepInput) (hclock : (run.map (·.currentMonoTime)).Pairwise (· ≤ ·))
    (hok : ∀ e ∈ events processStep w run, LiveWhileGreen e.pre e.input) :
    TimerFrom (events processStep w run) (final processStep w run) := by
  induction run using List.reverseRecOn with
  | nil => intro d since hd; exact absurd (hnone.symm.trans hd) (by simp)
  | append_singleton run i ih =>
      rw [List.map_append, List.pairwise_append] at hclock
      rw [events_append] at hok
      rw [events_append, final_append]
      refine timerFrom_step
        (ih hclock.1 fun e he => hok e (List.mem_append_left _ he))
        (hok _ (List.mem_append_right _ List.mem_cons_self)) fun e he => ?_
      exact hclock.2.2 _ (List.mem_map_of_mem (input_mem_of_mem_events he)) _ List.mem_cons_self

/--
**A green is cut short only on evidence**, while the green approach sends nothing else.

In every run of `process_step` from a pipeline without an active phase, with readings
that never decrease: if every payload of the green approach comes from a connected
camera with a frame as long as the green lasts, then a step that lowers the green of
a lane has the evidence behind it.
-/
theorem green_lowered_on_evidence (w : PipelineWorld)
    (hnone : w.pipeline.activeDecision = none) (before : List StepInput) (i : StepInput)
    (hclock : ((before ++ [i]).map (·.currentMonoTime)).Pairwise (· ≤ ·))
    (hok : ∀ e ∈ events processStep w (before ++ [i]), LiveWhileGreen e.pre e.input)
    (lane : LaneName) (hlow : LowersGreen lane (final processStep w before) i) :
    EmptyEvidence lane (events processStep w before)
      (eventOf processStep (final processStep w before) i) := by
  rw [List.map_append, List.pairwise_append] at hclock
  rw [events_append] at hok
  have hok' := hok _ (List.mem_append_right _ List.mem_cons_self)
  have htimer := timerFrom_final hnone before hclock.1
    fun e he => hok e (List.mem_append_left _ he)
  have hlast : ∀ e ∈ events processStep w before, e.input.currentMonoTime ≤ i.currentMonoTime :=
    fun e he => hclock.2.2 _ (List.mem_map_of_mem (input_mem_of_mem_events he)) _
      List.mem_cons_self
  have hrel := releasesEmpty_of_lowersGreen hlow
  obtain ⟨d, hd, rfl, -⟩ := hlow
  obtain ⟨hempty, ⟨since, hsince, hlong⟩, d₀, hd₀, hgreen⟩ := releasesEmpty_iff.mp hrel
  obtain rfl := Option.some.inj ((Option.mem_def.mp hd).symm.trans hd₀)
  have hphase : InPhaseOf d.greenLane (final processStep w before).pipeline.phaseCounter
      (eventOf processStep (final processStep w before) i) := by
    refine ⟨?_, rfl⟩
    show (final processStep w before).activeLane = _
    unfold activeLane; rw [hd₀]; rfl
  have hseen := seenEmpty_of_green hok' hd₀ hgreen (Or.inl hempty)
  have hc := ((activeIsEmpty_iff hd₀).mp hempty).1
  rcases htimer d since hd₀ hsince with hover | ⟨first, hfirst, hfrom⟩
  · exact absurd (hover _ hlast) (not_le.mpr hgreen)
  · refine ⟨first, ?_, hfrom.append hphase hseen, hasLiveFrame_of_contains hok' hd₀ hgreen hc, ?_⟩
    · obtain ⟨-, pre, mid, heq, -⟩ := hfrom
      rw [heq]
      exact List.mem_append_right _ List.mem_cons_self
    · rw [hfirst]; exact hlong

theorem green_lowered_on_evidence_north :
    EmptyEvidence .north (events processStep {} [sampleStep .north false 10, emptyStep .north 12])
      (eventOf processStep (final processStep {} [sampleStep .north false 10, emptyStep .north 12])
        (emptyStep .north 14)) :=
  green_lowered_on_evidence {} rfl [sampleStep .north false 10, emptyStep .north 12]
    (emptyStep .north 14) (by decide +kernel) (by decide +kernel) .north (by decide +kernel)

/-- The payload of a disconnected camera. -/
def deadFrame (lane : LaneName) (t : Rat) : FramePayload where
  timestamp := t
  hasFrame := false
  connected := false
  observation := { laneName := lane.value }

/-- A step at time `t` with such a payload. -/
def deadStep (lane : LaneName) (t : Rat) : StepInput where
  frames := { items := [(lane, deadFrame lane t)], nodup := List.nodup_singleton lane }
  nowMono := t
  currentMonoTime := t

/-- North turns green at 10, its camera is gone from 12 on, and the green is cut at 14. -/
theorem dead_camera_lowers_green : ¬∀ (w : PipelineWorld), w.pipeline.activeDecision = none →
    ∀ (before : List StepInput) (i : StepInput),
      ((before ++ [i]).map (·.currentMonoTime)).Pairwise (· ≤ ·) →
      ∀ lane, LowersGreen lane (final processStep w before) i →
        EmptyEvidence lane (events processStep w before)
          (eventOf processStep (final processStep w before) i) := by
  intro h
  obtain ⟨first, -, -, ⟨f, hf, hconn, -⟩, -⟩ := h {} rfl
    [sampleStep .north false 10, deadStep .north 12] (deadStep .north 14) (by decide +kernel) .north
    (by decide +kernel)
  have hdead : (deadStep .north 14).frames.get? .north = some f := hf
  obtain rfl := Option.some.inj hdead
  exact absurd hconn Bool.false_ne_true

end SmartTraffic.Proof
