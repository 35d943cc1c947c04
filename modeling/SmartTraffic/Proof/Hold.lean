import SmartTraffic.Simulator.Live
import SmartTraffic.Proof.Simulator

/-!
# ALL_RED_HOLD and the lamps

A snapshot with the safety status ALL_RED_HOLD should show nothing but red. The
status and the lamps are computed apart, in three places. The safe hold is all
red by construction, and so is a stall, in live mode because it hides the
decision and in simulation because its trigger holds the machine. Cameras that
are all offline raise the status at once, while the green or the yellow of the
running phase goes on.
-/

namespace SmartTraffic.Proof

open SmartTraffic Lib DigitalIntersection

/-- A snapshot that reports ALL_RED_HOLD is all red. -/
def HoldIsAllRed (snap : SimSnapshot) : Prop :=
  snap.safetyStatus = .allRedHold →
    snap.activePhase = "all_red" ∧ snap.currentGreenLane = none ∧ snap.currentYellowLane = none
      ∧ ∀ lane, (snap.approaches lane).signal = .red

/-- Every camera is offline, no stall is found, and the green or yellow of the phase goes on. -/
def LitWithoutCameras (ctx : LiveContext) (now : Rat) : Prop :=
  ctx.systemRunning = true ∧ ctx.aiStalled now = false ∧ ctx.allOffline now = true
    ∧ ∃ p ∈ ctx.pipeline, ∃ d ∈ p.activeDecision,
        TrafficPipeline.signalStateAt d (p.elapsedSec now) ≠ .allRed

/-- The same in simulation. -/
def SimLitWithoutCameras (d : DigitalIntersection) : Prop :=
  d.allCamerasOffline = true ∧ d.simPhaseState ≠ .allRed

/-! ## Live mode -/

theorem signal_of_not_stalled {ctx : LiveContext} {now : Rat} (h : ctx.aiStalled now = false)
    (p : TrafficPipeline) : ctx.signal p now = p.activeDecision.map fun d =>
      (d.greenLane, TrafficPipeline.signalStateAt d (p.elapsedSec now)) := by
  unfold LiveContext.signal; rw [h]; rfl

theorem signal_of_stalled {ctx : LiveContext} {now : Rat} (h : ctx.aiStalled now = true)
    (p : TrafficPipeline) : ctx.signal p now = none := by
  unfold LiveContext.signal; rw [h]; rfl

/-- A snapshot without a green or yellow signal is all red. -/
theorem liveSnapshot_allRed {d : DigitalIntersection} {ctx : LiveContext} {p : TrafficPipeline}
    {now : Rat} (h : ∀ lane state, ctx.signal p now = some (lane, state) → state = .allRed) :
    (d.liveSnapshot ctx p now).activePhase = "all_red"
      ∧ (d.liveSnapshot ctx p now).currentGreenLane = none
      ∧ (d.liveSnapshot ctx p now).currentYellowLane = none
      ∧ ∀ lane, ((d.liveSnapshot ctx p now).approaches lane).signal = .red := by
  have hred : ∀ lane, colorOf (ctx.signal p now) lane = .red := by
    intro lane
    by_contra hne
    rcases colorOf_ne_red.mp hne with hs | hs
    · exact absurd (h lane .green hs) (by decide)
    · exact absurd (h lane .yellow hs) (by decide)
  unfold liveSnapshot
  dsimp only
  cases hs : ctx.signal p now with
  | none => exact ⟨rfl, rfl, rfl, fun lane => by rw [← hs]; exact hred lane⟩
  | some shown =>
      obtain ⟨lane, state⟩ := shown
      obtain rfl := h lane state hs
      exact ⟨rfl, rfl, rfl, fun other => by rw [← hs]; exact hred other⟩

/-- A lit approach is named, so the snapshot is not all red. -/
theorem liveSnapshot_lit {d : DigitalIntersection} {ctx : LiveContext} {p : TrafficPipeline}
    {now : Rat} {lane : LaneName} {state : SignalState} (h : ctx.signal p now = some (lane, state))
    (hstate : state ≠ .allRed) : ((d.liveSnapshot ctx p now).approaches lane).signal ≠ .red := by
  refine colorOf_ne_red.mpr ?_
  cases state with
  | green => exact Or.inl h
  | yellow => exact Or.inr h
  | allRed => exact absurd rfl hstate

/-- The status is the hold only on the first of its three branches. -/
theorem status_allRedHold_iff (hold degraded : Bool) :
    (if hold then SafetyStatus.allRedHold else if degraded then .degraded else .normal)
        = .allRedHold
      ↔ hold = true := by
  cases hold with
  | true => exact ⟨fun _ => rfl, fun _ => rfl⟩
  | false => cases degraded <;> simp

theorem liveSnapshot_safetyStatus {d : DigitalIntersection} {ctx : LiveContext}
    {p : TrafficPipeline} {now : Rat} : (d.liveSnapshot ctx p now).safetyStatus = .allRedHold
      ↔ ctx.aiStalled now = true ∨ ctx.allOffline now = true := by
  rw [← Bool.or_eq_true]
  exact status_allRedHold_iff _ _

theorem holdIsAllRed_safeHold (ctx : LiveContext) (now : Rat) :
    HoldIsAllRed (safeHoldSnapshot ctx now) := fun _ => ⟨rfl, rfl, rfl, fun _ => rfl⟩

/-- **The live snapshot**: its hold is all red unless a phase is lit without any camera. -/
theorem holdIsAllRed_live (d : DigitalIntersection) (ctx : LiveContext) (now : Rat) :
    HoldIsAllRed (d.getSnapshot false ctx now) ↔ ¬LitWithoutCameras ctx now := by
  unfold getSnapshot LitWithoutCameras
  rw [if_neg Bool.false_ne_true]
  cases hp : ctx.pipeline with
  | none =>
      refine iff_of_true (holdIsAllRed_safeHold ctx now) ?_
      rintro ⟨-, -, -, p, hmem, -⟩
      exact absurd hmem (by simp)
  | some p =>
      dsimp only
      cases hrun : ctx.systemRunning with
      | false =>
          refine iff_of_true (holdIsAllRed_safeHold ctx now) ?_
          rintro ⟨hno, -⟩
          exact absurd hno Bool.false_ne_true
      | true =>
          rw [if_pos rfl]
          constructor
          · rintro hall ⟨-, hstall, hoff, q, hq, dec, hdec, hlit⟩
            -- the phase is what is shown, so a lit one shows through the hold
            obtain rfl : p = q := Option.some.inj hq
            have hsignal : ctx.signal p now
                = some (dec.greenLane, TrafficPipeline.signalStateAt dec (p.elapsedSec now)) := by
              rw [signal_of_not_stalled hstall, Option.mem_def.mp hdec]; rfl
            exact liveSnapshot_lit hsignal hlit
              ((hall (liveSnapshot_safetyStatus.mpr (Or.inr hoff))).2.2.2 dec.greenLane)
          · intro hnot hstatus
            -- a signal that is not all red would be that of a lit phase
            refine liveSnapshot_allRed fun lane state hsignal => ?_
            by_contra hlit
            cases hstall : ctx.aiStalled now with
            | true =>
                rw [signal_of_stalled hstall] at hsignal
                nomatch hsignal
            | false =>
                rw [signal_of_not_stalled hstall] at hsignal
                obtain ⟨dec, hdec, heq⟩ := Option.map_eq_some_iff.mp hsignal
                -- without a stall, the hold is for the lack of cameras
                have hoff := (liveSnapshot_safetyStatus.mp hstatus).resolve_left
                  (by rw [hstall]; simp)
                have hstate := congrArg Prod.snd heq
                dsimp only at hstate
                refine hnot ⟨rfl, hstall, hoff, p, rfl, dec, hdec, ?_⟩
                rw [hstate]
                exact hlit

/-! ## Simulation -/

/-- A stalled simulator is in the all-red phase. -/
def StallHolds (d : DigitalIntersection) : Prop :=
  d.simAiStalled = true → d.simPhaseState = .allRed

/-- Only the stall trigger sets or clears the stall. -/
theorem apply_simAiStalled (d : DigitalIntersection) (op : SimOp) :
    (d.apply op).1.simAiStalled = match op with
      | .aiStall stalled => stalled
      | _ => d.simAiStalled := by
  cases op with
  | step dt demands =>
      have hscored : (d.scored demands).simAiStalled = d.simAiStalled := by
        unfold scored; dsimp only; split_ifs <;> rfl
      cases hheld : d.isHeld with
      | true => rw [apply_step_of_held dt demands hheld]; exact hscored
      | false =>
          rw [apply_step_of_not_held dt demands hheld]
          dsimp only
          rw [← hscored]
          unfold progress finishAllRed
          dsimp only
          split
          · split_ifs <;> rfl
          · split_ifs <;> rfl
          · split_ifs
            · split <;> rfl
            · rfl
  | cameraDropout laneName status =>
      show (d.triggerCameraDropout laneName status).simAiStalled = _
      unfold triggerCameraDropout
      dsimp only
      split
      · rfl
      · split_ifs <;> rfl
  | aiStall stalled => cases stalled <;> rfl

theorem stallHolds_step {d : DigitalIntersection} (op : SimOp) (h : StallHolds d) :
    StallHolds (d.apply op).1 := by
  intro hstalled
  cases hh : d.holds op with
  | true => exact (apply_of_holds hh).1
  | false =>
      rw [apply_simAiStalled] at hstalled
      cases op with
      | step dt demands =>
          -- a step of a stalled machine is held
          have hno : d.simAiStalled = false := (Bool.or_eq_false_iff.mp hh).1
          exact absurd (hno.symm.trans hstalled) Bool.false_ne_true
      | cameraDropout laneName status =>
          have hred := h hstalled
          obtain ⟨-, -, ⟨hsame, -⟩ | ⟨hgreen, -⟩⟩ :=
            apply_trigger hh fun _ _ hop => SimOp.noConfusion hop
          · exact hsame.trans hred
          · exact absurd (hred.symm.trans hgreen) (by decide)
      | aiStall stalled => exact absurd (hstalled.symm.trans hh) (by decide)

theorem simAfter_stallHolds (minGreen maxGreen yellow allRed : Int) (run : List SimOp) :
    StallHolds (simAfter minGreen maxGreen yellow allRed run) :=
  final_invariant_of_step (fun _ op h => stallHolds_step op h)
    (fun h => absurd h Bool.false_ne_true) run

theorem buildSimSnapshot_safetyStatus (d : DigitalIntersection) :
    d.buildSimSnapshot.safetyStatus = .allRedHold ↔ d.isHeld = true :=
  status_allRedHold_iff _ _

theorem buildSimSnapshot_allRed {d : DigitalIntersection} (h : d.simPhaseState = .allRed) :
    d.buildSimSnapshot.activePhase = "all_red" ∧ d.buildSimSnapshot.currentGreenLane = none
      ∧ d.buildSimSnapshot.currentYellowLane = none
      ∧ ∀ lane, (d.buildSimSnapshot.approaches lane).signal = .red := by
  have hred : ∀ lane, d.signalOf lane = .red := by
    intro lane
    by_contra hne
    rcases (lit_cases hne).2 with hp | hp
    · exact absurd (h.symm.trans hp) (by decide)
    · exact absurd (h.symm.trans hp) (by decide)
  unfold buildSimSnapshot
  dsimp only
  rw [h]
  exact ⟨rfl, rfl, rfl, hred⟩

/-- **The simulated snapshot**: its hold is all red unless a phase is lit without any camera. -/
theorem holdIsAllRed_sim {d : DigitalIntersection} (hlane : LaneSet d) (hstall : StallHolds d) :
    HoldIsAllRed d.buildSimSnapshot ↔ ¬SimLitWithoutCameras d := by
  constructor
  · rintro hall ⟨hoff, hphase⟩
    have hheld : d.isHeld = true := by
      unfold isHeld; rw [hoff, Bool.or_true]
    obtain ⟨lane, hactive⟩ := hlane hphase
    have hred : d.signalOf lane = .red :=
      (hall ((buildSimSnapshot_safetyStatus d).mpr hheld)).2.2.2 lane
    cases hp : d.simPhaseState with
    | green => exact absurd (hred.symm.trans (signalOf_green_iff.mpr ⟨hp, hactive⟩)) (by decide)
    | yellow => exact absurd (hred.symm.trans (signalOf_yellow_iff.mpr ⟨hp, hactive⟩)) (by decide)
    | allRed => exact hphase hp
  · intro hnot hstatus
    refine buildSimSnapshot_allRed ?_
    rcases Bool.or_eq_true_iff.mp ((buildSimSnapshot_safetyStatus d).mp hstatus) with hs | hoff
    · exact hstall hs
    · by_contra hlit
      exact hnot ⟨hoff, hlit⟩

/--
**ALL_RED_HOLD means all red, except while a phase is lit without any camera.**

In live mode for every context and clock reading, and in simulation after every
run of steps and triggers: a snapshot that reports ALL_RED_HOLD shows only red,
exactly when it is not the case that all four cameras are offline, no stall is
found, and the running phase is still in its green or yellow.
-/
theorem hold_is_allRed_iff (minGreen maxGreen yellow allRed : Int) (run : List SimOp)
    (ctx : LiveContext) (now : Rat) :
    (HoldIsAllRed ((simAfter minGreen maxGreen yellow allRed run).getSnapshot false ctx now)
        ↔ ¬LitWithoutCameras ctx now)
      ∧ (HoldIsAllRed ((simAfter minGreen maxGreen yellow allRed run).getSnapshot true ctx now)
        ↔ ¬SimLitWithoutCameras (simAfter minGreen maxGreen yellow allRed run)) :=
  ⟨holdIsAllRed_live _ ctx now,
    holdIsAllRed_sim (simAfter_laneSet _ _ _ _ _) (simAfter_stallHolds _ _ _ _ _)⟩

/-- North has been green for four seconds, and for as long no camera has been seen. -/
def unseenNorth : LiveContext where
  pipeline := some
    { activeDecision := some
        { phaseId := 1, greenLane := .north, greenDurationSec := 12, yellowDurationSec := 3
          redLanes := [.south, .east, .west], priorityScore := 1, reason := .normal
          reasonDetails := "", timestamp := 10 }
      phaseStartTime := 10 }
  lanes := { laneLastSeen := fun lane => if lane = .north then some 10 else none }
  lastFrameMonotonic := 10
  frameUpdatedAt := (∅ : Dict String Rat).set "north" 10

/-- The cameras count as offline a second before their silence counts as a stall. -/
theorem hold_stays_lit : ¬∀ (minGreen maxGreen yellow allRed : Int) (run : List SimOp)
    (ctx : LiveContext) (now : Rat) (simulationMode : Bool), HoldIsAllRed
      ((simAfter minGreen maxGreen yellow allRed run).getSnapshot simulationMode ctx now) := by
  intro h
  have hlive := (holdIsAllRed_live _ unseenNorth 14).mp (h 10 60 3 2 [] unseenNorth 14 false)
  exact hlive ⟨rfl, by decide +kernel, by decide +kernel, _, rfl, _, rfl, by decide +kernel⟩

/-- In simulation the last camera drops out of a green, and the next step has not come yet. -/
example :
    let d := simAfter 10 60 3 2
      (.step (1 / 10) (sampleDemand [.north])
        :: approachNames.map fun lane => .cameraDropout lane.key "OFFLINE")
    d.buildSimSnapshot.safetyStatus = .allRedHold
      ∧ d.buildSimSnapshot.currentYellowLane = some .north := by decide +kernel

end SmartTraffic.Proof
