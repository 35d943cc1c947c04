import SmartTraffic.Simulator.Intersection
import SmartTraffic.Lib.Run

/-!
# The laws of the simulated signal

Runs of the simulator: any sequence of steps and triggers.

One spec for each phase (`apply_green`, `apply_yellow`, `apply_allRed`) says how
a call moves phase, lane and timer; the laws follow from them. Outside the
all-red phase a lane is always set, so a snapshot shows at most one lane that is
not red. Green, yellow and all-red times are countdowns: each lasts at least as
long as its timer was set, unless a trigger or a hold takes the phase away.
-/

namespace SmartTraffic.Proof

open SmartTraffic Lib DigitalIntersection

/-! ## What a call does -/

/-- A status trigger on the lane itself. -/
def Triggers (lane : LaneName) : SimOp → Prop
  | .cameraDropout laneName _ => LaneName.ofKey? laneName.toLower = some lane
  | _ => False

instance (lane : LaneName) (op : SimOp) : Decidable (Triggers lane op) :=
  match op with
  | .cameraDropout _ _ => inferInstanceAs (Decidable (_ = _))
  | .step _ _ => inferInstanceAs (Decidable False)
  | .aiStall _ => inferInstanceAs (Decidable False)

/-- The phase, the lane and the timer are left alone. -/
def SameSignal (d d' : DigitalIntersection) : Prop :=
  d'.simPhaseState = d.simPhaseState ∧ d'.simActiveLane = d.simActiveLane
    ∧ d'.simRemainingSec = d.simRemainingSec

theorem apply_step_of_held {d : DigitalIntersection} (dt : Rat)
    (demands : List (String × LaneDemand)) (h : d.isHeld = true) :
    d.apply (.step dt demands) = ((d.scored demands).hold, none) := by
  show (if (d.scored demands).isHeld = true then _ else _) = _
  rw [if_pos (by rw [scored_isHeld]; exact h)]

theorem apply_step_of_not_held {d : DigitalIntersection} (dt : Rat)
    (demands : List (String × LaneDemand)) (h : d.isHeld = false) :
    d.apply (.step dt demands) = (d.scored demands).progress dt := by
  show (if (d.scored demands).isHeld = true then _ else _) = _
  rw [if_neg (by rw [scored_isHeld, h]; exact Bool.false_ne_true)]

/-- A call that holds ends in the all-red phase with an expired timer. -/
theorem apply_of_holds {d : DigitalIntersection} {op : SimOp} (h : d.holds op = true) :
    (d.apply op).1.simPhaseState = .allRed ∧ (d.apply op).1.simActiveLane = none
      ∧ (d.apply op).1.simRemainingSec = 0 ∧ (d.apply op).2 = none := by
  cases op with
  | step dt demands => rw [apply_step_of_held dt demands h]; exact ⟨rfl, rfl, rfl, rfl⟩
  | cameraDropout laneName status => exact absurd h Bool.false_ne_true
  | aiStall stalled =>
      obtain rfl : stalled = true := h
      exact ⟨rfl, rfl, rfl, rfl⟩

/--
A trigger that does not hold takes no time. It leaves the signal alone, or it
turns the green lane it names yellow.
-/
theorem apply_trigger {d : DigitalIntersection} {op : SimOp} (hno : d.holds op = false)
    (hop : ∀ dt demands, op ≠ .step dt demands) :
    op.dt = 0 ∧ (d.apply op).2 = none
      ∧ (SameSignal d (d.apply op).1
        ∨ (d.simPhaseState = .green ∧ (∃ lane, d.simActiveLane = some lane ∧ Triggers lane op)
          ∧ (d.apply op).1.simPhaseState = .yellow
          ∧ (d.apply op).1.simActiveLane = d.simActiveLane
          ∧ (d.apply op).1.simRemainingSec = d.yellowSec)) := by
  cases op with
  | step dt demands => exact absurd rfl (hop dt demands)
  | cameraDropout laneName status =>
      refine ⟨rfl, rfl, ?_⟩
      show SameSignal d (d.triggerCameraDropout laneName status) ∨ _ ∧ _ ∧
        (d.triggerCameraDropout laneName status).simPhaseState = _ ∧
        (d.triggerCameraDropout laneName status).simActiveLane = _ ∧
        (d.triggerCameraDropout laneName status).simRemainingSec = _
      unfold triggerCameraDropout
      cases hl : LaneName.ofKey? laneName.toLower with
      | none => exact Or.inl ⟨rfl, rfl, rfl⟩
      | some lane =>
          dsimp only
          by_cases hact : d.simActiveLane = some lane ∧ d.simPhaseState = .green
          · rw [if_pos hact]
            exact Or.inr ⟨hact.2, ⟨lane, hact.1, hl⟩, rfl, rfl, rfl⟩
          · rw [if_neg hact]
            exact Or.inl ⟨rfl, rfl, rfl⟩
  | aiStall stalled =>
      obtain rfl : stalled = false := hno
      exact ⟨rfl, rfl, Or.inl ⟨rfl, rfl, rfl⟩⟩

/-- The configured times never change. -/
theorem apply_config (d : DigitalIntersection) (op : SimOp) :
    (d.apply op).1.yellowSec = d.yellowSec ∧ (d.apply op).1.allRedSec = d.allRedSec := by
  cases op with
  | step dt demands =>
      cases hheld : d.isHeld with
      | true =>
          rw [apply_step_of_held dt demands hheld]
          exact ⟨scored_yellowSec d demands, scored_allRedSec d demands⟩
      | false =>
          rw [apply_step_of_not_held dt demands hheld, ← scored_yellowSec d demands,
            ← scored_allRedSec d demands]
          -- no branch of the phase machine writes a parameter
          unfold progress finishAllRed
          dsimp only
          split
          · split_ifs <;> exact ⟨rfl, rfl⟩
          · split_ifs <;> exact ⟨rfl, rfl⟩
          · split_ifs
            · split <;> exact ⟨rfl, rfl⟩
            · exact ⟨rfl, rfl⟩
  | cameraDropout laneName status =>
      show (d.triggerCameraDropout laneName status).yellowSec = _
        ∧ (d.triggerCameraDropout laneName status).allRedSec = _
      unfold triggerCameraDropout
      dsimp only
      split
      · exact ⟨rfl, rfl⟩
      · split_ifs <;> exact ⟨rfl, rfl⟩
  | aiStall stalled => cases stalled <;> exact ⟨rfl, rfl⟩

/-- A call is a step that is not held, or a trigger. -/
theorem step_or_trigger {d : DigitalIntersection} {op : SimOp} (hno : d.holds op = false) :
    (∃ dt demands, op = .step dt demands ∧ d.isHeld = false)
      ∨ ∀ dt demands, op ≠ .step dt demands := by
  cases op with
  | step dt demands => exact Or.inl ⟨dt, demands, rfl, hno⟩
  | cameraDropout laneName status => exact Or.inr fun _ _ h => SimOp.noConfusion h
  | aiStall stalled => exact Or.inr fun _ _ h => SimOp.noConfusion h

/--
A call that does not hold, while a lane is green: the green goes on with a timer
that fell by the time of the call; or the lane turns yellow with a full timer,
because its timer ran out or because its own status was triggered.
-/
theorem apply_green {d : DigitalIntersection} {op : SimOp} (hno : d.holds op = false)
    (hp : d.simPhaseState = .green) :
    (d.apply op).2 = none ∧ (d.apply op).1.simActiveLane = d.simActiveLane
      ∧ (((d.apply op).1.simPhaseState = .green
            ∧ (d.apply op).1.simRemainingSec = d.simRemainingSec - op.dt)
          ∨ ((d.apply op).1.simPhaseState = .yellow
            ∧ (d.apply op).1.simRemainingSec = d.yellowSec
            ∧ (d.simRemainingSec ≤ op.dt
              ∨ ∃ lane, d.simActiveLane = some lane ∧ Triggers lane op))) := by
  rcases step_or_trigger hno with ⟨dt, demands, rfl, hheld⟩ | hop
  · rw [apply_step_of_not_held dt demands hheld]
    unfold progress
    rw [scored_simPhaseState, hp]
    dsimp only [SimOp.dt]
    rw [scored_simRemainingSec]
    -- the timer runs out in this step, or it goes on
    by_cases hle : d.simRemainingSec - dt ≤ 0
    · rw [if_pos hle]
      refine ⟨rfl, scored_simActiveLane d demands, Or.inr ⟨rfl, ?_, Or.inl (by linarith)⟩⟩
      rw [scored_yellowSec]
    · rw [if_neg hle]
      exact ⟨rfl, scored_simActiveLane d demands, Or.inl ⟨rfl, rfl⟩⟩
  · obtain ⟨hdt, hout, ⟨h1, h2, h3⟩ | ⟨-, htrig, h1, h2, h3⟩⟩ := apply_trigger hno hop
    · exact ⟨hout, h2, Or.inl ⟨h1.trans hp, by rw [h3, hdt, sub_zero]⟩⟩
    · exact ⟨hout, h2, Or.inr ⟨h1, h3, Or.inr htrig⟩⟩

/-- The same while a lane is yellow: it goes on, or its timer ran out and all is red. -/
theorem apply_yellow {d : DigitalIntersection} {op : SimOp} (hno : d.holds op = false)
    (hp : d.simPhaseState = .yellow) :
    (d.apply op).2 = none ∧ (d.apply op).1.simActiveLane = d.simActiveLane
      ∧ (((d.apply op).1.simPhaseState = .yellow
            ∧ (d.apply op).1.simRemainingSec = d.simRemainingSec - op.dt)
          ∨ ((d.apply op).1.simPhaseState = .allRed
            ∧ (d.apply op).1.simRemainingSec = d.allRedSec ∧ d.simRemainingSec ≤ op.dt)) := by
  rcases step_or_trigger hno with ⟨dt, demands, rfl, hheld⟩ | hop
  · rw [apply_step_of_not_held dt demands hheld]
    unfold progress
    rw [scored_simPhaseState, hp]
    dsimp only [SimOp.dt]
    rw [scored_simRemainingSec]
    by_cases hle : d.simRemainingSec - dt ≤ 0
    · rw [if_pos hle]
      refine ⟨rfl, scored_simActiveLane d demands, Or.inr ⟨rfl, ?_, by linarith⟩⟩
      rw [scored_allRedSec]
    · rw [if_neg hle]
      exact ⟨rfl, scored_simActiveLane d demands, Or.inl ⟨rfl, rfl⟩⟩
  · obtain ⟨hdt, hout, ⟨h1, h2, h3⟩ | ⟨hgreen, -⟩⟩ := apply_trigger hno hop
    · exact ⟨hout, h2, Or.inl ⟨h1.trans hp, by rw [h3, hdt, sub_zero]⟩⟩
    · exact absurd (hgreen.symm.trans hp) (by decide)

/--
The same while all is red: it stays red with a timer that fell by no more than
the time of the call, or the timer ran out and the granted lane turns green.
-/
theorem apply_allRed {d : DigitalIntersection} {op : SimOp} (hno : d.holds op = false)
    (hp : d.simPhaseState = .allRed) :
    ((d.apply op).1.simPhaseState = .allRed ∧ (d.apply op).2 = none
        ∧ d.simRemainingSec - op.dt ≤ (d.apply op).1.simRemainingSec)
      ∨ (∃ decision, (d.apply op).2 = some decision ∧ (d.apply op).1.simPhaseState = .green
        ∧ (d.apply op).1.simActiveLane = some decision.greenLane
        ∧ (d.apply op).1.simRemainingSec = decision.greenDurationSec
        ∧ d.simRemainingSec ≤ op.dt) := by
  rcases step_or_trigger hno with ⟨dt, demands, rfl, hheld⟩ | hop
  · rw [apply_step_of_not_held dt demands hheld]
    unfold progress
    rw [scored_simPhaseState, hp]
    dsimp only [SimOp.dt]
    rw [scored_simRemainingSec]
    by_cases hle : max 0 (d.simRemainingSec - dt) ≤ 0
    · rw [if_pos hle]
      have hrun : d.simRemainingSec ≤ dt := by
        have := (max_le_iff.mp hle).2
        linarith
      unfold finishAllRed
      split
      · rename_i winner decision hnext
        right
        refine ⟨decision, rfl, rfl, ?_, rfl, hrun⟩
        rw [nextGreen_lane hnext]
      · left
        refine ⟨rfl, rfl, ?_⟩
        show d.simRemainingSec - dt ≤ 0
        linarith
    · rw [if_neg hle]
      left
      exact ⟨rfl, rfl, le_max_right _ _⟩
  · obtain ⟨hdt, hout, ⟨h1, h2, h3⟩ | ⟨hgreen, -⟩⟩ := apply_trigger hno hop
    · exact Or.inl ⟨h1.trans hp, hout, by rw [h3, hdt, sub_zero]⟩
    · exact absurd (hgreen.symm.trans hp) (by decide)

/-! ## What a snapshot shows -/

theorem signalOf_green_iff {d : DigitalIntersection} {lane : LaneName} :
    d.signalOf lane = .green ↔ d.simPhaseState = .green ∧ d.simActiveLane = some lane := by
  unfold signalOf
  constructor
  · intro h
    split_ifs at h with h1
    exact h1
  · intro h; rw [if_pos h]

theorem signalOf_yellow_iff {d : DigitalIntersection} {lane : LaneName} :
    d.signalOf lane = .yellow ↔ d.simPhaseState = .yellow ∧ d.simActiveLane = some lane := by
  unfold signalOf
  constructor
  · intro h
    split_ifs at h with h1 h2
    exact h2
  · intro h
    have hno : ¬(d.simPhaseState = .green ∧ d.simActiveLane = some lane) := by rw [h.1]; simp
    rw [if_neg hno, if_pos h]

/-- An approach that is not red is the active lane, in its green or its yellow. -/
theorem lit_cases {d : DigitalIntersection} {lane : LaneName} (h : d.signalOf lane ≠ .red) :
    d.simActiveLane = some lane ∧ (d.simPhaseState = .green ∨ d.simPhaseState = .yellow) := by
  cases hs : d.signalOf lane with
  | red => exact absurd hs h
  | green => exact ⟨(signalOf_green_iff.mp hs).2, Or.inl (signalOf_green_iff.mp hs).1⟩
  | yellow => exact ⟨(signalOf_yellow_iff.mp hs).2, Or.inr (signalOf_yellow_iff.mp hs).1⟩

/--
A snapshot names the one approach that is not red: it is the only one, and its
colour, the lane of that colour and the phase string agree.
-/
def NamesLitLane (snap : SimSnapshot) : Prop :=
  ∀ lane, (snap.approaches lane).signal ≠ .red →
    (∀ other, (snap.approaches other).signal ≠ .red → other = lane)
      ∧ (((snap.approaches lane).signal = .green ∧ snap.currentGreenLane = some lane
          ∧ snap.currentYellowLane = none ∧ snap.activePhase = lane.key ++ "_green")
        ∨ ((snap.approaches lane).signal = .yellow ∧ snap.currentYellowLane = some lane
          ∧ snap.currentGreenLane = none ∧ snap.activePhase = lane.key ++ "_yellow"))

theorem namesLitLane_buildSimSnapshot (d : DigitalIntersection) :
    NamesLitLane d.buildSimSnapshot := by
  intro lane hlit
  obtain ⟨hlane, hphase⟩ := lit_cases hlit
  refine ⟨fun other hother => ?_, ?_⟩
  · exact Option.some.inj ((lit_cases hother).1.symm.trans hlane)
  · unfold buildSimSnapshot
    dsimp only
    rcases hphase with hp | hp
    · left
      rw [hp, hlane]
      exact ⟨signalOf_green_iff.mpr ⟨hp, hlane⟩, rfl, rfl, rfl⟩
    · right
      rw [hp, hlane]
      exact ⟨signalOf_yellow_iff.mpr ⟨hp, hlane⟩, rfl, rfl, rfl⟩

/-- `step_simulation` returns such a snapshot, and leaves the state of its call. -/
theorem stepSimulation_apply (d : DigitalIntersection) (dt : Rat)
    (demands : List (String × LaneDemand)) :
    (d.stepSimulation dt demands).1 = (d.apply (.step dt demands)).1
      ∧ NamesLitLane (d.stepSimulation dt demands).2 :=
  ⟨rfl, namesLitLane_buildSimSnapshot _⟩

/-! ## The lane is set outside the all-red phase -/

/-- Green and yellow belong to a lane. -/
def LaneSet (d : DigitalIntersection) : Prop :=
  d.simPhaseState ≠ .allRed → ∃ lane, d.simActiveLane = some lane

theorem laneSet_init (a b y r : Int) : LaneSet (DigitalIntersection.init a b y r) :=
  fun h => absurd rfl h

theorem laneSet_step {d : DigitalIntersection} (op : SimOp) (h : LaneSet d) :
    LaneSet (d.apply op).1 := by
  intro hne
  cases hh : d.holds op with
  | true => exact absurd (apply_of_holds hh).1 hne
  | false =>
      cases hp : d.simPhaseState with
      | green => rw [(apply_green hh hp).2.1]; exact h (by rw [hp]; decide)
      | yellow => rw [(apply_yellow hh hp).2.1]; exact h (by rw [hp]; decide)
      | allRed =>
          rcases apply_allRed hh hp with ⟨hred, -⟩ | ⟨decision, -, -, hlane, -⟩
          · exact absurd hred hne
          · exact ⟨_, hlane⟩

/-! ## Green and yellow times -/

/-- **A yellow that no hold cuts lasts at least as long as its timer was set.** -/
theorem yellow_duration {d : DigitalIntersection} {lane : LaneName} {mid : List SimOp}
    {last : SimOp}
    (h : Spell DigitalIntersection.apply (fun d => d.signalOf lane = .yellow) d mid last)
    (hno : ∀ e ∈ events DigitalIntersection.apply d (mid ++ [last]), e.pre.holds e.input = false) :
    d.simRemainingSec ≤ ((mid ++ [last]).map SimOp.dt).sum := by
  refine h.timer_le simRemainingSec SimOp.dt (fun d op => d.holds op = false) ?_ ?_ hno
  · intro s op hon hop hon'
    obtain ⟨-, -, ⟨-, hrem⟩ | ⟨hred, -⟩⟩ := apply_yellow hop (signalOf_yellow_iff.mp hon).1
    · exact hrem.ge
    · exact absurd (hred.symm.trans (signalOf_yellow_iff.mp hon').1) (by decide)
  · intro s op hon hop hoff
    obtain ⟨hp, hlane⟩ := signalOf_yellow_iff.mp hon
    obtain ⟨-, hl, ⟨hy, -⟩ | ⟨-, -, hrun⟩⟩ := apply_yellow hop hp
    · exact absurd (signalOf_yellow_iff.mpr ⟨hy, hl.trans hlane⟩) hoff
    · exact hrun

/-- **A green that no hold and no trigger of its lane cuts lasts as long as its timer was set.** -/
theorem green_duration {d : DigitalIntersection} {lane : LaneName} {mid : List SimOp} {last : SimOp}
    (h : Spell DigitalIntersection.apply (fun d => d.signalOf lane = .green) d mid last)
    (hno : ∀ e ∈ events DigitalIntersection.apply d (mid ++ [last]),
      e.pre.holds e.input = false ∧ ¬Triggers lane e.input) :
    d.simRemainingSec ≤ ((mid ++ [last]).map SimOp.dt).sum := by
  refine h.timer_le simRemainingSec SimOp.dt
    (fun d op => d.holds op = false ∧ ¬Triggers lane op) ?_ ?_ hno
  · intro s op hon hop hon'
    obtain ⟨-, -, ⟨-, hrem⟩ | ⟨hy, -⟩⟩ := apply_green hop.1 (signalOf_green_iff.mp hon).1
    · exact hrem.ge
    · exact absurd (hy.symm.trans (signalOf_green_iff.mp hon').1) (by decide)
  · intro s op hon hop hoff
    obtain ⟨hp, hlane⟩ := signalOf_green_iff.mp hon
    obtain ⟨-, hl, ⟨hg, -⟩ | ⟨-, -, hrun | ⟨l, hact, htrig⟩⟩⟩ := apply_green hop.1 hp
    · exact absurd (signalOf_green_iff.mpr ⟨hg, hl.trans hlane⟩) hoff
    · exact hrun
    · obtain rfl := Option.some.inj (hact.symm.trans hlane)
      exact absurd htrig hop.2

/-- A decision is only taken while all is red, and its lane turns green for its time. -/
theorem apply_decision {d : DigitalIntersection} {op : SimOp} {decision : SignalDecision LaneName}
    (h : (d.apply op).2 = some decision) :
    (d.apply op).1.signalOf decision.greenLane = .green
      ∧ (d.apply op).1.simRemainingSec = decision.greenDurationSec := by
  cases hh : d.holds op with
  | true => exact absurd ((apply_of_holds hh).2.2.2.symm.trans h) (by simp)
  | false =>
      cases hp : d.simPhaseState with
      | green => exact absurd ((apply_green hh hp).1.symm.trans h) (by simp)
      | yellow => exact absurd ((apply_yellow hh hp).1.symm.trans h) (by simp)
      | allRed =>
          rcases apply_allRed hh hp with ⟨-, hnone, -⟩ | ⟨dec, hdec, hg, hlane, hrem, -⟩
          · exact absurd (hnone.symm.trans h) (by simp)
          · obtain rfl := Option.some.inj (hdec.symm.trans h)
            exact ⟨signalOf_green_iff.mpr ⟨hg, hlane⟩, hrem⟩

/-! ## The laws of a run -/

/-- The simulated time of a stretch of calls. -/
def simTime (ops : List SimOp) : Rat := (ops.map SimOp.dt).sum

/-- No call of the stretch is a stall or a held step. -/
def Unheld (d : DigitalIntersection) (ops : List SimOp) : Prop :=
  ∀ e ∈ events DigitalIntersection.apply d ops, e.pre.holds e.input = false

/-- No call of the stretch triggers the status of `lane`. -/
def Untriggered (lane : LaneName) (ops : List SimOp) : Prop := ∀ op ∈ ops, ¬Triggers lane op

/-- `lane` shows `color` from `d` through `mid`, and no more after `last`. -/
def Shows (color : SignalColor) (lane : LaneName) (d : DigitalIntersection) (mid : List SimOp)
    (last : SimOp) : Prop :=
  Spell DigitalIntersection.apply (fun d => d.signalOf lane = color) d mid last

/-- The call takes the green from `lane`, without a stall or a hold. -/
def LeavesGreen (d : DigitalIntersection) (op : SimOp) (lane : LaneName) : Prop :=
  d.signalOf lane = .green ∧ d.holds op = false ∧ (d.apply op).1.signalOf lane ≠ .green

/-- A lane that leaves GREEN turns YELLOW, and a YELLOW that no hold cuts lasts `yellow` seconds. -/
def YellowLaw (yellow : Int) (d : DigitalIntersection) : Prop :=
  ∀ op lane, LeavesGreen d op lane → (d.apply op).1.signalOf lane = .yellow
    ∧ ∀ mid last, Shows .yellow lane (d.apply op).1 mid last →
        Unheld (d.apply op).1 (mid ++ [last]) → (yellow : Rat) ≤ simTime (mid ++ [last])

/--
The lane of a decision turns GREEN, and a GREEN that neither a hold nor a trigger
of the lane cuts lasts the time the decision granted.
-/
def GreenLaw (d : DigitalIntersection) : Prop :=
  ∀ op decision, (d.apply op).2 = some decision →
    (d.apply op).1.signalOf decision.greenLane = .green
      ∧ ∀ mid last, Shows .green decision.greenLane (d.apply op).1 mid last →
          Unheld (d.apply op).1 (mid ++ [last]) →
          Untriggered decision.greenLane (mid ++ [last]) →
          (decision.greenDurationSec : Rat) ≤ simTime (mid ++ [last])

/-- The state a run of a new simulator ends in. -/
def simAfter (minGreen maxGreen yellow allRed : Int) (run : List SimOp) : DigitalIntersection :=
  final DigitalIntersection.apply (DigitalIntersection.init minGreen maxGreen yellow allRed) run

theorem simAfter_laneSet (minGreen maxGreen yellow allRed : Int) (run : List SimOp) :
    LaneSet (simAfter minGreen maxGreen yellow allRed run) :=
  final_invariant_of_step (fun _ op h => laneSet_step op h) (laneSet_init _ _ _ _) run

theorem simAfter_config (minGreen maxGreen yellow allRed : Int) (run : List SimOp) :
    (simAfter minGreen maxGreen yellow allRed run).yellowSec = yellow
      ∧ (simAfter minGreen maxGreen yellow allRed run).allRedSec = allRed := by
  have hstep : ∀ (d : DigitalIntersection) (op : SimOp),
      d.yellowSec = yellow ∧ d.allRedSec = allRed →
      (d.apply op).1.yellowSec = yellow ∧ (d.apply op).1.allRedSec = allRed := by
    intro d op h
    obtain ⟨hy, hr⟩ := apply_config d op
    exact ⟨hy.trans h.1, hr.trans h.2⟩
  exact final_invariant_of_step hstep ⟨rfl, rfl⟩ run

theorem yellowLaw_of_config {d : DigitalIntersection} {yellow : Int} (h : d.yellowSec = yellow) :
    YellowLaw yellow d := by
  intro op lane hleaves
  obtain ⟨hgreen, hno, hleft⟩ := hleaves
  obtain ⟨hp, hlane⟩ := signalOf_green_iff.mp hgreen
  obtain ⟨-, hl, ⟨hg, -⟩ | ⟨hy, hrem, -⟩⟩ := apply_green hno hp
  · exact absurd (signalOf_green_iff.mpr ⟨hg, hl.trans hlane⟩) hleft
  · refine ⟨signalOf_yellow_iff.mpr ⟨hy, hl.trans hlane⟩, fun mid last hshows hfree => ?_⟩
    rw [← h, ← hrem]
    exact yellow_duration hshows hfree

theorem greenLaw (d : DigitalIntersection) : GreenLaw d := by
  intro op decision hdec
  obtain ⟨hgreen, hrem⟩ := apply_decision hdec
  refine ⟨hgreen, fun mid last hshows hfree huntrig => ?_⟩
  rw [← hrem]
  refine green_duration hshows fun e he => ⟨hfree e he, ?_⟩
  obtain ⟨before, op', rest, hsplit, rfl⟩ := (mem_events_iff _).mp he
  exact huntrig op' (by rw [hsplit]; exact List.mem_append_right _ List.mem_cons_self)

/--
**Mutual exclusion, and the yellow and green times.**

After every run of a new simulator, with any parameters, steps and triggers: a
snapshot shows at most one approach that is not red and names it; the yellow law
holds, and so does the green law.
-/
theorem simulator_signal_laws (minGreen maxGreen yellow allRed : Int) (run : List SimOp) :
    NamesLitLane (simAfter minGreen maxGreen yellow allRed run).buildSimSnapshot
      ∧ YellowLaw yellow (simAfter minGreen maxGreen yellow allRed run)
      ∧ GreenLaw (simAfter minGreen maxGreen yellow allRed run) :=
  ⟨namesLitLane_buildSimSnapshot _, yellowLaw_of_config (simAfter_config _ _ _ _ run).1, greenLaw _⟩

/-- One vehicle on each of the given approaches. -/
def sampleDemand (lanes : List LaneName) : List (String × LaneDemand) :=
  lanes.map fun l => (l.key, { vehicles := some 1, pce := some 1 })

/-- North is green, its camera degrades, and a stall cuts the yellow at once. -/
theorem stall_cuts_yellow : ¬∀ (minGreen maxGreen yellow allRed : Int) (run : List SimOp) op lane,
    LeavesGreen (simAfter minGreen maxGreen yellow allRed run) op lane →
    ∀ mid last, Shows .yellow lane
        ((simAfter minGreen maxGreen yellow allRed run).apply op).1 mid last →
      (yellow : Rat) ≤ simTime (mid ++ [last]) := by
  intro h
  have hleaves : LeavesGreen (simAfter 10 60 3 2 [.step (1 / 10) (sampleDemand [.north])])
      (.cameraDropout "north" "DEGRADED") .north := by
    unfold LeavesGreen; decide +kernel
  have hshows : Shows .yellow .north ((simAfter 10 60 3 2
      [.step (1 / 10) (sampleDemand [.north])]).apply (.cameraDropout "north" "DEGRADED")).1 []
      (.aiStall true) :=
    ⟨by decide +kernel, fun e he => absurd he List.not_mem_nil, by decide +kernel⟩
  exact absurd (h 10 60 3 2 _ _ _ hleaves [] (.aiStall true) hshows) (by decide +kernel)

end SmartTraffic.Proof
