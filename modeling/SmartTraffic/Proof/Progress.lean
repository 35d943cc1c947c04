import SmartTraffic.Proof.Evidence

/-!
# The signal moves forward

Between the start of a phase and the start of the next one the reported state goes
from GREEN over YELLOW to ALL_RED, and what is left of the green only falls.

The clock alone would give this, but the empty-lane rule rewrites the green while
it runs. It may do so once: the timer of an empty approach is never older than
its phase, so at least one second of green has passed when it runs out, and the
whole seconds that are left as the green are over at that very step.
-/

namespace SmartTraffic.Proof

open SmartTraffic Lib PipelineWorld TrafficPipeline

/-- The place of a state in the order of a phase. -/
def stateRank : SignalState → Nat
  | .green => 0
  | .yellow => 1
  | .allRed => 2

/-- The greens that were reported with a decision, in order. -/
def reportedGreens (es : List StepEvent) : List Int :=
  es.filterMap fun e => e.out.signalDecision.map (·.greenDurationSec)

/-- One value, and from some point on a smaller positive one. -/
def FallsOnce (gs : List Int) : Prop :=
  ∃ g g' n m, gs = List.replicate n g ++ List.replicate m g' ∧ (m = 0 ∨ 1 ≤ g' ∧ g' < g)

/-- What the steps of one phase report. -/
structure OneWay (es : List StepEvent) : Prop where
  /-- GREEN, then YELLOW, then ALL_RED. -/
  forward : es.Pairwise fun e e' => stateRank e.out.signalState ≤ stateRank e'.out.signalState
  /-- What is left of the green never grows. -/
  remaining : es.Pairwise fun e e' => e'.out.remainingGreenSec ≤ e.out.remainingGreenSec
  /-- Something is left exactly while the state is GREEN. -/
  positive : ∀ e ∈ es, 0 < e.out.remainingGreenSec ↔ e.out.signalState = .green
  /-- The green changes at most once, and falls. -/
  once : FallsOnce (reportedGreens es)
  /-- The step that shortens the green reports YELLOW. -/
  shortened : ∀ e ∈ es, e.out.isPhaseChange = false → ∀ d ∈ e.pre.pipeline.activeDecision,
    ∀ d' ∈ e.out.signalDecision, d'.greenDurationSec ≠ d.greenDurationSec →
      e.out.signalState = .yellow

/-! ## One report -/

theorem signalStateAt_eq_green_iff {d : SignalDecision LaneName} {t : Rat} :
    signalStateAt d t = .green ↔ t < d.greenDurationSec := by
  unfold signalStateAt
  constructor
  · intro h
    by_contra hlt
    rw [if_neg hlt] at h
    split_ifs at h
  · intro h; rw [if_pos h]

theorem signalStateAt_eq_yellow {d : SignalDecision LaneName} {t : Rat}
    (hgreen : (d.greenDurationSec : Rat) ≤ t)
    (hyellow : t < (d.greenDurationSec + d.yellowDurationSec : Int)) :
    signalStateAt d t = .yellow := by
  unfold signalStateAt
  rw [if_neg (not_lt.mpr hgreen), if_pos hyellow]

/-- **A later look at the same phase, or at a shorter green, is no further back.** -/
theorem stateRank_mono {d d' : SignalDecision LaneName} {t t' : Rat} (ht : t ≤ t')
    (hg : d'.greenDurationSec ≤ d.greenDurationSec)
    (hy : d'.yellowDurationSec = d.yellowDurationSec) :
    stateRank (signalStateAt d t) ≤ stateRank (signalStateAt d' t') := by
  have hg' : (d'.greenDurationSec : Rat) ≤ d.greenDurationSec := by exact_mod_cast hg
  have hgy : ((d'.greenDurationSec + d'.yellowDurationSec : Int) : Rat)
      ≤ (d.greenDurationSec + d.yellowDurationSec : Int) := by
    rw [hy]; exact_mod_cast (by omega)
  by_cases h1 : t < d.greenDurationSec
  · rw [signalStateAt_eq_green_iff.mpr h1]; exact Nat.zero_le _
  · have h1' : ¬t' < d'.greenDurationSec := by intro h; exact h1 (by linarith)
    unfold signalStateAt
    rw [if_neg h1, if_neg h1']
    by_cases h2 : t < (d.greenDurationSec + d.yellowDurationSec : Int)
    · rw [if_pos h2]
      split_ifs
      · exact le_refl _
      · decide
    · have h2' : ¬t' < (d'.greenDurationSec + d'.yellowDurationSec : Int) := by
        intro h; exact h2 (by linarith)
      rw [if_neg h2, if_neg h2']

theorem remaining_pos_iff {out : PipelineResult} {d : SignalDecision LaneName} {t : Rat}
    (h : ShowsPhase out d t) : 0 < out.remainingGreenSec ↔ out.signalState = .green := by
  rw [h.remaining, h.state, signalStateAt_eq_green_iff, lt_max_iff]
  constructor
  · rintro (h0 | h0)
    · exact absurd h0 (lt_irrefl 0)
    · have := Int.ceil_pos.mp h0
      linarith
  · intro hlt
    exact Or.inr (Int.ceil_pos.mpr (by linarith))

theorem processStep_remaining_pos_iff (w : PipelineWorld) (i : StepInput) :
    0 < (w.processStep i).2.remainingGreenSec ↔ (w.processStep i).2.signalState = .green := by
  rcases processStep_shows w i with ⟨-, h⟩ | ⟨d, -, h⟩
  · rw [h.remaining, h.state]; decide
  · exact remaining_pos_iff h

theorem processStep_remaining_nonneg (w : PipelineWorld) (i : StepInput) :
    0 ≤ (w.processStep i).2.remainingGreenSec := by
  rcases processStep_shows w i with ⟨-, h⟩ | ⟨d, -, h⟩
  · rw [h.remaining]
  · rw [h.remaining]; exact le_max_left _ _

/-! ## The phase that was started at `t₀` -/

/-- What holds while the phase of `d`, started at `t₀`, is active. -/
structure PhaseSince (t₀ : Rat) (w : PipelineWorld) (d : SignalDecision LaneName) : Prop where
  start : w.pipeline.phaseStartTime = t₀
  /-- Its timer is no older than the phase. -/
  timer : ∀ since, w.pipeline.activeEmptySince = some since → t₀ ≤ since
  /-- A start that the code takes for none has a short green. -/
  unstarted : t₀ ≤ 0 → d.greenDurationSec ≤ 999
  yellow : 1 ≤ d.yellowDurationSec

/-- The active phase, if there is one, was started at `t₀`. -/
def InPhase (t₀ : Rat) (w : PipelineWorld) : Prop :=
  ∀ d, w.pipeline.activeDecision = some d → PhaseSince t₀ w d

/-- The step comes after the start and starts nothing itself. -/
structure WithinPhase (t₀ : Rat) (w : PipelineWorld) (i : StepInput) : Prop where
  later : t₀ ≤ i.currentMonoTime
  noStart : (w.processStep i).2.isPhaseChange = false

/--
**What a release leaves as the green**: the whole seconds that have passed since
the phase started, at least one of them, and fewer than the green had.
-/
theorem releasedGreen_bounds {t₀ : Rat} {w : PipelineWorld} {i : StepInput}
    {d : SignalDecision LaneName} (hd : w.pipeline.activeDecision = some d)
    (h : PhaseSince t₀ w d) (hrel : w.releasesEmpty i = true) :
    1 ≤ w.pipeline.releasedGreen i.currentMonoTime
      ∧ w.pipeline.releasedGreen i.currentMonoTime < d.greenDurationSec
      ∧ (w.pipeline.releasedGreen i.currentMonoTime : Rat) ≤ i.currentMonoTime - t₀
      ∧ i.currentMonoTime - t₀ < w.pipeline.releasedGreen i.currentMonoTime + 1 := by
  obtain ⟨-, ⟨since, hsince, hlong⟩, d', hd', hgreen⟩ := releasesEmpty_iff.mp hrel
  obtain rfl := Option.some.inj (hd.symm.trans hd')
  have hpos : 0 < w.pipeline.phaseStartTime := by
    by_contra hneg
    unfold elapsedSec at hgreen
    rw [if_neg hneg] at hgreen
    have hle := h.unstarted (h.start ▸ not_lt.mp hneg)
    have : (999 : Int) < d.greenDurationSec := by exact_mod_cast hgreen
    omega
  have helapsed : w.pipeline.elapsedSec i.currentMonoTime = i.currentMonoTime - t₀ := by
    unfold elapsedSec; rw [if_pos hpos, h.start]
  have hone : 1 ≤ i.currentMonoTime - t₀ := by
    have := h.timer since hsince
    unfold Config.emptyLaneReleaseSec at hlong
    linarith
  have hfloor : 1 ≤ ⌊i.currentMonoTime - t₀⌋ := Int.le_floor.mpr (by exact_mod_cast hone)
  have heq : w.pipeline.releasedGreen i.currentMonoTime = ⌊i.currentMonoTime - t₀⌋ := by
    unfold releasedGreen; rw [helapsed, max_eq_right hfloor]
  rw [helapsed] at hgreen
  rw [heq]
  refine ⟨hfloor, ?_, Int.floor_le _, Int.lt_floor_add_one _⟩
  have := (Int.floor_le (i.currentMonoTime - t₀)).trans_lt hgreen
  exact_mod_cast this

/-- **A step within a phase** leaves no decision, the same one, or one with a shorter green. -/
theorem withinPhase_cases {t₀ : Rat} {w : PipelineWorld} {i : StepInput} (h : InPhase t₀ w)
    (hi : WithinPhase t₀ w i) :
    (w.processStep i).1.pipeline.activeDecision = none
      ∨ ∃ d, w.pipeline.activeDecision = some d
        ∧ (w.processStep i).1.pipeline.phaseStartTime = t₀
        ∧ (∀ since, (w.processStep i).1.pipeline.activeEmptySince = some since → t₀ ≤ since)
        ∧ ((w.releasesEmpty i = false
            ∧ (w.processStep i).1.pipeline.activeDecision = some d)
          ∨ (w.releasesEmpty i = true
            ∧ (w.processStep i).1.pipeline.activeDecision = some
              { d with greenDurationSec := w.pipeline.releasedGreen i.currentMonoTime })) := by
  rcases processStep_of_not_isPhaseChange hi.noStart with hnone | ⟨d', hd', hw⟩
  · exact Or.inl hnone
  · right
    rw [hw]
    dsimp only
    rw [observed_activeDecision] at hd' ⊢
    cases hd : w.pipeline.activeDecision with
    | none => rw [hd] at hd'; split_ifs at hd'; all_goals cases hd'
    | some d =>
        have hphase := h d hd
        refine ⟨d, rfl, (observed_phaseStartTime w i).trans hphase.start, ?_, ?_⟩
        · -- the timer runs on, starts now, or stops
          intro since hsince
          rw [observed_activeEmptySince] at hsince
          split_ifs at hsince with hempty hoccupied
          · obtain rfl := Option.some.inj hsince
            cases hs : w.pipeline.activeEmptySince with
            | none => exact hi.later
            | some since => exact hphase.timer since hs
          · exact hphase.timer since hsince
        · cases hrel : w.releasesEmpty i with
          -- a release shortens the green, all else stays
          | false => left; exact ⟨rfl, rfl⟩
          | true => right; exact ⟨rfl, rfl⟩

/-- **A step within the phase keeps what is known of it.** -/
theorem inPhase_step {t₀ : Rat} {w : PipelineWorld} {i : StepInput} (h : InPhase t₀ w)
    (hi : WithinPhase t₀ w i) : InPhase t₀ (w.processStep i).1 := by
  intro d' hd'
  rcases withinPhase_cases h hi with hnone | ⟨d, hd, hstart, htimer, ⟨-, hkeep⟩ | ⟨hrel, hshort⟩⟩
  · rw [hnone] at hd'; cases hd'
  · obtain rfl := Option.some.inj (hkeep.symm.trans hd')
    have hphase := h d hd
    exact ⟨hstart, htimer, hphase.unstarted, hphase.yellow⟩
  · obtain rfl := Option.some.inj (hshort.symm.trans hd')
    have hphase := h d hd
    obtain ⟨-, hlt, -, -⟩ := releasedGreen_bounds hd hphase hrel
    exact ⟨hstart, htimer, fun h0 => (hlt.le.trans (hphase.unstarted h0)), hphase.yellow⟩

/-! ## Two reports of one phase -/

/-- `d` is the decision `d₀`, or has a shorter positive green. -/
structure Shortened (d₀ d : SignalDecision LaneName) : Prop where
  yellow : d.yellowDurationSec = d₀.yellowDurationSec
  green : d.greenDurationSec = d₀.greenDurationSec
    ∨ 1 ≤ d.greenDurationSec ∧ d.greenDurationSec < d₀.greenDurationSec

theorem Shortened.le {d₀ d : SignalDecision LaneName} (h : Shortened d₀ d) :
    d.greenDurationSec ≤ d₀.greenDurationSec := by
  rcases h.green with heq | ⟨-, hlt⟩
  · exact heq.le
  · exact hlt.le

/-- What a report has left behind: the active decision is the reported one, or shorter. -/
def Reported (t₀ : Rat) (e : StepEvent) (w : PipelineWorld) (c : Rat) : Prop :=
  0 ≤ e.out.remainingGreenSec ∧ ∀ d, w.pipeline.activeDecision = some d →
    ∃ d₀, ShowsPhase e.out d₀ (e.input.currentMonoTime - t₀) ∧ e.input.currentMonoTime ≤ c
      ∧ Shortened d₀ d

/-- A later report of the same phase. -/
structure MovesOn (e e' : StepEvent) : Prop where
  state : stateRank e.out.signalState ≤ stateRank e'.out.signalState
  remaining : e'.out.remainingGreenSec ≤ e.out.remainingGreenSec

theorem reported_self {t₀ : Rat} {w : PipelineWorld} {i : StepInput}
    (h : InPhase t₀ (w.processStep i).1) :
    Reported t₀ (eventOf processStep w i) (w.processStep i).1 i.currentMonoTime := by
  refine ⟨processStep_remaining_nonneg w i, fun d hd => ?_⟩
  rcases processStep_shows w i with ⟨hnone, -⟩ | ⟨d', hd', hshows⟩
  · rw [hnone] at hd; cases hd
  · obtain rfl := Option.some.inj (hd'.symm.trans hd)
    rw [(h d' hd).start] at hshows
    exact ⟨d', hshows, le_refl _, rfl, Or.inl rfl⟩

theorem reported_step {t₀ : Rat} {e : StepEvent} {w : PipelineWorld} {c : Rat} {i : StepInput}
    (h : InPhase t₀ w) (hi : WithinPhase t₀ w i) (hc : c ≤ i.currentMonoTime)
    (hr : Reported t₀ e w c) : Reported t₀ e (w.processStep i).1 i.currentMonoTime := by
  refine ⟨hr.1, fun d' hd' => ?_⟩
  rcases withinPhase_cases h hi with hnone | ⟨d, hd, -, -, ⟨-, hkeep⟩ | ⟨hrel, hshort⟩⟩
  · rw [hnone] at hd'; cases hd'
  · obtain rfl := Option.some.inj (hkeep.symm.trans hd')
    obtain ⟨d₀, hshows, hle, hs⟩ := hr.2 d hd
    exact ⟨d₀, hshows, hle.trans hc, hs⟩
  · obtain rfl := Option.some.inj (hshort.symm.trans hd')
    obtain ⟨d₀, hshows, hle, hs⟩ := hr.2 d hd
    obtain ⟨hone, hlt, -, -⟩ := releasedGreen_bounds hd (h d hd) hrel
    exact ⟨d₀, hshows, hle.trans hc, hs.yellow, Or.inr ⟨hone, hlt.trans_le hs.le⟩⟩

theorem movesOn_of_reported {t₀ : Rat} {e : StepEvent} {w : PipelineWorld} {i : StepInput}
    (h : InPhase t₀ (w.processStep i).1)
    (hr : Reported t₀ e (w.processStep i).1 i.currentMonoTime) :
    MovesOn e (eventOf processStep w i) := by
  show MovesOn e ⟨w, i, (w.processStep i).2, (w.processStep i).1⟩
  rcases processStep_shows w i with ⟨-, hshows⟩ | ⟨d, hd, hshows⟩
  · refine ⟨?_, ?_⟩
    · show _ ≤ stateRank (w.processStep i).2.signalState
      rw [hshows.state]
      cases e.out.signalState <;> decide
    · show (w.processStep i).2.remainingGreenSec ≤ _
      rw [hshows.remaining]; exact hr.1
  · obtain ⟨d₀, hshows₀, hle, hs⟩ := hr.2 d hd
    rw [(h d hd).start] at hshows
    have ht : e.input.currentMonoTime - t₀ ≤ i.currentMonoTime - t₀ := by linarith
    refine ⟨?_, ?_⟩
    · show _ ≤ stateRank (w.processStep i).2.signalState
      rw [hshows₀.state, hshows.state]
      exact stateRank_mono ht hs.le hs.yellow
    · show (w.processStep i).2.remainingGreenSec ≤ _
      rw [hshows₀.remaining, hshows.remaining]
      have hg : (d.greenDurationSec : Rat) ≤ d₀.greenDurationSec := by exact_mod_cast hs.le
      exact max_le_max (le_refl 0) (Int.ceil_mono (by linarith))

theorem movesOn_rule (t₀ : Rat) : SinceRule processStep StepInput.currentMonoTime (InPhase t₀)
    (WithinPhase t₀) (Reported t₀) MovesOn where
  inv _ _ h hi := inPhase_step h hi
  establish _ _ h hi := reported_self (inPhase_step h hi)
  keep _ _ _ _ h hi hc hr := reported_step h hi hc hr
  relate _ _ _ _ h hi hc hr := movesOn_of_reported (inPhase_step h hi) (reported_step h hi hc hr)

/-! ## The green changes once -/

theorem reportedGreens_cons (e : StepEvent) (es : List StepEvent) :
    reportedGreens (e :: es)
      = (e.out.signalDecision.map (·.greenDurationSec)).toList ++ reportedGreens es := by
  unfold reportedGreens
  rw [List.filterMap_cons]
  cases e.out.signalDecision.map (·.greenDurationSec) with
  | none => rfl
  | some g => rfl

/-- What a step reports as the green is the one it leaves. -/
theorem reportedGreens_step (w : PipelineWorld) (i : StepInput) (mid : List StepInput) :
    reportedGreens (events processStep w (i :: mid))
      = ((w.processStep i).1.pipeline.activeDecision.map (·.greenDurationSec)).toList
        ++ reportedGreens (events processStep (w.processStep i).1 mid) := by
  rw [events_cons, reportedGreens_cons]
  show ((w.processStep i).2.signalDecision.map (·.greenDurationSec)).toList ++ _ = _
  rcases processStep_shows w i with ⟨hnone, hshows⟩ | ⟨d, hd, hshows⟩
  · rw [hnone, hshows.decision]
  · rw [hd, hshows.decision]

/-- **A green that is over is not shortened any more.** -/
theorem reportedGreens_spent {t₀ : Rat} {g : Int} {w : PipelineWorld} {mid : List StepInput}
    {c : Rat} (h : InPhase t₀ w)
    (hspent : ∀ d, w.pipeline.activeDecision = some d →
      d.greenDurationSec = g ∧ (g : Rat) ≤ c - t₀)
    (hc : (c :: mid.map (·.currentMonoTime)).Pairwise (· ≤ ·))
    (hmid : ∀ e ∈ events processStep w mid, WithinPhase t₀ e.pre e.input) :
    ∀ g' ∈ reportedGreens (events processStep w mid), g' = g := by
  induction mid generalizing w c with
  | nil => intro g' hg'; exact absurd hg' List.not_mem_nil
  | cons i mid ih =>
      have hi : WithinPhase t₀ w i := hmid _ List.mem_cons_self
      obtain ⟨hle, hrest⟩ := List.pairwise_cons.mp hc
      have hci : c ≤ i.currentMonoTime := hle _ (List.mem_map_of_mem List.mem_cons_self)
      have hnext : ∀ d, (w.processStep i).1.pipeline.activeDecision = some d →
          d.greenDurationSec = g ∧ (g : Rat) ≤ i.currentMonoTime - t₀ := by
        intro d' hd'
        rcases withinPhase_cases h hi with hnone | ⟨d, hd, -, -, ⟨-, hkeep⟩ | ⟨hrel, -⟩⟩
        · rw [hnone] at hd'; cases hd'
        · obtain rfl := Option.some.inj (hkeep.symm.trans hd')
          obtain ⟨hg, hover⟩ := hspent d hd
          exact ⟨hg, by linarith⟩
        · -- a release needs a green that is still running
          obtain ⟨hg, hover⟩ := hspent d hd
          obtain ⟨-, hlt, -, hlast⟩ := releasedGreen_bounds hd (h d hd) hrel
          have hlt' : (w.pipeline.releasedGreen i.currentMonoTime : Rat) + 1
              ≤ g := by rw [← hg]; exact_mod_cast hlt
          linarith
      intro g' hg'
      rw [reportedGreens_step] at hg'
      rcases List.mem_append.mp hg' with hg' | hg'
      · obtain ⟨d, hd, rfl⟩ := Option.map_eq_some_iff.mp (Option.mem_toList.mp hg')
        exact (hnext d hd).1
      · exact ih (inPhase_step h hi) hnext hrest
          (fun e he => hmid e (List.mem_cons_of_mem _ he)) g' hg'

theorem fallsOnce_cons_self {g g' : Int} {gs : List Int} {n m : Nat}
    (h : gs = List.replicate n g ++ List.replicate m g') :
    g :: gs = List.replicate (n + 1) g ++ List.replicate m g' := by
  rw [h, List.replicate_succ, List.cons_append]

/-- **A green that is granted falls at most once.** -/
theorem reportedGreens_granted {t₀ : Rat} {g : Int} {w : PipelineWorld} {mid : List StepInput}
    {c : Rat} (h : InPhase t₀ w)
    (hgranted : ∀ d, w.pipeline.activeDecision = some d → d.greenDurationSec = g)
    (hc : (c :: mid.map (·.currentMonoTime)).Pairwise (· ≤ ·))
    (hmid : ∀ e ∈ events processStep w mid, WithinPhase t₀ e.pre e.input) :
    ∃ g' n m, reportedGreens (events processStep w mid)
      = List.replicate n g ++ List.replicate m g' ∧ (m = 0 ∨ 1 ≤ g' ∧ g' < g) := by
  induction mid generalizing w c with
  | nil => exact ⟨g, 0, 0, rfl, Or.inl rfl⟩
  | cons i mid ih =>
      have hi : WithinPhase t₀ w i := hmid _ List.mem_cons_self
      have hrest := (List.pairwise_cons.mp hc).2
      have hmid' : ∀ e ∈ events processStep (w.processStep i).1 mid,
          WithinPhase t₀ e.pre e.input := fun e he => hmid e (List.mem_cons_of_mem _ he)
      have hnext := inPhase_step h hi
      rw [reportedGreens_step]
      rcases withinPhase_cases h hi with hnone | ⟨d, hd, -, -, ⟨-, hkeep⟩ | ⟨hrel, hshort⟩⟩
      · -- the phase is gone
        have hno : ∀ d, (w.processStep i).1.pipeline.activeDecision = some d →
            d.greenDurationSec = g := by
          intro d hd; rw [hnone] at hd; cases hd
        rw [hnone]
        exact ih hnext hno hrest hmid'
      · -- the same green once more in front
        have hsame : ∀ d', (w.processStep i).1.pipeline.activeDecision = some d' →
            d'.greenDurationSec = g := by
          intro d' hd'
          obtain rfl := Option.some.inj (hkeep.symm.trans hd')
          exact hgranted d hd
        obtain ⟨g', n, m, heq, hm⟩ := ih hnext hsame hrest hmid'
        refine ⟨g', n + 1, m, ?_, hm⟩
        rw [hkeep, Option.map_some, hgranted d hd, Option.toList_some, List.singleton_append]
        exact fallsOnce_cons_self heq
      · -- from here on the shorter green is over
        obtain ⟨hone, hlt, hover, -⟩ := releasedGreen_bounds hd (h d hd) hrel
        have hspent := reportedGreens_spent (c := i.currentMonoTime)
          (g := w.pipeline.releasedGreen i.currentMonoTime) hnext
          (fun d' hd' => by
            obtain rfl := Option.some.inj (hshort.symm.trans hd')
            exact ⟨rfl, hover⟩) hrest hmid'
        have hall := List.eq_replicate_of_mem hspent
        refine ⟨w.pipeline.releasedGreen i.currentMonoTime, 0,
          (reportedGreens (events processStep (w.processStep i).1 mid)).length + 1, ?_, Or.inr
            ⟨hone, hlt.trans_eq (hgranted d hd)⟩⟩
        rw [hshort, Option.map_some, Option.toList_some, List.singleton_append,
          List.replicate_zero, List.nil_append, List.replicate_succ, ← hall]

/-! ## The whole phase -/

/-- **The step that shortens the green reports YELLOW.** -/
theorem yellow_of_shortened {t₀ : Rat} {w : PipelineWorld} {i : StepInput} (h : InPhase t₀ w)
    (hi : WithinPhase t₀ w i) {d d' : SignalDecision LaneName}
    (hd : w.pipeline.activeDecision = some d) (hd' : (w.processStep i).2.signalDecision = some d')
    (hne : d'.greenDurationSec ≠ d.greenDurationSec) :
    (w.processStep i).2.signalState = .yellow := by
  rcases processStep_shows w i with ⟨-, hshows⟩ | ⟨d₁, hd₁, hshows⟩
  · rw [hshows.decision] at hd'; cases hd'
  · obtain rfl := Option.some.inj (hshows.decision.symm.trans hd')
    rcases withinPhase_cases h hi with hnone | ⟨d₀, hd₀, hstart, -, ⟨-, hkeep⟩ | ⟨hrel, hshort⟩⟩
    · rw [hnone] at hd₁; cases hd₁
    · obtain rfl := Option.some.inj (hkeep.symm.trans hd₁)
      obtain rfl := Option.some.inj (hd₀.symm.trans hd)
      exact absurd rfl hne
    · obtain rfl := Option.some.inj (hshort.symm.trans hd₁)
      obtain ⟨-, -, hover, hlast⟩ := releasedGreen_bounds hd₀ (h d₀ hd₀) hrel
      rw [hshows.state, hstart]
      -- less than a second has passed since the green ended, and yellow takes one at least
      have hy : (1 : Rat) ≤ d₀.yellowDurationSec := by exact_mod_cast (h d₀ hd₀).yellow
      refine signalStateAt_eq_yellow hover ?_
      show _ < ((w.pipeline.releasedGreen i.currentMonoTime + d₀.yellowDurationSec : Int) : Rat)
      push_cast
      linarith

/-- The state right after a phase start. -/
theorem inPhase_start {w : PipelineWorld} {i : StepInput}
    (hy : 1 ≤ w.pipeline.signalScheduler.yellowSec)
    (hmax : max w.pipeline.signalScheduler.minGreenSec w.pipeline.signalScheduler.maxGreenSec ≤ 999)
    (hstart : (w.processStep i).2.isPhaseChange = true) :
    InPhase i.currentMonoTime (w.processStep i).1
      ∧ ∃ d, (w.processStep i).1.pipeline.activeDecision = some d := by
  obtain ⟨r, d, hs, hw⟩ := processStep_of_isPhaseChange hstart
  rcases startedPhase_cases w i with ⟨-, hno⟩ | ⟨win, -, r', d', hst, -, -, hyellow, -, -, -⟩
  · rw [hno] at hs; cases hs
  · obtain ⟨rfl, rfl⟩ := Prod.mk.inj (Option.some.inj (hst.symm.trans hs))
    rw [hw]
    refine ⟨fun d hd => ?_, d', rfl⟩
    obtain rfl : d' = d := Option.some.inj hd
    refine ⟨rfl, fun since hsince => ?_, fun _ => (startedPhase_green_le hs).trans hmax, ?_⟩
    · exact absurd (show (none : Option Rat) = some since from hsince) (by simp)
    · rw [hyellow]; exact hy

theorem final_signalScheduler (w : PipelineWorld) (run : List StepInput) :
    ∃ c, (final processStep w run).pipeline.signalScheduler
      = { w.pipeline.signalScheduler with nextCycleIndex := c } := by
  have hstep : ∀ (s : PipelineWorld) (i : StepInput),
      (∃ c, s.pipeline.signalScheduler = { w.pipeline.signalScheduler with nextCycleIndex := c }) →
      ∃ c, (s.processStep i).1.pipeline.signalScheduler
        = { w.pipeline.signalScheduler with nextCycleIndex := c } := by
    rintro s i ⟨c, hc⟩
    obtain ⟨c', hc'⟩ := processStep_signalScheduler s i
    exact ⟨c', by rw [hc', hc]⟩
  exact final_invariant_of_step hstep ⟨_, rfl⟩ run

/--
**Within one phase the signal only moves forward.**

Take any run of `process_step` from any pipeline whose yellow takes at least a second
and whose longest green is at most the 999 seconds that stand for "never started", and
readings that never decrease. From a step that starts a phase, up to the next one
that does, GREEN is followed by YELLOW and YELLOW by ALL_RED, the remaining green
never grows and is positive exactly while the state is GREEN, and the green changes
at most once, to a smaller positive value, in a step that reports YELLOW.
-/
theorem signal_only_moves_forward (w : PipelineWorld)
    (hy : 1 ≤ w.pipeline.signalScheduler.yellowSec)
    (hmax : max w.pipeline.signalScheduler.minGreenSec w.pipeline.signalScheduler.maxGreenSec ≤ 999)
    (before : List StepInput) (i : StepInput) (mid : List StepInput)
    (hclock : ((before ++ i :: mid).map (·.currentMonoTime)).Pairwise (· ≤ ·))
    (hstart : ((final processStep w before).processStep i).2.isPhaseChange = true)
    (hmid : ∀ e ∈ events processStep ((final processStep w before).processStep i).1 mid,
      e.out.isPhaseChange = false) :
    OneWay (events processStep (final processStep w before) (i :: mid)) := by
  -- no step changes the bounds of the scheduler
  obtain ⟨c, hc⟩ := final_signalScheduler w before
  generalize final processStep w before = v at hc hstart hmid ⊢
  have hphase := inPhase_start (by rw [hc]; exact hy) (by rw [hc]; exact hmax) hstart
  obtain ⟨hin, d, hd⟩ := hphase
  rw [List.map_append, List.pairwise_append] at hclock
  have hclock := hclock.2.1
  rw [List.map_cons] at hclock
  have hlater := (List.pairwise_cons.mp hclock).1
  -- every step of the phase comes after its start
  have hwithin : ∀ e ∈ events processStep (v.processStep i).1 mid,
      WithinPhase i.currentMonoTime e.pre e.input := by
    intro e he
    refine ⟨hlater _ (List.mem_map_of_mem (input_mem_of_mem_events he)), ?_⟩
    have hno := hmid e he
    obtain ⟨pre, j, post, -, rfl⟩ := (mem_events_iff _).mp he
    exact hno
  -- the pairs of the phase, the first report against every later one
  have hpairs : (events processStep v (i :: mid)).Pairwise MovesOn := by
    rw [events_cons]
    refine List.pairwise_cons.mpr ⟨?_, (movesOn_rule _).pairwise hin
      (List.pairwise_cons.mp hclock).2 hwithin⟩
    exact (movesOn_rule _).forall_later hin (reported_self hin) hclock hwithin
  refine ⟨hpairs.imp fun h => h.state, hpairs.imp fun h => h.remaining, ?_, ?_, ?_⟩
  · intro e he
    obtain ⟨pre, j, post, -, rfl⟩ := (mem_events_iff _).mp he
    exact processStep_remaining_pos_iff _ j
  · -- the first report shows the green as it was granted
    have hgranted : ∀ d', (v.processStep i).1.pipeline.activeDecision = some d' →
        d'.greenDurationSec = d.greenDurationSec := by
      intro d' hd'
      rw [Option.some.inj (hd'.symm.trans hd)]
    obtain ⟨g', n, m, heq, hm⟩ := reportedGreens_granted hin hgranted hclock hwithin
    refine ⟨d.greenDurationSec, g', n + 1, m, ?_, hm⟩
    rw [reportedGreens_step, hd, Option.map_some, Option.toList_some, List.singleton_append]
    exact fallsOnce_cons_self heq
  · intro e he hno d₀ hd₀ d' hd' hne
    rw [events_cons] at he
    rcases List.mem_cons.mp he with rfl | he
    · exact absurd (hstart.symm.trans hno) (by decide)
    · -- what is known of the phase holds before each of its steps
      have hpre := (events_invariant (fun s j h hj => inPhase_step h hj) hin hwithin e he).1
      have hok := hwithin e he
      obtain ⟨pre, j, post, -, rfl⟩ := (mem_events_iff _).mp he
      exact yellow_of_shortened hpre hok hd₀ hd' hne

/-- A step at time `t` with a live frame of an empty lane. -/
def emptyStep (lane : LaneName) (t : Rat) : StepInput where
  frames := { items := [(lane, { timestamp := t, observation := { laneName := lane.value } })]
              nodup := List.nodup_singleton lane }
  nowMono := t
  currentMonoTime := t

theorem signal_only_moves_forward_north :
    OneWay (events processStep {} [sampleStep .north false 10, emptyStep .north 12,
      emptyStep .north 14, emptyStep .north 16, emptyStep .north 18]) :=
  signal_only_moves_forward {} (by decide) (by decide) [] (sampleStep .north false 10) _
    (by decide +kernel) (by decide +kernel) (by decide +kernel)

end SmartTraffic.Proof
