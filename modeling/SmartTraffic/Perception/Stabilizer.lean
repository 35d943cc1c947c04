import SmartTraffic.Signal.Types

/-!
# The count stabilizer

`CountStabilizer`: a rolling history and an exponential moving average of the
raw count of each lane, the smoothed statistics it hands on, and the stability
metrics of the scheduler's decisions. The report log is left out.

A dictionary entry that was never written reads as its default, so both tables
are total functions of the key. `fl` is what a float operation makes of its exact
result: `double` in the code, and nothing at all over exact rationals.
-/

namespace SmartTraffic

open Lib

structure StabilityMetrics where
  totalDecisions : Nat := 0
  stableDecisions : Nat := 0
  flippedDecisions : Nat := 0
  lastDecisionLane : Option String := none
  consecutiveStableFrames : Nat := 0
  maxRawSmoothedDelta : Rat := 0
  deriving DecidableEq, Repr

/-- `CountStabilizer`, keyed by `K`. -/
structure CountStabilizer (K : Type) where
  alpha : Rat := Config.emaAlpha
  historySize : Nat := Config.countHistorySize
  countHistory : K → List Int := fun _ => []
  ema : K → Rat := fun _ => 0
  metrics : StabilityMetrics := {}

/-- `deque(maxlen=n).append(x)`. -/
def dequeAppend (maxlen : Nat) (history : List Int) (x : Int) : List Int :=
  (history ++ [x]).drop (history.length + 1 - maxlen)

namespace CountStabilizer

variable {K : Type} [DecidableEq K] (fl : Rat → Rat)

/-- The moving average after one more raw count of a lane. -/
def nextEma (s : CountStabilizer K) (lane : K) (rawCount : Int) : Rat :=
  if (dequeAppend s.historySize (s.countHistory lane) rawCount).length = 1 then fl rawCount
  else fl (fl (s.alpha * fl rawCount) + fl (fl (1 - s.alpha) * s.ema lane))

/-- The smoothed copy of one lane's statistics. -/
def smoothed (stats : LaneStatistics) (newEma : Rat) : LaneStatistics :=
  let rawCount := stats.liveCount
  let liveCount := roundHalfEven newEma
  { stats with
    smoothedCount := fl (roundDigits 2 newEma)
    rawCount := rawCount
    liveCount := liveCount
    pceScore :=
      -- the score follows the count, down to zero
      if 0 < rawCount ∧ liveCount ≠ rawCount then
        fl (roundDigits 2 (fl (stats.pceScore * fl ((liveCount : Rat) / rawCount))))
      else stats.pceScore }

/-- The state after one lane of a `stabilize` call. -/
def record (s : CountStabilizer K) (lane : K) (rawCount : Int) : CountStabilizer K :=
  let newEma := s.nextEma fl lane rawCount
  { s with
    countHistory := Function.update s.countHistory lane
      (dequeAppend s.historySize (s.countHistory lane) rawCount)
    ema := Function.update s.ema lane newEma
    metrics := { s.metrics with
      maxRawSmoothedDelta := max s.metrics.maxRawSmoothedDelta |fl (fl rawCount - newEma)| } }

/-- `CountStabilizer.stabilize`, lane by lane in the order of the dictionary. -/
def stabilize (s : CountStabilizer K) :
    List (K × LaneStatistics) → List (K × LaneStatistics) × CountStabilizer K
  | [] => ([], s)
  | (lane, stats) :: rest =>
      let (stabilized, s') := (s.record fl lane stats.liveCount).stabilize rest
      ((lane, smoothed fl stats (s.nextEma fl lane stats.liveCount)) :: stabilized, s')

/-- `update_decision_stability`: whether the decision is the same as the last one. -/
def updateDecisionStability (s : CountStabilizer K) (decisionLane : String) :
    Bool × CountStabilizer K :=
  if s.metrics.lastDecisionLane = some decisionLane then
    (true, { s with metrics := { s.metrics with
      totalDecisions := s.metrics.totalDecisions + 1
      stableDecisions := s.metrics.stableDecisions + 1
      consecutiveStableFrames := s.metrics.consecutiveStableFrames + 1 } })
  else
    (false, { s with metrics := { s.metrics with
      totalDecisions := s.metrics.totalDecisions + 1
      flippedDecisions := s.metrics.flippedDecisions + 1
      consecutiveStableFrames := 0
      lastDecisionLane := some decisionLane } })

/-! ## Recording a count -/

variable {fl}

@[simp] theorem record_ema_self (s : CountStabilizer K) (lane : K) (n : Int) :
    (s.record fl lane n).ema lane = s.nextEma fl lane n := by
  unfold record; simp

theorem record_ema_of_ne (s : CountStabilizer K) {lane other : K} (n : Int) (h : other ≠ lane) :
    (s.record fl lane n).ema other = s.ema other := by
  unfold record; simp [h]

theorem record_countHistory_of_ne (s : CountStabilizer K) {lane other : K} (n : Int)
    (h : other ≠ lane) : (s.record fl lane n).countHistory other = s.countHistory other := by
  unfold record; simp [h]

/-! ## What an average keeps -/

/-- What is known of the average of a lane: nothing was recorded yet, or it is good. -/
def EmaIs (Good : Rat → Prop) (s : CountStabilizer K) (lane : K) : Prop :=
  s.countHistory lane = [] ∨ Good (s.ema lane)

/-- Allowed counts keep the average good, and leave it in a relation to the last of them. -/
structure Keeps (fl : Rat → Rat) (s : CountStabilizer K) (Allowed : Int → Prop) (Good : Rat → Prop)
    (After : Int → Rat → Prop) : Prop where
  history_pos : 1 ≤ s.historySize
  seed : ∀ n, Allowed n → After n (fl n)
  mean : ∀ n e, Allowed n → Good e →
    After n (fl (fl (s.alpha * fl n) + fl (fl (1 - s.alpha) * e)))
  good : ∀ n e, After n e → Good e

section

variable {s : CountStabilizer K} {Allowed : Int → Prop} {Good : Rat → Prop}
  {After : Int → Rat → Prop}

omit [DecidableEq K] in
theorem nextEma_after (hk : s.Keeps fl Allowed Good After) {lane : K} {n : Int}
    (hw : EmaIs Good s lane) (hn : Allowed n) : After n (s.nextEma fl lane n) := by
  unfold nextEma
  by_cases hone : (dequeAppend s.historySize (s.countHistory lane) n).length = 1
  · rw [if_pos hone]; exact hk.seed n hn
  · rw [if_neg hone]
    rcases hw with hnil | hgood
    · -- a first count always seeds the average
      exfalso
      have hpos := hk.history_pos
      rw [hnil] at hone
      unfold dequeAppend at hone
      simp only [List.nil_append, List.length_nil, Nat.zero_add, List.length_drop,
        List.length_singleton] at hone
      omega
    · exact hk.mean n _ hn hgood

theorem record_keeps (hk : s.Keeps fl Allowed Good After) (lane : K) (n : Int) :
    (s.record fl lane n).Keeps fl Allowed Good After := ⟨hk.history_pos, hk.seed, hk.mean, hk.good⟩

/-- **Recording an allowed count keeps the average good.** -/
theorem record_emaIs (hk : s.Keeps fl Allowed Good After) {lane other : K} {n : Int}
    (hw : EmaIs Good s other) (hn : other = lane → Allowed n) :
    EmaIs Good (s.record fl lane n) other := by
  by_cases h : other = lane
  · subst h
    refine Or.inr ?_
    rw [record_ema_self]
    exact hk.good n _ (nextEma_after hk hw (hn rfl))
  · unfold EmaIs
    rw [record_ema_of_ne s n h, record_countHistory_of_ne s n h]
    exact hw

/--
**Every lane of a call is smoothed with an average that follows its count**, and the
call keeps the averages of all lanes good.
-/
theorem stabilize_keeps (hk : s.Keeps fl Allowed Good After) {lane : K}
    {items : List (K × LaneStatistics)} (hw : EmaIs Good s lane)
    (hn : ∀ stats, (lane, stats) ∈ items → Allowed stats.liveCount) :
    (∀ out, (lane, out) ∈ (s.stabilize fl items).1 → ∃ stats e, (lane, stats) ∈ items
        ∧ out = smoothed fl stats e ∧ After stats.liveCount e)
      ∧ EmaIs Good (s.stabilize fl items).2 lane
      ∧ (s.stabilize fl items).2.Keeps fl Allowed Good After := by
  induction items generalizing s with
  | nil => exact ⟨fun out h => absurd h List.not_mem_nil, hw, hk⟩
  | cons item rest ih =>
      obtain ⟨l, stats⟩ := item
      have hrest := ih (record_keeps hk l stats.liveCount)
        (record_emaIs hk hw fun hl => hn stats (by rw [hl]; exact List.mem_cons_self))
        fun st hst => hn st (List.mem_cons_of_mem _ hst)
      refine ⟨fun out hout => ?_, hrest.2⟩
      rcases List.mem_cons.mp hout with heq | hout
      · rw [Prod.mk.injEq] at heq
        obtain ⟨rfl, rfl⟩ := heq
        exact ⟨stats, _, List.mem_cons_self, rfl,
          nextEma_after hk hw (hn stats List.mem_cons_self)⟩
      · obtain ⟨st, e, hst, he⟩ := hrest.1 out hout
        exact ⟨st, e, List.mem_cons_of_mem _ hst, he⟩

end

/-! ## Over exact rationals the average stays between the counts -/

/-- What the average of a lane knows: nothing was recorded yet, or it lies between the bounds. -/
def EmaWithin (lo hi : Rat) (s : CountStabilizer K) (lane : K) : Prop :=
  s.EmaIs (fun e => lo ≤ e ∧ e ≤ hi) lane

/-- The parameters under which the average is a mean of the counts. -/
structure Averaging (s : CountStabilizer K) : Prop where
  alpha_nonneg : 0 ≤ s.alpha
  alpha_le : s.alpha ≤ 1
  history_pos : 1 ≤ s.historySize

omit [DecidableEq K] in
/-- A mean of two values between the bounds is between them. -/
theorem Averaging.keeps {s : CountStabilizer K} (ha : s.Averaging) (lo hi : Rat) :
    s.Keeps id (fun n => lo ≤ n ∧ (n : Rat) ≤ hi) (fun e => lo ≤ e ∧ e ≤ hi)
      (fun _ e => lo ≤ e ∧ e ≤ hi) := by
  refine ⟨ha.history_pos, fun n hn => hn, fun n e hn he => ?_, fun _ _ h => h⟩
  obtain ⟨hlo, hhi⟩ := hn
  obtain ⟨hl, hh⟩ := he
  have h0 := ha.alpha_nonneg
  have h1 : 0 ≤ 1 - s.alpha := sub_nonneg.mpr ha.alpha_le
  show lo ≤ s.alpha * n + (1 - s.alpha) * e ∧ s.alpha * n + (1 - s.alpha) * e ≤ hi
  constructor
  · calc lo = s.alpha * lo + (1 - s.alpha) * lo := by ring
      _ ≤ s.alpha * n + (1 - s.alpha) * e := by gcongr
  · calc s.alpha * n + (1 - s.alpha) * e ≤ s.alpha * hi + (1 - s.alpha) * hi := by gcongr
      _ = hi := by ring

theorem stabilize_alpha (fl : Rat → Rat) (s : CountStabilizer K)
    (items : List (K × LaneStatistics)) :
    (s.stabilize fl items).2.alpha = s.alpha
      ∧ (s.stabilize fl items).2.historySize = s.historySize := by
  induction items generalizing s with
  | nil => exact ⟨rfl, rfl⟩
  | cons item rest ih => exact ih (s.record fl item.1 item.2.liveCount)

/--
**Every lane of a call is smoothed with an average that lies between the bounds
of its counts**, and the call keeps the averages of all lanes there.
-/
theorem stabilize_within {s : CountStabilizer K} (ha : s.Averaging) {lo hi : Rat} {lane : K}
    {items : List (K × LaneStatistics)} (hw : EmaWithin lo hi s lane)
    (hn : ∀ stats, (lane, stats) ∈ items → lo ≤ stats.liveCount ∧ (stats.liveCount : Rat) ≤ hi) :
    (∀ out, (lane, out) ∈ (s.stabilize id items).1 → ∃ stats e, (lane, stats) ∈ items
        ∧ out = smoothed id stats e ∧ lo ≤ e ∧ e ≤ hi)
      ∧ EmaWithin lo hi (s.stabilize id items).2 lane ∧ (s.stabilize id items).2.Averaging := by
  obtain ⟨hout, hema, -⟩ := stabilize_keeps (ha.keeps lo hi) hw hn
  obtain ⟨halpha, hsize⟩ := stabilize_alpha id s items
  refine ⟨hout, hema, ?_, ?_, ?_⟩
  · rw [halpha]; exact ha.alpha_nonneg
  · rw [halpha]; exact ha.alpha_le
  · rw [hsize]; exact ha.history_pos

end CountStabilizer

end SmartTraffic
