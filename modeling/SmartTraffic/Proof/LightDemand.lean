import SmartTraffic.Perception.Analytics
import SmartTraffic.Perception.Stabilizer
import SmartTraffic.Signal.Scheduler
import SmartTraffic.Lib.Run

/-!
# How long a green light demand earns

The decision path from detector observations to greens: every observation goes
through the stabilizer, every decision through the priority scores, the turn and
the green time.

The moving average never passes the largest count seen by enough to be rounded
above it, and rescaling the PCE score by the smoothed count never passes count
times weight by more than rounding adds. So a lightly loaded lane has a small PCE
score, and the green grows with that score. There is one way out: an average of at
most one half is rounded to a count of zero, the PCE score becomes zero with it,
and the green time falls back to the lane's share of all scores, which the other
approaches decide.

Every number on the path is a double. The errors stay far below the hundredth that
PCE scores are rounded to, so they matter in one place only, where a duration is
rounded to seconds: next to an exact half they decide.
-/

namespace SmartTraffic.Proof

open SmartTraffic Lib

/-- A detector observation of one approach. -/
structure LaneObservation where
  vehicles : List VehicleState
  historicalCount : Int := 0
  deriving DecidableEq, Repr

/-- What the path is given: a batch of observations, or the moment of a decision. -/
inductive PathInput
  | observe (observed : List (LaneName × LaneObservation))
  | decide (lanes fresh : List LaneName) (phaseId : Nat) (now : Rat)

/-- The components of the path, with the statistics the last observations left. -/
structure DecisionPath where
  scheduler : SignalScheduler
  stabilizer : CountStabilizer LaneName := {}
  laneStats : LaneName → LaneStatistics := fun l => { laneName := l.value }

namespace DecisionPath

/-- The statistics of the observed approaches, before smoothing. -/
def observedStats (observed : List (LaneName × LaneObservation)) :
    List (LaneName × LaneStatistics) :=
  observed.map fun (l, o) => (l, generateLaneStats l.value o.vehicles o.historicalCount)

/-- The items of `lane_stats` at a decision. -/
def items (p : DecisionPath) (lanes : List LaneName) : List (LaneName × LaneStatistics) :=
  lanes.map fun l => (l, p.laneStats l)

/-- One step: `stabilize`, or `calculate`, `select_eligible` and `schedule`. -/
def step (p : DecisionPath) : PathInput → DecisionPath × Option (SignalDecision LaneName)
  | .observe observed =>
      let (stabilized, stabilizer) := p.stabilizer.stabilize double (observedStats observed)
      ({ p with
          stabilizer := stabilizer
          laneStats := updateAll p.laneStats stabilized },
        none)
  | .decide lanes fresh phaseId now =>
      let result := calculate PriorityWeights.default (p.items lanes) now
      let (selected, scheduler) := p.scheduler.selectEligible result (p.items lanes) fresh
      ({ p with scheduler := scheduler },
        selected.bind fun r => (p.scheduler.schedule r phaseId now).toOption)

end DecisionPath

/-- The lane was observed with at most `n` vehicles of weight at most `w`, and no queue seconds. -/
def PathInput.Light (lane : LaneName) (n : Nat) (w : Rat) : PathInput → Prop
  | .observe observed => ∀ o, (lane, o) ∈ observed →
      o.vehicles.length ≤ n ∧ (∀ v ∈ o.vehicles, pceWeight v ≤ w)
        ∧ (generateLaneStats lane.value o.vehicles o.historicalCount).totalQueueTimeSec = 0
  | .decide .. => True

/-- What `n` vehicles of weight `w` earn on top of the minimum green. -/
def extraGreen (s : SignalScheduler) (n : Nat) (w : Rat) : Rat :=
  3 / 4 * min 1 (n * w / 20) * (s.maxGreenSec - s.minGreenSec)

/-- The extra green is further from an exact half than the roundings of a duration reach. -/
def ClearOfHalf (s : SignalScheduler) (extra : Rat) : Prop := s.slack < |extra - ⌊extra⌋ - 1 / 2|

instance (s : SignalScheduler) (extra : Rat) : Decidable (ClearOfHalf s extra) :=
  inferInstanceAs (Decidable (_ < _))

/-- At a decision, the smoothed count of an occupied lane is not rounded away. -/
def CountKept (lane : LaneName) (p : DecisionPath) : PathInput → Prop
  | .observe _ => True
  | .decide .. => 0 < (p.laneStats lane).rawCount → 0 < (p.laneStats lane).liveCount

instance (lane : LaneName) (p : DecisionPath) (i : PathInput) : Decidable (CountKept lane p i) :=
  match i with
  | .observe _ => inferInstanceAs (Decidable True)
  | .decide .. => inferInstanceAs (Decidable (_ → _))

theorem slack_nonneg {s : SignalScheduler} (hmm : s.minGreenSec ≤ s.maxGreenSec) :
    0 ≤ s.slack := by
  have hspan : (s.minGreenSec : Rat) ≤ s.maxGreenSec := by exact_mod_cast hmm
  have habs := abs_nonneg (s.minGreenSec : Rat)
  unfold SignalScheduler.slack
  exact div_nonneg (by linarith) (by positivity)

/-- The slack does not lift a clear value over the middle above the integer it is rounded to. -/
theorem ClearOfHalf.lt {s : SignalScheduler} (hmm : s.minGreenSec ≤ s.maxGreenSec) {extra : Rat}
    (h : ClearOfHalf s extra) : extra + s.slack < roundHalfEven extra + 1 / 2 := by
  unfold ClearOfHalf at h
  have hslack := slack_nonneg hmm
  have hceil := Int.lt_floor_add_one extra
  rcases lt_or_ge (extra - ⌊extra⌋) (1 / 2) with hlow | hhigh
  · have hround : (⌊extra⌋ : Rat) ≤ roundHalfEven extra := by
      exact_mod_cast floor_le_roundHalfEven extra
    rw [abs_of_neg (by linarith)] at h
    linarith
  · rw [abs_of_nonneg (by linarith)] at h
    have hround : roundHalfEven extra = ⌊extra⌋ + 1 := by
      refine roundHalfEven_eq_of_abs_lt ?_
      push_cast
      rw [abs_of_neg (by linarith)]
      linarith
    rw [hround]
    push_cast
    linarith

/-! ## The average of a lightly loaded lane -/

/-- An average of counts up to `n`. -/
def LightMean (n : Nat) (e : Rat) : Prop := 0 ≤ e ∧ (n < 40 → e ≤ n + 1 / 4)

/-- The average after a count: it has taken in most of the count's share. -/
def FollowsCount (n : Nat) (count : Int) (e : Rat) : Prop :=
  LightMean n e ∧ 39 / 100 * (count : Rat) ≤ e

/-- Most of a count's share is left after two roundings. -/
theorem share_le (count : Int) (h : 0 ≤ count) :
    39 / 100 * (count : Rat) ≤ double (Config.emaAlpha * double count) := by
  have halpha : Config.emaAlpha = 3602879701896397 / 9007199254740992 := by decide +kernel
  rcases h.eq_or_lt with rfl | hpos
  · simp
  · have hone : (1 : Rat) ≤ count := by exact_mod_cast hpos
    have hcount := (abs_le.mp (abs_double_sub_le_add (count : Rat))).1
    rw [abs_of_pos (by linarith)] at hcount
    have hdouble : 0 ≤ double (count : Rat) := double_nonneg (by linarith)
    have hproduct := (abs_le.mp (abs_double_sub_le_add (Config.emaAlpha * double count))).1
    rw [abs_of_nonneg (mul_nonneg (by rw [halpha]; norm_num) hdouble), halpha] at hproduct
    rw [halpha]
    linarith

/-- **Small counts keep the average small, and each pulls it up to most of its share.** -/
theorem light_keeps (n : Nat) {s : CountStabilizer LaneName} (halpha : s.alpha = Config.emaAlpha)
    (hsize : 1 ≤ s.historySize) :
    s.Keeps double (fun count => 0 ≤ count ∧ count ≤ n) (LightMean n) (FollowsCount n) := by
  have hvalue : Config.emaAlpha = 3602879701896397 / 9007199254740992 := by decide +kernel
  -- counts below forty are doubles
  have hsmall : ∀ count : Int, 0 ≤ count → count ≤ n → n < 40 →
      double (count : Rat) = count ∧ (count : Rat) ≤ n ∧ (n : Rat) < 40 := by
    intro count h0 hle hn
    refine ⟨isDouble_intCast ?_, by exact_mod_cast hle, by exact_mod_cast hn⟩
    rw [abs_of_nonneg h0]
    omega
  refine ⟨hsize, ?_, ?_, fun _ _ h => h.1⟩
  · -- the first count stands for itself
    rintro count ⟨h0, hle⟩
    have hcount : (0 : Rat) ≤ count := by exact_mod_cast h0
    refine ⟨⟨double_nonneg hcount, fun hn => ?_⟩, ?_⟩
    · obtain ⟨heq, hcn, -⟩ := hsmall count h0 hle hn
      rw [heq]
      linarith
    · -- the count itself is more than its share of the mean
      refine (share_le count h0).trans ?_
      have hle : Config.emaAlpha * double (count : Rat) ≤ double count := by
        rw [hvalue]
        linarith [double_nonneg hcount]
      exact (double_mono hle).trans_eq (double_double _)
  · -- a later count is mixed with the mean
    rintro count e ⟨h0, hle⟩ ⟨he0, hen⟩
    have hcount : (0 : Rat) ≤ count := by exact_mod_cast h0
    have hrest0 : 0 ≤ double (double (1 - s.alpha) * e) :=
      double_nonneg (mul_nonneg (double_nonneg (by rw [halpha, hvalue]; norm_num)) he0)
    have hshare0 : 0 ≤ double (s.alpha * double (count : Rat)) := by
      rw [halpha]
      exact (by positivity : (0 : Rat) ≤ 39 / 100 * count).trans (share_le count h0)
    refine ⟨⟨double_nonneg (add_nonneg hshare0 hrest0), fun hn => ?_⟩, ?_⟩
    · -- a mean of two numbers that are hardly above `n`
      obtain ⟨heq, hcn, hn40⟩ := hsmall count h0 hle hn
      have hen := hen hn
      have hcomplement : double (1 - s.alpha) ≤ 3 / 5 + 1 / 2 ^ 53 := by
        rw [halpha]
        decide +kernel
      have hcomplement0 : 0 ≤ double (1 - s.alpha) := by
        rw [halpha]
        decide +kernel
      -- each of the two products, and then their sum, is off by one rounding
      have hshare : double (s.alpha * double (count : Rat)) ≤ 2 / 5 * n + 1 / 2 ^ 40 := by
        have hle : s.alpha * double (count : Rat) ≤ 2 / 5 * n + 1 / 2 ^ 45 := by
          rw [heq, halpha, hvalue]
          linarith
        have hsize : |s.alpha * double (count : Rat)| < 2 ^ 6 := by
          rw [abs_of_nonneg (mul_nonneg (by rw [halpha, hvalue]; norm_num) (double_nonneg hcount))]
          linarith
        have herror := (abs_le.mp (abs_double_sub_le_of_lt hsize)).2
        linarith
      have hrest : double (double (1 - s.alpha) * e) ≤ 3 / 5 * (n + 1 / 4) + 1 / 2 ^ 40 := by
        have hle : double (1 - s.alpha) * e ≤ (3 / 5 + 1 / 2 ^ 53) * (n + 1 / 4) :=
          mul_le_mul hcomplement hen he0 (by norm_num)
        have hsize : |double (1 - s.alpha) * e| < 2 ^ 6 := by
          rw [abs_of_nonneg (mul_nonneg hcomplement0 he0)]
          linarith
        have herror := (abs_le.mp (abs_double_sub_le_of_lt hsize)).2
        linarith
      have hsize : |double (s.alpha * double (count : Rat)) + double (double (1 - s.alpha) * e)|
          < 2 ^ 7 := by
        rw [abs_of_nonneg (add_nonneg hshare0 hrest0)]
        linarith
      have herror := (abs_le.mp (abs_double_sub_le_of_lt hsize)).2
      linarith
    · -- what comes on top of the share of the count is not negative
      rw [halpha] at hrest0 ⊢
      refine (share_le count h0).trans ?_
      exact le_double (isDouble_double _) (by linarith)

/-! ## Statistics of a lightly loaded lane -/

/-- Statistics as light observations leave them. -/
structure LightStats (n : Nat) (w : Rat) (st : LaneStatistics) : Prop where
  /-- No queue seconds. -/
  queue : st.totalQueueTimeSec = 0
  /-- The weights are not negative where there is something to weigh. -/
  weight : 0 < st.rawCount → 1 / 2 ≤ w
  /-- A count that is not rounded away keeps the PCE score positive, and a small one keeps it
  below count times weight, but for its roundings. -/
  pce : 0 < st.rawCount → 0 < st.liveCount →
    0 < st.pceScore ∧ (n < 40 → st.pceScore ≤ n * w + 1 / 2 ^ 40)

/-- A score rescaled to a part of the count does not vanish in rounding. -/
theorem rescaled_pos {pce ratio : Rat} (hpce : 1 / 2 ≤ pce) (hratio : 1 / 4 ≤ ratio) :
    0 < roundFloat 2 (double (pce * double ratio)) := by
  have hquarter : 1 / 4 ≤ double ratio := le_double (by decide +kernel) hratio
  have hproduct : 1 / 8 ≤ pce * double ratio := by
    calc (1 / 8 : Rat) = 1 / 2 * (1 / 4) := by norm_num
      _ ≤ pce * double ratio := by gcongr
  have heighth : 1 / 8 ≤ double (pce * double ratio) := le_double (by decide +kernel) hproduct
  have hpos : 0 < roundFloat 2 (1 / 8) := by decide +kernel
  exact hpos.trans_le (roundFloat_mono 2 heighth)

/-- A score rescaled to a count is at most that count of the heaviest weight. -/
theorem rescaled_le {vs : List VehicleState} (hne : vs ≠ []) (hlen : vs.length ≤ 40) {t m : Int}
    (ht : ∀ v ∈ vs, pceTenths v ≤ t) (ht20 : t ≤ 20) (hm : 0 ≤ m) (hm40 : m ≤ 40) :
    roundFloat 2 (double ((analyzeOccupancy vs).pceScore * double ((m : Rat) / vs.length)))
      ≤ double (m * t / 10) := by
  have hcount : (1 : Rat) ≤ vs.length := by exact_mod_cast List.length_pos_iff.mpr hne
  have hcount40 : (vs.length : Rat) ≤ 40 := by exact_mod_cast hlen
  have hm' : (0 : Rat) ≤ m := by exact_mod_cast hm
  have hm40' : (m : Rat) ≤ 40 := by exact_mod_cast hm40
  have ht20' : (t : Rat) ≤ 20 := by exact_mod_cast ht20
  have hsum0 : (0 : Rat) ≤ tenthsOf vs := by exact_mod_cast tenthsOf_nonneg vs
  have hsum : (tenthsOf vs : Rat) ≤ vs.length * t := by exact_mod_cast tenthsOf_le ht
  have hsum800 : (tenthsOf vs : Rat) ≤ 800 := by
    calc (tenthsOf vs : Rat) ≤ vs.length * t := hsum
      _ ≤ 40 * 20 := by
          have ht0 : (0 : Rat) ≤ t := by
            by_contra hneg
            have : (vs.length : Rat) * t < 0 :=
              mul_neg_of_pos_of_neg (by linarith) (not_le.mp hneg)
            linarith
          gcongr
      _ = 800 := by norm_num
  -- the two factors, each with its error
  have hscore : double ((tenthsOf vs : Rat) / 10) ≤ tenthsOf vs / 10 + 2 ^ 7 / 2 ^ 54 := by
    have hsize : |(tenthsOf vs : Rat) / 10| < 2 ^ 7 := by
      rw [abs_of_nonneg (by positivity)]
      linarith
    have herror := (abs_le.mp (abs_double_sub_le_of_lt hsize)).2
    linarith
  have hratio0 : 0 ≤ (m : Rat) / vs.length := by positivity
  have hratio40 : (m : Rat) / vs.length ≤ 40 := by
    rw [div_le_iff₀ (by linarith)]
    linarith
  have hratio : double ((m : Rat) / vs.length) ≤ m / vs.length + 2 ^ 6 / 2 ^ 54 := by
    have hsize : |(m : Rat) / vs.length| < 2 ^ 6 := by
      rw [abs_of_nonneg hratio0]
      linarith
    have herror := (abs_le.mp (abs_double_sub_le_of_lt hsize)).2
    linarith
  have hexact : (tenthsOf vs : Rat) / 10 * (m / vs.length) ≤ m * t / 10 := by
    calc (tenthsOf vs : Rat) / 10 * (m / vs.length)
        ≤ vs.length * t / 10 * (m / vs.length) := by gcongr
      _ = m * t / 10 := by field_simp
  have hproduct : double ((tenthsOf vs : Rat) / 10) * double ((m : Rat) / vs.length)
      ≤ m * t / 10 + 1 / 2 ^ 39 := by
    calc double ((tenthsOf vs : Rat) / 10) * double ((m : Rat) / vs.length)
        ≤ (tenthsOf vs / 10 + 2 ^ 7 / 2 ^ 54) * (m / vs.length + 2 ^ 6 / 2 ^ 54) :=
          mul_le_mul hscore hratio (double_nonneg hratio0) (by positivity)
      _ = (tenthsOf vs : Rat) / 10 * (m / vs.length) + tenthsOf vs / 10 * (2 ^ 6 / 2 ^ 54)
          + 2 ^ 7 / 2 ^ 54 * (m / vs.length) + 2 ^ 7 / 2 ^ 54 * (2 ^ 6 / 2 ^ 54) := by ring
      _ ≤ m * t / 10 + 1 / 2 ^ 39 := by linarith
  have hproduct0 : 0 ≤ double ((tenthsOf vs : Rat) / 10) * double ((m : Rat) / vs.length) :=
    mul_nonneg (double_nonneg (by positivity)) (double_nonneg hratio0)
  have hmt : (m : Rat) * t ≤ 800 := by
    calc (m : Rat) * t ≤ m * 20 := by gcongr
      _ ≤ 40 * 20 := by gcongr
      _ = 800 := by norm_num
  have hrounded : double (double ((tenthsOf vs : Rat) / 10) * double ((m : Rat) / vs.length))
      ≤ m * t / 10 + 1 / 400 := by
    have hsize : |double ((tenthsOf vs : Rat) / 10) * double ((m : Rat) / vs.length)| < 2 ^ 7 := by
      rw [abs_of_nonneg hproduct0]
      linarith
    have herror := (abs_le.mp (abs_double_sub_le_of_lt hsize)).2
    linarith
  -- a quarter of a hundredth is lost again in the second decimal
  have hdecimal : roundDigits 2 ((m : Rat) * t / 10 + 1 / 400) = m * t / 10 := by
    have hnear : |(m : Rat) * t / 10 + 1 / 400 - ((m * t * 10 : Int) : Rat) / 10 ^ 2|
        < 1 / 2 / 10 ^ 2 := by
      push_cast
      rw [show (m : Rat) * t / 10 + 1 / 400 - m * t * 10 / 10 ^ 2 = 1 / 400 by ring]
      norm_num
    rw [roundDigits_eq_of_abs_lt hnear]
    push_cast
    ring
  rw [pceScore_eq hlen]
  refine double_mono ?_
  rw [← hdecimal]
  exact roundDigits_mono 2 hrounded

/-- Rescaling to a smoothed count keeps the score below that count times the heaviest weight. -/
theorem lightStats_smoothed {n : Nat} {w e : Rat} {name : String} {o : LaneObservation}
    (hn : o.vehicles.length ≤ n) (hw : ∀ v ∈ o.vehicles, pceWeight v ≤ w)
    (hq : (generateLaneStats name o.vehicles o.historicalCount).totalQueueTimeSec = 0)
    (he : FollowsCount n o.vehicles.length e) :
    LightStats n w (CountStabilizer.smoothed double
      (generateLaneStats name o.vehicles o.historicalCount) e) := by
  have hfilled : (0 : Int) < o.vehicles.length → o.vehicles ≠ [] := by
    intro hraw h
    rw [h] at hraw
    exact absurd hraw (by decide)
  have hweight : o.vehicles ≠ [] → 1 / 2 ≤ w := by
    intro hne
    obtain ⟨v, hv⟩ := List.exists_mem_of_ne_nil _ hne
    exact (half_le_pceWeight v).trans (hw v hv)
  refine ⟨hq, fun hraw => hweight (hfilled hraw), fun hraw hlive => ?_⟩
  have hraw' : (0 : Int) < o.vehicles.length := hraw
  have hlive' : 0 < roundHalfEven e := hlive
  have hne := hfilled hraw'
  have hpce := half_le_pceScore hne
  -- the heaviest vehicle, in tenths
  obtain ⟨v, hv, hheavy⟩ : ∃ v ∈ o.vehicles, ∀ u ∈ o.vehicles, pceTenths u ≤ pceTenths v := by
    obtain ⟨v, hmax⟩ := Option.ne_none_iff_exists'.mp
      (mt List.argmax_eq_none.mp hne : o.vehicles.argmax pceTenths ≠ none)
    exact ⟨v, List.argmax_mem hmax, fun u hu => List.le_of_mem_argmax hu hmax⟩
  obtain ⟨-, hlow, hhigh⟩ := pceTenths_spec v
  -- as many vehicles of that weight as the count allows
  have hbound : ∀ m : Int, 0 ≤ m → m ≤ n → n < 40 →
      double (m * pceTenths v / 10) ≤ n * w + 1 / 2 ^ 40 := by
    intro m hm hmn hn40
    have hm' : (0 : Rat) ≤ m := by exact_mod_cast hm
    have hmn' : (m : Rat) ≤ n := by exact_mod_cast hmn
    have hn40' : (n : Rat) < 40 := by exact_mod_cast hn40
    have hlow' : (5 : Rat) ≤ pceTenths v := by exact_mod_cast hlow
    have hhigh' : (pceTenths v : Rat) ≤ 20 := by exact_mod_cast hhigh
    have htenths := pceTenths_le (hw v hv)
    have hexact : (m : Rat) * pceTenths v / 10 ≤ n * (w + 1 / 2 ^ 52) := by
      calc (m : Rat) * pceTenths v / 10 = m * (pceTenths v / 10) := by ring
        _ ≤ n * (w + 1 / 2 ^ 52) := mul_le_mul hmn' htenths (by positivity) (by positivity)
    have hsize : |(m : Rat) * pceTenths v / 10| < 2 ^ 7 := by
      rw [abs_of_nonneg (by positivity)]
      calc (m : Rat) * pceTenths v / 10 ≤ 40 * 20 / 10 := by gcongr; linarith
        _ < 2 ^ 7 := by norm_num
    have herror := (abs_le.mp (abs_double_sub_le_of_lt hsize)).2
    linarith
  have hscore : (CountStabilizer.smoothed double
      (generateLaneStats name o.vehicles o.historicalCount) e).pceScore
      = if 0 < (o.vehicles.length : Int) ∧ roundHalfEven e ≠ (o.vehicles.length : Int) then
          roundFloat 2 (double ((analyzeOccupancy o.vehicles).pceScore
            * double ((roundHalfEven e : Rat) / ((o.vehicles.length : Int) : Rat))))
        else (analyzeOccupancy o.vehicles).pceScore := rfl
  rw [hscore]
  by_cases hsame : roundHalfEven e = (o.vehicles.length : Int)
  · -- the smoothed count is the raw one: the score is left alone
    rw [if_neg (fun h => h.2 hsame)]
    refine ⟨by linarith, fun hn40 => ?_⟩
    have htenths : (tenthsOf o.vehicles : Rat) ≤ o.vehicles.length * pceTenths v := by
      exact_mod_cast tenthsOf_le hheavy
    rw [pceScore_eq (by omega)]
    refine (double_mono ?_).trans (hbound o.vehicles.length (by positivity) (by exact_mod_cast hn)
      hn40)
    rw [Int.cast_natCast]
    linarith
  · rw [if_pos ⟨hraw', hsame⟩, Int.cast_natCast]
    constructor
    · -- the smoothed count is at least a quarter of the raw one
      refine rescaled_pos hpce ?_
      have hcount : (1 : Rat) ≤ o.vehicles.length := by exact_mod_cast hraw'
      have hone : (1 : Rat) ≤ roundHalfEven e := by exact_mod_cast hlive'
      have hnear := (abs_le.mp (abs_roundHalfEven_sub_le e)).1
      have hfollows := he.2
      rw [Int.cast_natCast] at hfollows
      rw [le_div_iff₀ (by linarith)]
      rcases le_or_gt (o.vehicles.length : Rat) 4 with hfew | hmany <;> linarith
    · -- the rescaled score is at most that of the smoothed count of the heaviest
      intro hn40
      have hmean := he.1.2 hn40
      have hle : roundHalfEven e ≤ n :=
        roundHalfEven_le_of_lt (by push_cast; linarith)
      exact (rescaled_le hne (by omega) hheavy hhigh hlive'.le (by omega)).trans
        (hbound _ hlive'.le hle hn40)

/-! ## The invariant of a run -/

/-- What holds of the path while the lane is only observed lightly. -/
structure LightPath (s : SignalScheduler) (lane : LaneName) (n : Nat) (w : Rat)
    (p : DecisionPath) : Prop where
  /-- The bounds on the green are those of the start. -/
  minGreen : p.scheduler.minGreenSec = s.minGreenSec
  maxGreen : p.scheduler.maxGreenSec = s.maxGreenSec
  /-- The average is one of counts up to `n`. -/
  keeps : p.stabilizer.Keeps double (fun count => 0 ≤ count ∧ count ≤ n) (LightMean n)
    (FollowsCount n)
  ema : p.stabilizer.EmaIs (LightMean n) lane
  /-- The statistics of the lane are light. -/
  stats : LightStats n w (p.laneStats lane)

theorem lightPath_init (s : SignalScheduler) (lane : LaneName) (n : Nat) (w : Rat) :
    LightPath s lane n w { scheduler := s } := by
  have hnone : ¬(0 : Int) < 0 := lt_irrefl 0
  have hsize : 1 ≤ Config.countHistorySize := by decide
  refine ⟨rfl, rfl, light_keeps n rfl hsize, Or.inl rfl, ?_⟩
  exact ⟨rfl, fun h => absurd h hnone, fun h => absurd h hnone⟩

theorem lightPath_step {s : SignalScheduler} {lane : LaneName} {n : Nat} {w : Rat}
    {p : DecisionPath} {i : PathInput} (h : LightPath s lane n w p) (hi : i.Light lane n w) :
    LightPath s lane n w (p.step i).1 := by
  cases i with
  | decide lanes fresh phaseId now =>
      -- a decision moves the scheduler and leaves the bounds alone
      obtain ⟨c, hc⟩ := selectEligible_snd p.scheduler
        (calculate PriorityWeights.default (p.items lanes) now) (p.items lanes) fresh
      refine ⟨?_, ?_, h.keeps, h.ema, h.stats⟩
      · show (SignalScheduler.selectEligible _ _ _ _).2.minGreenSec = _
        rw [hc]; exact h.minGreen
      · show (SignalScheduler.selectEligible _ _ _ _).2.maxGreenSec = _
        rw [hc]; exact h.maxGreen
  | observe observed =>
      -- every count of the lane in the batch lies between zero and `n`
      have hcounts : ∀ stats, (lane, stats) ∈ DecisionPath.observedStats observed →
          ∃ o, (lane, o) ∈ observed
            ∧ stats = generateLaneStats lane.value o.vehicles o.historicalCount := by
        intro stats hst
        obtain ⟨⟨l, o⟩, hmem, heq⟩ := List.mem_map.mp hst
        rw [Prod.mk.injEq] at heq
        obtain ⟨rfl, rfl⟩ := heq
        exact ⟨o, hmem, rfl⟩
      have hbounds : ∀ stats, (lane, stats) ∈ DecisionPath.observedStats observed →
          0 ≤ stats.liveCount ∧ stats.liveCount ≤ n := by
        intro stats hst
        obtain ⟨o, hmem, rfl⟩ := hcounts stats hst
        have hlen : o.vehicles.length ≤ n := (hi o hmem).1
        show (0 : Int) ≤ o.vehicles.length ∧ (o.vehicles.length : Int) ≤ n
        exact ⟨by positivity, by exact_mod_cast hlen⟩
      obtain ⟨hout, hema, hkeeps⟩ := CountStabilizer.stabilize_keeps h.keeps h.ema hbounds
      refine ⟨h.minGreen, h.maxGreen, hkeeps, hema, ?_⟩
      rcases updateAll_eq_or_mem p.laneStats
        (p.stabilizer.stabilize double (DecisionPath.observedStats observed)).1 lane
        with hold | hnew
      · -- the lane was not observed
        show LightStats n w (updateAll _ _ lane)
        rw [hold]; exact h.stats
      · -- the lane was observed, and has the smoothed statistics
        obtain ⟨stats, e, hst, heq, he⟩ := hout _ hnew
        obtain ⟨o, hmem, rfl⟩ := hcounts stats hst
        obtain ⟨hlen, hwt, hq⟩ := hi o hmem
        show LightStats n w (updateAll _ _ lane)
        rw [heq]
        exact lightStats_smoothed hlen hwt hq he

/-- A grant of a light lane whose count was kept is short. -/
theorem grant_le {s : SignalScheduler} (hmm : s.minGreenSec ≤ s.maxGreenSec) {lane : LaneName}
    {n : Nat} {w : Rat} (hclear : ClearOfHalf s (extraGreen s n w))
    {p : DecisionPath} {i : PathInput} (h : LightPath s lane n w p) (hkept : CountKept lane p i)
    {d : SignalDecision LaneName} (hd : (p.step i).2 = some d) (hlane : d.greenLane = lane) :
    d.greenDurationSec ≤ s.minGreenSec + roundHalfEven (extraGreen s n w) := by
  cases i with
  | observe observed => exact absurd hd (by simp [DecisionPath.step])
  | decide lanes fresh phaseId now =>
      have hgrant : ((p.scheduler.selectEligible (calculate PriorityWeights.default (p.items lanes)
          now) (p.items lanes) fresh).1.bind fun r =>
            (p.scheduler.schedule r phaseId now).toOption) = some d := hd
      obtain ⟨r, hr, hsched⟩ := Option.bind_eq_some_iff.mp hgrant
      obtain ⟨win, hwin, rfl⟩ := selectEligible_some hr
      obtain ⟨hscored, -, st, hst, hraw⟩ := mem_demandOf hwin
      rw [schedule_selected _ hscored] at hsched
      obtain rfl := Option.some.inj hsched
      have hwl : win.lane = lane := hlane
      -- the winner is the score of the lane's statistics
      obtain ⟨l, stats, hitem, rank, hscore⟩ := mem_calculate hscored
      have hll : l = lane := by rw [← hwl, hscore]; rfl
      have hstats : ∀ st', (lane, st') ∈ p.items lanes → st' = p.laneStats lane := by
        intro st' hmem
        obtain ⟨l', -, heq⟩ := List.mem_map.mp hmem
        rw [Prod.mk.injEq] at heq
        rw [← heq.2, heq.1]
      have hst' : st = p.laneStats lane := hstats st (hwl ▸ mem_of_lookup hst)
      have hs' : stats = p.laneStats lane := hstats stats (hll ▸ hitem)
      rw [hst'] at hraw
      obtain ⟨hpos, hle⟩ := h.stats.pce hraw (hkept hraw)
      have hweight := h.stats.weight hraw
      have hpce : win.breakdown.rawPce = (p.laneStats lane).pceScore := by rw [hscore, ← hs']; rfl
      have hqueue : win.breakdown.rawQueueSec = 0 := by
        rw [hscore, ← h.stats.queue, ← hs']; rfl
      -- many vehicles earn the whole share, and of few the score is small
      have hload : 20 ≤ (n : Rat) * w ∨ win.breakdown.rawPce ≤ n * w + 1 / 2 ^ 40 := by
        rcases lt_or_ge n 40 with hfew | hmany
        · rw [hpce]
          exact Or.inr (hle hfew)
        · have hmany' : (40 : Rat) ≤ n := by exact_mod_cast hmany
          refine Or.inl ?_
          calc (20 : Rat) = 40 * (1 / 2) := by norm_num
            _ ≤ n * w := by gcongr
      have hextra0 : 0 ≤ extraGreen s n w := by
        have hspan : (s.minGreenSec : Rat) ≤ s.maxGreenSec := by exact_mod_cast hmm
        have hshare : 0 ≤ min 1 ((n : Rat) * w / 20) := le_min zero_le_one (by positivity)
        unfold extraGreen
        exact mul_nonneg (by positivity) (by linarith)
      have hslack : p.scheduler.slack = s.slack := by
        unfold SignalScheduler.slack; rw [h.minGreen, h.maxGreen]
      show p.scheduler.calculateGreenTime win _ ≤ _
      rw [← h.minGreen]
      refine calculateGreenTime_le (by rw [h.minGreen, h.maxGreen]; exact hmm) _ (by positivity)
        (by rw [hpce]; exact hpos) hload hqueue (le_roundHalfEven (by exact_mod_cast hextra0)) ?_
      rw [h.minGreen, h.maxGreen, hslack]
      exact hclear.lt hmm

/--
**Light demand gets a short green while its count is not rounded away.**

In every run of the decision path in which a lane is only ever observed with at
most `n` vehicles of weight at most `w` and no queue seconds, and in which no
decision finds the lane occupied with a smoothed count of zero, every green the
lane is granted exceeds the minimum by at most the rounded extra green of `n` such
vehicles, whatever the other approaches are observed with; unless the extra green
is so close to an exact half that the roundings of the duration decide.
-/
theorem light_demand_short_green (s : SignalScheduler) (hmm : s.minGreenSec ≤ s.maxGreenSec)
    (lane : LaneName) (n : Nat) (w : Rat) (run : List PathInput)
    (hlight : ∀ i ∈ run, i.Light lane n w)
    (hkept : ∀ e ∈ events DecisionPath.step { scheduler := s } run, CountKept lane e.pre e.input)
    (hclear : ClearOfHalf s (extraGreen s n w)) :
    ∀ e ∈ events DecisionPath.step { scheduler := s } run, ∀ d, e.out = some d →
      d.greenLane = lane →
      d.greenDurationSec ≤ s.minGreenSec + roundHalfEven (extraGreen s n w) := by
  have hok : ∀ e ∈ events DecisionPath.step { scheduler := s } run, e.input.Light lane n w := by
    intro e he
    obtain ⟨before, i, rest, hrun, rfl⟩ := (mem_events_iff _).mp he
    exact hlight i (by rw [hrun]; exact List.mem_append_right _ List.mem_cons_self)
  have hstep : ∀ p i, LightPath s lane n w p → i.Light lane n w →
      LightPath s lane n w (p.step i).1 := fun p i hp hi => lightPath_step hp hi
  have hinv := events_invariant hstep (lightPath_init s lane n w) hok
  intro e he d hd hlane
  have hk := hkept e he
  obtain ⟨before, i, rest, hrun, rfl⟩ := (mem_events_iff _).mp he
  exact grant_le hmm hclear (hinv _ he).1 hk hd hlane

-- eight cars earn 16.5 s of a range of 55 s, and their duration is rounded up
example :
    let s : SignalScheduler := { minGreenSec := 10, maxGreenSec := 65 }
    let cars := List.replicate 8 ({ className := "car" } : VehicleState)
    ¬ClearOfHalf s (extraGreen s 8 1)
      ∧ (events DecisionPath.step { scheduler := s }
          [.observe [(.north, { vehicles := cars })], .decide [.north] [.north] 1 0]).map
          (fun e => e.out.map (·.greenDurationSec)) = [none, some 27] := by decide +kernel

/-! ## A scooter that gets the maximum -/

/-- The north camera sees `first`, then one scooter; the scooter is the only demand. -/
def scooterRun (first : List VehicleState) : List PathInput :=
  [.observe [(.north, { vehicles := first })],
   .observe [(.north, { vehicles := [{ className := "two-wheeler" }] })],
   .decide [.north, .east, .south, .west] [.north] 1 0]

theorem scooterRun_light {first : List VehicleState}
    (h : (PathInput.observe [(.north, { vehicles := first })]).Light .north 1 (1 / 2)) :
    ∀ i ∈ scooterRun first, i.Light .north 1 (1 / 2) := by
  intro i hi
  rcases List.mem_cons.mp hi with rfl | hi
  · exact h
  · rcases List.mem_cons.mp hi with rfl | hi
    · intro o ho
      obtain rfl := (Prod.mk.inj (List.mem_singleton.mp ho)).2
      decide +kernel
    · obtain rfl := List.mem_singleton.mp hi
      trivial

theorem light_demand_short_green_scooter :
    (∀ i ∈ scooterRun [{ className := "two-wheeler" }], i.Light .north 1 (1 / 2))
      ∧ ∀ e ∈ events DecisionPath.step { scheduler := {} }
          (scooterRun [{ className := "two-wheeler" }]), ∀ d, e.out = some d →
        d.greenLane = .north →
        d.greenDurationSec ≤ 10 + roundHalfEven (extraGreen {} 1 (1 / 2)) := by
  have hlight : ∀ i ∈ scooterRun [{ className := "two-wheeler" }], i.Light .north 1 (1 / 2) := by
    refine scooterRun_light ?_
    intro o ho
    obtain rfl := (Prod.mk.inj (List.mem_singleton.mp ho)).2
    decide +kernel
  exact ⟨hlight, light_demand_short_green {} (by decide) .north 1 (1 / 2) _ hlight
    (by decide +kernel) (by decide +kernel)⟩

/-- An empty observation before the scooter pulls its average below one half. -/
theorem scooter_gets_maximum : ¬∀ (s : SignalScheduler) (lane : LaneName) (n : Nat) (w : Rat)
    (run : List PathInput), s.minGreenSec ≤ s.maxGreenSec → (∀ i ∈ run, i.Light lane n w) →
    ∀ e ∈ events DecisionPath.step { scheduler := s } run, ∀ d, e.out = some d →
      d.greenLane = lane →
      d.greenDurationSec ≤ s.minGreenSec + roundHalfEven (extraGreen s n w) := by
  intro h
  have hlight : ∀ i ∈ scooterRun [], i.Light .north 1 (1 / 2) := by
    refine scooterRun_light ?_
    intro o ho
    obtain rfl := (Prod.mk.inj (List.mem_singleton.mp ho)).2
    decide +kernel
  have hgreen : ((events DecisionPath.step { scheduler := {} } (scooterRun [])).map
      fun e => e.out.map fun d => (d.greenLane, d.greenDurationSec)).getLast?
        = some (some (.north, 60)) := by decide +kernel
  obtain ⟨e, he, hout⟩ := List.mem_map.mp (List.mem_of_getLast? hgreen)
  obtain ⟨d, hd, hvals⟩ := Option.map_eq_some_iff.mp hout
  obtain ⟨hlane, hsec⟩ := Prod.mk.inj hvals
  have hle := h {} .north 1 (1 / 2) (scooterRun []) (by decide) hlight e he d hd hlane
  rw [hsec] at hle
  exact absurd hle (by decide +kernel)

end SmartTraffic.Proof
