import SmartTraffic.Lib.Rounding

/-!
# Double precision

The floats of the modelled language are binary64: 53 significant bits, the last
of them worth at least `2 ^ (-1074)`. Every operation on them is the exact one
rounded to the nearest double, ties to the even significand, so one function on
rationals, `double`, gives the meaning of all of them. A finite double is a
rational that `double` leaves alone. The exponent is not bounded above: what the
format calls infinite stays a number here.

Three facts carry the rest: `double` is monotone, it fixes what is representable,
and it is off by at most half a unit in the last place.
-/

namespace SmartTraffic.Lib

/-- The exponent of the last place of the double nearest to `q`. -/
def ulpExponent (q : Rat) : Int := max (Int.log 2 |q| - 52) (-1074)

/-- The unit in the last place. -/
def ulp (q : Rat) : Rat := 2 ^ ulpExponent q

/-- The nearest double, ties to the even significand. -/
def double (q : Rat) : Rat := roundHalfEven (q / ulp q) * ulp q

/-- A finite double. -/
def IsDouble (q : Rat) : Prop := double q = q

instance (q : Rat) : Decidable (IsDouble q) := inferInstanceAs (Decidable (_ = _))

/-- `round(x, d)` of a float: the nearest decimal, and then the double nearest to that. -/
def roundFloat (d : Nat) (x : Rat) : Rat := double (roundDigits d x)

/-- What a loop adds up with `+=`, from zero. -/
def runningSum (xs : List Rat) : Rat := xs.foldl (fun total x => double (total + x)) 0

/-- One item of `sum`: the running sum, and what its roundings have lost so far. -/
def sumStep (acc : Rat × Rat) (x : Rat) : Rat × Rat :=
  let total := double (acc.1 + x)
  let lost :=
    if |x| ≤ |acc.1| then double (double (acc.1 - total) + x)
    else double (double (x - total) + acc.1)
  (total, double (acc.2 + lost))

/-- `sum` of floats, which adds what was lost back at the end. -/
def floatSum (xs : List Rat) : Rat :=
  let acc := xs.foldl sumStep (0, 0)
  double (acc.1 + acc.2)

/-! ## The unit in the last place -/

theorem ulp_pos (q : Rat) : 0 < ulp q := by
  unfold ulp
  positivity

@[simp] theorem ulp_neg (q : Rat) : ulp (-q) = ulp q := by
  unfold ulp ulpExponent
  rw [abs_neg]

/-- The significand has at most 53 bits. -/
theorem abs_lt_ulp (q : Rat) : |q| < 2 ^ 53 * ulp q := by
  have hlog : |q| < (2 : Rat) ^ (Int.log 2 |q| + 1) :=
    mod_cast Int.lt_zpow_succ_log_self (b := 2) one_lt_two |q|
  have hexp : Int.log 2 |q| + 1 ≤ 53 + ulpExponent q := by
    unfold ulpExponent
    omega
  calc |q| < (2 : Rat) ^ (Int.log 2 |q| + 1) := hlog
    _ ≤ (2 : Rat) ^ (53 + ulpExponent q) := zpow_le_zpow_right₀ one_le_two hexp
    _ = 2 ^ 53 * ulp q := by
        unfold ulp
        rw [zpow_add₀ two_ne_zero]
        norm_num

/-- Above the least exponent the significand has exactly 53 bits. -/
theorem ulp_le_abs {q : Rat} (hq : q ≠ 0) (h : -1074 < ulpExponent q) : 2 ^ 52 * ulp q ≤ |q| := by
  have hlog : (2 : Rat) ^ Int.log 2 |q| ≤ |q| :=
    mod_cast Int.zpow_log_le_self (b := 2) one_lt_two (abs_pos.mpr hq)
  have hexp : 52 + ulpExponent q = Int.log 2 |q| := by
    unfold ulpExponent at h ⊢
    omega
  calc 2 ^ 52 * ulp q = (2 : Rat) ^ (52 + ulpExponent q) := by
        unfold ulp
        rw [zpow_add₀ two_ne_zero]
        norm_num
    _ ≤ |q| := by rwa [hexp]

theorem ulpExponent_mono {q r : Rat} (hq : 0 < q) (h : q ≤ r) : ulpExponent q ≤ ulpExponent r := by
  unfold ulpExponent
  rw [abs_of_pos hq, abs_of_pos (hq.trans_le h)]
  have hlog := Int.log_mono_right (b := 2) hq h
  omega

/-- A power of two from the last place up is a whole number of last places. -/
theorem two_zpow_eq_mul_ulp {q : Rat} {e : Int} (he : ulpExponent q ≤ e) :
    ∃ n : Int, (2 : Rat) ^ e = n * ulp q := by
  obtain ⟨k, hk⟩ := Int.eq_ofNat_of_zero_le (sub_nonneg.mpr he)
  refine ⟨2 ^ k, ?_⟩
  unfold ulp
  push_cast
  rw [← zpow_natCast, ← zpow_add₀ two_ne_zero, ← hk, sub_add_cancel]

/-- The last place follows from the powers of two around the number. -/
theorem ulpExponent_eq {q : Rat} {e : Int} (hlow : 2 ^ e ≤ |q|) (hhigh : |q| < 2 ^ (e + 1))
    (he : -1022 ≤ e) : ulpExponent q = e - 52 := by
  have hq : 0 < |q| := lt_of_lt_of_le (by positivity) hlow
  have hge : e ≤ Int.log 2 |q| := (Int.zpow_le_iff_le_log one_lt_two hq).mp (mod_cast hlow)
  have hlt : Int.log 2 |q| < e + 1 := (Int.lt_zpow_iff_log_lt one_lt_two hq).mp (mod_cast hhigh)
  unfold ulpExponent
  omega

/-! ## Half a unit off -/

@[simp] theorem double_zero : double 0 = 0 := by
  unfold double
  rw [zero_div, show roundHalfEven 0 = 0 from roundHalfEven_intCast 0]
  norm_num

theorem abs_double_sub_le_ulp (q : Rat) : |double q - q| ≤ ulp q / 2 := by
  have hpos := ulp_pos q
  have herror : double q - q = (roundHalfEven (q / ulp q) - q / ulp q) * ulp q := by
    unfold double
    field_simp
  rw [herror, abs_mul, abs_of_pos hpos]
  calc |(roundHalfEven (q / ulp q) : Rat) - q / ulp q| * ulp q ≤ 1 / 2 * ulp q := by
        gcongr
        exact abs_roundHalfEven_sub_le _
    _ = ulp q / 2 := by ring

/-- **Rounding a number that is not subnormal is off by at most one part in `2 ^ 53`.** -/
theorem abs_double_sub_le {q : Rat} (h : 2 ^ (-1022 : Int) ≤ |q|) :
    |double q - q| ≤ |q| / 2 ^ 53 := by
  refine (abs_double_sub_le_ulp q).trans ?_
  have hq : q ≠ 0 := by
    rintro rfl
    rw [abs_zero] at h
    exact absurd h (not_le.mpr (by positivity))
  rcases lt_or_ge (-1074) (ulpExponent q) with hexp | hexp
  · have hbits := ulp_le_abs hq hexp
    linarith
  · -- the last place is the least one: the number is at least 2 ^ 52 of them
    have hleast : ulp q ≤ (2 : Rat) ^ (-1074 : Int) := zpow_le_zpow_right₀ one_le_two hexp
    have hsplit : (2 : Rat) ^ (-1022 : Int) = 2 ^ 52 * 2 ^ (-1074 : Int) := by
      rw [show (-1022 : Int) = 52 + -1074 by norm_num, zpow_add₀ two_ne_zero]
      norm_num
    rw [hsplit] at h
    linarith

/-- Below a power of two the error is that of its last place. -/
theorem abs_double_sub_le_of_lt {q : Rat} {k : Nat} (h : |q| < 2 ^ k) :
    |double q - q| ≤ 2 ^ k / 2 ^ 54 := by
  rcases eq_or_ne q 0 with rfl | hq
  · rw [double_zero, sub_zero, abs_zero]
    positivity
  have hlog := (Int.lt_zpow_iff_log_lt (b := 2) one_lt_two (abs_pos.mpr hq)).mp
    (show |q| < ((2 : Nat) : Rat) ^ (k : Int) by exact_mod_cast h)
  have hexp : ulpExponent q ≤ (k : Int) - 53 := by
    unfold ulpExponent
    omega
  calc |double q - q| ≤ ulp q / 2 := abs_double_sub_le_ulp q
    _ ≤ 2 ^ ((k : Int) - 53) / 2 := by
        gcongr
        exact zpow_le_zpow_right₀ one_le_two hexp
    _ = 2 ^ k / 2 ^ 54 := by
        rw [zpow_sub₀ two_ne_zero]
        norm_num
        ring

/-- **One operation is off by one part in `2 ^ 53`**, or by next to nothing below one. -/
theorem abs_double_sub_le_add (q : Rat) : |double q - q| ≤ |q| / 2 ^ 53 + 1 / 2 ^ 54 := by
  rcases lt_or_ge |q| 1 with hsmall | hlarge
  · have herror := abs_double_sub_le_of_lt (k := 0) (by simpa using hsmall)
    have hrest : 0 ≤ |q| / 2 ^ 53 := by positivity
    rw [pow_zero] at herror
    linarith
  · have herror := abs_double_sub_le (q := q)
      ((zpow_le_one_of_nonpos₀ one_le_two (by norm_num)).trans hlarge)
    have hrest : (0 : Rat) < 1 / 2 ^ 54 := by positivity
    linarith

/-! ## What is representable -/

@[simp] theorem double_neg (q : Rat) : double (-q) = -double q := by
  unfold double
  rw [ulp_neg, neg_div, roundHalfEven_neg]
  push_cast
  ring

/-- Multiples of the last place are left alone. -/
theorem double_of_int_mul_ulp {q : Rat} {n : Int} (h : q = n * ulp q) : double q = q := by
  unfold double
  have hn : q / ulp q = n := by
    rw [div_eq_iff (ulp_pos q).ne']
    exact h
  rw [hn, roundHalfEven_intCast]
  exact h.symm

/-- **A number with a significand of at most 53 bits is a double.** -/
theorem isDouble_of_int_mul {m e : Int} (hm : |m| ≤ 2 ^ 53) (he : -1074 ≤ e) :
    IsDouble ((m : Rat) * 2 ^ e) := by
  rcases eq_or_ne m 0 with rfl | hm0
  · unfold IsDouble
    norm_num
  have htwo : (0 : Rat) < 2 ^ e := by positivity
  have hmq : |(m : Rat)| ≤ 2 ^ 53 := by exact_mod_cast hm
  have habs : |(m : Rat) * 2 ^ e| = |(m : Rat)| * 2 ^ e := by rw [abs_mul, abs_of_pos htwo]
  have hq : (m : Rat) * 2 ^ e ≠ 0 := mul_ne_zero (Int.cast_ne_zero.mpr hm0) htwo.ne'
  rcases le_or_gt (ulpExponent ((m : Rat) * 2 ^ e)) e with hle | hgt
  · -- the last place divides the unit of the significand
    obtain ⟨n, hn⟩ := two_zpow_eq_mul_ulp hle
    refine double_of_int_mul_ulp (n := m * n) ?_
    push_cast
    rw [mul_assoc, ← hn]
  · -- the significand is a power of two that has one bit too many
    have hexp : e + 1 ≤ ulpExponent ((m : Rat) * 2 ^ e) := hgt
    have hbits := ulp_le_abs hq (by omega)
    have hulp : (2 : Rat) ^ (e + 1) ≤ ulp ((m : Rat) * 2 ^ e) :=
      zpow_le_zpow_right₀ one_le_two hexp
    have hnext : (2 : Rat) ^ (e + 1) = 2 * 2 ^ e := by
      rw [zpow_add₀ two_ne_zero, zpow_one, mul_comm]
    have hup : |(m : Rat)| * 2 ^ e ≤ 2 ^ 53 * 2 ^ e := by gcongr
    have hulp' : ulp ((m : Rat) * 2 ^ e) = 2 * 2 ^ e := by
      rw [habs] at hbits
      linarith
    have hfull : |(m : Rat)| = 2 ^ 53 := by
      have hge : 2 ^ 53 * (2 : Rat) ^ e ≤ |(m : Rat)| * 2 ^ e := by
        rw [habs, hulp'] at hbits
        linarith
      exact le_antisymm hmq (le_of_mul_le_mul_right hge htwo)
    have hm53 : |m| = 2 ^ 53 := by exact_mod_cast hfull
    obtain ⟨n, hn⟩ : ∃ n, m = 2 * n := by
      rcases abs_eq (by norm_num : (0 : Int) ≤ 2 ^ 53) |>.mp hm53 with h | h
      · exact ⟨2 ^ 52, by rw [h]; norm_num⟩
      · exact ⟨-2 ^ 52, by rw [h]; norm_num⟩
    refine double_of_int_mul_ulp (n := n) ?_
    rw [hulp', hn]
    push_cast
    ring

/-- **What rounding gives is a double.** -/
theorem isDouble_double (q : Rat) : IsDouble (double q) := by
  have hbits : |roundHalfEven (q / ulp q)| ≤ 2 ^ 53 := by
    have hpos := ulp_pos q
    have hlt : |q / ulp q| ≤ 2 ^ 53 := by
      rw [abs_div, abs_of_pos hpos, div_le_iff₀ hpos]
      exact (abs_lt_ulp q).le
    obtain ⟨hlow, hhigh⟩ := abs_le.mp hlt
    rw [abs_le]
    exact ⟨le_roundHalfEven (by push_cast; exact hlow),
      roundHalfEven_le (by push_cast; exact hhigh)⟩
  exact isDouble_of_int_mul hbits (le_max_right _ _)

@[simp] theorem double_double (q : Rat) : double (double q) = double q := isDouble_double q

theorem isDouble_intCast {n : Int} (h : |n| ≤ 2 ^ 53) : IsDouble (n : Rat) := by
  simpa using isDouble_of_int_mul (e := 0) h (by norm_num)

/-! ## Order -/

theorem double_le_two_zpow {q : Rat} {e : Int} (he : ulpExponent q ≤ e) (h : q ≤ 2 ^ e) :
    double q ≤ 2 ^ e := by
  obtain ⟨n, hn⟩ := two_zpow_eq_mul_ulp he
  have hpos := ulp_pos q
  rw [hn] at h ⊢
  unfold double
  gcongr
  exact roundHalfEven_le ((div_le_iff₀ hpos).mpr h)

theorem two_zpow_le_double {q : Rat} {e : Int} (he : ulpExponent q ≤ e) (h : 2 ^ e ≤ q) :
    2 ^ e ≤ double q := by
  obtain ⟨n, hn⟩ := two_zpow_eq_mul_ulp he
  have hpos := ulp_pos q
  rw [hn] at h ⊢
  unfold double
  gcongr
  exact le_roundHalfEven ((le_div_iff₀ hpos).mpr h)

theorem double_nonneg {q : Rat} (h : 0 ≤ q) : 0 ≤ double q := by
  unfold double
  have hround : 0 ≤ roundHalfEven (q / ulp q) :=
    le_roundHalfEven (by push_cast; exact div_nonneg h (ulp_pos q).le)
  have hround' : (0 : Rat) ≤ roundHalfEven (q / ulp q) := by exact_mod_cast hround
  exact mul_nonneg hround' (ulp_pos q).le

theorem double_mono_of_pos {q r : Rat} (hq : 0 < q) (h : q ≤ r) : double q ≤ double r := by
  rcases (ulpExponent_mono hq h).lt_or_eq with hlt | heq
  · -- a power of two lies between them
    have hr : -1074 < ulpExponent r := lt_of_le_of_lt (le_max_right _ _) hlt
    have hbits := ulp_le_abs (hq.trans_le h).ne' hr
    rw [abs_of_pos (hq.trans_le h)] at hbits
    have hbelow : (2 : Rat) ^ (52 + ulpExponent r) ≤ r := by
      rw [zpow_add₀ two_ne_zero]
      exact_mod_cast hbits
    have habove : q ≤ 2 ^ (52 + ulpExponent r) := by
      have hq53 := abs_lt_ulp q
      rw [abs_of_pos hq] at hq53
      calc q ≤ 2 ^ 53 * ulp q := hq53.le
        _ = (2 : Rat) ^ (53 + ulpExponent q) := by
            unfold ulp
            rw [zpow_add₀ two_ne_zero]
            norm_num
        _ ≤ 2 ^ (52 + ulpExponent r) := zpow_le_zpow_right₀ one_le_two (by omega)
    exact (double_le_two_zpow (by omega) habove).trans (two_zpow_le_double (by omega) hbelow)
  · -- the same last place: the significands are ordered
    have hulp : ulp q = ulp r := by
      unfold ulp
      rw [heq]
    have hpos := ulp_pos r
    unfold double
    rw [hulp]
    have hround : (roundHalfEven (q / ulp r) : Rat) ≤ roundHalfEven (r / ulp r) := by
      exact_mod_cast roundHalfEven_mono (by gcongr)
    gcongr

/-- **Rounding to doubles is monotone.** -/
theorem double_mono {q r : Rat} (h : q ≤ r) : double q ≤ double r := by
  rcases lt_trichotomy 0 q with hq | rfl | hq
  · exact double_mono_of_pos hq h
  · rw [double_zero]
    exact double_nonneg h
  · rcases lt_or_ge r 0 with hr | hr
    · have hneg := double_mono_of_pos (neg_pos.mpr hr) (neg_le_neg h)
      rw [double_neg, double_neg] at hneg
      exact neg_le_neg_iff.mp hneg
    · have hq' := double_nonneg (neg_pos.mpr hq).le
      rw [double_neg] at hq'
      exact (neg_nonneg.mp hq').trans (double_nonneg hr)

/-- **Rounding never passes a double.** -/
theorem double_le {q b : Rat} (hb : IsDouble b) (h : q ≤ b) : double q ≤ b :=
  (double_mono h).trans_eq hb

theorem le_double {q b : Rat} (hb : IsDouble b) (h : b ≤ q) : b ≤ double q :=
  hb.symm.trans_le (double_mono h)

/-! ## Decimals -/

theorem roundFloat_mono (d : Nat) {x y : Rat} (h : x ≤ y) : roundFloat d x ≤ roundFloat d y :=
  double_mono (roundDigits_mono d h)

theorem roundFloat_neg (d : Nat) (x : Rat) : roundFloat d (-x) = -roundFloat d x := by
  unfold roundFloat
  rw [roundDigits_neg, double_neg]

/-- A decimal smaller than `2 ^ k` is the nearest one to its double. -/
theorem roundDigits_double {d k : Nat} (hd : 10 ^ d * 2 ^ k < 2 ^ 53) {n : Int}
    (h : |(n : Rat) / 10 ^ d| < 2 ^ k) : roundDigits d (double (n / 10 ^ d)) = n / 10 ^ d := by
  have hd' : (10 : Rat) ^ d * 2 ^ k < 2 ^ 53 := by exact_mod_cast hd
  refine roundDigits_eq_of_abs_lt ?_
  calc |double ((n : Rat) / 10 ^ d) - n / 10 ^ d| ≤ 2 ^ k / 2 ^ 54 := abs_double_sub_le_of_lt h
    _ < 1 / 2 / 10 ^ d := by
        rw [div_div, div_lt_div_iff₀ (by positivity) (by positivity)]
        linarith

theorem ulp_of_binade {e : Nat} {y : Rat} (hlow : 2 ^ e ≤ y) (hhigh : y < 2 ^ (e + 1)) :
    ulp y = 2 ^ e / 2 ^ 52 := by
  have habs : |y| = y := abs_of_pos (lt_of_lt_of_le (by positivity) hlow)
  have hexp : ulpExponent y = (e : Int) - 52 :=
    ulpExponent_eq (by rw [habs]; exact_mod_cast hlow) (by rw [habs]; exact_mod_cast hhigh)
      (by omega)
  unfold ulp
  rw [hexp, zpow_sub₀ two_ne_zero]
  norm_num

/-- The next binade is a whole number of last places away. -/
theorem add_ulp_le_binade {e : Nat} {v : Rat} (hv : IsDouble v) (hlow : 2 ^ e ≤ v)
    (hhigh : v < 2 ^ (e + 1)) : v + ulp v ≤ 2 ^ (e + 1) := by
  have hpos := ulp_pos v
  have hbinade : (2 : Rat) ^ (e + 1) = 2 ^ 53 * ulp v := by
    rw [ulp_of_binade hlow hhigh]
    ring
  obtain ⟨m, hm⟩ : ∃ m : Int, v = m * ulp v := ⟨_, hv.symm⟩
  have hm53 : m + 1 ≤ 2 ^ 53 := by
    have hlt : (m : Rat) * ulp v < 2 ^ 53 * ulp v := by rwa [← hm, ← hbinade]
    have hlt' : (m : Rat) < (2 ^ 53 : Int) := by
      push_cast
      exact lt_of_mul_lt_mul_right hlt hpos.le
    exact Int.cast_lt.mp hlt'
  rw [hbinade]
  calc v + ulp v = ((m + 1 : Int) : Rat) * ulp v := by push_cast; linarith
    _ ≤ 2 ^ 53 * ulp v := by gcongr; exact_mod_cast hm53

/-- What is nearer to a double than half its last place is rounded to it. -/
theorem double_eq_of_abs_lt {v y : Rat} (hv : IsDouble v) (hulp : ulp y = ulp v)
    (h : |y - v| < ulp v / 2) : double y = v := by
  have hpos := ulp_pos v
  obtain ⟨m, hm⟩ : ∃ m : Int, v = m * ulp v := ⟨_, hv.symm⟩
  have hround : roundHalfEven (y / ulp v) = m := by
    refine roundHalfEven_eq_of_abs_lt ?_
    have hdiff : y / ulp v - m = (y - v) / ulp v := by
      rw [sub_div, eq_div_of_mul_eq hpos.ne' hm.symm]
    rw [hdiff, abs_div, abs_of_pos hpos, div_lt_iff₀ hpos]
    linarith
  unfold double
  rw [hulp, hround]
  exact hm.symm

/-- A double of at least `2 ^ k` is the nearest one to its decimal. -/
theorem roundFloat_of_two_pow_le {d k : Nat} (hd : 2 ^ 52 < 10 ^ d * 2 ^ k) {v : Rat}
    (hv : IsDouble v) (h : 2 ^ k ≤ v) : roundFloat d v = v := by
  have hd' : (2 : Rat) ^ 52 < 10 ^ d * 2 ^ k := by exact_mod_cast hd
  obtain ⟨e, hlow, hhigh⟩ := exists_nat_pow_near ((one_le_pow₀ one_le_two).trans h) one_lt_two
  have hulp := ulp_of_binade hlow hhigh
  have hnear : |roundDigits d v - v| < ulp v / 2 := by
    have hke : k < e + 1 := (pow_lt_pow_iff_right₀ one_lt_two).mp (h.trans_lt hhigh)
    have hpow : (2 : Rat) ^ k ≤ 2 ^ e := pow_le_pow_right₀ one_le_two (by omega)
    have hscale : (2 : Rat) ^ 52 < 2 ^ e * 10 ^ d :=
      calc (2 : Rat) ^ 52 < 10 ^ d * 2 ^ k := hd'
        _ ≤ 10 ^ d * 2 ^ e := by gcongr
        _ = 2 ^ e * 10 ^ d := mul_comm _ _
    have hplace : 1 / 10 ^ d < (2 : Rat) ^ e / 2 ^ 52 := by
      rw [div_lt_div_iff₀ (by positivity) (by positivity), one_mul]
      exact hscale
    calc |roundDigits d v - v| ≤ 1 / 2 / 10 ^ d := abs_roundDigits_sub_le d v
      _ < ulp v / 2 := by
          rw [hulp, div_right_comm]
          linarith
  -- the decimal stays in the binade: one end is a decimal, the other a last place away
  have hylow : (2 : Rat) ^ e ≤ roundDigits d v := by
    calc (2 : Rat) ^ e = roundDigits d (2 ^ e) :=
          (roundDigits_of_decimal d (n := 2 ^ e * 10 ^ d) (by push_cast; rfl)).symm
      _ ≤ roundDigits d v := roundDigits_mono d hlow
  have hyhigh : roundDigits d v < 2 ^ (e + 1) := by
    have hstep := add_ulp_le_binade hv hlow hhigh
    have hpos := ulp_pos v
    linarith [(abs_lt.mp hnear).2]
  exact double_eq_of_abs_lt hv ((ulp_of_binade hylow hyhigh).trans hulp.symm) hnear

/--
**Rounding a double to a decimal a second time changes nothing**: as long as the
decimal is small its double determines it, and from `2 ^ k` on the doubles are so
coarse that the decimal determines the double.
-/
theorem roundFloat_double_decimal {d k : Nat} (hfine : 10 ^ d * 2 ^ k < 2 ^ 53)
    (hcoarse : 2 ^ 52 < 10 ^ d * 2 ^ k) (n : Int) :
    roundFloat d (double (n / 10 ^ d)) = double (n / 10 ^ d) := by
  rcases lt_or_ge |(n : Rat) / 10 ^ d| (2 ^ k) with hsmall | hlarge
  · unfold roundFloat
    rw [roundDigits_double hfine hsmall]
  · have hpow : IsDouble ((2 : Rat) ^ k) := by
      simpa using isDouble_of_int_mul (m := 1) (e := k) (by norm_num) (by omega)
    rcases le_abs.mp hlarge with hpos | hneg
    · exact roundFloat_of_two_pow_le hcoarse (isDouble_double _) (le_double hpow hpos)
    · have hround := roundFloat_of_two_pow_le hcoarse (isDouble_double _) (le_double hpow hneg)
      rw [double_neg, roundFloat_neg] at hround
      exact neg_injective hround

/-! ## Sums -/

@[simp] theorem runningSum_nil : runningSum [] = 0 := rfl

theorem runningSum_concat (xs : List Rat) (x : Rat) :
    runningSum (xs ++ [x]) = double (runningSum xs + x) := by
  unfold runningSum
  rw [List.foldl_append]
  rfl

/-- A sum of nonnegative doubles is at least its first one. -/
theorem le_runningSum {xs : List Rat} {b : Rat} (hb : IsDouble b) (hb0 : 0 ≤ b) (hne : xs ≠ [])
    (hxs : ∀ x ∈ xs, b ≤ x) : b ≤ runningSum xs := by
  induction xs using List.reverseRecOn with
  | nil => exact absurd rfl hne
  | append_singleton rest x ih =>
      rw [runningSum_concat]
      have hx : b ≤ x := hxs x (List.mem_append_right _ List.mem_cons_self)
      have hrest : 0 ≤ runningSum rest := by
        rcases eq_or_ne rest [] with rfl | hrest
        · rw [runningSum_nil]
        · exact hb0.trans (ih hrest fun y hy => hxs y (List.mem_append_left _ hy))
      exact le_double hb (by linarith)

/-- **The error of a short sum**: each of its roundings is off by the last place of a power of two
that bounds them all. -/
theorem abs_runningSum_sub_le {xs : List Rat} {b : Rat} {k : Nat} (hb : ∀ x ∈ xs, 0 ≤ x ∧ x ≤ b)
    (hb0 : 0 ≤ b) (hk : xs.length * b + 1 < 2 ^ k) (hlen : xs.length * 2 ^ k ≤ 2 ^ 54) :
    |runningSum xs - xs.sum| ≤ xs.length * (2 ^ k / 2 ^ 54) := by
  induction xs using List.reverseRecOn with
  | nil => simp
  | append_singleton rest x ih =>
      rw [List.length_append, List.length_singleton] at hk hlen ⊢
      push_cast at hk ⊢
      obtain ⟨hx0, hx⟩ := hb x (List.mem_append_right _ List.mem_cons_self)
      have hitem : ∀ y ∈ rest, 0 ≤ y ∧ y ≤ b := fun y hy => hb y (List.mem_append_left _ hy)
      have hrest := ih hitem (by linarith) ((Nat.mul_le_mul_right _ (Nat.le_succ _)).trans hlen)
      have hsum0 : 0 ≤ rest.sum := List.sum_nonneg fun y hy => (hitem y hy).1
      have hsum := List.sum_le_card_nsmul rest b fun y hy => (hitem y hy).2
      rw [nsmul_eq_mul] at hsum
      have hone : (rest.length : Rat) * (2 ^ k / 2 ^ 54) ≤ 1 := by
        have hle : (rest.length : Rat) * 2 ^ k ≤ 2 ^ 54 := by
          exact_mod_cast (Nat.mul_le_mul_right _ (Nat.le_succ _)).trans hlen
        rw [← mul_div_assoc, div_le_one (by positivity)]
        exact hle
      have hbound : |runningSum rest + x| < 2 ^ k := by
        obtain ⟨hlow, hhigh⟩ := abs_le.mp hrest
        rw [abs_lt]
        constructor <;> linarith
      rw [runningSum_concat, List.sum_append, List.sum_singleton]
      calc |double (runningSum rest + x) - (rest.sum + x)|
          = |double (runningSum rest + x) - (runningSum rest + x)
              + (runningSum rest - rest.sum)| := by ring_nf
        _ ≤ |double (runningSum rest + x) - (runningSum rest + x)|
              + |runningSum rest - rest.sum| := abs_add_le _ _
        _ ≤ 2 ^ k / 2 ^ 54 + rest.length * (2 ^ k / 2 ^ 54) :=
            add_le_add (abs_double_sub_le_of_lt hbound) hrest
        _ = (rest.length + 1) * (2 ^ k / 2 ^ 54) := by ring

end SmartTraffic.Lib
