import Mathlib

/-!
# Rounding half to even

`round` of the modelled language rounds a number to the nearest integer and
breaks ties towards the even neighbour, and `round(x, d)` does the same at the
`d`-th decimal. Everything here is stated over exact rationals: the functions
are odd and monotone, fix the values they can represent, and are off by at most
half of their last place.
-/

namespace SmartTraffic.Lib

/-- The nearest integer, ties to the even one. -/
def roundHalfEven (q : Rat) : Int :=
  if q - ⌊q⌋ < 1 / 2 then ⌊q⌋
  else if 1 / 2 < q - ⌊q⌋ then ⌊q⌋ + 1
  else if ⌊q⌋ % 2 = 0 then ⌊q⌋ else ⌊q⌋ + 1

/-- `round(q, d)`: the nearest multiple of `10 ^ (-d)`, ties to the even one. -/
def roundDigits (d : Nat) (q : Rat) : Rat := roundHalfEven (q * 10 ^ d) / 10 ^ d

/-- `int(q)`: what is after the point is cut off. -/
def truncate (q : Rat) : Int := if 0 ≤ q then ⌊q⌋ else ⌈q⌉

/-! ## The two candidates -/

theorem floor_le_roundHalfEven (q : Rat) : ⌊q⌋ ≤ roundHalfEven q := by
  unfold roundHalfEven; split_ifs <;> omega

theorem roundHalfEven_le_floor_add_one (q : Rat) : roundHalfEven q ≤ ⌊q⌋ + 1 := by
  unfold roundHalfEven; split_ifs <;> omega

@[simp] theorem roundHalfEven_intCast (n : Int) : roundHalfEven (n : Rat) = n := by
  unfold roundHalfEven
  rw [Int.floor_intCast, if_pos (by norm_num)]

/-- **Rounding is monotone.** -/
theorem roundHalfEven_mono {q r : Rat} (h : q ≤ r) : roundHalfEven q ≤ roundHalfEven r := by
  rcases lt_or_eq_of_le (Int.floor_mono h) with hlt | heq
  · calc roundHalfEven q ≤ ⌊q⌋ + 1 := roundHalfEven_le_floor_add_one q
      _ ≤ ⌊r⌋ := hlt
      _ ≤ roundHalfEven r := floor_le_roundHalfEven r
  · -- same integer part: the larger fraction rounds at least as far up
    have hfrac : q - ⌊q⌋ ≤ r - ⌊r⌋ := by rw [heq]; linarith
    unfold roundHalfEven
    rw [← heq] at hfrac ⊢
    split_ifs <;> first | omega | linarith

/-- Rounding is odd. -/
theorem roundHalfEven_neg (q : Rat) : roundHalfEven (-q) = -roundHalfEven q := by
  have hfl := Int.floor_le q
  have hlt := Int.lt_floor_add_one q
  rcases hfl.eq_or_lt with heq | hpos
  · rw [← heq, roundHalfEven_intCast, ← Int.cast_neg, roundHalfEven_intCast]
  · -- off the integers the two candidates swap
    have hneg : ⌊-q⌋ = -⌊q⌋ - 1 := by
      rw [Int.floor_eq_iff]
      push_cast
      constructor <;> linarith
    have hfrac : -q - ((-⌊q⌋ - 1 : Int) : Rat) = 1 - (q - ⌊q⌋) := by
      push_cast
      ring
    unfold roundHalfEven
    rw [hneg, hfrac]
    split_ifs <;> first | omega | linarith

theorem roundHalfEven_le {q : Rat} {n : Int} (h : q ≤ n) : roundHalfEven q ≤ n := by
  simpa using roundHalfEven_mono h

theorem le_roundHalfEven {q : Rat} {n : Int} (h : (n : Rat) ≤ q) : n ≤ roundHalfEven q := by
  simpa using roundHalfEven_mono h

/-! ## Decimals -/

theorem roundDigits_mono (d : Nat) {q r : Rat} (h : q ≤ r) : roundDigits d q ≤ roundDigits d r := by
  unfold roundDigits
  have hmul : q * 10 ^ d ≤ r * 10 ^ d := by gcongr
  have hround : (roundHalfEven (q * 10 ^ d) : Rat) ≤ roundHalfEven (r * 10 ^ d) := by
    exact_mod_cast roundHalfEven_mono hmul
  gcongr

theorem roundDigits_neg (d : Nat) (q : Rat) : roundDigits d (-q) = -roundDigits d q := by
  unfold roundDigits
  rw [neg_mul, roundHalfEven_neg]
  push_cast
  ring

/-- A value with at most `d` decimals is left alone. -/
theorem roundDigits_of_decimal (d : Nat) {q : Rat} {n : Int} (h : q * 10 ^ d = n) :
    roundDigits d q = q := by
  unfold roundDigits
  rw [h, roundHalfEven_intCast, ← h, mul_div_assoc, div_self (by positivity), mul_one]

/-! ## The error of rounding -/

theorem abs_roundHalfEven_sub_le (q : Rat) : |(roundHalfEven q : Rat) - q| ≤ 1 / 2 := by
  have hfloor : (⌊q⌋ : Rat) ≤ q := Int.floor_le q
  have hceil : q < ⌊q⌋ + 1 := Int.lt_floor_add_one q
  unfold roundHalfEven
  rw [abs_le]
  split_ifs <;> push_cast <;> constructor <;> linarith

/-- What is nearer than one half is found. -/
theorem roundHalfEven_eq_of_abs_lt {q : Rat} {n : Int} (h : |q - n| < 1 / 2) :
    roundHalfEven q = n := by
  obtain ⟨hlow, hhigh⟩ := abs_lt.mp h
  obtain ⟨hlow', hhigh'⟩ := abs_le.mp (abs_roundHalfEven_sub_le q)
  have hlt : (roundHalfEven q : Rat) < (n + 1 : Int) := by
    push_cast
    linarith
  have hgt : ((n - 1 : Int) : Rat) < roundHalfEven q := by
    push_cast
    linarith
  have hlt := Int.cast_lt.mp hlt
  have hgt := Int.cast_lt.mp hgt
  omega

/-- The decimal that is nearer than half its last place is found. -/
theorem roundDigits_eq_of_abs_lt {d : Nat} {q : Rat} {n : Int}
    (h : |q - n / 10 ^ d| < 1 / 2 / 10 ^ d) : roundDigits d q = n / 10 ^ d := by
  have hscale : (0 : Rat) < 10 ^ d := by positivity
  have hsub : q * 10 ^ d - n = (q - n / 10 ^ d) * 10 ^ d := by field_simp
  have hnear : |q * 10 ^ d - n| < 1 / 2 := by
    rw [hsub, abs_mul, abs_of_pos hscale]
    exact (lt_div_iff₀ hscale).mp h
  unfold roundDigits
  rw [roundHalfEven_eq_of_abs_lt hnear]

/-- Below the middle the lower integer bounds the rounding. -/
theorem roundHalfEven_le_of_lt {q : Rat} {n : Int} (h : q < n + 1 / 2) : roundHalfEven q ≤ n := by
  rcases le_or_gt q n with hle | hgt
  · exact roundHalfEven_le hle
  · exact (roundHalfEven_eq_of_abs_lt (by rw [abs_of_pos] <;> linarith)).le

theorem abs_roundDigits_sub_le (d : Nat) (q : Rat) : |roundDigits d q - q| ≤ 1 / 2 / 10 ^ d := by
  have hscale : (0 : Rat) < 10 ^ d := by positivity
  have herror : roundDigits d q - q = (roundHalfEven (q * 10 ^ d) - q * 10 ^ d) / 10 ^ d := by
    unfold roundDigits
    field_simp
  rw [herror, abs_div, abs_of_pos hscale]
  gcongr
  exact abs_roundHalfEven_sub_le _

end SmartTraffic.Lib
