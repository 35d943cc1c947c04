import SmartTraffic.Lib.Rounding
import SmartTraffic.Lib.Text

/-!
# Numbers as text

A number is written with a fixed number of decimals, the nearest such decimal, and read
back by the grammar of Python's `int` and `float`: a sign, digits with single underscores
between them, and for a float a point and an exponent. What is written reads back as the
rounded number.

Infinities and NaN are no rationals; their names are not read.
-/

namespace SmartTraffic.Lib

/-! ## Writing -/

/-- `str(n)`. -/
def natText (n : Nat) : Text := Nat.toDigits 10 n

/-- The digits of `n`, filled up with zeros to `d` of them. -/
def padded (d n : Nat) : Text := List.replicate (d - (natText n).length) '0' ++ natText n

/-- `f"{q:.df}"`, for at least one decimal. -/
def fixed (d : Nat) (q : Rat) : Text :=
  let n := (roundHalfEven (q * 10 ^ d)).natAbs
  (if q < 0 then ['-'] else []) ++ natText (n / 10 ^ d) ++ '.' :: padded d (n % 10 ^ d)

/-! ## Reading -/

/-- The text without its underscores, which may stand between digits only. -/
def ungroup (previous : Char) : Text → Option Text
  | [] => if previous = '_' then none else some []
  | c :: text =>
      if c = '_' then (if previous.isDigit then ungroup c text else none)
      else if previous = '_' ∧ c.isDigit = false then none
      else (ungroup c text).map (c :: ·)

/-- Whether the sign is a minus, and what follows it. -/
def readSign : Text → Bool × Text
  | [] => (false, [])
  | c :: text => if c = '-' then (true, text) else if c = '+' then (false, text)
      else (false, c :: text)

/-- A text of digits. -/
def readNat (text : Text) : Option Nat :=
  if text ≠ [] ∧ text.all Char.isDigit then some (Nat.ofDigitChars 10 text 0) else none

/-- An optional sign and digits. -/
def readSigned (text : Text) : Option Int :=
  (readNat (readSign text).2).map fun n => if (readSign text).1 then -n else n

/-- `int(text)`, for a text without spaces around it. -/
def readInt (text : Text) : Option Int := (ungroup ' ' text).bind readSigned

/-- The digits after a point, if there is one, and what follows them. -/
def readFraction : Text → Text × Text
  | [] => ([], [])
  | c :: text =>
      if c = '.' then (text.takeWhile Char.isDigit, text.dropWhile Char.isDigit)
      else ([], c :: text)

/-- The exponent at the end of a float. -/
def readExponent : Text → Option Int
  | [] => some 0
  | c :: text => if c = 'e' ∨ c = 'E' then readSigned text else none

/-- A float without a sign. -/
def readUnsigned (text : Text) : Option Rat :=
  let whole := text.takeWhile Char.isDigit
  let fraction := readFraction (text.dropWhile Char.isDigit)
  if whole ++ fraction.1 = [] then none
  else (readExponent fraction.2).map fun (exponent : Int) =>
    (Nat.ofDigitChars 10 (whole ++ fraction.1) 0 : Rat) * 10 ^ (exponent - fraction.1.length)

/-- `float(text)`, for a text without spaces around it. -/
def readFloat (text : Text) : Option Rat :=
  (ungroup ' ' text).bind fun text =>
    (readUnsigned (readSign text).2).map fun q => if (readSign text).1 then -q else q

/-! ## Digits -/

/-- A text of digits only. -/
def IsDigits (text : Text) : Prop := ∀ c ∈ text, c.isDigit = true

theorem isDigits_natText (n : Nat) : IsDigits (natText n) := fun _ hc =>
  Nat.isDigit_of_mem_toDigits (by decide) (by decide) hc

theorem natText_ne_nil (n : Nat) : natText n ≠ [] := Nat.toDigits_ne_nil

theorem isDigits_padded (d n : Nat) : IsDigits (padded d n) := by
  intro c hc
  rcases List.mem_append.mp hc with hc | hc
  · rw [List.eq_of_mem_replicate hc]
    decide
  · exact isDigits_natText n c hc

theorem length_padded {d n : Nat} (hd : 0 < d) (h : n < 10 ^ d) : (padded d n).length = d := by
  have hlen : (natText n).length ≤ d := (Nat.length_toDigits_le_iff (by decide) hd).mpr h
  unfold padded
  rw [List.length_append, List.length_replicate]
  omega

/-- **The digits of a number and those of its rest read as one number.** -/
theorem ofDigitChars_append_padded {d n m : Nat} (hd : 0 < d) (h : m < 10 ^ d) :
    Nat.ofDigitChars 10 (natText n ++ padded d m) 0 = n * 10 ^ d + m := by
  have hrest : Nat.ofDigitChars 10 (padded d m) 0 = m := by
    unfold padded natText
    rw [Nat.ofDigitChars_append, Nat.ofDigitChars_replicate_zero, Nat.mul_zero,
      Nat.ofDigitChars_ten_toDigits]
  rw [Nat.ofDigitChars_append, Nat.ofDigitChars_eq_ofDigitChars_zero, hrest, length_padded hd h]
  unfold natText
  rw [Nat.ofDigitChars_ten_toDigits, Nat.mul_comm]

theorem isSpace_of_isDigit {c : Char} (h : c.isDigit = true) : isSpace c = false := by
  have hrange : 48 ≤ c.toNat ∧ c.toNat ≤ 57 := by
    simpa [Char.isDigit, UInt32.le_iff_toNat_le] using h
  unfold isSpace
  dsimp only
  rw [decide_eq_false_iff_not]
  omega

theorem isWord_natText (n : Nat) : IsWord (natText n) :=
  ⟨natText_ne_nil n, fun c hc => isSpace_of_isDigit (isDigits_natText n c hc)⟩

theorem isWord_fixed (d : Nat) (q : Rat) : IsWord (fixed d q) := by
  refine ⟨by simp [fixed], fun c hc => ?_⟩
  unfold fixed at hc
  rw [List.mem_append, List.mem_append, List.mem_cons] at hc
  rcases hc with (hsign | hwhole) | rfl | hrest
  · have hminus : c = '-' := by
      by_cases hq : q < 0
      · simpa [hq] using hsign
      · simp [hq] at hsign
    rw [hminus]
    decide
  · exact isSpace_of_isDigit (isDigits_natText _ c hwhole)
  · decide
  · exact isSpace_of_isDigit (isDigits_padded _ _ c hrest)

/-! ## What is written reads back -/

theorem ungroup_of_notMem {previous : Char} (hprevious : previous ≠ '_') {text : Text}
    (h : '_' ∉ text) : ungroup previous text = some text := by
  induction text generalizing previous with
  | nil => exact if_neg hprevious
  | cons c text ih =>
      rw [List.mem_cons, not_or] at h
      have hc : c ≠ '_' := Ne.symm h.1
      rw [ungroup, if_neg hc, if_neg (fun hbad => hprevious hbad.1), ih hc h.2, Option.map_some]

theorem readSign_of_digit {c : Char} (hc : c.isDigit = true) (text : Text) :
    readSign (c :: text) = (false, c :: text) := by
  have hminus : c ≠ '-' := by
    rintro rfl
    exact absurd hc (by decide)
  have hplus : c ≠ '+' := by
    rintro rfl
    exact absurd hc (by decide)
  rw [readSign, if_neg hminus, if_neg hplus]

theorem underscore_notMem_digits {text : Text} (h : IsDigits text) : '_' ∉ text := fun hmem =>
  absurd (h '_' hmem) (by decide)

/-- **A whole number reads back.** -/
theorem readInt_natText (n : Nat) : readInt (natText n) = some (n : Int) := by
  have hdigits := isDigits_natText n
  have hread : readNat (natText n) = some n := by
    unfold readNat
    rw [if_pos ⟨natText_ne_nil n, List.all_eq_true.mpr hdigits⟩]
    exact congrArg some Nat.ofDigitChars_ten_toDigits
  unfold readInt
  rw [ungroup_of_notMem (by decide) (underscore_notMem_digits hdigits), Option.bind_some]
  unfold readSigned
  obtain ⟨c, text, hcons⟩ := List.exists_cons_of_ne_nil (natText_ne_nil n)
  have hc : c.isDigit = true := hdigits c (by rw [hcons]; exact List.mem_cons_self)
  rw [hcons, readSign_of_digit hc, ← hcons, hread]
  rfl

theorem readUnsigned_point {whole fraction : Text} (hwhole : IsDigits whole)
    (hne : whole ≠ []) (hfraction : IsDigits fraction) :
    readUnsigned (whole ++ '.' :: fraction)
      = some ((Nat.ofDigitChars 10 (whole ++ fraction) 0 : Rat) / 10 ^ fraction.length) := by
  have hpoint : ('.').isDigit = false := by decide
  have htake : (whole ++ '.' :: fraction).takeWhile Char.isDigit = whole := by
    rw [List.takeWhile_append_of_pos hwhole, List.takeWhile_cons_of_neg (by simp [hpoint]),
      List.append_nil]
  have hdrop : (whole ++ '.' :: fraction).dropWhile Char.isDigit = '.' :: fraction := by
    rw [List.dropWhile_append_of_pos hwhole, List.dropWhile_cons_of_neg (by simp [hpoint])]
  have hread : readFraction ('.' :: fraction) = (fraction, []) := by
    rw [readFraction, if_pos rfl, List.takeWhile_eq_self_iff.mpr hfraction,
      List.dropWhile_eq_nil_iff.mpr hfraction]
  unfold readUnsigned
  dsimp only
  rw [htake, hdrop, hread, if_neg (by simp [hne])]
  simp [readExponent, div_eq_mul_inv]

/-- The text without its sign. -/
theorem fixed_eq (d : Nat) (q : Rat) : fixed d q = (if q < 0 then ['-'] else [])
    ++ (natText ((roundHalfEven (q * 10 ^ d)).natAbs / 10 ^ d)
      ++ '.' :: padded d ((roundHalfEven (q * 10 ^ d)).natAbs % 10 ^ d)) := by
  unfold fixed
  exact List.append_assoc _ _ _

theorem readSign_fixed (d : Nat) (q : Rat) : readSign (fixed d q)
    = (decide (q < 0), natText ((roundHalfEven (q * 10 ^ d)).natAbs / 10 ^ d)
      ++ '.' :: padded d ((roundHalfEven (q * 10 ^ d)).natAbs % 10 ^ d)) := by
  rw [fixed_eq]
  by_cases hq : q < 0
  · rw [if_pos hq, List.singleton_append, readSign, if_pos rfl, decide_eq_true hq]
  · -- without a sign, the text starts with a digit
    obtain ⟨c, text, hcons⟩ :=
      List.exists_cons_of_ne_nil (natText_ne_nil ((roundHalfEven (q * 10 ^ d)).natAbs / 10 ^ d))
    have hc : c.isDigit = true := by
      refine isDigits_natText ((roundHalfEven (q * 10 ^ d)).natAbs / 10 ^ d) c ?_
      rw [hcons]
      exact List.mem_cons_self
    rw [if_neg hq, List.nil_append, hcons, List.cons_append, readSign_of_digit hc,
      decide_eq_false hq]

theorem underscore_notMem_fixed (d : Nat) (q : Rat) : '_' ∉ fixed d q := by
  have hsign : '_' ∉ (if q < 0 then ['-'] else []) := by
    by_cases hq : q < 0 <;> simp [hq]
  rw [fixed_eq, List.mem_append, List.mem_append, List.mem_cons, not_or, not_or, not_or]
  exact ⟨hsign, underscore_notMem_digits (isDigits_natText _), by decide,
    underscore_notMem_digits (isDigits_padded _ _)⟩

/-- **A number written with `d` decimals reads back as the nearest such decimal.** -/
theorem readFloat_fixed {d : Nat} (hd : 0 < d) (q : Rat) :
    readFloat (fixed d q) = some (roundDigits d q) := by
  have hrest : (roundHalfEven (q * 10 ^ d)).natAbs % 10 ^ d < 10 ^ d :=
    Nat.mod_lt _ (by positivity)
  have hvalue := readUnsigned_point
    (isDigits_natText ((roundHalfEven (q * 10 ^ d)).natAbs / 10 ^ d)) (natText_ne_nil _)
    (isDigits_padded d ((roundHalfEven (q * 10 ^ d)).natAbs % 10 ^ d))
  rw [ofDigitChars_append_padded hd hrest, length_padded hd hrest, Nat.div_add_mod'] at hvalue
  unfold readFloat
  rw [ungroup_of_notMem (by decide) (underscore_notMem_fixed d q), Option.bind_some,
    readSign_fixed, hvalue, Option.map_some]
  refine congrArg some ?_
  unfold roundDigits
  have hscale : (0 : Rat) < 10 ^ d := by positivity
  by_cases hq : q < 0
  · have hneg : roundHalfEven (q * 10 ^ d) ≤ 0 := by
      refine roundHalfEven_le ?_
      push_cast
      exact mul_nonpos_of_nonpos_of_nonneg hq.le hscale.le
    rw [if_pos (by simpa using hq), Nat.cast_natAbs, abs_of_nonpos hneg]
    push_cast
    ring
  · have hnonneg : 0 ≤ roundHalfEven (q * 10 ^ d) := by
      refine le_roundHalfEven ?_
      push_cast
      exact mul_nonneg (not_lt.mp hq) hscale.le
    rw [if_neg (by simpa using hq), Nat.cast_natAbs, abs_of_nonneg hnonneg]

end SmartTraffic.Lib
