import SmartTraffic.Lib.Greedy

/-!
# Average precision of a run of hits

A run of answers, best first, each a hit or not. The precision at an answer is the share
of hits up to it; each hit counts for the best precision at it or later, out of the `n`
hits that were possible.

A run that is ahead of another at every answer has a better precision everywhere, and its
`m`-th hit comes no later than the other's. So its average precision is at least the
other's. In the induction the hits by which a run is ahead still count for the best
precision that is left.
-/

namespace SmartTraffic.Lib

/-- The best precision in the rest of a run, after `c` hits in `i` answers. -/
def bestPrecision (c i : Nat) : List Bool → Rat
  | [] => 0
  | b :: bs =>
      max (((c + b.toNat : Nat) : Rat) / (i + 1 : Nat)) (bestPrecision (c + b.toNat) (i + 1) bs)

/-- What the rest of a run adds to the average precision. -/
def precisionArea (n c i : Nat) : List Bool → Rat
  | [] => 0
  | b :: bs =>
      (b.toNat : Rat) / n * bestPrecision c i (b :: bs) + precisionArea n (c + b.toNat) (i + 1) bs

theorem bestPrecision_nonneg (c i : Nat) (bs : List Bool) : 0 ≤ bestPrecision c i bs := by
  cases bs with
  | nil => exact le_rfl
  | cons b bs =>
      refine le_max_of_le_left ?_
      positivity

theorem bestPrecision_le_one {c i : Nat} (h : c ≤ i) (bs : List Bool) :
    bestPrecision c i bs ≤ 1 := by
  induction bs generalizing c i with
  | nil => exact zero_le_one
  | cons b bs ih =>
      have hb : b.toNat ≤ 1 := Bool.toNat_le b
      refine max_le ?_ (ih (by omega))
      rw [div_le_one (by positivity)]
      exact_mod_cast (by omega : c + b.toNat ≤ i + 1)

/-- The run that is ahead has the better precision. -/
theorem bestPrecision_mono {c d i : Nat} {bs bs' : List Bool} (h : Ahead c d bs bs') :
    bestPrecision d i bs' ≤ bestPrecision c i bs := by
  induction bs generalizing c d i bs' with
  | nil =>
      cases bs' with
      | nil => exact le_rfl
      | cons b' bs' => exact absurd h id
  | cons b bs ih =>
      cases bs' with
      | nil => exact absurd h id
      | cons b' bs' =>
          have hnow := h.2.le
          refine max_le_max ?_ (ih h.2)
          gcongr

theorem precisionArea_nonneg (n c i : Nat) (bs : List Bool) : 0 ≤ precisionArea n c i bs := by
  induction bs generalizing c i with
  | nil => exact le_rfl
  | cons b bs ih =>
      have hbest := bestPrecision_nonneg c i (b :: bs)
      exact add_nonneg (by positivity) (ih _ _)

/-- No hit counts for more than `1 / n`. -/
theorem precisionArea_le {n c i : Nat} (h : c ≤ i) (bs : List Bool) :
    precisionArea n c i bs ≤ (bs.count true : Rat) / n := by
  induction bs generalizing c i with
  | nil => exact div_nonneg (by simp) (Nat.cast_nonneg n)
  | cons b bs ih =>
      have hb : b.toNat ≤ 1 := Bool.toNat_le b
      have hrest := ih (c := c + b.toNat) (i := i + 1) (by omega)
      have hbest := bestPrecision_le_one h (b :: bs)
      have hcount : ((b :: bs).count true : Rat) = b.toNat + bs.count true := by
        cases b <;> simp [add_comm]
      calc precisionArea n c i (b :: bs)
          ≤ (b.toNat : Rat) / n * 1 + (bs.count true : Rat) / n := by
            unfold precisionArea
            gcongr
        _ = ((b :: bs).count true : Rat) / n := by
            rw [hcount]
            ring

/--
**The run that is ahead has the greater average precision.** It may have had `c - d` hits
more before; each of them counts for at most the best precision that is left.
-/
theorem precisionArea_mono {n c d i : Nat} {bs bs' : List Bool} (h : Ahead c d bs bs') :
    precisionArea n d i bs'
      ≤ precisionArea n c i bs + ((c : Rat) - d) / n * bestPrecision c i bs := by
  induction bs generalizing c d i bs' with
  | nil =>
      cases bs' with
      | nil => simp [precisionArea, bestPrecision]
      | cons b' bs' => exact absurd h id
  | cons b bs ih =>
      cases bs' with
      | nil => exact absurd h id
      | cons b' bs' =>
          have hrest := ih (i := i + 1) h.2
          have hmono : bestPrecision d i (b' :: bs') ≤ bestPrecision c i (b :: bs) :=
            bestPrecision_mono h
          have hlater : bestPrecision (c + b.toNat) (i + 1) bs ≤ bestPrecision c i (b :: bs) :=
            le_max_right _ _
          have hahead : (0 : Rat) ≤ (((c + b.toNat : Nat) : Rat) - (d + b'.toNat : Nat)) / n := by
            have hle : ((d + b'.toNat : Nat) : Rat) ≤ (c + b.toNat : Nat) := by
              exact_mod_cast h.2.le
            exact div_nonneg (by linarith) (Nat.cast_nonneg n)
          calc precisionArea n d i (b' :: bs')
              ≤ (b'.toNat : Rat) / n * bestPrecision c i (b :: bs)
                + (precisionArea n (c + b.toNat) (i + 1) bs
                  + (((c + b.toNat : Nat) : Rat) - (d + b'.toNat : Nat)) / n
                    * bestPrecision c i (b :: bs)) := by
                rw [precisionArea]
                gcongr
                refine hrest.trans ?_
                gcongr
            _ = precisionArea n c i (b :: bs)
                + ((c : Rat) - d) / n * bestPrecision c i (b :: bs) := by
                rw [precisionArea]
                push_cast
                ring

end SmartTraffic.Lib
