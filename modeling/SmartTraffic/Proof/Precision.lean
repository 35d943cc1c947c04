import SmartTraffic.Lib.Precision
import SmartTraffic.Proof.Matchers

/-!
# Average precision and the threshold

The average precision is integrated under the envelope of the precisions, over the places
where the recall grows. Read from the last answer to the first, each answer adds its step of
the recall times the best precision that is left, so that the integral is the
`precisionArea` of the hits. The hits of two thresholds are compared there.
-/

namespace SmartTraffic.Proof

open SmartTraffic Lib ModelEvaluator

/-! ## The area under the envelope -/

/-- The first step of the recall, and the others. -/
theorem areaUnderCurve_cons (r r' p p' : Rat) (recalls precisions : List Rat) :
    areaUnderCurve (r :: r' :: recalls) (p :: p' :: precisions)
      = (r' - r) * p' + areaUnderCurve (r' :: recalls) (p' :: precisions) := by
  unfold areaUnderCurve
  simp only [List.tail_cons, List.zip_cons_cons, List.filter_cons]
  by_cases h : r' = r
  · subst h
    simp
  · simp [h]

theorem envelope_cons (x y : Rat) {xs ys : List Rat} (h : envelope xs = y :: ys) :
    envelope (x :: xs) = max x y :: envelope xs := by
  rw [envelope, h]

/-- Each answer is a hit or a miss. -/
theorem hits_add_misses (c f : Nat) (b : Bool) :
    c + b.toNat + (f + (!b).toNat) = c + f + 1 := by
  cases b with
  | false => rfl
  | true =>
      rw [Bool.toNat_true, Bool.not_true, Bool.toNat_false]
      omega

/-- The recalls from `c` hits on, and the end of the curve. -/
def recallsFrom (n c : Nat) (tp : List Bool) : List Rat :=
  (cumsumFrom c (tp.map fun b => if b then 1 else 0)).map (· / (n : Rat)) ++ [1]

/-- The precisions from `c` hits and `f` misses on, and the end of the curve. -/
def precisionsFrom (c f : Nat) (tp : List Bool) : List Rat :=
  (cumsumFrom c (tp.map fun b => if b then 1 else 0)).zipWith
    (fun t f => t / max (t + f) machineEps)
    (cumsumFrom f (tp.map fun b => if b then 0 else 1)) ++ [0]

theorem recallsFrom_cons (n c : Nat) (b : Bool) (tp : List Bool) :
    recallsFrom n c (b :: tp)
      = ((c + b.toNat : Nat) : Rat) / n :: recallsFrom n (c + b.toNat) tp := by
  unfold recallsFrom
  cases b <;> simp [cumsumFrom]

theorem precisionsFrom_cons (c f : Nat) (b : Bool) (tp : List Bool) :
    precisionsFrom c f (b :: tp)
      = ((c + b.toNat : Nat) : Rat) / (c + f + 1 : Nat)
        :: precisionsFrom (c + b.toNat) (f + (!b).toNat) tp := by
  have hmax : max (((c + f + 1 : Nat) : Rat)) machineEps = (c + f + 1 : Nat) := by
    refine max_eq_left ?_
    have hone : (1 : Rat) ≤ (c + f + 1 : Nat) := by
      exact_mod_cast Nat.le_add_left 1 (c + f)
    have heps : machineEps ≤ 1 := by
      unfold machineEps
      norm_num
    exact heps.trans hone
  have hhits : (c : Rat) + (if b then 1 else 0) = (c + b.toNat : Nat) := by
    cases b <;> simp
  have hmisses : (f : Rat) + (if b then 0 else 1) = (f + (!b).toNat : Nat) := by
    cases b <;> simp
  have hanswers : ((c + b.toNat : Nat) : Rat) + (f + (!b).toNat : Nat) = (c + f + 1 : Nat) := by
    exact_mod_cast hits_add_misses c f b
  unfold precisionsFrom
  rw [List.map_cons, List.map_cons, cumsumFrom, cumsumFrom, hhits, hmisses,
    List.zipWith_cons_cons, List.cons_append, hanswers, hmax]

/-- **The envelope starts with the best precision that is left.** -/
theorem envelope_precisionsFrom (c f : Nat) (tp : List Bool) :
    ∃ rest, envelope (precisionsFrom c f tp) = bestPrecision c (c + f) tp :: rest := by
  induction tp generalizing c f with
  | nil => exact ⟨[], rfl⟩
  | cons b tp ih =>
      obtain ⟨rest, hrest⟩ := ih (c + b.toNat) (f + (!b).toNat)
      rw [hits_add_misses] at hrest
      rw [precisionsFrom_cons, envelope_cons _ _ hrest]
      exact ⟨_, rfl⟩

/-- **The area from `c` hits and `f` misses on.** -/
theorem areaUnderCurve_from (n c f : Nat) (p : Rat) (tp : List Bool) :
    areaUnderCurve ((c : Rat) / n :: recallsFrom n c tp) (p :: envelope (precisionsFrom c f tp))
      = precisionArea n c (c + f) tp := by
  induction tp generalizing c f p with
  | nil =>
      show areaUnderCurve [_, 1] [p, 0] = 0
      rw [areaUnderCurve_cons, mul_zero, zero_add]
      rfl
  | cons b tp ih =>
      obtain ⟨rest, hrest⟩ := envelope_precisionsFrom (c + b.toNat) (f + (!b).toNat) tp
      have hnext := ih (c + b.toNat) (f + (!b).toNat)
      rw [hits_add_misses] at hrest hnext
      rw [recallsFrom_cons, precisionsFrom_cons, envelope_cons _ _ hrest, areaUnderCurve_cons,
        hnext, precisionArea, bestPrecision]
      push_cast
      ring

/-- **The average precision of a run of hits.** -/
theorem areaOfHits_eq (tp : List Bool) (n : Nat) : areaOfHits tp n = precisionArea n 0 0 tp := by
  obtain ⟨rest, hrest⟩ := envelope_precisionsFrom 0 0 tp
  have hfrom := areaUnderCurve_from n 0 0 (max 0 (bestPrecision 0 0 tp)) tp
  rw [← envelope_cons 0 _ hrest] at hfrom
  rw [← hfrom]
  unfold areaOfHits recallsFrom precisionsFrom cumsum
  simp

/-! ## One class -/

section

variable (ps : List EvaluationPrediction) (groundTruths : List GroundTruthAnnotation) (c : String)

theorem nGt_eq : nGt groundTruths c = (ofClass c groundTruths.zipIdx).length := by
  have hmap := congrArg List.length (ofClass_map_fst groundTruths.zipIdx c)
  rw [List.length_map, List.zipIdx_map_fst] at hmap
  exact hmap.symm

theorem precisionArea_zero (i j : Nat) (tp : List Bool) : precisionArea 0 i j tp = 0 := by
  induction tp generalizing i j with
  | nil => rfl
  | cons b tp ih =>
      rw [precisionArea, ih, Nat.cast_zero, div_zero, zero_mul, add_zero]

/-- **The average precision of a class** is the area of its greedy run. -/
theorem calculateAveragePrecision_eq (threshold : Rat) :
    calculateAveragePrecision ps (gtByImage groundTruths) c threshold (nGt groundTruths c)
      = precisionArea (nGt groundTruths c) 0 0
        (hits threshold classScore (ofClass c groundTruths.zipIdx) [] ps) := by
  unfold calculateAveragePrecision
  by_cases hzero : nGt groundTruths c = 0 ∨ ps = []
  · rw [if_pos hzero]
    rcases hzero with hnone | rfl
    · rw [hnone, precisionArea_zero]
    · rfl
  · rw [if_neg hzero, areaOfHits_eq, apHits_eq]

theorem fair_nil (O : List Placed) : Fair O [] := ⟨List.nodup_nil, List.nil_subset O⟩

theorem averagePrecision_antitone {t₁ t₂ : Rat} (h : t₁ ≤ t₂) :
    calculateAveragePrecision ps (gtByImage groundTruths) c t₂ (nGt groundTruths c)
      ≤ calculateAveragePrecision ps (gtByImage groundTruths) c t₁ (nGt groundTruths c) := by
  rw [calculateAveragePrecision_eq, calculateAveragePrecision_eq]
  have hahead : Ahead 0 0 (hits t₁ classScore (ofClass c groundTruths.zipIdx) [] ps)
      (hits t₂ classScore (ofClass c groundTruths.zipIdx) [] ps) :=
    hits_ahead h (List.Subset.refl []) (fair_nil _) (fair_nil _) ps
  have hmono := precisionArea_mono (n := nGt groundTruths c) (i := 0) hahead
  simpa using hmono

theorem averagePrecision_bounds (threshold : Rat) :
    0 ≤ calculateAveragePrecision ps (gtByImage groundTruths) c threshold (nGt groundTruths c)
      ∧ calculateAveragePrecision ps (gtByImage groundTruths) c threshold (nGt groundTruths c)
        ≤ 1 := by
  rw [calculateAveragePrecision_eq]
  refine ⟨precisionArea_nonneg _ _ _ _, (precisionArea_le le_rfl _).trans ?_⟩
  have hcount : (hits threshold classScore (ofClass c groundTruths.zipIdx) [] ps).count true
      ≤ nGt groundTruths c := by
    have hle : ([] : List Placed).length
        + (hits threshold classScore (ofClass c groundTruths.zipIdx) [] ps).count true
        ≤ (ofClass c groundTruths.zipIdx).length := count_hits_le (fair_nil _) ps
    rw [List.length_nil, Nat.zero_add, ← nGt_eq] at hle
    exact hle
  exact div_le_one_of_le₀ (by exact_mod_cast hcount) (Nat.cast_nonneg _)

end

/-! ## Means -/

theorem meanOr0_le {xs : List Rat} {b : Rat} (hb : 0 ≤ b) (h : ∀ x ∈ xs, x ≤ b) :
    meanOr0 xs ≤ b := by
  unfold meanOr0
  by_cases hxs : xs = []
  · rw [if_pos hxs]
    exact hb
  · have hpos : (0 : Rat) < xs.length := by
      exact_mod_cast List.length_pos_iff.mpr hxs
    have hsum := List.sum_le_card_nsmul xs b h
    rw [if_neg hxs, div_le_iff₀ hpos, mul_comm]
    simpa using hsum

theorem meanOr0_mono {A : Type} {l : List A} {f g : A → Rat} (h : ∀ a ∈ l, f a ≤ g a) :
    meanOr0 (l.map f) ≤ meanOr0 (l.map g) := by
  unfold meanOr0
  cases l with
  | nil => exact le_rfl
  | cons a l =>
      have hsum := List.sum_le_sum h
      rw [if_neg (by simp), if_neg (by simp), List.length_map, List.length_map]
      gcongr

/-! ## The curve over the thresholds -/

theorem get?_foldl_set (f : Rat → Rat) (ts : List Rat) (t : Rat) :
    (ts.foldl (fun (d : Dict Rat Rat) t => d.set t (f t)) ∅).get? t
      = if t ∈ ts then some (f t) else none := by
  induction ts using List.reverseRecOn with
  | nil => rfl
  | append_singleton ts t' ih =>
      rw [List.foldl_append, List.foldl_cons, List.foldl_nil, Dict.get?_set, ih]
      by_cases ht : t = t'
      · subst ht
        simp
      · simp [ht]

/-- A value of the curve that no other exceeds bounds the mean. -/
theorem meanOr0_curve_le {f : Rat → Rat} {ts : List Rat} {t₀ : Rat} (ht₀ : t₀ ∈ ts)
    (hnonneg : 0 ≤ f t₀) (hle : ∀ t ∈ ts, f t ≤ f t₀) :
    meanOr0 (ts.foldl (fun (d : Dict Rat Rat) t => d.set t (f t)) ∅).values
      ≤ ((ts.foldl (fun (d : Dict Rat Rat) t => d.set t (f t)) ∅).get? t₀).getD 0 := by
  rw [get?_foldl_set, if_pos ht₀, Option.getD_some]
  refine meanOr0_le hnonneg fun v hv => ?_
  obtain ⟨t, ht⟩ := (Dict.mem_values_iff _).mp hv
  rw [get?_foldl_set] at ht
  split_ifs at ht with hmem
  obtain rfl := Option.some.inj ht
  exact hle t hmem

theorem defaultThresholds_eq : defaultThresholds
    = [1 / 2, 11 / 20, 3 / 5, 13 / 20, 7 / 10, 3 / 4, 4 / 5, 17 / 20, 9 / 10, 19 / 20] := by
  decide +kernel

theorem half_mem_defaultThresholds : (50 / 100 : Rat) ∈ defaultThresholds := by
  rw [defaultThresholds_eq]
  norm_num

theorem half_le_of_mem_defaultThresholds {t : Rat} (h : t ∈ defaultThresholds) :
    50 / 100 ≤ t := by
  rw [defaultThresholds_eq] at h
  simp only [List.mem_cons, List.not_mem_nil, or_false] at h
  rcases h with rfl | rfl | rfl | rfl | rfl | rfl | rfl | rfl | rfl | rfl <;> norm_num

/-- **The mean over the stricter thresholds is at most the value at the loosest.** -/
theorem ap5095_le_ap50 (predictions : List EvaluationPrediction)
    (groundTruths : List GroundTruthAnnotation) (tally : ClassTally) (c : String) :
    ((ModelEvaluator.init none).classMetrics predictions groundTruths tally c).ap5095
      ≤ ((ModelEvaluator.init none).classMetrics predictions groundTruths tally c).ap50 := by
  unfold classMetrics classApCurve
  dsimp only
  by_cases hnone : nGt groundTruths c = 0
  · rw [if_pos hnone]
    exact le_rfl
  · rw [if_neg hnone]
    have hts : (ModelEvaluator.init none).iouThresholds = defaultThresholds := rfl
    rw [hts]
    refine meanOr0_curve_le half_mem_defaultThresholds ?_ fun t ht => ?_
    · exact (averagePrecision_bounds _ _ _ _).1
    · exact averagePrecision_antitone _ _ _ (half_le_of_mem_defaultThresholds ht)

/--
**Average precision and the threshold.** A stricter threshold never gives a greater average
precision, and all of them lie between 0 and 1. So with the default thresholds
the mean over all of them is at most the value at 0.50, for a class and for the evaluation.
-/
theorem average_precision_le (rt : PyRuntime) (predictions sortedPreds : List EvaluationPrediction)
    (groundTruths : List GroundTruthAnnotation) (primaryIou : Rat) (c : String) {t₁ t₂ : Rat}
    (h : t₁ ≤ t₂) :
    let ap := fun t =>
      calculateAveragePrecision sortedPreds (gtByImage groundTruths) c t (nGt groundTruths c)
    let m := (ModelEvaluator.init none).evaluate rt predictions groundTruths primaryIou
    ap t₂ ≤ ap t₁ ∧ (∀ t, 0 ≤ ap t ∧ ap t ≤ 1)
      ∧ (∀ item ∈ m.perClass, item.2.ap5095 ≤ item.2.ap50) ∧ m.map5095 ≤ m.map50 := by
  intro ap m
  have hclasses : ∀ item ∈ m.perClass, item.2.ap5095 ≤ item.2.ap50 := by
    intro item hitem
    obtain ⟨c', -, rfl⟩ := List.mem_map.mp hitem
    exact ap5095_le_ap50 predictions groundTruths _ c'
  exact ⟨averagePrecision_antitone sortedPreds groundTruths c h,
    averagePrecision_bounds sortedPreds groundTruths c, hclasses, meanOr0_mono hclasses⟩

/-- The first prediction takes the car at the looser threshold, the second at the stricter one. -/
theorem average_precision_le_car :
    let gts : List GroundTruthAnnotation := [⟨"a", 0, "car", (0, 0, 10, 10), false⟩]
    let preds : List EvaluationPrediction :=
      [⟨"a", 0, "car", (0, 0, 10, 6), 9 / 10⟩, ⟨"a", 0, "car", (0, 0, 10, 9), 8 / 10⟩]
    calculateAveragePrecision preds (gtByImage gts) "car" (3 / 4) (nGt gts "car")
      ≤ calculateAveragePrecision preds (gtByImage gts) "car" (1 / 2) (nGt gts "car") := by
  intro gts preds
  exact (average_precision_le sortedRuntime preds preds gts (1 / 2) "car"
    (by norm_num : (1 : Rat) / 2 ≤ 3 / 4)).1

end SmartTraffic.Proof
