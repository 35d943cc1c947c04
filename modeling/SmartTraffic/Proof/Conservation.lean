import SmartTraffic.Evaluation.Evaluator
import SmartTraffic.Lib.Chunks

/-!
# Evaluation conserves objects

Every prediction is counted once, as a true or as a false positive of its class, and every
annotation once, as a true positive or as a false negative. The first is plain from the loop
over the predictions. For the second, the matched annotations of an image are counted by
their predictions, which have the same class, and no annotation has two.

The confusion matrix is written in the same places as the counters. A cell is the true
positives on the diagonal, the false positives in the background row and the false negatives
in the background column, whatever the classes are called; only the sums over a row or a
column need that no class is called `background`.
-/

namespace SmartTraffic.Proof

open SmartTraffic Lib ModelEvaluator

/-- The confusion matrix, from the counters. -/
def CellsAddUp (t : ClassTally) : Prop :=
  ∀ row column, t.confusion row column
    = (if row = column then t.tpByClass row else 0)
      + (if row = "background" then t.fpByClass column else 0)
      + (if column = "background" then t.fnByClass row else 0)

theorem cellsAddUp_init : CellsAddUp {} := by
  intro row column
  simp

/-! ## The loop over the predictions of an image -/

/-- What the loop has done after the predictions `done`, from the counters `t₀` on. -/
structure Matched (primaryIou : Rat) (gts : List GroundTruthAnnotation) (t₀ : ClassTally)
    (done : List EvaluationPrediction) (s : MatchState) : Prop where
  /-- No annotation is matched twice. -/
  nodup : (s.matchedGts.map Prod.fst).Nodup
  /-- Matches are of one class and overlap enough. -/
  legit : ∀ m ∈ s.matchedGts, ∃ gt, gts[m.1]? = some gt ∧ gt.className = m.2.className
    ∧ primaryIou ≤ computeIou m.2.bbox gt.bbox
  /-- No prediction is matched twice. -/
  sublist : (s.matchedGts.map Prod.snd).Sublist done
  tp : ∀ c, s.tally.tpByClass c
    = t₀.tpByClass c + s.matchedGts.countP fun m => decide (m.2.className = c)
  preds : ∀ c, s.tally.tpByClass c + s.tally.fpByClass c
    = t₀.tpByClass c + t₀.fpByClass c + done.countP fun p => decide (p.className = c)
  fn : s.tally.fnByClass = t₀.fnByClass
  cells : CellsAddUp s.tally

variable {primaryIou : Rat} {gts : List GroundTruthAnnotation} {t₀ : ClassTally}

theorem matched_init (h : CellsAddUp t₀) :
    Matched primaryIou gts t₀ [] { matchedGts := [], tally := t₀ } where
  nodup := List.nodup_nil
  legit := by simp
  sublist := List.Sublist.slnil
  tp := by simp
  preds := by simp
  fn := rfl
  cells := h

/-- **One prediction.** -/
theorem matched_step {done : List EvaluationPrediction} {s : MatchState}
    (h : Matched primaryIou gts t₀ done s) (pred : EvaluationPrediction) :
    Matched primaryIou gts t₀ (done ++ [pred]) (matchPrediction primaryIou gts s pred) := by
  -- one more prediction counts for its own class only
  have hone : ∀ c, (if c = pred.className then 1 else 0)
      = [pred].countP fun p => decide (p.className = c) := by
    intro c
    by_cases hc : pred.className = c
    · simp [hc]
    · simp [hc, Ne.symm hc]
  unfold matchPrediction
  cases hmatch : matchIndex primaryIou gts (s.matchedGts.map Prod.fst)
      (fun gt => gt.className = pred.className) pred with
  | some idx =>
      -- matched: the annotation is taken, and the pair is counted on the diagonal
      obtain ⟨gt, hgt, hfree, hclass, hiou⟩ := matchIndex_eq_some hmatch
      refine ⟨?_, ?_, ?_, fun c => ?_, fun c => ?_, h.fn, fun row column => ?_⟩
      · rw [List.map_append, List.map_singleton]
        exact List.nodup_append_comm.mp (List.nodup_cons.mpr ⟨hfree, h.nodup⟩)
      · intro m hm
        rcases List.mem_append.mp hm with hm | hm
        · exact h.legit m hm
        · rw [List.mem_singleton.mp hm]
          exact ⟨gt, hgt, of_decide_eq_true hclass, hiou⟩
      · rw [List.map_append, List.map_singleton]
        exact h.sublist.append (List.Sublist.refl _)
      · dsimp only
        rw [bump_apply, h.tp c, List.countP_append, hone c]
        rw [Nat.add_assoc]
        rfl
      · dsimp only
        rw [bump_apply, List.countP_append, ← hone c]
        have hpreds := h.preds c
        omega
      · have hcell := h.cells row column
        dsimp only
        rw [bumpCell_apply, bump_apply, hcell]
        by_cases hrc : row = column
        · subst hrc
          simp only [and_self]
          split_ifs <;> omega
        · have hoff : ¬(row = pred.className ∧ column = pred.className) := fun h =>
            hrc (h.1.trans h.2.symm)
          rw [if_neg hrc, if_neg hrc, if_neg hoff]
          omega
  | none =>
      -- unmatched: a false positive, in the row of the background
      refine ⟨h.nodup, h.legit, ?_, h.tp, fun c => ?_, h.fn, fun row column => ?_⟩
      · exact h.sublist.trans (List.sublist_append_left _ _)
      · dsimp only
        rw [bump_apply, List.countP_append, ← hone c]
        have hpreds := h.preds c
        omega
      · have hcell := h.cells row column
        dsimp only
        rw [bumpCell_apply, bump_apply, hcell]
        by_cases hrow : row = "background"
        · simp only [hrow, true_and, if_true]
          split_ifs <;> omega
        · simp only [hrow, false_and, if_false]
          omega

/-- **All predictions of an image.** -/
theorem matched_image (h : CellsAddUp t₀) (preds : List EvaluationPrediction) :
    Matched primaryIou gts t₀ (sortByConfidence preds) (matchImage primaryIou gts preds t₀) := by
  unfold matchImage
  induction sortByConfidence preds using List.reverseRecOn with
  | nil => exact matched_init h
  | append_singleton done pred ih =>
      rw [List.foldl_append]
      exact matched_step ih pred

/-- The matches of an image. -/
def imageMatches (primaryIou : Rat) (gts : List GroundTruthAnnotation)
    (preds : List EvaluationPrediction) : List (Nat × EvaluationPrediction) :=
  (matchImage primaryIou gts preds {}).matchedGts

theorem matchPrediction_matchedGts (primaryIou : Rat) (gts : List GroundTruthAnnotation)
    (s : MatchState) (pred : EvaluationPrediction) :
    (matchPrediction primaryIou gts s pred).matchedGts = s.matchedGts
      ++ ((matchIndex primaryIou gts (s.matchedGts.map Prod.fst)
        (fun gt => gt.className = pred.className) pred).map (·, pred)).toList := by
  unfold matchPrediction
  cases matchIndex primaryIou gts (s.matchedGts.map Prod.fst)
      (fun gt => gt.className = pred.className) pred with
  | some idx => rfl
  | none => exact (List.append_nil _).symm

/-- The counters have no say in the matches. -/
theorem matchImage_matchedGts (primaryIou : Rat) (gts : List GroundTruthAnnotation)
    (preds : List EvaluationPrediction) (t : ClassTally) :
    (matchImage primaryIou gts preds t).matchedGts = imageMatches primaryIou gts preds := by
  unfold imageMatches matchImage
  induction sortByConfidence preds using List.reverseRecOn with
  | nil => rfl
  | append_singleton done pred ih =>
      rw [List.foldl_append, List.foldl_append, List.foldl_cons, List.foldl_cons, List.foldl_nil,
        List.foldl_nil, matchPrediction_matchedGts, matchPrediction_matchedGts, ih]

/-! ## The loop over the annotations of an image -/

/-- The loop counts what is not matched, as false negatives. -/
theorem tallyUnmatched_run (matched : List Nat) (t : ClassTally)
    (items : List ( GroundTruthAnnotation × Nat)) :
    (items.foldl (tallyUnmatched matched) t).tpByClass = t.tpByClass
      ∧ (items.foldl (tallyUnmatched matched) t).fpByClass = t.fpByClass
      ∧ (∀ c, (items.foldl (tallyUnmatched matched) t).fnByClass c = t.fnByClass c
        + items.countP fun item => decide (item.2 ∉ matched ∧ item.1.className = c))
      ∧ (CellsAddUp t → CellsAddUp (items.foldl (tallyUnmatched matched) t)) := by
  induction items using List.reverseRecOn with
  | nil => simp
  | append_singleton items item ih =>
      obtain ⟨htp, hfp, hfn, hcells⟩ := ih
      rw [List.foldl_append, List.foldl_cons, List.foldl_nil]
      generalize items.foldl (tallyUnmatched matched) t = t' at htp hfp hfn hcells ⊢
      unfold tallyUnmatched
      by_cases hmem : item.2 ∈ matched
      · -- a matched annotation counts nowhere
        rw [if_pos hmem]
        refine ⟨htp, hfp, fun c => ?_, hcells⟩
        rw [hfn c, List.countP_append]
        simp [hmem]
      · -- the others are missed, in the column of the background
        rw [if_neg hmem]
        refine ⟨htp, hfp, fun c => ?_, fun h row column => ?_⟩
        · dsimp only
          rw [bump_apply, hfn c, List.countP_append, Nat.add_assoc]
          by_cases hc : item.1.className = c
          · simp [hmem, hc]
          · simp [hmem, hc, Ne.symm hc]
        · have hcell := hcells h row column
          dsimp only
          rw [bumpCell_apply, bump_apply, hcell]
          by_cases hcol : column = "background"
          · simp only [hcol, and_true, if_true]
            omega
          · simp only [hcol, and_false, if_false, Nat.add_zero]

/-! ## An image, and all of them -/

/-- **Every annotation of a class is matched or missed.** -/
theorem Matched.countP_add {done : List EvaluationPrediction} {s : MatchState}
    (h : Matched primaryIou gts t₀ done s) (c : String) :
    (s.matchedGts.countP fun m => decide (m.2.className = c))
      + (gts.zipIdx.countP fun item =>
        decide (item.2 ∉ s.matchedGts.map Prod.fst ∧ item.1.className = c))
      = gts.countP fun gt => decide (gt.className = c) := by
  -- the matches of the class and their annotations have the same places
  have hplaces : ((s.matchedGts.filter fun m => decide (m.2.className = c)).map Prod.fst).Perm
      ((gts.zipIdx.filter fun item =>
        decide (item.2 ∈ s.matchedGts.map Prod.fst ∧ item.1.className = c)).map Prod.snd) := by
    refine (List.perm_ext_iff_of_nodup ?_ ?_).mpr fun idx => ?_
    · exact h.nodup.sublist (List.filter_sublist.map _)
    · have hrange : (gts.zipIdx.map Prod.snd).Nodup := by
        rw [List.zipIdx_map_snd]
        exact List.nodup_range'
      exact hrange.sublist (List.filter_sublist.map _)
    · simp only [List.mem_map, List.mem_filter, decide_eq_true_eq]
      constructor
      · rintro ⟨m, ⟨hm, hclass⟩, rfl⟩
        obtain ⟨gt, hgt, hsame, -⟩ := h.legit m hm
        exact ⟨(gt, m.1), ⟨List.mem_zipIdx_iff_getElem?.mpr hgt, ⟨m, hm, rfl⟩,
          hsame.trans hclass⟩, rfl⟩
      · rintro ⟨item, ⟨hitem, ⟨m, hm, hidx⟩, hclass⟩, rfl⟩
        obtain ⟨gt, hgt, hsame, -⟩ := h.legit m hm
        rw [hidx, List.mem_zipIdx_iff_getElem?.mp hitem, Option.some.injEq] at hgt
        subst hgt
        exact ⟨m, ⟨hm, hsame.symm.trans hclass⟩, hidx⟩
  have hmatched := hplaces.length_eq
  rw [List.length_map, List.length_map, ← List.countP_eq_length_filter,
    ← List.countP_eq_length_filter] at hmatched
  have hall : (gts.countP fun gt => decide (gt.className = c))
      = gts.zipIdx.countP fun item => decide (item.1.className = c) := by
    conv_lhs => rw [← List.zipIdx_map_fst 0 gts, List.countP_map]
    rfl
  rw [hmatched, hall, List.countP_eq_countP_filter_add gts.zipIdx
    (fun item => decide (item.1.className = c))
    fun item => decide (item.2 ∈ s.matchedGts.map Prod.fst), List.countP_filter, List.countP_filter]
  congr 1
  · refine List.countP_congr fun item _ => ?_
    simp [and_comm]
  · refine List.countP_congr fun item _ => ?_
    simp [and_comm]

/-- What the counters of `t` have more than those of `t₀`, after some images. -/
structure ImagesCounted (primaryIou : Rat) (images : List (List GroundTruthAnnotation
    × List EvaluationPrediction)) (t₀ t : ClassTally) : Prop where
  tp : ∀ c, t.tpByClass c = t₀.tpByClass c + (images.map fun image =>
    (imageMatches primaryIou image.1 image.2).countP fun m => decide (m.2.className = c)).sum
  gts : ∀ c, t.tpByClass c + t.fnByClass c = t₀.tpByClass c + t₀.fnByClass c
    + (images.map fun image => image.1.countP fun gt => decide (gt.className = c)).sum
  preds : ∀ c, t.tpByClass c + t.fpByClass c = t₀.tpByClass c + t₀.fpByClass c
    + (images.map fun image => image.2.countP fun p => decide (p.className = c)).sum
  cells : CellsAddUp t

/-- **One image.** -/
theorem counted_image (h : CellsAddUp t₀) (preds : List EvaluationPrediction) :
    ImagesCounted primaryIou [(gts, preds)] t₀ (tallyImage primaryIou gts preds t₀) := by
  have hmatched : Matched primaryIou gts t₀ (sortByConfidence preds)
      (matchImage primaryIou gts preds t₀) := matched_image h preds
  unfold tallyImage
  dsimp only
  obtain ⟨htp, hfp, hfn, hcells⟩ := tallyUnmatched_run
    ((matchImage primaryIou gts preds t₀).matchedGts.map Prod.fst)
    (matchImage primaryIou gts preds t₀).tally gts.zipIdx
  refine ⟨fun c => ?_, fun c => ?_, fun c => ?_, hcells hmatched.cells⟩
  · rw [htp, hmatched.tp c, matchImage_matchedGts]
    simp
  · have hadd := hmatched.countP_add c
    have htpc := hmatched.tp c
    rw [htp, hfn c, hmatched.fn]
    simp only [List.map_cons, List.map_nil, List.sum_cons, List.sum_nil]
    omega
  · have hperm : (sortByConfidence preds).Perm preds := List.perm_insertionSort _ _
    rw [htp, hfp, hmatched.preds c, hperm.countP_eq]
    simp

/-- **All images.** -/
theorem counted_run (images : List (List GroundTruthAnnotation × List EvaluationPrediction)) :
    ImagesCounted primaryIou images {}
      (images.foldl (fun t image => tallyImage primaryIou image.1 image.2 t) {}) := by
  induction images using List.reverseRecOn with
  | nil => exact ⟨by simp, by simp, by simp, cellsAddUp_init⟩
  | append_singleton images image ih =>
      rw [List.foldl_append, List.foldl_cons, List.foldl_nil]
      generalize images.foldl (fun t image => tallyImage primaryIou image.1 image.2 t) {} = t
        at ih ⊢
      have hnext : ImagesCounted primaryIou [image] t (tallyImage primaryIou image.1 image.2 t) :=
        counted_image ih.cells image.2
      refine ⟨fun c => ?_, fun c => ?_, fun c => ?_, hnext.cells⟩
      · rw [hnext.tp c, ih.tp c]
        simp
      · rw [hnext.gts c, ih.gts c]
        simp
      · rw [hnext.preds c, ih.preds c]
        simp

/-! ## The evaluation -/

section

variable (rt : PyRuntime) (predictions : List EvaluationPrediction)
  (groundTruths : List GroundTruthAnnotation) (primaryIou : Rat)

/-- The counters of an evaluation are those of its images. -/
theorem tallyAll_counted : ImagesCounted primaryIou ((allImageIds rt predictions groundTruths).map
    fun i => (imgGts groundTruths i, imgPreds predictions i)) {}
    (tallyAll rt predictions groundTruths primaryIou) := by
  have hfold : tallyAll rt predictions groundTruths primaryIou
      = ((allImageIds rt predictions groundTruths).map
        fun i => (imgGts groundTruths i, imgPreds predictions i)).foldl
          (fun t image => tallyImage primaryIou image.1 image.2 t) {} := by
    rw [List.foldl_map]
    rfl
  rw [hfold]
  exact counted_run _

/-- **The counters add up to the annotations and to the predictions of a class.** -/
theorem tallyAll_totals (c : String) :
    (tallyAll rt predictions groundTruths primaryIou).tpByClass c
        + (tallyAll rt predictions groundTruths primaryIou).fnByClass c
        = groundTruths.countP (fun gt => decide (gt.className = c))
      ∧ (tallyAll rt predictions groundTruths primaryIou).tpByClass c
        + (tallyAll rt predictions groundTruths primaryIou).fpByClass c
        = predictions.countP fun p => decide (p.className = c) := by
  have hcounted := tallyAll_counted rt predictions groundTruths primaryIou
  have hnd : (allImageIds rt predictions groundTruths).Nodup := rt.nodup_iterate _
  constructor
  · rw [hcounted.gts c, List.map_map, ← sum_countP_groups hnd (·.imageId) _ groundTruths
      fun gt hgt => mem_allImageIds.mpr (Or.inl ⟨gt, hgt, rfl⟩)]
    simp [Function.comp_def, imgGts_eq]
  · rw [hcounted.preds c, List.map_map, ← sum_countP_groups hnd (·.imageId) _ predictions
      fun p hp => mem_allImageIds.mpr (Or.inr ⟨p, hp, rfl⟩)]
    simp [Function.comp_def, imgPreds_eq]

/-- The sums over the classes count everything once. -/
theorem tallyAll_sums :
    ((sortedClasses rt predictions groundTruths).map
        (tallyAll rt predictions groundTruths primaryIou).tpByClass).sum
        + ((sortedClasses rt predictions groundTruths).map
          (tallyAll rt predictions groundTruths primaryIou).fnByClass).sum = groundTruths.length
      ∧ ((sortedClasses rt predictions groundTruths).map
        (tallyAll rt predictions groundTruths primaryIou).tpByClass).sum
        + ((sortedClasses rt predictions groundTruths).map
          (tallyAll rt predictions groundTruths primaryIou).fpByClass).sum
        = predictions.length := by
  have hnd : (sortedClasses rt predictions groundTruths).Nodup := nodup_sortedClasses
  have hgroups : ∀ {A : Type} (key : A → String) (xs : List A),
      (∀ x ∈ xs, key x ∈ sortedClasses rt predictions groundTruths) →
      ((sortedClasses rt predictions groundTruths).map
        fun c => xs.countP fun x => decide (key x = c)).sum = xs.length := by
    intro A key xs hall
    have hsum := sum_countP_groups hnd key (fun _ => true) xs hall
    simpa [List.countP_eq_length_filter] using hsum
  constructor
  · rw [← List.sum_map_add, ← hgroups (·.className) groundTruths
      fun gt hgt => mem_sortedClasses.mpr (Or.inl ⟨gt, hgt, rfl⟩)]
    exact congrArg List.sum (List.map_congr_left fun c _ =>
      (tallyAll_totals rt predictions groundTruths primaryIou c).1)
  · rw [← List.sum_map_add, ← hgroups (·.className) predictions
      fun p hp => mem_sortedClasses.mpr (Or.inr ⟨p, hp, rfl⟩)]
    exact congrArg List.sum (List.map_congr_left fun c _ =>
      (tallyAll_totals rt predictions groundTruths primaryIou c).2)

end

theorem lookup_map_mk {labels : List String} (f : String → Nat) {c : String} (hc : c ∈ labels) :
    (labels.map fun k => (k, f k)).lookup c = some (f c) := by
  induction labels with
  | nil => exact absurd hc List.not_mem_nil
  | cons k labels ih =>
      rw [List.map_cons, List.lookup_cons]
      by_cases h : c = k
      · rw [h, beq_self_eq_true]
      · rw [beq_false_of_ne h]
        exact ih ((List.mem_cons.mp hc).resolve_left h)

/-- A row and a column of a matrix that adds up. -/
theorem CellsAddUp.sums {t : ClassTally} (h : CellsAddUp t) {classes : List String}
    (hnd : classes.Nodup) (hbg : "background" ∉ classes) {c : String} (hc : c ∈ classes) :
    ((classes ++ ["background"]).map fun column => t.confusion c column).sum
        = t.tpByClass c + t.fnByClass c
      ∧ ((classes ++ ["background"]).map fun row => t.confusion row c).sum
        = t.tpByClass c + t.fpByClass c := by
  have hne : c ≠ "background" := by
    rintro rfl
    exact hbg hc
  have hlabels : (classes ++ ["background"]).Nodup :=
    List.nodup_append_comm.mp (List.nodup_cons.mpr ⟨hbg, hnd⟩)
  have hmem : c ∈ classes ++ ["background"] := List.mem_append_left _ hc
  have hmembg : "background" ∈ classes ++ ["background"] := by simp
  constructor
  · have hrow : ∀ column, t.confusion c column
        = (if column = c then t.tpByClass c else 0)
          + if column = "background" then t.fnByClass c else 0 := by
      intro column
      rw [h c column, if_neg hne, Nat.add_zero]
      simp only [eq_comm]
    simp only [hrow]
    rw [List.sum_map_add, sum_map_single hlabels hmem, sum_map_single hlabels hmembg]
  · have hcolumn : ∀ row, t.confusion row c
        = (if row = c then t.tpByClass c else 0)
          + if row = "background" then t.fpByClass c else 0 := by
      intro row
      rw [h row c, if_neg hne, Nat.add_zero]
      by_cases hrow : row = c
      · rw [hrow]
      · rw [if_neg hrow, if_neg hrow]
    simp only [hcolumn]
    rw [List.sum_map_add, sum_map_single hlabels hmem, sum_map_single hlabels hmembg]

/--
**Evaluation conserves objects.** For every class, true positives and false negatives add up to
its annotations, and true and false positives to its predictions; so they do in total. The
true positives are the matches of the images, where no annotation and no prediction
occurs twice, and each pair is of one image and one class and overlaps enough. If no class is
called `background`, the row of a class sums to its annotations, its column to its predictions.
-/
theorem evaluation_conserves_objects (e : ModelEvaluator) (rt : PyRuntime)
    (predictions : List EvaluationPrediction) (groundTruths : List GroundTruthAnnotation)
    (primaryIou : Rat) (hgt : ∀ gt ∈ groundTruths, gt.className ≠ "background")
    (hpred : ∀ p ∈ predictions, p.className ≠ "background") :
    let m := e.evaluate rt predictions groundTruths primaryIou
    let matchesOf := fun i =>
      imageMatches primaryIou (imgGts groundTruths i) (imgPreds predictions i)
    (∀ c, c ∈ m.perClass.map Prod.fst
        ↔ (∃ gt ∈ groundTruths, gt.className = c) ∨ ∃ p ∈ predictions, p.className = c)
      ∧ (∀ item ∈ m.perClass,
        item.2.truePositives + item.2.falseNegatives
            = groundTruths.countP (fun gt => decide (gt.className = item.1))
          ∧ item.2.truePositives + item.2.falsePositives
            = predictions.countP (fun p => decide (p.className = item.1))
          ∧ item.2.truePositives = ((allImageIds rt predictions groundTruths).map fun i =>
            (matchesOf i).countP fun pair => decide (pair.2.className = item.1)).sum)
      ∧ m.totalTruePositives + m.totalFalseNegatives = groundTruths.length
      ∧ m.totalTruePositives + m.totalFalsePositives = predictions.length
      ∧ (∀ i, ((matchesOf i).map Prod.fst).Nodup
        ∧ ((matchesOf i).map Prod.snd).Sublist (sortByConfidence (imgPreds predictions i))
        ∧ ∀ pair ∈ matchesOf i, pair.2 ∈ predictions ∧ pair.2.imageId = i
          ∧ ∃ gt, (imgGts groundTruths i)[pair.1]? = some gt ∧ gt ∈ groundTruths
            ∧ gt.imageId = i ∧ gt.className = pair.2.className
            ∧ primaryIou ≤ computeIou pair.2.bbox gt.bbox)
      ∧ (∀ row ∈ m.confusionMatrix, row.1 ≠ "background" →
        (row.2.map Prod.snd).sum = groundTruths.countP fun gt => decide (gt.className = row.1))
      ∧ ∀ c ∈ m.perClass.map Prod.fst,
        (m.confusionMatrix.map fun row => (row.2.lookup c).getD 0).sum
          = predictions.countP fun p => decide (p.className = c) := by
  intro m matchesOf
  have hnd : (sortedClasses rt predictions groundTruths).Nodup := nodup_sortedClasses
  have hclasses : m.perClass.map Prod.fst = sortedClasses rt predictions groundTruths := by
    show List.map Prod.fst (List.map _ _) = _
    rw [List.map_map]
    exact List.map_id _
  have hcounted := tallyAll_counted rt predictions groundTruths primaryIou
  have htotals := tallyAll_totals rt predictions groundTruths primaryIou
  -- no vehicle is called background, so the matrix has one label more
  have hbg : "background" ∉ sortedClasses rt predictions groundTruths := by
    rw [mem_sortedClasses]
    rintro (⟨gt, hmem, hclass⟩ | ⟨p, hmem, hclass⟩)
    · exact hgt gt hmem hclass
    · exact hpred p hmem hclass
  have hlabels : confusionLabels rt predictions groundTruths
      = sortedClasses rt predictions groundTruths ++ ["background"] := if_neg hbg
  have hmatrix : m.confusionMatrix = (sortedClasses rt predictions groundTruths
      ++ ["background"]).map fun row => (row, (sortedClasses rt predictions groundTruths
        ++ ["background"]).map fun column =>
          (column, (tallyAll rt predictions groundTruths primaryIou).confusion row column)) := by
    rw [← hlabels]
    rfl
  refine ⟨fun c => by rw [hclasses, mem_sortedClasses], fun item hitem => ?_,
    (tallyAll_sums rt predictions groundTruths primaryIou).1,
    (tallyAll_sums rt predictions groundTruths primaryIou).2, fun i => ?_, fun row hrow hne => ?_,
    fun c hc => ?_⟩
  · -- the counts of one class, and where its true positives come from
    obtain ⟨c, -, rfl⟩ := List.mem_map.mp hitem
    refine ⟨(htotals c).1, (htotals c).2, ?_⟩
    have htp := hcounted.tp c
    rw [List.map_map] at htp
    exact htp.trans (Nat.zero_add _)
  · -- the matches of one image
    have hmatched : Matched primaryIou (imgGts groundTruths i) {}
        (sortByConfidence (imgPreds predictions i))
        (matchImage primaryIou (imgGts groundTruths i) (imgPreds predictions i) {}) :=
      matched_image cellsAddUp_init (imgPreds predictions i)
    refine ⟨hmatched.nodup, hmatched.sublist, fun pair hpair => ?_⟩
    have hp : pair.2 ∈ imgPreds predictions i := (List.mem_insertionSort _).mp
      (hmatched.sublist.subset (List.mem_map_of_mem hpair))
    rw [imgPreds_eq, List.mem_filter] at hp
    obtain ⟨gt, hidx, hclass, hiou⟩ := hmatched.legit pair hpair
    have hmem : gt ∈ imgGts groundTruths i := List.mem_of_getElem? hidx
    rw [imgGts_eq, List.mem_filter] at hmem
    exact ⟨hp.1, of_decide_eq_true hp.2, gt, hidx, hmem.1, of_decide_eq_true hmem.2, hclass, hiou⟩
  · -- a row of the matrix
    rw [hmatrix] at hrow
    obtain ⟨c, hc, rfl⟩ := List.mem_map.mp hrow
    have hclass := (List.mem_append.mp hc).resolve_right fun h => hne (List.mem_singleton.mp h)
    rw [List.map_map, ← (htotals c).1]
    exact (hcounted.cells.sums hnd hbg hclass).1
  · -- a column of it: every row lists the class once
    rw [hclasses] at hc
    have hcell : ∀ row, (((sortedClasses rt predictions groundTruths ++ ["background"]).map
        fun column => (column, (tallyAll rt predictions groundTruths primaryIou).confusion row
          column)).lookup c).getD 0
        = (tallyAll rt predictions groundTruths primaryIou).confusion row c := by
      intro row
      rw [lookup_map_mk _ (List.mem_append_left _ hc)]
      rfl
    rw [hmatrix, List.map_map, ← (htotals c).2, ← (hcounted.cells.sums hnd hbg hc).2]
    exact congrArg List.sum (List.map_congr_left fun row _ => hcell row)

/-- A runtime that goes through sets in sorted order; its root is good for 0. -/
def sortedRuntime : PyRuntime where
  iterate := fun s => s.sort (· ≤ ·)
  nodup_iterate := fun s => s.sort_nodup (· ≤ ·)
  mem_iterate := fun s _ => s.mem_sort (· ≤ ·)
  sqrt := fun _ => 0

/-- A bus that is found, and a car that is taken for a bus. -/
theorem evaluation_conserves_objects_bus :
    let m := (ModelEvaluator.init none).evaluate sortedRuntime
      [⟨"a", 1, "bus", (0, 0, 10, 10), 9 / 10⟩, ⟨"b", 1, "bus", (0, 0, 10, 10), 8 / 10⟩]
      [⟨"a", 1, "bus", (0, 0, 10, 9), false⟩, ⟨"b", 0, "car", (0, 0, 10, 10), false⟩] (1 / 2)
    m.totalTruePositives + m.totalFalseNegatives = 2
      ∧ m.totalTruePositives + m.totalFalsePositives = 2 := by
  have hall := evaluation_conserves_objects (ModelEvaluator.init none) sortedRuntime
    [⟨"a", 1, "bus", (0, 0, 10, 10), 9 / 10⟩, ⟨"b", 1, "bus", (0, 0, 10, 10), 8 / 10⟩]
    [⟨"a", 1, "bus", (0, 0, 10, 9), false⟩, ⟨"b", 0, "car", (0, 0, 10, 10), false⟩] (1 / 2)
    (by simp) (by simp)
  exact ⟨hall.2.2.1, hall.2.2.2.1⟩

end SmartTraffic.Proof
