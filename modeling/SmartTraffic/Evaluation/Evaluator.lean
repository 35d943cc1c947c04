import SmartTraffic.Lib.Dict
import SmartTraffic.Lib.Rounding

/-!
# The model evaluator

`compute_iou`, `ModelEvaluator.evaluate` and `ModelEvaluator._calculate_average_precision`:
predictions are matched to annotations greedily, once image by image over all classes, for
the counts and the confusion matrix, and once class by class over all images, for the
average precision at each IoU threshold.

Python goes through a set in an order of its own; `PyRuntime` holds that order, and the
square root, which is no rational. A counter that was never written reads as 0, so the
counters are total functions.
-/

namespace SmartTraffic

open Lib

/-! ## Annotations and predictions -/

/-- `(x1, y1, x2, y2)`. -/
abbrev BBox := Int × Int × Int × Int

/-- `compute_iou`. -/
def computeIou (box1 box2 : BBox) : Rat :=
  let x1 := max box1.1 box2.1
  let y1 := max box1.2.1 box2.2.1
  let x2 := min box1.2.2.1 box2.2.2.1
  let y2 := min box1.2.2.2 box2.2.2.2
  let intersectionArea := max 0 (x2 - x1) * max 0 (y2 - y1)
  let box1Area := max 0 (box1.2.2.1 - box1.1) * max 0 (box1.2.2.2 - box1.2.1)
  let box2Area := max 0 (box2.2.2.1 - box2.1) * max 0 (box2.2.2.2 - box2.2.1)
  let unionArea := box1Area + box2Area - intersectionArea
  if unionArea ≤ 0 then 0 else (intersectionArea : Rat) / unionArea

structure GroundTruthAnnotation where
  imageId : String
  classId : Int
  className : String
  bbox : BBox
  isCrowd : Bool := false
  deriving DecidableEq, Repr

structure EvaluationPrediction where
  imageId : String
  classId : Int
  className : String
  bbox : BBox
  confidence : Rat
  deriving DecidableEq, Repr

/-- How Python goes through a set of strings, and `math.sqrt`. -/
structure PyRuntime where
  iterate : Finset String → List String
  nodup_iterate : ∀ s, (iterate s).Nodup
  mem_iterate : ∀ s x, x ∈ iterate s ↔ x ∈ s
  sqrt : Rat → Rat

/-- `for x in items: d.setdefault(key(x), []).append(x)`. -/
def groupBy {A K : Type} [DecidableEq K] (key : A → K) (items : List A) : Dict K (List A) :=
  items.foldl (fun d x => d.set (key x) ((d.get? (key x)).getD [] ++ [x])) ∅

/-- `sorted(predictions, key=lambda x: x.confidence, reverse=True)`: stable, highest first. -/
def sortByConfidence (predictions : List EvaluationPrediction) : List EvaluationPrediction :=
  predictions.insertionSort fun a b => b.confidence ≤ a.confidence

/-! ## Matching one prediction -/

/-- `best_iou` and `best_gt_idx` after the loop over the annotations; a negative index is `none`. -/
def bestMatch (gts : List GroundTruthAnnotation) (matched : List Nat)
    (allowed : GroundTruthAnnotation → Bool) (pred : EvaluationPrediction) : Rat × Option Nat :=
  gts.zipIdx.foldl (fun best item =>
    if item.2 ∈ matched ∨ allowed item.1 = false then best
    else
      let iou := computeIou pred.bbox item.1.bbox
      if best.1 < iou then (iou, some item.2) else best) (0, none)

/-- The index that `if best_iou >= threshold and best_gt_idx >= 0` lets pass. -/
def matchIndex (threshold : Rat) (gts : List GroundTruthAnnotation) (matched : List Nat)
    (allowed : GroundTruthAnnotation → Bool) (pred : EvaluationPrediction) : Option Nat :=
  let best := bestMatch gts matched allowed pred
  if threshold ≤ best.1 then best.2 else none

/-! ## Counting image by image -/

/-- `tp_by_class`, `fp_by_class`, `fn_by_class` and the confusion matrix. -/
structure ClassTally where
  tpByClass : String → Nat := fun _ => 0
  fpByClass : String → Nat := fun _ => 0
  fnByClass : String → Nat := fun _ => 0
  confusion : String → String → Nat := fun _ _ => 0

/-- `counter[c] += 1`. -/
def bump (counter : String → Nat) (c : String) : String → Nat :=
  Function.update counter c (counter c + 1)

/-- `confusion[row][column] += 1`. -/
def bumpCell (confusion : String → String → Nat) (row column : String) :
    String → String → Nat :=
  Function.update confusion row (bump (confusion row) column)

/-- The loop over the predictions of an image: `matched_gts`, each index with the prediction that
added it, and the counters. -/
structure MatchState where
  matchedGts : List (Nat × EvaluationPrediction)
  tally : ClassTally

/-- The body of the loop over the predictions of an image. -/
def matchPrediction (primaryIou : Rat) (gts : List GroundTruthAnnotation) (s : MatchState)
    (pred : EvaluationPrediction) : MatchState :=
  match matchIndex primaryIou gts (s.matchedGts.map Prod.fst)
      (fun gt => gt.className = pred.className) pred with
  | some idx =>
      { matchedGts := s.matchedGts ++ [(idx, pred)]
        tally := { s.tally with
          tpByClass := bump s.tally.tpByClass pred.className
          confusion := bumpCell s.tally.confusion pred.className pred.className } }
  | none =>
      { s with tally := { s.tally with
          fpByClass := bump s.tally.fpByClass pred.className
          confusion := bumpCell s.tally.confusion "background" pred.className } }

/-- The body of the loop over the annotations of an image. -/
def tallyUnmatched (matched : List Nat) (tally : ClassTally) (item : GroundTruthAnnotation × Nat) :
    ClassTally :=
  if item.2 ∈ matched then tally
  else { tally with
    fnByClass := bump tally.fnByClass item.1.className
    confusion := bumpCell tally.confusion item.1.className "background" }

/-- The loop over the predictions of an image, highest confidence first. -/
def matchImage (primaryIou : Rat) (gts : List GroundTruthAnnotation)
    (preds : List EvaluationPrediction) (tally : ClassTally) : MatchState :=
  (sortByConfidence preds).foldl (matchPrediction primaryIou gts)
    { matchedGts := [], tally := tally }

/-- One image. -/
def tallyImage (primaryIou : Rat) (gts : List GroundTruthAnnotation)
    (preds : List EvaluationPrediction) (tally : ClassTally) : ClassTally :=
  let s := matchImage primaryIou gts preds tally
  gts.zipIdx.foldl (tallyUnmatched (s.matchedGts.map Prod.fst)) s.tally

/-! ## Average precision -/

/-- `matched_gts_by_img` and `tp`; `fp` is its complement. -/
structure ApState where
  matchedGtsByImg : String → List Nat := fun _ => []
  tp : List Bool := []

/-- The body of the loop over the predictions of a class. -/
def apMatch (gtByImage : Dict String (List GroundTruthAnnotation)) (targetClass : String)
    (iouThreshold : Rat) (s : ApState) (pred : EvaluationPrediction) : ApState :=
  let imgGts := ((gtByImage.get? pred.imageId).getD []).filter (·.className = targetClass)
  let matched := s.matchedGtsByImg pred.imageId
  match matchIndex iouThreshold imgGts matched (fun _ => true) pred with
  | some idx =>
      { matchedGtsByImg := Function.update s.matchedGtsByImg pred.imageId (matched ++ [idx])
        tp := s.tp ++ [true] }
  | none => { s with tp := s.tp ++ [false] }

/-- `tp` after the loop. -/
def apHits (sortedPreds : List EvaluationPrediction)
    (gtByImage : Dict String (List GroundTruthAnnotation)) (targetClass : String)
    (iouThreshold : Rat) : List Bool :=
  (sortedPreds.foldl (apMatch gtByImage targetClass iouThreshold) {}).tp

/-- `np.cumsum`, from a given sum on. -/
def cumsumFrom (total : Rat) : List Rat → List Rat
  | [] => []
  | x :: xs => (total + x) :: cumsumFrom (total + x) xs

/-- `np.cumsum`. -/
def cumsum (xs : List Rat) : List Rat := cumsumFrom 0 xs

/-- `np.finfo(np.float64).eps`. -/
def machineEps : Rat := 1 / 2 ^ 52

/-- `for j in range(len(mpre) - 1, 0, -1): mpre[j - 1] = max(mpre[j - 1], mpre[j])`. -/
def envelope : List Rat → List Rat
  | [] => []
  | x :: xs =>
      match envelope xs with
      | [] => [x]
      | y :: ys => max x y :: y :: ys

/-- `sum((mrec[i + 1] - mrec[i]) * mpre[i + 1])` over the places where the recall changes. -/
def areaUnderCurve (mrec mpre : List Rat) : Rat :=
  ((((mrec.zip mrec.tail).zip mpre.tail).filter fun place => place.1.2 ≠ place.1.1).map
    fun place => (place.1.2 - place.1.1) * place.2).sum

/-- The average precision of a run of true and false positives. -/
def areaOfHits (tp : List Bool) (totalGt : Nat) : Rat :=
  let cumTp : List Rat := cumsum (tp.map fun b => if b then 1 else 0)
  let cumFp : List Rat := cumsum (tp.map fun b => if b then 0 else 1)
  let recalls := cumTp.map (· / (totalGt : Rat))
  let precisions := cumTp.zipWith (fun t f => t / max (t + f) machineEps) cumFp
  areaUnderCurve ([0] ++ recalls ++ [1]) (envelope ([0] ++ precisions ++ [0]))

/-- `_calculate_average_precision`. -/
def calculateAveragePrecision (sortedPreds : List EvaluationPrediction)
    (gtByImage : Dict String (List GroundTruthAnnotation)) (targetClass : String)
    (iouThreshold : Rat) (totalGt : Nat) : Rat :=
  if totalGt = 0 ∨ sortedPreds = [] then 0
  else areaOfHits (apHits sortedPreds gtByImage targetClass iouThreshold) totalGt

/-! ## The metrics -/

structure ClassMetrics where
  className : String
  classId : Int
  truePositives : Nat
  falsePositives : Nat
  falseNegatives : Nat
  precision : Rat
  recallRate : Rat
  f1Score : Rat
  ap50 : Rat
  ap5095 : Rat
  deriving DecidableEq, Repr

structure EvaluationMetrics where
  totalImages : Nat
  totalGroundTruths : Nat
  totalPredictions : Nat
  totalTruePositives : Nat
  totalFalsePositives : Nat
  totalFalseNegatives : Nat
  overallPrecision : Rat
  overallRecall : Rat
  overallF1 : Rat
  map50 : Rat
  map5095 : Rat
  countMae : Rat
  countRmse : Rat
  perClass : List (String × ClassMetrics)
  confusionMatrix : List (String × List (String × Nat))
  deriving DecidableEq, Repr

/-- `a / b if b > 0 else 0.0`. -/
def ratio (a b : Rat) : Rat := if 0 < b then a / b else 0

/-- `float(np.mean(xs)) if xs else 0.0`. -/
def meanOr0 (xs : List Rat) : Rat := if xs = [] then 0 else xs.sum / xs.length

/-- `ModelEvaluator`. -/
structure ModelEvaluator where
  iouThresholds : List Rat

namespace ModelEvaluator

/-- `[round(x, 2) for x in np.arange(0.50, 1.00, 0.05)]`. -/
def defaultThresholds : List Rat :=
  (List.range 10).map fun i => roundDigits 2 (50 / 100 + i * (5 / 100))

/-- `__init__`: no thresholds and an empty list of them both mean the default ones. -/
def init (iouThresholds : Option (List Rat)) : ModelEvaluator :=
  match iouThresholds with
  | some (t :: ts) => { iouThresholds := t :: ts }
  | _ => { iouThresholds := defaultThresholds }

variable (e : ModelEvaluator) (rt : PyRuntime) (predictions : List EvaluationPrediction)
  (groundTruths : List GroundTruthAnnotation) (primaryIou : Rat)

/-- `gt_by_image`. -/
def gtByImage (groundTruths : List GroundTruthAnnotation) :
    Dict String (List GroundTruthAnnotation) := groupBy (·.imageId) groundTruths

/-- `pred_by_image`. -/
def predByImage (predictions : List EvaluationPrediction) :
    Dict String (List EvaluationPrediction) := groupBy (·.imageId) predictions

/-- `gt_by_image.get(image_id, [])`. -/
def imgGts (imageId : String) : List GroundTruthAnnotation :=
  ((gtByImage groundTruths).get? imageId).getD []

/-- `pred_by_image.get(image_id, [])`. -/
def imgPreds (imageId : String) : List EvaluationPrediction :=
  ((predByImage predictions).get? imageId).getD []

/-- `all_image_ids`, in the order in which the set is gone through. -/
def allImageIds : List String :=
  rt.iterate ((gtByImage groundTruths).keys.toFinset ∪ (predByImage predictions).keys.toFinset)

/-- `all_classes`, in the order in which the set is gone through. -/
def allClasses : List String :=
  rt.iterate ((groundTruths.map (·.className)).toFinset ∪ (predictions.map (·.className)).toFinset)

/-- `sorted(all_classes)`. -/
def sortedClasses : List String := (allClasses rt predictions groundTruths).insertionSort (· ≤ ·)

/-- The counters after the loop over the images. -/
def tallyAll : ClassTally :=
  (allImageIds rt predictions groundTruths).foldl (fun tally imageId =>
    tallyImage primaryIou (imgGts groundTruths imageId) (imgPreds predictions imageId) tally) {}

/-- `cls_preds`. -/
def clsPreds (className : String) : List EvaluationPrediction :=
  sortByConfidence (predictions.filter (·.className = className))

/-- `n_gt`. -/
def nGt (className : String) : Nat := (groundTruths.filter (·.className = className)).length

/-- `class_ap_curves[cls_name]`. -/
def classApCurve (className : String) : Dict Rat Rat :=
  if nGt groundTruths className = 0 then ∅
  else e.iouThresholds.foldl (fun curve iouTh => curve.set iouTh
    (calculateAveragePrecision (clsPreds predictions className) (gtByImage groundTruths) className
      iouTh (nGt groundTruths className))) ∅

/-- The metrics of one class. -/
def classMetrics (tally : ClassTally) (c : String) : ClassMetrics :=
  let tp := tally.tpByClass c
  let fp := tally.fpByClass c
  let fn := tally.fnByClass c
  let prec := ratio tp (tp + fp)
  let recallRate := ratio tp (tp + fn)
  let curve := classApCurve e predictions groundTruths c
  { className := c
    classId := 0
    truePositives := tp
    falsePositives := fp
    falseNegatives := fn
    precision := prec
    recallRate := recallRate
    f1Score := ratio (2 * prec * recallRate) (prec + recallRate)
    ap50 := (curve.get? (50 / 100)).getD 0
    ap5095 := meanOr0 curve.values }

/-- The rows and columns of the confusion matrix; a class of that name is not listed twice. -/
def confusionLabels : List String :=
  let classes := sortedClasses rt predictions groundTruths
  if "background" ∈ classes then classes else classes ++ ["background"]

/-- `evaluate`. -/
def evaluate : EvaluationMetrics :=
  let imageIds := allImageIds rt predictions groundTruths
  let tally := tallyAll rt predictions groundTruths primaryIou
  let classes := sortedClasses rt predictions groundTruths
  let perClass := classes.map fun c => (c, e.classMetrics predictions groundTruths tally c)
  let countErrors := imageIds.map fun i =>
    |((imgGts groundTruths i).length : Rat) - (imgPreds predictions i).length|
  let totalTp := (classes.map tally.tpByClass).sum
  let totalFp := (classes.map tally.fpByClass).sum
  let totalFn := (classes.map tally.fnByClass).sum
  let overallPrec := ratio totalTp (totalTp + totalFp)
  let overallRec := ratio totalTp (totalTp + totalFn)
  let labels := confusionLabels rt predictions groundTruths
  { totalImages := imageIds.length
    totalGroundTruths := groundTruths.length
    totalPredictions := predictions.length
    totalTruePositives := totalTp
    totalFalsePositives := totalFp
    totalFalseNegatives := totalFn
    overallPrecision := overallPrec
    overallRecall := overallRec
    overallF1 := ratio (2 * overallPrec * overallRec) (overallPrec + overallRec)
    map50 := meanOr0 (perClass.map (·.2.ap50))
    map5095 := meanOr0 (perClass.map (·.2.ap5095))
    countMae := meanOr0 countErrors
    countRmse := if countErrors = [] then 0 else rt.sqrt (meanOr0 (countErrors.map (· ^ 2)))
    perClass := perClass
    confusionMatrix := labels.map fun row =>
      (row, labels.map fun column => (column, tally.confusion row column)) }

end ModelEvaluator

/-! ## Groups -/

section

variable {A K : Type} [DecidableEq K] (key : A → K)

theorem groupBy_append (items : List A) (x : A) :
    groupBy key (items ++ [x]) = (groupBy key items).set (key x)
      (((groupBy key items).get? (key x)).getD [] ++ [x]) := by
  unfold groupBy
  rw [List.foldl_append]
  rfl

/-- A group holds the items with its key, in their order. -/
theorem groupBy_getD (items : List A) (k : K) :
    ((groupBy key items).get? k).getD [] = items.filter fun x => key x = k := by
  induction items using List.reverseRecOn with
  | nil => rfl
  | append_singleton items x ih =>
      rw [groupBy_append, List.filter_append, ← ih]
      by_cases hk : k = key x
      · subst hk
        simp
      · rw [Dict.get?_set_of_ne _ _ hk, List.filter_cons_of_neg (by simpa using Ne.symm hk)]
        simp

theorem mem_keys_groupBy {items : List A} {k : K} :
    k ∈ (groupBy key items).keys ↔ ∃ x ∈ items, key x = k := by
  induction items using List.reverseRecOn with
  | nil => simp [groupBy, Dict.keys, EmptyCollection.emptyCollection, Dict.empty]
  | append_singleton items x ih =>
      rw [groupBy_append, ← Dict.contains_iff]
      unfold Dict.contains
      by_cases hk : k = key x
      · subst hk
        rw [Dict.get?_set_self]
        exact iff_of_true rfl ⟨x, by simp, rfl⟩
      · rw [Dict.get?_set_of_ne _ _ hk]
        have hcontains := (groupBy key items).contains_iff (k := k)
        unfold Dict.contains at hcontains
        rw [hcontains, ih]
        simp [Ne.symm hk]

end

namespace ModelEvaluator

theorem imgGts_eq (groundTruths : List GroundTruthAnnotation) (i : String) :
    imgGts groundTruths i = groundTruths.filter (·.imageId = i) := groupBy_getD _ _ _

theorem imgPreds_eq (predictions : List EvaluationPrediction) (i : String) :
    imgPreds predictions i = predictions.filter (·.imageId = i) := groupBy_getD _ _ _

variable {rt : PyRuntime} {predictions : List EvaluationPrediction}
  {groundTruths : List GroundTruthAnnotation}

theorem mem_allImageIds {i : String} : i ∈ allImageIds rt predictions groundTruths
    ↔ (∃ gt ∈ groundTruths, gt.imageId = i) ∨ ∃ p ∈ predictions, p.imageId = i := by
  unfold allImageIds gtByImage predByImage
  rw [rt.mem_iterate, Finset.mem_union, List.mem_toFinset, List.mem_toFinset, mem_keys_groupBy,
    mem_keys_groupBy]

theorem mem_allClasses {c : String} : c ∈ allClasses rt predictions groundTruths
    ↔ (∃ gt ∈ groundTruths, gt.className = c) ∨ ∃ p ∈ predictions, p.className = c := by
  unfold allClasses
  rw [rt.mem_iterate, Finset.mem_union, List.mem_toFinset, List.mem_toFinset, List.mem_map,
    List.mem_map]

theorem mem_sortedClasses {c : String} : c ∈ sortedClasses rt predictions groundTruths
    ↔ (∃ gt ∈ groundTruths, gt.className = c) ∨ ∃ p ∈ predictions, p.className = c := by
  unfold sortedClasses
  rw [List.mem_insertionSort, mem_allClasses]

theorem nodup_sortedClasses : (sortedClasses rt predictions groundTruths).Nodup :=
  (List.perm_insertionSort _ _).nodup_iff.mpr (rt.nodup_iterate _)

end ModelEvaluator

/-! ## One match -/

/-- What `best_gt_idx` stands for: an annotation that may still be matched, and its overlap. -/
def IsCandidate (gts : List GroundTruthAnnotation) (matched : List Nat)
    (allowed : GroundTruthAnnotation → Bool) (pred : EvaluationPrediction)
    (best : Rat × Option Nat) : Prop :=
  ∀ idx, best.2 = some idx → ∃ gt, gts[idx]? = some gt ∧ idx ∉ matched ∧ allowed gt = true
    ∧ best.1 = computeIou pred.bbox gt.bbox

theorem bestMatch_isCandidate (gts : List GroundTruthAnnotation) (matched : List Nat)
    (allowed : GroundTruthAnnotation → Bool) (pred : EvaluationPrediction) :
    IsCandidate gts matched allowed pred (bestMatch gts matched allowed pred) := by
  unfold bestMatch
  refine List.foldlRecOn (motive := IsCandidate gts matched allowed pred) _ _ ?_ ?_
  · intro idx h
    cases h
  · intro best ih item hitem
    by_cases hskip : item.2 ∈ matched ∨ allowed item.1 = false
    · rw [if_pos hskip]
      exact ih
    · rw [if_neg hskip]
      dsimp only
      by_cases hbetter : best.1 < computeIou pred.bbox item.1.bbox
      · rw [if_pos hbetter]
        intro idx h
        obtain rfl := Option.some.inj h
        rw [not_or] at hskip
        exact ⟨item.1, List.mem_zipIdx_iff_getElem?.mp hitem, hskip.1, by simpa using hskip.2, rfl⟩
      · rw [if_neg hbetter]
        exact ih

theorem matchIndex_eq_some {threshold : Rat} {gts : List GroundTruthAnnotation}
    {matched : List Nat} {allowed : GroundTruthAnnotation → Bool} {pred : EvaluationPrediction}
    {idx : Nat} (h : matchIndex threshold gts matched allowed pred = some idx) :
    ∃ gt, gts[idx]? = some gt ∧ idx ∉ matched ∧ allowed gt = true
      ∧ threshold ≤ computeIou pred.bbox gt.bbox := by
  unfold matchIndex at h
  dsimp only at h
  split_ifs at h with hth
  obtain ⟨gt, hgt, hfree, hallowed, hiou⟩ := bestMatch_isCandidate _ _ _ _ idx h
  exact ⟨gt, hgt, hfree, hallowed, hiou ▸ hth⟩

/-! ## Counters -/

theorem bump_apply (counter : String → Nat) (c c' : String) :
    bump counter c c' = counter c' + if c' = c then 1 else 0 := by
  unfold bump
  by_cases h : c' = c
  · subst h
    simp
  · simp [h]

theorem bumpCell_apply (confusion : String → String → Nat) (row column r k : String) :
    bumpCell confusion row column r k
      = confusion r k + if r = row ∧ k = column then 1 else 0 := by
  unfold bumpCell
  by_cases h : r = row
  · subst h
    rw [Function.update_self, bump_apply]
    simp
  · simp [h]

end SmartTraffic
