import SmartTraffic.Lib.Greedy
import SmartTraffic.Lib.Ranking
import SmartTraffic.Proof.Conservation

/-!
# The two matchers agree

An evaluation matches each image on its own, over all classes, and counts its true positives
by class. The average precision matches each class on its own, over all images. Both are runs
of one greedy rule: the annotations are numbered once, the bidders are the predictions, and a
prediction scores the annotations of its own image and class by their overlap.

The loops keep indices, into the annotations of an image or into those of a class in an
image; `Tracks` says which numbered annotations the indices stand for. The two runs are then
compared where they meet, at one image and one class: each run seen through the other's key.
-/

namespace SmartTraffic.Proof

open SmartTraffic Lib ModelEvaluator

/-- An annotation and its place among all of them. -/
abbrev Placed := GroundTruthAnnotation × Nat

/-- The overlap of a prediction with a numbered annotation. -/
def overlap (pred : EvaluationPrediction) (t : Placed) : Rat := computeIou pred.bbox t.1.bbox

/-- The indices `matched` of a list stand for those of its annotations that are taken. -/
def Tracks (T : List Placed) (matched : List Nat) (taken : List Placed) : Prop :=
  ∀ idx t, T[idx]? = some t → (idx ∈ matched ↔ t ∈ taken)

/-! ## One prediction -/

/-- **The scan over indices is the scan over what is left.** -/
theorem bestMatch_eq_scan {T : List Placed} {matched : List Nat} {taken : List Placed}
    (htracks : Tracks T matched taken) (allowed : GroundTruthAnnotation → Bool)
    (pred : EvaluationPrediction) :
    (bestMatch (T.map Prod.fst) matched allowed pred).1
        = (scan (overlap pred) ((leftOver T taken).filter fun t => allowed t.1)).1
      ∧ (bestMatch (T.map Prod.fst) matched allowed pred).2.bind (T[·]?)
        = (scan (overlap pred) ((leftOver T taken).filter fun t => allowed t.1)).2 := by
  induction T using List.reverseRecOn with
  | nil => exact ⟨rfl, rfl⟩
  | append_singleton T t ih =>
      -- the new annotation has the next index
      have hlast : (T ++ [t])[T.length]? = some t := by simp
      have hearlier : Tracks T matched taken := by
        intro idx u hu
        have hlt := (List.getElem?_eq_some_iff.mp hu).1
        exact htracks idx u (by rw [List.getElem?_append_left hlt]; exact hu)
      obtain ⟨hbest, hidx⟩ := ih hearlier
      have hcandidate := bestMatch_isCandidate (T.map Prod.fst) matched allowed pred
      -- an earlier index means the same in the longer list
      have hsame : (bestMatch (T.map Prod.fst) matched allowed pred).2.bind ((T ++ [t])[·]?)
          = (bestMatch (T.map Prod.fst) matched allowed pred).2.bind (T[·]?) := by
        cases hb : (bestMatch (T.map Prod.fst) matched allowed pred).2 with
        | none => rfl
        | some idx =>
            obtain ⟨gt, hgt, -⟩ := hcandidate idx hb
            have hlt := (List.getElem?_eq_some_iff.mp hgt).1
            rw [List.length_map] at hlt
            exact List.getElem?_append_left hlt
      -- one more round of the loop, at that index
      have hstep : bestMatch ((T ++ [t]).map Prod.fst) matched allowed pred
          = if T.length ∈ matched ∨ allowed t.1 = false then
              bestMatch (T.map Prod.fst) matched allowed pred
            else if (bestMatch (T.map Prod.fst) matched allowed pred).1 < overlap pred t then
              (overlap pred t, some T.length)
            else bestMatch (T.map Prod.fst) matched allowed pred := by
        unfold bestMatch
        rw [List.map_append, List.zipIdx_append, List.foldl_append, List.length_map,
          Nat.zero_add]
        rfl
      rw [hstep]
      by_cases htaken : t ∈ taken
      · rw [if_pos (Or.inl ((htracks _ _ hlast).mpr htaken)), leftOver_concat_of_mem htaken]
        exact ⟨hbest, hsame.trans hidx⟩
      · have hfree : T.length ∉ matched := fun hmem => htaken ((htracks _ _ hlast).mp hmem)
        rw [leftOver_concat_of_notMem htaken, List.filter_append, List.filter_singleton]
        cases hallowed : allowed t.1 with
        | false =>
            rw [if_pos (Or.inr rfl), cond_false, List.append_nil]
            exact ⟨hbest, hsame.trans hidx⟩
        | true =>
            rw [if_neg (by simp [hfree]), cond_true, scan_append]
            unfold better
            rw [hbest]
            by_cases hlt : (scan (overlap pred)
                ((leftOver T taken).filter fun t => allowed t.1)).1 < overlap pred t
            · rw [if_pos hlt, if_pos hlt]
              exact ⟨rfl, hlast⟩
            · rw [if_neg hlt, if_neg hlt]
              exact ⟨hbest, hsame.trans hidx⟩

/-- A prediction's turn, where it may only score some of the annotations. -/
theorem matchIndex_bind {T : List Placed} {matched : List Nat} {taken : List Placed}
    (htracks : Tracks T matched taken) (threshold : Rat) {allowed : GroundTruthAnnotation → Bool}
    {pred : EvaluationPrediction} {score : EvaluationPrediction → Placed → Rat}
    (hscore : ∀ t ∈ T, score pred t = if allowed t.1 then overlap pred t else 0) :
    (matchIndex threshold (T.map Prod.fst) matched allowed pred).bind (T[·]?)
      = turn threshold score T taken pred := by
  obtain ⟨hbest, hidx⟩ := bestMatch_eq_scan htracks allowed pred
  have hzero : ∀ t ∈ leftOver T taken, allowed t.1 = false → score pred t ≤ 0 := by
    intro t ht hno
    simp [hscore t (mem_leftOver.mp ht).1, hno]
  have hturn : turn threshold score T taken pred = choose threshold (overlap pred)
      ((leftOver T taken).filter fun t => allowed t.1) := by
    unfold turn
    rw [← choose_filter threshold hzero]
    refine choose_congr threshold fun t ht => ?_
    obtain ⟨hleft, hallowed⟩ := List.mem_filter.mp ht
    rw [hscore t (mem_leftOver.mp hleft).1, if_pos hallowed]
  rw [hturn]
  unfold matchIndex choose
  dsimp only
  rw [← hbest, ← hidx]
  split_ifs <;> rfl

/-- The annotation that is matched next is taken next. -/
theorem Tracks.push {T : List Placed} {matched : List Nat} {taken : List Placed}
    (htracks : Tracks T matched taken) (hnodup : T.Nodup) {idx : Nat} {t : Placed}
    (ht : T[idx]? = some t) : Tracks T (matched ++ [idx]) (t :: taken) := by
  intro idx' u hu
  have hsame : idx' = idx ↔ u = t := by
    constructor
    · rintro rfl
      rw [ht, Option.some.injEq] at hu
      exact hu.symm
    · rintro rfl
      exact (List.getElem?_inj (List.getElem?_eq_some_iff.mp hu).1 hnodup).mp (hu.trans ht.symm)
  rw [List.mem_append, List.mem_singleton, List.mem_cons, hsame, htracks idx' u hu]
  exact or_comm

/-- An annotation of another list does not matter. -/
theorem Tracks.cons_of_notMem {T : List Placed} {matched : List Nat} {taken : List Placed}
    (htracks : Tracks T matched taken) {t : Placed} (ht : t ∉ T) :
    Tracks T matched (t :: taken) := by
  intro idx u hu
  have hne : u ≠ t := by
    rintro rfl
    exact ht (List.mem_of_getElem? hu)
  rw [htracks idx u hu, List.mem_cons, or_iff_right hne]

/-! ## The predictions of an image -/

/-- In an image, a prediction scores the annotations of its class. -/
def imageScore (pred : EvaluationPrediction) (t : Placed) : Rat :=
  if t.1.className = pred.className then overlap pred t else 0

/-- The bidders of a class that took something. -/
def takenBy (c : String) (bids : List (EvaluationPrediction × Option Placed)) : Nat :=
  bids.countP fun bid => decide (bid.1.className = c) && bid.2.isSome

/-- **The loop over the predictions of an image is a greedy run.** -/
theorem matchPrediction_run (primaryIou : Rat) {T : List Placed} (hnodup : T.Nodup) (c : String)
    (ps : List EvaluationPrediction) {s : MatchState} {taken : List Placed}
    (htracks : Tracks T (s.matchedGts.map Prod.fst) taken) :
    ((ps.foldl (matchPrediction primaryIou (T.map Prod.fst)) s).matchedGts.countP
        fun m => decide (m.2.className = c))
      = (s.matchedGts.countP fun m => decide (m.2.className = c))
        + takenBy c (greedy primaryIou imageScore T taken ps) := by
  induction ps generalizing s taken with
  | nil => rfl
  | cons pred ps ih =>
      -- the code's match is the turn of the greedy run
      have hturn : (matchIndex primaryIou (T.map Prod.fst) (s.matchedGts.map Prod.fst)
          (fun gt => gt.className = pred.className) pred).bind (T[·]?)
          = turn primaryIou imageScore T taken pred :=
        matchIndex_bind htracks primaryIou fun t _ => by simp [imageScore]
      have hmatched := matchPrediction_matchedGts primaryIou (T.map Prod.fst) s pred
      rw [List.foldl_cons, greedy]
      unfold takenBy
      rw [List.countP_cons]
      cases hmatch : matchIndex primaryIou (T.map Prod.fst) (s.matchedGts.map Prod.fst)
          (fun gt => gt.className = pred.className) pred with
      | none =>
          -- nothing is taken, and the rest runs from the same state
          rw [hmatch, Option.bind_none] at hturn
          rw [hmatch, Option.map_none, Option.toList_none, List.append_nil] at hmatched
          rw [← hturn]
          have htracks' : Tracks T ((matchPrediction primaryIou (T.map Prod.fst) s
              pred).matchedGts.map Prod.fst) taken := by
            rw [hmatched]
            exact htracks
          have hnext := ih htracks'
          rw [hmatched] at hnext
          simpa [takenBy] using hnext
      | some idx =>
          obtain ⟨gt, hgt, -⟩ := matchIndex_eq_some hmatch
          rw [List.getElem?_map, Option.map_eq_some_iff] at hgt
          obtain ⟨t, ht, -⟩ := hgt
          rw [hmatch, Option.bind_some, ht] at hturn
          rw [hmatch, Option.map_some, Option.toList_some] at hmatched
          rw [← hturn]
          have htracks' : Tracks T ((matchPrediction primaryIou (T.map Prod.fst) s
              pred).matchedGts.map Prod.fst) (t :: taken) := by
            rw [hmatched, List.map_append, List.map_singleton]
            exact htracks.push hnodup ht
          have hnext := ih htracks'
          rw [hmatched, List.countP_append] at hnext
          rw [hnext]
          unfold takenBy
          simp [List.countP_singleton]
          omega

/-! ## The predictions of a class -/

/-- In a class, a prediction scores the annotations of its image. -/
def classScore (pred : EvaluationPrediction) (t : Placed) : Rat :=
  if t.1.imageId = pred.imageId then overlap pred t else 0

/-- The annotations of an image. -/
def ofImage (i : String) (O : List Placed) : List Placed :=
  O.filter fun t => decide (t.1.imageId = i)

/-- Of the annotations of its image, a prediction takes what it takes of all. -/
theorem turn_ofImage (threshold : Rat) (O taken : List Placed) (pred : EvaluationPrediction) :
    turn threshold classScore (ofImage pred.imageId O) taken pred
      = turn threshold classScore O taken pred := by
  -- another image's annotations score zero
  have hown : ∀ t ∈ O, t.1.imageId ≠ pred.imageId → classScore pred t ≤ 0 := by
    intro t _ hne
    unfold classScore
    rw [if_neg hne]
  have hsame : ∀ t ∈ O, t.1.imageId = pred.imageId → (t ∈ taken ↔ t ∈ taken) :=
    fun _ _ _ => Iff.rfl
  have hfilter : turn threshold classScore (O.filter fun t => decide (t.1.imageId = pred.imageId))
      taken pred = turn threshold classScore O taken pred :=
    turn_filter_key EvaluationPrediction.imageId (fun t : Placed => t.1.imageId) rfl hown hsame
  exact hfilter

/-- **The loop over the predictions of a class is a greedy run.** -/
theorem apMatch_run {gtByImage : Dict String (List GroundTruthAnnotation)} {c : String}
    {O : List Placed} (hnodup : O.Nodup)
    (hO : ∀ i, ((gtByImage.get? i).getD []).filter (fun gt => decide (gt.className = c))
      = (ofImage i O).map Prod.fst) (threshold : Rat) (ps : List EvaluationPrediction)
    {s : ApState} {taken : List Placed}
    (htracks : ∀ i, Tracks (ofImage i O) (s.matchedGtsByImg i) taken) :
    (ps.foldl (apMatch gtByImage c threshold) s).tp
      = s.tp ++ hits threshold classScore O taken ps := by
  induction ps generalizing s taken with
  | nil => exact (List.append_nil _).symm
  | cons pred ps ih =>
      -- the match among the image's annotations is the turn among all
      have hturn : (matchIndex threshold ((ofImage pred.imageId O).map Prod.fst)
          (s.matchedGtsByImg pred.imageId) (fun _ => true) pred).bind ((ofImage pred.imageId O)[·]?)
          = turn threshold classScore O taken pred := by
        rw [← turn_ofImage]
        refine matchIndex_bind (htracks pred.imageId) threshold fun t ht => ?_
        rw [if_pos rfl]
        exact if_pos (of_decide_eq_true (List.mem_filter.mp ht).2)
      rw [List.foldl_cons, hits_cons, ← hturn]
      cases hmatch : matchIndex threshold ((ofImage pred.imageId O).map Prod.fst)
          (s.matchedGtsByImg pred.imageId) (fun _ => true) pred with
      | none =>
          have hstep : apMatch gtByImage c threshold s pred = { s with tp := s.tp ++ [false] } := by
            unfold apMatch
            dsimp only
            rw [hO, hmatch]
          rw [hstep]
          refine (ih (s := { s with tp := s.tp ++ [false] }) htracks).trans ?_
          simp
      | some idx =>
          have hstep : apMatch gtByImage c threshold s pred
              = { matchedGtsByImg := Function.update s.matchedGtsByImg pred.imageId
                    (s.matchedGtsByImg pred.imageId ++ [idx])
                  tp := s.tp ++ [true] } := by
            unfold apMatch
            dsimp only
            rw [hO, hmatch]
          obtain ⟨gt, hgt, -⟩ := matchIndex_eq_some hmatch
          rw [List.getElem?_map, Option.map_eq_some_iff] at hgt
          obtain ⟨t, ht, -⟩ := hgt
          have hnext : ∀ i, Tracks (ofImage i O)
              (Function.update s.matchedGtsByImg pred.imageId
                (s.matchedGtsByImg pred.imageId ++ [idx]) i) (t :: taken) := by
            intro i
            by_cases hi : i = pred.imageId
            · subst hi
              rw [Function.update_self]
              exact (htracks _).push (hnodup.filter _) ht
            · rw [Function.update_of_ne hi]
              refine (htracks i).cons_of_notMem fun hmem => hi ?_
              have himage := (List.mem_filter.mp (List.mem_of_getElem? ht)).2
              have hother := (List.mem_filter.mp hmem).2
              exact (of_decide_eq_true hother).symm.trans (of_decide_eq_true himage)
          rw [hstep, Option.bind_some, ht]
          refine (ih hnext).trans ?_
          simp

/-! ## One image and one class -/

/-- The annotations of a class. -/
def ofClass (c : String) (T : List Placed) : List Placed :=
  T.filter fun t => decide (t.1.className = c)

theorem ofImage_ofClass (i c : String) (T : List Placed) :
    ofImage i (ofClass c T) = ofClass c (ofImage i T) := by
  unfold ofImage ofClass
  exact List.filter_comm _ _ _

theorem nodup_zipIdx (gts : List GroundTruthAnnotation) : (gts.zipIdx : List Placed).Nodup := by
  have hplaces : (gts.zipIdx.map Prod.snd).Nodup := by
    rw [List.zipIdx_map_snd]
    exact List.nodup_range'
  exact hplaces.of_map _

theorem ofImage_zipIdx_map_fst (gts : List GroundTruthAnnotation) (i : String) :
    (ofImage i gts.zipIdx).map Prod.fst = gts.filter fun gt => decide (gt.imageId = i) := by
  have hmap := List.filter_map (f := Prod.fst) (l := gts.zipIdx)
    (p := fun gt : GroundTruthAnnotation => decide (gt.imageId = i))
  rw [List.zipIdx_map_fst] at hmap
  exact hmap.symm

theorem ofClass_map_fst (T : List Placed) (c : String) :
    (ofClass c T).map Prod.fst = (T.map Prod.fst).filter fun gt => decide (gt.className = c) :=
  (List.filter_map (f := Prod.fst) (l := T)
    (p := fun gt : GroundTruthAnnotation => decide (gt.className = c))).symm

theorem sortByConfidence_filter (p : EvaluationPrediction → Bool)
    (preds : List EvaluationPrediction) :
    (sortByConfidence preds).filter p = sortByConfidence (preds.filter p) := by
  have htotal : Std.Total fun a b : EvaluationPrediction => b.confidence ≤ a.confidence :=
    ⟨fun a b => le_total b.confidence a.confidence⟩
  have htrans : IsTrans EvaluationPrediction fun a b => b.confidence ≤ a.confidence :=
    ⟨fun a b c hab hbc => hbc.trans hab⟩
  exact filter_insertionSort _ p preds

section

variable (threshold : Rat) (T : List Placed) (preds : List EvaluationPrediction)
  (i c : String)

/-- The run over an image, seen through a class. -/
theorem takenBy_eq : takenBy c (greedy threshold imageScore T [] preds)
    = (greedy threshold imageScore (ofClass c T) []
      (preds.filter fun p => decide (p.className = c))).countP (·.2.isSome) := by
  have hown : OwnKey EvaluationPrediction.className (fun t : Placed => t.1.className)
      imageScore T preds := by
    intro p _ t _ hne
    unfold imageScore
    rw [if_neg hne]
  have hsame : ∀ t ∈ T, t.1.className = c → (t ∈ ([] : List Placed) ↔ t ∈ []) :=
    fun _ _ _ => Iff.rfl
  have hseen : (greedy threshold imageScore T [] preds).filter
        (fun bid => decide (bid.1.className = c))
      = greedy threshold imageScore (T.filter fun t => decide (t.1.className = c)) []
        (preds.filter fun p => decide (p.className = c)) :=
    greedy_filter_key EvaluationPrediction.className (fun t : Placed => t.1.className) hown c
      hsame
  unfold takenBy ofClass
  rw [← hseen, List.countP_filter]
  exact List.countP_congr fun bid _ => by simp [and_comm]

/-- The run over a class, seen through an image. -/
theorem greedy_filter_image : (greedy threshold classScore T [] preds).filter
      (fun bid => decide (bid.1.imageId = i))
    = greedy threshold classScore (ofImage i T) []
      (preds.filter fun p => decide (p.imageId = i)) := by
  have hown : OwnKey EvaluationPrediction.imageId (fun t : Placed => t.1.imageId)
      classScore T preds := by
    intro p _ t _ hne
    unfold classScore
    rw [if_neg hne]
  have hsame : ∀ t ∈ T, t.1.imageId = i → (t ∈ ([] : List Placed) ↔ t ∈ []) :=
    fun _ _ _ => Iff.rfl
  exact greedy_filter_key EvaluationPrediction.imageId (fun t : Placed => t.1.imageId) hown i
    hsame

end

/-! ## The evaluation -/

section

variable (rt : PyRuntime) (predictions : List EvaluationPrediction)
  (groundTruths : List GroundTruthAnnotation) (threshold : Rat) (i c : String)

/-- The matches of a class in an image. -/
theorem imageMatches_countP :
    ((imageMatches threshold (imgGts groundTruths i) (imgPreds predictions i)).countP
        fun m => decide (m.2.className = c))
      = takenBy c (greedy threshold imageScore (ofImage i groundTruths.zipIdx) []
        (sortByConfidence (imgPreds predictions i))) := by
  have hnone : Tracks (ofImage i groundTruths.zipIdx) [] [] := by
    intro idx t _
    simp
  have hnodup : (ofImage i groundTruths.zipIdx).Nodup := (nodup_zipIdx groundTruths).filter _
  have hrun := matchPrediction_run threshold hnodup c
    (sortByConfidence (imgPreds predictions i)) (s := { matchedGts := [], tally := {} }) hnone
  rw [List.countP_nil, Nat.zero_add] at hrun
  rw [← hrun]
  unfold imageMatches matchImage
  rw [imgGts_eq, ← ofImage_zipIdx_map_fst]

/-- The hits of a class. -/
theorem apHits_eq (ps : List EvaluationPrediction) :
    apHits ps (gtByImage groundTruths) c threshold
      = hits threshold classScore (ofClass c groundTruths.zipIdx) [] ps := by
  have himage : ∀ j, (((gtByImage groundTruths).get? j).getD []).filter
        (fun gt => decide (gt.className = c))
      = (ofImage j (ofClass c groundTruths.zipIdx)).map Prod.fst := by
    intro j
    rw [ofImage_ofClass, ofClass_map_fst, ofImage_zipIdx_map_fst]
    exact congrArg _ (imgGts_eq groundTruths j)
  have hnone : ∀ j, Tracks (ofImage j (ofClass c groundTruths.zipIdx)) [] [] := by
    intro j idx t _
    simp
  exact apMatch_run ((nodup_zipIdx groundTruths).filter _) himage threshold ps (s := {}) hnone

/-- **One image and one class:** both matchers let the same predictions bid for the same
annotations. -/
theorem takenBy_eq_filter_image :
    takenBy c (greedy threshold imageScore (ofImage i groundTruths.zipIdx) []
        (sortByConfidence (imgPreds predictions i)))
      = ((greedy threshold classScore (ofClass c groundTruths.zipIdx) []
        (clsPreds predictions c)).filter fun bid => decide (bid.1.imageId = i)).countP
          (·.2.isSome) := by
  have hpreds : (sortByConfidence (imgPreds predictions i)).filter
        (fun p => decide (p.className = c))
      = (clsPreds predictions c).filter fun p => decide (p.imageId = i) := by
    unfold clsPreds
    rw [sortByConfidence_filter, sortByConfidence_filter, imgPreds_eq, List.filter_comm]
  rw [takenBy_eq, greedy_filter_image, ofImage_ofClass, hpreds]
  refine congrArg _ (greedy_congr fun p hp t ht => ?_)
  -- here the class and the image are the same for all
  obtain ⟨ht, hclass⟩ := List.mem_filter.mp ht
  have himage := (List.mem_filter.mp ht).2
  obtain ⟨hp, hpimage⟩ := List.mem_filter.mp hp
  have hpclass := (List.mem_filter.mp ((List.perm_insertionSort _ _).mem_iff.mp hp)).2
  simp only [decide_eq_true_eq] at hclass himage hpimage hpclass
  unfold imageScore classScore
  rw [if_pos (hclass.trans hpclass.symm), if_pos (himage.trans hpimage.symm)]

/-- The hits of a run, counted in the run. -/
theorem count_hits (score : EvaluationPrediction → Placed → Rat) (T taken : List Placed)
    (ps : List EvaluationPrediction) :
    (hits threshold score T taken ps).count true
      = (greedy threshold score T taken ps).countP (·.2.isSome) := by
  unfold hits
  rw [List.count, List.countP_map]
  exact List.countP_congr fun bid _ => by simp

end

/--
**The matchers agree.** The true positives that the image by image counting finds for a class
are as many as those that the average precision of the class finds at the same threshold.
-/
theorem true_positives_eq_hits (e : ModelEvaluator) (rt : PyRuntime)
    (predictions : List EvaluationPrediction) (groundTruths : List GroundTruthAnnotation)
    (primaryIou : Rat) :
    (∀ c, (tallyAll rt predictions groundTruths primaryIou).tpByClass c
      = (apHits (clsPreds predictions c) (gtByImage groundTruths) c primaryIou).count true)
    ∧ ∀ item ∈ (e.evaluate rt predictions groundTruths primaryIou).perClass,
      item.2.truePositives
        = (apHits (clsPreds predictions item.1) (gtByImage groundTruths) item.1
          primaryIou).count true := by
  have hall : ∀ c, (tallyAll rt predictions groundTruths primaryIou).tpByClass c
      = (apHits (clsPreds predictions c) (gtByImage groundTruths) c primaryIou).count true := by
    intro c
    have hnd : (allImageIds rt predictions groundTruths).Nodup := rt.nodup_iterate _
    have hbidders : ∀ bid ∈ greedy primaryIou classScore (ofClass c groundTruths.zipIdx) []
        (clsPreds predictions c), bid.1.imageId ∈ allImageIds rt predictions groundTruths := by
      intro bid hbid
      have hbids : (greedy primaryIou classScore (ofClass c groundTruths.zipIdx) []
          (clsPreds predictions c)).map Prod.fst = clsPreds predictions c := greedy_map_fst _
      have hpred : bid.1 ∈ clsPreds predictions c := by
        rw [← hbids]
        exact List.mem_map_of_mem hbid
      have hmem := (List.mem_filter.mp ((List.perm_insertionSort _ _).mem_iff.mp hpred)).1
      exact mem_allImageIds.mpr (Or.inr ⟨bid.1, hmem, rfl⟩)
    rw [(tallyAll_counted rt predictions groundTruths primaryIou).tp c, apHits_eq, count_hits,
      ← sum_countP_groups hnd (fun bid => bid.1.imageId) _ _ hbidders, List.map_map]
    refine (Nat.zero_add _).trans (congrArg List.sum (List.map_congr_left fun i _ => ?_))
    exact (imageMatches_countP predictions groundTruths primaryIou i c).trans
      (takenBy_eq_filter_image predictions groundTruths primaryIou i c)
  refine ⟨hall, fun item hitem => ?_⟩
  obtain ⟨c, -, rfl⟩ := List.mem_map.mp hitem
  exact hall c

end SmartTraffic.Proof
