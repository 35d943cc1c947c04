import SmartTraffic.Perception.Calibration

/-!
# The farthest queued vehicle

The queue of an approach should end at the vehicle it is said to end at. The estimate
takes the index of the pixel-farthest centroid among the centroids and looks the id up
at that index of all queued vehicles. A vehicle without a centroid in front of it
shifts the two against each other, and a homography may take another vehicle to the
far end.

So what the id says depends on the vehicle that stands where the pixel-farthest one
would stand if the vehicles without a centroid were left out.
-/

namespace SmartTraffic.Proof

open SmartTraffic Lib ApproachCalibrationManager

variable (m : ApproachCalibrationManager) (approach : String) (vehicles : List QueuedVehicle)
  (stop : Rat)

/-- The distance of a centroid to the stop line, as the queue length measures it. -/
def reportedDistance (c : Rat × Rat) : Rat :=
  match m.calibrator approach with
  | some cal => cal.distFromStop c
  | none => pixelDist stop c * m.defaultPixelScale

/-- The id belongs to a vehicle at the end of the queue, and is there if any centroid is. -/
def FarthestEndsQueue : Prop :=
  ((m.estimateQueue approach vehicles stop).farthestVehicleId = none
      ↔ ∀ v ∈ vehicles, v.centroid = none)
    ∧ ∀ id, (m.estimateQueue approach vehicles stop).farthestVehicleId = some id →
      ∃ v ∈ vehicles, v.trackId = some id ∧ ∃ c, v.centroid = some c
        ∧ reportedDistance m approach stop c = m.metricLength approach vehicles stop

/-- No centroid is farther: on the road for a calibrated approach, and otherwise in the image,
unless the scale makes all distances the same. -/
def AtQueueEnd (c : Rat × Rat) : Prop :=
  match m.calibrator approach with
  | some cal => ∀ c' ∈ centroidsOf vehicles, cal.distFromStop c' ≤ cal.distFromStop c
  | none => m.defaultPixelScale = 0
      ∨ ∀ c' ∈ centroidsOf vehicles, pixelDist stop c' ≤ pixelDist stop c

/-- The first of the vehicles that are farthest from the stop line in the image. -/
structure PixelFarthest (before : List QueuedVehicle) (v : QueuedVehicle)
    (after : List QueuedVehicle) (c : Rat × Rat) : Prop where
  split : vehicles = before ++ v :: after
  centroid : v.centroid = some c
  before_lt : ∀ c' ∈ centroidsOf before, pixelDist stop c' < pixelDist stop c
  after_le : ∀ c' ∈ centroidsOf after, pixelDist stop c' ≤ pixelDist stop c

/-- The vehicle that stands as far down the list as there are centroids before the pixel-farthest
vehicle carries the id of a vehicle at the end of the queue. -/
def IdAligned : Prop :=
  ∃ before v after c, PixelFarthest vehicles stop before v after c
    ∧ ∃ w ∈ vehicles, ∃ cw id, w.centroid = some cw ∧ w.trackId = some id
      ∧ AtQueueEnd m approach vehicles stop cw
      ∧ vehicles[(centroidsOf before).length]?.bind (·.trackId) = some id

variable {m approach vehicles stop}

theorem mem_centroidsOf {c : Rat × Rat} :
    c ∈ centroidsOf vehicles ↔ ∃ v ∈ vehicles, v.centroid = some c := List.mem_filterMap

theorem centroidsOf_eq_nil : centroidsOf vehicles = [] ↔ ∀ v ∈ vehicles, v.centroid = none :=
  List.filterMap_eq_nil_iff

/-! ## The index -/

theorem PixelFarthest.firstGreatest {before after : List QueuedVehicle} {v : QueuedVehicle}
    {c : Rat × Rat} (h : PixelFarthest vehicles stop before v after c) :
    FirstGreatest (pixelDist stop) (centroidsOf vehicles) (centroidsOf before) c
      (centroidsOf after) where
  split := by
    rw [h.split]
    unfold centroidsOf
    rw [List.filterMap_append, List.filterMap_cons_some h.centroid]
  before_lt := h.before_lt
  after_le := h.after_le

theorem exists_pixelFarthest (stop : Rat) (h : centroidsOf vehicles ≠ []) :
    ∃ before v after c, PixelFarthest vehicles stop before v after c := by
  obtain ⟨cbefore, c, cafter, hfirst⟩ := exists_firstGreatest (pixelDist stop) h
  obtain ⟨before, rest, hsplit, hbefore, hrest⟩ := List.filterMap_eq_append_iff.mp hfirst.split
  obtain ⟨skipped, v, after, hrest', hskipped, hv, hafter⟩ := List.filterMap_eq_cons_iff.mp hrest
  have hnone : skipped.filterMap (·.centroid) = [] := List.filterMap_eq_nil_iff.mpr hskipped
  refine ⟨before ++ skipped, v, after, c, ⟨by rw [hsplit, hrest']; simp, hv, ?_, ?_⟩⟩
  · unfold centroidsOf
    rw [List.filterMap_append, hnone, List.append_nil, hbefore]
    exact hfirst.before_lt
  · unfold centroidsOf
    rw [hafter]
    exact hfirst.after_le

/-- **Where the id comes from.** -/
theorem PixelFarthest.farthestId_eq {before after : List QueuedVehicle} {v : QueuedVehicle}
    {c : Rat × Rat} (h : PixelFarthest vehicles stop before v after c) :
    farthestId vehicles stop = vehicles[(centroidsOf before).length]?.bind (·.trackId) := by
  unfold farthestId
  rw [(argmaxIdx_map h.firstGreatest).1]
  rfl

/-! ## The end of the queue -/

/-- **A centroid is at the reported distance exactly if none is farther.** -/
theorem reportedDistance_eq_iff {c : Rat × Rat} (hc : c ∈ centroidsOf vehicles) :
    reportedDistance m approach stop c = m.metricLength approach vehicles stop
      ↔ AtQueueEnd m approach vehicles stop c := by
  have hne : centroidsOf vehicles ≠ [] := List.ne_nil_of_mem hc
  unfold reportedDistance metricLength AtQueueEnd
  cases m.calibrator approach with
  | some cal =>
      obtain ⟨before, far, after, hfirst⟩ := exists_firstGreatest cal.distFromStop hne
      dsimp only
      unfold HomographyCalibrator.computeQueueLength
      rw [if_neg hne, (argmaxIdx_map hfirst).2, Option.getD_some]
      constructor
      · intro heq c' hc'
        exact (hfirst.le c' hc').trans_eq heq.symm
      · intro hle
        exact le_antisymm (hfirst.le c hc) (hle far hfirst.mem)
  | none =>
      obtain ⟨before, far, after, hfirst⟩ := exists_firstGreatest (pixelDist stop) hne
      dsimp only
      unfold maxPixelDist
      rw [(argmaxIdx_map hfirst).2, Option.getD_some, mul_eq_mul_right_iff, or_comm]
      refine or_congr_right ⟨fun heq c' hc' => ?_, fun hle => ?_⟩
      · exact (hfirst.le c' hc').trans_eq heq.symm
      · exact le_antisymm (hfirst.le c hc) (hle far hfirst.mem)

/-! ## Vehicles with ids of their own -/

section

variable {before after : List QueuedVehicle} {v : QueuedVehicle} {c : Rat × Rat}

/-- The place of the pixel-farthest centroid is determined. -/
theorem PixelFarthest.length_unique {before' after' : List QueuedVehicle} {v' : QueuedVehicle}
    {c' : Rat × Rat} (h : PixelFarthest vehicles stop before v after c)
    (h' : PixelFarthest vehicles stop before' v' after' c') :
    (centroidsOf before).length = (centroidsOf before').length := by
  have hfirst := h.firstGreatest
  have hfirst' := h'.firstGreatest
  exact le_antisymm (hfirst.length_le hfirst'.getElem? (hfirst'.le _ hfirst.mem))
    (hfirst'.length_le hfirst.getElem? (hfirst.le _ hfirst'.mem))

/-- With different ids, the vehicle at that place must be at the end of the queue itself. -/
theorem idAligned_iff_of_distinct (hids : (vehicles.map (·.trackId)).Nodup)
    (h : PixelFarthest vehicles stop before v after c) :
    IdAligned m approach vehicles stop
      ↔ ∃ w cw id, vehicles[(centroidsOf before).length]? = some w ∧ w.centroid = some cw
        ∧ w.trackId = some id ∧ AtQueueEnd m approach vehicles stop cw := by
  constructor
  · rintro ⟨before', v', after', c', h', w, hw, cw, id, hcw, hwid, hend, hid⟩
    rw [← h.length_unique h'] at hid
    obtain ⟨u, hu, huid⟩ := Option.bind_eq_some_iff.mp hid
    have huw : u = w := List.inj_on_of_nodup_map hids (List.mem_of_getElem? hu) hw
      (huid.trans hwid.symm)
    exact ⟨w, cw, id, huw ▸ hu, hcw, hwid, hend⟩
  · rintro ⟨w, cw, id, hw, hcw, hwid, hend⟩
    refine ⟨before, v, after, c, h, w, List.mem_of_getElem? hw, cw, id, hcw, hwid, hend, ?_⟩
    rw [hw]
    exact hwid

/-- **Without a calibration, no vehicle before the farthest one may lack a centroid.** -/
theorem idAligned_uncalibrated_iff (hids : (vehicles.map (·.trackId)).Nodup)
    (hcal : m.calibrator approach = none) (hscale : m.defaultPixelScale ≠ 0)
    (h : PixelFarthest vehicles stop before v after c) :
    IdAligned m approach vehicles stop
      ↔ v.trackId ≠ none ∧ ∀ u ∈ before, u.centroid ≠ none := by
  have hlen : (centroidsOf before).length = before.length
      ↔ ∀ u ∈ before, u.centroid ≠ none := by
    unfold centroidsOf
    rw [List.length_filterMap_eq_countP, List.countP_eq_length]
    simp only [Option.isSome_iff_ne_none]
  have hle := length_centroidsOf_le before
  have hself : vehicles[before.length]? = some v := by rw [h.split]; simp
  rw [idAligned_iff_of_distinct hids h, ← hlen]
  constructor
  · rintro ⟨w, cw, id, hw, hcw, hwid, hend⟩
    unfold AtQueueEnd at hend
    rw [hcal] at hend
    have hall := hend.resolve_left hscale
    have hclt : pixelDist stop c ≤ pixelDist stop cw := hall c h.firstGreatest.mem
    -- a vehicle before the first farthest one is nearer
    have hplace : (centroidsOf before).length = before.length := by
      by_contra hne
      have hbefore : w ∈ before := by
        rw [h.split, List.getElem?_append_left (by omega)] at hw
        exact List.mem_of_getElem? hw
      exact absurd (h.before_lt cw (mem_centroidsOf.mpr ⟨w, hbefore, hcw⟩)) (not_lt.mpr hclt)
    rw [hplace, hself, Option.some.injEq] at hw
    subst hw
    exact ⟨by rw [hwid]; simp, hplace⟩
  · rintro ⟨hid, hplace⟩
    obtain ⟨id, hid⟩ := Option.ne_none_iff_exists'.mp hid
    refine ⟨v, c, id, by rw [hplace, hself], h.centroid, hid, ?_⟩
    unfold AtQueueEnd
    rw [hcal]
    exact Or.inr h.firstGreatest.le

end

/--
**When the farthest vehicle is the one that ends the queue.** Exactly if no listed vehicle
has a centroid, or the vehicle at the place of the pixel-farthest one among the vehicles
with a centroid carries the id of a vehicle that no other is farther than.
-/
theorem farthest_ends_queue_iff (m : ApproachCalibrationManager) (approach : String)
    (vehicles : List QueuedVehicle) (stop : Rat) :
    FarthestEndsQueue m approach vehicles stop
      ↔ (∀ v ∈ vehicles, v.centroid = none) ∨ IdAligned m approach vehicles stop := by
  unfold FarthestEndsQueue
  rw [estimateQueue_farthestVehicleId]
  by_cases hnil : centroidsOf vehicles = []
  · have hnone : farthestId vehicles stop = none := by
      unfold farthestId
      rw [hnil]
      rfl
    have hall := centroidsOf_eq_nil.mp hnil
    rw [hnone]
    refine iff_of_true ⟨iff_of_true rfl hall, fun id hid => ?_⟩ (Or.inl hall)
    cases hid
  · have hsome : ¬∀ v ∈ vehicles, v.centroid = none := mt centroidsOf_eq_nil.mpr hnil
    rw [or_iff_right hsome]
    constructor
    · rintro ⟨hnone, hend⟩
      obtain ⟨id, hid⟩ := Option.ne_none_iff_exists'.mp (mt hnone.mp hsome)
      obtain ⟨before, v, after, c, hfar⟩ := exists_pixelFarthest stop hnil
      obtain ⟨w, hw, hwid, cw, hcw, hdist⟩ := hend id hid
      have hmem : cw ∈ centroidsOf vehicles := mem_centroidsOf.mpr ⟨w, hw, hcw⟩
      refine ⟨before, v, after, c, hfar, w, hw, cw, id, hcw, hwid, ?_, ?_⟩
      · exact (reportedDistance_eq_iff hmem).mp hdist
      · rw [← hfar.farthestId_eq, hid]
    · rintro ⟨before, v, after, c, hfar, w, hw, cw, id, hcw, hwid, hend, hid⟩
      rw [hfar.farthestId_eq, hid]
      refine ⟨iff_of_false (by simp) hsome, fun id' hid' => ?_⟩
      obtain rfl := Option.some.inj hid'
      have hmem : cw ∈ centroidsOf vehicles := mem_centroidsOf.mpr ⟨w, hw, hcw⟩
      exact ⟨w, hw, hwid, cw, hcw, (reportedDistance_eq_iff hmem).mpr hend⟩

/-- A vehicle without a centroid, listed before the only one that has one. -/
def hiddenFirst : List QueuedVehicle :=
  [ { trackId := some 1, centroid := none },
    { trackId := some 2, centroid := some (100, 400) } ]

/-- The queue is said to end at the vehicle that has no centroid. -/
theorem farthest_of_hiddenFirst : ¬FarthestEndsQueue {} "north" hiddenFirst 650 := by
  have hfar : PixelFarthest hiddenFirst 650 [{ trackId := some 1, centroid := none }]
      { trackId := some 2, centroid := some (100, 400) } [] (100, 400) :=
    ⟨rfl, rfl, by simp [centroidsOf], by simp [centroidsOf]⟩
  rintro ⟨-, hend⟩
  have hid : (estimateQueue {} "north" hiddenFirst 650).farthestVehicleId = some 1 := by
    rw [estimateQueue_farthestVehicleId, hfar.farthestId_eq]
    rfl
  obtain ⟨v, hv, hvid, c, hc, -⟩ := hend 1 hid
  simp only [hiddenFirst, List.mem_cons, List.not_mem_nil, or_false] at hv
  rcases hv with rfl | rfl
  · cases hc
  · cases hvid

end SmartTraffic.Proof
