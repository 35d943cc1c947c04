import SmartTraffic.Perception.Detector

/-!
# Boxes in the frame

A box is clipped to the frame, skipped if nothing of it is left, and only then cut down to
whole pixels. So its corners are in the frame and in order, but they are distinct only if a
line between two pixels runs through the box in each direction.
-/

namespace SmartTraffic

open Lib

/-! ## Clipping and cutting -/

theorem clip_nonneg (limit : Nat) (q : Rat) : 0 ≤ clip limit q :=
  le_min (le_max_right q 0) (Nat.cast_nonneg limit)

theorem clip_le (limit : Nat) (q : Rat) : clip limit q ≤ limit := min_le_right _ _

theorem truncate_clip (limit : Nat) (q : Rat) : truncate (clip limit q) = ⌊clip limit q⌋ := by
  unfold truncate
  rw [if_pos (clip_nonneg limit q)]

theorem truncate_clip_nonneg (limit : Nat) (q : Rat) : 0 ≤ truncate (clip limit q) := by
  rw [truncate_clip]
  exact Int.floor_nonneg.mpr (clip_nonneg limit q)

theorem truncate_clip_le (limit : Nat) (q : Rat) : truncate (clip limit q) ≤ limit := by
  rw [truncate_clip]
  have hle : ((⌊clip limit q⌋ : Int) : Rat) ≤ limit := (Int.floor_le _).trans (clip_le limit q)
  exact_mod_cast hle

/-- A line between two pixels of the frame lies after `p`, and `q` reaches it. -/
def Crosses (limit : Nat) (p q : Rat) : Prop :=
  ∃ k : Int, 1 ≤ k ∧ k ≤ limit ∧ p < k ∧ (k : Rat) ≤ q

/-- **Two clipped coordinates fall into different pixels exactly if a line runs between them.** -/
theorem truncate_clip_lt_iff {limit : Nat} {p q : Rat} :
    truncate (clip limit p) < truncate (clip limit q) ↔ Crosses limit p q := by
  rw [truncate_clip, truncate_clip]
  constructor
  · intro hlt
    -- the line is the one that `q` reached last
    have hpos : 1 ≤ ⌊clip limit q⌋ := by
      have hfloor : 0 ≤ ⌊clip limit p⌋ := Int.floor_nonneg.mpr (clip_nonneg limit p)
      omega
    have hone : (1 : Rat) ≤ ⌊clip limit q⌋ := by exact_mod_cast hpos
    have hq : ((⌊clip limit q⌋ : Int) : Rat) ≤ clip limit q := Int.floor_le _
    have hp : clip limit p < (⌊clip limit q⌋ : Int) := Int.floor_lt.mp hlt
    have hlimit : ⌊clip limit q⌋ ≤ limit := by
      have hle : ((⌊clip limit q⌋ : Int) : Rat) ≤ limit := hq.trans (clip_le limit q)
      exact_mod_cast hle
    refine ⟨⌊clip limit q⌋, hpos, hlimit, ?_, ?_⟩
    · have hlimit' : ((⌊clip limit q⌋ : Int) : Rat) ≤ limit := by exact_mod_cast hlimit
      rcases min_lt_iff.mp hp with hp | hp
      · exact (le_max_left p 0).trans_lt hp
      · exact absurd hlimit' (not_le.mpr hp)
    · have hmax : ((⌊clip limit q⌋ : Int) : Rat) ≤ max q 0 := hq.trans (min_le_left _ _)
      rcases le_max_iff.mp hmax with hle | hle
      · exact hle
      · linarith
  · rintro ⟨k, hpos, hlimit, hp, hq⟩
    have hzero : (0 : Rat) < k := by exact_mod_cast hpos
    have hlimit' : (k : Rat) ≤ limit := by exact_mod_cast hlimit
    have hleft : ⌊clip limit p⌋ < k :=
      Int.floor_lt.mpr ((min_le_left _ _).trans_lt (max_lt hp hzero))
    have hright : k ≤ ⌊clip limit q⌋ :=
      Int.le_floor.mpr (le_min (hq.trans (le_max_left q 0)) hlimit')
    omega

/-! ## One box -/

/-- The corners of the box are distinct points of the frame, in order. -/
structure Proper (width height : Nat) (bbox : Int × Int × Int × Int) : Prop where
  left : 0 ≤ bbox.1
  across : bbox.1 < bbox.2.2.1
  right : bbox.2.2.1 ≤ width
  top : 0 ≤ bbox.2.1
  down : bbox.2.1 < bbox.2.2.2
  bottom : bbox.2.2.2 ≤ height

/-- The box has a class of the detector and finite values, with these coordinates, and something
of it is in the frame. -/
structure Passes (d : VehicleDetector) (width height : Nat) (box : ModelBox) (x1 y1 x2 y2 : Rat) :
    Prop where
  known : ∃ className, d.vehicleClasses.get? box.cls = some className
  confident : ∃ confidence, box.conf = .finite confidence
  corner : box.x1 = .finite x1 ∧ box.y1 = .finite y1
  opposite : box.x2 = .finite x2 ∧ box.y2 = .finite y2
  across : clip width x1 < clip width x2
  down : clip height y1 < clip height y2

/-- **What becomes of a box.** -/
theorem convertBox_eq_some_iff {d : VehicleDetector} {width height : Nat} (frameNumber : Int)
    (timestamp : Rat) {box : ModelBox} {detection : RawDetection} :
    d.convertBox width height frameNumber timestamp box = some detection
      ↔ ∃ x1 y1 x2 y2 className confidence, Passes d width height box x1 y1 x2 y2
        ∧ d.vehicleClasses.get? box.cls = some className ∧ box.conf = .finite confidence
        ∧ detection =
          { className := className, classId := box.cls, confidence := confidence
            bbox := (truncate (clip width x1), truncate (clip height y1),
              truncate (clip width x2), truncate (clip height y2))
            frameNumber := frameNumber, timestamp := timestamp } := by
  unfold VehicleDetector.convertBox
  constructor
  · intro h
    split at h
    · rename_i className confidence hclass hconf
      split at h
      · rename_i x1 y1 x2 y2 hx1 hy1 hx2 hy2
        split_ifs at h with hempty
        rw [not_or, not_le, not_le] at hempty
        exact ⟨x1, y1, x2, y2, className, confidence,
          ⟨⟨className, hclass⟩, ⟨confidence, hconf⟩, ⟨hx1, hy1⟩, ⟨hx2, hy2⟩, hempty.1, hempty.2⟩,
          hclass, hconf, (Option.some.inj h).symm⟩
      · cases h
    · cases h
  · rintro ⟨x1, y1, x2, y2, className, confidence, hpasses, hclass, hconf, rfl⟩
    have hempty : ¬(clip width x2 ≤ clip width x1 ∨ clip height y2 ≤ clip height y1) := by
      rw [not_or, not_le, not_le]
      exact ⟨hpasses.across, hpasses.down⟩
    rw [hclass, hconf]
    dsimp only
    rw [hpasses.corner.1, hpasses.corner.2, hpasses.opposite.1, hpasses.opposite.2]
    dsimp only
    rw [if_neg hempty]

/-- A line between two pixels runs through the box in each direction. -/
def OnGrid (width height : Nat) (x1 y1 x2 y2 : Rat) : Prop :=
  Crosses width x1 x2 ∧ Crosses height y1 y2

theorem proper_iff {width height : Nat} {x1 y1 x2 y2 : Rat} :
    Proper width height (truncate (clip width x1), truncate (clip height y1),
        truncate (clip width x2), truncate (clip height y2))
      ↔ OnGrid width height x1 y1 x2 y2 := by
  unfold OnGrid
  rw [← truncate_clip_lt_iff, ← truncate_clip_lt_iff]
  exact ⟨fun h => ⟨h.across, h.down⟩, fun h => ⟨truncate_clip_nonneg _ _, h.1,
    truncate_clip_le _ _, truncate_clip_nonneg _ _, h.2, truncate_clip_le _ _⟩⟩

/-! ## All boxes -/

/-- What is asked of the detections: proper boxes, supported classes, and the order of the boxes
of the model. -/
structure SoundDetections (d : VehicleDetector) (width height : Nat) (frameNumber : Int)
    (timestamp : Rat) (boxes : List ModelBox) (detections : List RawDetection) : Prop where
  proper : ∀ detection ∈ detections, Proper width height detection.bbox
  supported : ∀ detection ∈ detections, detection.className ∈ targetClassNames
  ordered : ∃ kept : List ModelBox, kept.Sublist boxes ∧ List.Forall₂ (fun box detection =>
    d.convertBox width height frameNumber timestamp box = some detection) kept detections

/-- What a filter makes of a list comes from a sublist of it. -/
theorem forall₂_filterMap {A B : Type} (f : A → Option B) (xs : List A) :
    ∃ kept : List A, kept.Sublist xs
      ∧ List.Forall₂ (fun a b => f a = some b) kept (xs.filterMap f) := by
  induction xs with
  | nil => exact ⟨[], List.Sublist.refl _, .nil⟩
  | cons a xs ih =>
      obtain ⟨kept, hsub, hall⟩ := ih
      cases hfa : f a with
      | none =>
          rw [List.filterMap_cons_none hfa]
          exact ⟨kept, hsub.cons a, hall⟩
      | some b =>
          rw [List.filterMap_cons_some hfa]
          exact ⟨a :: kept, hsub.cons_cons a, .cons hfa hall⟩

namespace Proof

/--
**Which detections are proper boxes inside the frame.** Take any detector, any frame and
any boxes of the model. The detections are always of supported classes and in the order of
the boxes; all of them are proper boxes inside the frame exactly if a line between two
pixels of the frame runs, in each direction, through every box that is not skipped.
-/
theorem detections_proper_iff (d : VehicleDetector) (width height : Nat) (frameNumber : Int)
    (timestamp : Rat) (boxes : Option (List ModelBox)) :
    SoundDetections d width height frameNumber timestamp (boxes.getD [])
        (d.convert width height frameNumber timestamp boxes)
      ↔ ∀ box ∈ boxes.getD [], ∀ x1 y1 x2 y2, Passes d width height box x1 y1 x2 y2 →
          OnGrid width height x1 y1 x2 y2 := by
  rw [VehicleDetector.convert_eq]
  constructor
  · intro hsound box hbox x1 y1 x2 y2 hpasses
    obtain ⟨className, hclass⟩ := hpasses.known
    obtain ⟨confidence, hconf⟩ := hpasses.confident
    have hconvert := (convertBox_eq_some_iff frameNumber timestamp).mpr
      ⟨x1, y1, x2, y2, className, confidence, hpasses, hclass, hconf, rfl⟩
    exact proper_iff.mp (hsound.proper _ (List.mem_filterMap.mpr ⟨box, hbox, hconvert⟩))
  · intro hgrid
    refine ⟨fun detection hmem => ?_, fun detection hmem => ?_, forall₂_filterMap _ _⟩
    · obtain ⟨box, hbox, hconvert⟩ := List.mem_filterMap.mp hmem
      obtain ⟨x1, y1, x2, y2, className, confidence, hpasses, -, -, rfl⟩ :=
        (convertBox_eq_some_iff frameNumber timestamp).mp hconvert
      exact proper_iff.mpr (hgrid box hbox x1 y1 x2 y2 hpasses)
    · obtain ⟨box, -, hconvert⟩ := List.mem_filterMap.mp hmem
      obtain ⟨x1, y1, x2, y2, className, confidence, -, hclass, -, rfl⟩ :=
        (convertBox_eq_some_iff frameNumber timestamp).mp hconvert
      exact d.supported box.cls className hclass

/-- A car that lies within one pixel is cut down to a point. -/
theorem car_within_pixel_is_improper :
    let d : VehicleDetector :=
      ⟨supportedClasses [(2, "car")], fun _ _ h => supportedClasses_supported _ h⟩
    let box : ModelBox :=
      { cls := 2, conf := .finite (9 / 10), x1 := .finite (1 / 5), y1 := .finite (1 / 5)
        x2 := .finite (4 / 5), y2 := .finite (4 / 5) }
    ¬SoundDetections d 640 480 1 0 [box] (d.convert 640 480 1 0 (some [box])) := by
  intro d box hsound
  have hpoint : (d.convert 640 480 1 0 (some [box])).map (·.bbox) = [(0, 0, 0, 0)] := by
    decide +kernel
  have hmem : (0, 0, 0, 0) ∈ (d.convert 640 480 1 0 (some [box])).map (·.bbox) := by
    rw [hpoint]
    exact List.mem_singleton_self _
  obtain ⟨detection, hdetection, hbbox⟩ := List.mem_map.mp hmem
  have hproper := hsound.proper detection hdetection
  rw [hbbox] at hproper
  exact absurd hproper.across (by decide)

end Proof

end SmartTraffic
