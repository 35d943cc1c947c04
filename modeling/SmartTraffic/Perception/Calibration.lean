import SmartTraffic.Lib.FirstGreatest
import SmartTraffic.Perception.Detector

/-!
# Ground-plane calibration and the queue estimate

`HomographyCalibrator` and `ApproachCalibrationManager`: a homography takes image points
to metres on the road, and the queue of an approach reaches from the stop line to the
farthest queued vehicle, in metres where the approach is calibrated and in scaled pixels
where it is not. The matrix itself is computed outside, from four point pairs.
-/

namespace SmartTraffic

open Lib

/-- A 3 x 3 matrix. -/
abbrev Matrix3 := Matrix (Fin 3) (Fin 3) Rat

/-- The exceptions of a calibration. -/
inductive CalibrationError
  | valueError (message : String)
  /-- The homography has no inverse. -/
  | linAlgError
  deriving DecidableEq, Repr

/-- `HomographyCalibrator`: a homography that has an inverse. -/
structure HomographyCalibrator where
  homography : Matrix3
  stopLineMetricY : Rat := 0
  det_ne_zero : homography.det ≠ 0

namespace HomographyCalibrator

/-- `HomographyCalibrator.__init__`, over `cv2.getPerspectiveTransform`. -/
def create (getPerspectiveTransform : List (Rat × Rat) → List (Rat × Rat) → Matrix3)
    (imagePoints metricPoints : List (Rat × Rat)) (stopLineMetricY : Rat) :
    Except CalibrationError HomographyCalibrator :=
  if imagePoints.length ≠ 4 ∨ metricPoints.length ≠ 4 then
    .error (.valueError "Exactly 4 point correspondences required to compute homography.")
  else
    let m := getPerspectiveTransform imagePoints metricPoints
    if h : m.det = 0 then .error .linAlgError
    else .ok { homography := m, stopLineMetricY := stopLineMetricY, det_ne_zero := h }

/-- The matrix at an image point, divided by its third coordinate. -/
def pixelToMetric (c : HomographyCalibrator) (u v : Rat) : Rat × Rat :=
  let vec := c.homography.mulVec ![u, v, 1]
  if |vec 2| < 1 / 10 ^ 9 then (0, 0) else (vec 0 / vec 2, vec 1 / vec 2)

/-- `dist_from_stop` of a centroid. -/
def distFromStop (c : HomographyCalibrator) (centroid : Rat × Rat) : Rat :=
  |(c.pixelToMetric centroid.1 centroid.2).2 - c.stopLineMetricY|

def computeQueueLength (c : HomographyCalibrator) (centroids : List (Rat × Rat)) : Rat :=
  if centroids = [] then 0 else ((centroids.map c.distFromStop).max?).getD 0

end HomographyCalibrator

/-- A queued vehicle: a dictionary that may lack either key. -/
structure QueuedVehicle where
  trackId : Option Int
  centroid : Option (Rat × Rat)
  deriving DecidableEq, Repr

structure QueueMetrics where
  queuedCount : Nat
  pixelQueueLength : Rat
  metricQueueLengthMeters : Rat
  isCalibrated : Bool
  farthestVehicleId : Option Int
  deriving DecidableEq, Repr

structure ApproachCalibrationManager where
  calibrators : Dict String HomographyCalibrator := ∅
  defaultPixelScale : Rat := 5 / 100

namespace ApproachCalibrationManager

/-- `approach.strip().lower()`. -/
def approachKey (approach : String) : String := (strip approach).toLower

def setCalibration (m : ApproachCalibrationManager)
    (getPerspectiveTransform : List (Rat × Rat) → List (Rat × Rat) → Matrix3) (approach : String)
    (imagePoints metricPoints : List (Rat × Rat)) (stopLineMetricY : Rat) :
    Except CalibrationError ApproachCalibrationManager :=
  (HomographyCalibrator.create getPerspectiveTransform imagePoints metricPoints
    stopLineMetricY).map fun c =>
      { m with calibrators := m.calibrators.set (approachKey approach) c }

def calibrator (m : ApproachCalibrationManager) (approach : String) :
    Option HomographyCalibrator := m.calibrators.get? (approachKey approach)

/-- `centroids`. -/
def centroidsOf (vehicles : List QueuedVehicle) : List (Rat × Rat) :=
  vehicles.filterMap (·.centroid)

/-- The distance of a centroid to the stop line, in pixels. -/
def pixelDist (stopLinePixelY : Rat) (c : Rat × Rat) : Rat := |c.2 - stopLinePixelY|

/-- `max_pixel_dist`. -/
def maxPixelDist (vehicles : List QueuedVehicle) (stopLinePixelY : Rat) : Rat :=
  (((centroidsOf vehicles).map (pixelDist stopLinePixelY)).max?).getD 0

/-- `metric_length`, before it is rounded. -/
def metricLength (m : ApproachCalibrationManager) (approach : String)
    (vehicles : List QueuedVehicle) (stopLinePixelY : Rat) : Rat :=
  match m.calibrator approach with
  | some c => c.computeQueueLength (centroidsOf vehicles)
  | none => maxPixelDist vehicles stopLinePixelY * m.defaultPixelScale

/-- `farthest_id`: the index is one of `centroids`, and is used on `queued_vehicles`. -/
def farthestId (vehicles : List QueuedVehicle) (stopLinePixelY : Rat) : Option Int :=
  (argmaxIdx ((centroidsOf vehicles).map (pixelDist stopLinePixelY))).bind fun i =>
    vehicles[i]?.bind (·.trackId)

/-- `estimate_queue`. -/
def estimateQueue (m : ApproachCalibrationManager) (approach : String)
    (vehicles : List QueuedVehicle) (stopLinePixelY : Rat) : QueueMetrics :=
  if vehicles.length = 0 then
    { queuedCount := 0
      pixelQueueLength := 0
      metricQueueLengthMeters := 0
      isCalibrated := m.calibrators.contains (approachKey approach)
      farthestVehicleId := none }
  else
    { queuedCount := vehicles.length
      pixelQueueLength := roundDigits 1 (maxPixelDist vehicles stopLinePixelY)
      metricQueueLengthMeters := roundDigits 2 (m.metricLength approach vehicles stopLinePixelY)
      isCalibrated := (m.calibrator approach).isSome
      farthestVehicleId := farthestId vehicles stopLinePixelY }

/-! ## Setting a calibration -/

/-- What `set_calibration` has stored, if it has not raised. -/
theorem setCalibration_eq_ok {m m' : ApproachCalibrationManager}
    {getPerspectiveTransform : List (Rat × Rat) → List (Rat × Rat) → Matrix3} {approach : String}
    {imagePoints metricPoints : List (Rat × Rat)} {stopLineMetricY : Rat}
    (h : m.setCalibration getPerspectiveTransform approach imagePoints metricPoints
      stopLineMetricY = .ok m') :
    ∃ c : HomographyCalibrator, c.homography = getPerspectiveTransform imagePoints metricPoints
      ∧ c.stopLineMetricY = stopLineMetricY
      ∧ m' = { m with calibrators := m.calibrators.set (approachKey approach) c } := by
  unfold setCalibration HomographyCalibrator.create at h
  split_ifs at h with hlength
  · cases h
  · dsimp only at h
    split_ifs at h with hdet
    · cases h
    · cases h
      exact ⟨_, rfl, rfl, rfl⟩

/-- **A calibration is for its own approach**: the estimates of this approach say from then on that
it is calibrated, and those of every other one stay as they are. -/
theorem estimateQueue_setCalibration {m m' : ApproachCalibrationManager}
    {getPerspectiveTransform : List (Rat × Rat) → List (Rat × Rat) → Matrix3} {approach : String}
    {imagePoints metricPoints : List (Rat × Rat)} {stopLineMetricY : Rat}
    (h : m.setCalibration getPerspectiveTransform approach imagePoints metricPoints
      stopLineMetricY = .ok m') (other : String) (vehicles : List QueuedVehicle)
    (stopLinePixelY : Rat) :
    (approachKey other = approachKey approach →
        (m'.estimateQueue other vehicles stopLinePixelY).isCalibrated = true)
      ∧ (approachKey other ≠ approachKey approach →
        m'.estimateQueue other vehicles stopLinePixelY
          = m.estimateQueue other vehicles stopLinePixelY) := by
  obtain ⟨c, -, -, rfl⟩ := setCalibration_eq_ok h
  refine ⟨fun hkey => ?_, fun hkey => ?_⟩
  · have hself : (m.calibrators.set (approachKey approach) c).get? (approachKey other)
        = some c := by rw [hkey, Dict.get?_set_self]
    unfold estimateQueue
    split_ifs
    · show ((m.calibrators.set (approachKey approach) c).get? (approachKey other)).isSome = true
      rw [hself]
      rfl
    · show ((m.calibrators.set (approachKey approach) c).get? (approachKey other)).isSome = true
      rw [hself]
      rfl
  · have hget := Dict.get?_set_of_ne m.calibrators c hkey
    have hcontains : (m.calibrators.set (approachKey approach) c).contains (approachKey other)
        = m.calibrators.contains (approachKey other) := congrArg Option.isSome hget
    unfold estimateQueue metricLength calibrator
    dsimp only
    rw [hget, hcontains]

/-! ## The index -/

theorem length_centroidsOf_le (vehicles : List QueuedVehicle) :
    (centroidsOf vehicles).length ≤ vehicles.length := List.length_filterMap_le _ _

/-- An empty list makes no difference to the lookup of the id. -/
theorem estimateQueue_farthestVehicleId (m : ApproachCalibrationManager) (approach : String)
    (vehicles : List QueuedVehicle) (stopLinePixelY : Rat) :
    (m.estimateQueue approach vehicles stopLinePixelY).farthestVehicleId
      = farthestId vehicles stopLinePixelY := by
  unfold estimateQueue
  split_ifs with h
  · rw [List.length_eq_zero_iff.mp h]
    rfl
  · rfl

end ApproachCalibrationManager

end SmartTraffic
