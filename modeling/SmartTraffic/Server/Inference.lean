import SmartTraffic.Perception.Detector
import SmartTraffic.Server.Batch

/-!
# Inference for a batch

The platform whose detector is a `VehicleDetector` over a model manager:
`predict_batch` refuses more images than the batch size, and `detect_batch` an
incomplete answer. What the model finds in images, and what the trackers make of
it, are inputs.
-/

namespace SmartTraffic

/-- `result.boxes`, which can be `None`. -/
abbrev Boxes := Option (List ModelBox)

/-- The detector of a pipeline, with its model and the trackers behind it. -/
structure Inference (v : Platform) where
  detector : VehicleDetector
  /-- `model_manager.predict` on a list of images; `none` is an exception. -/
  predict : List v.Image → Option (List Boxes)
  /-- How many milliseconds the prediction takes. -/
  elapsed : List v.Image → Rat
  track : v.Tracking → LaneName → v.Image → Option (List RawDetection) → Nat → Rat →
    Option LaneStatistics → Tracked v.Image × v.Tracking

namespace Inference

variable {v : Platform} (I : Inference v)

/-- `predict_batch`. -/
def predictBatch (batchSize : Nat) (images : List v.Image) : Option (List Boxes) :=
  if images.isEmpty then some []
  else if batchSize < images.length then none
  else I.predict images

/-- `_convert` of the boxes of an image. -/
def convert (image : v.Image) (frameNumber : Nat) (timestamp : Rat) (boxes : Boxes) :
    List RawDetection :=
  I.detector.convert (v.width image) (v.height image) frameNumber timestamp boxes

/-- `detect_batch`. Its three lists are those of `process_batch`, which are of one length. -/
def detectBatch (batchSize : Nat) (group : List (v.Image × Nat × Rat)) :
    Option (List (List RawDetection) × Rat) :=
  match I.predictBatch batchSize (group.map Prod.fst) with
  | none => none
  | some results =>
      if results.length ≠ group.length then none
      else some ((results.zip group).map fun (boxes, image, frameNumber, timestamp) =>
        I.convert image frameNumber timestamp boxes, I.elapsed (group.map Prod.fst))

/-- `detect`. -/
def detect (image : v.Image) (frameNumber : Nat) (timestamp : Rat) :
    Option (List RawDetection × Rat) :=
  match I.predict [image] with
  | none => none
  | some [] => some ([], I.elapsed [image])
  | some (boxes :: _) => some (I.convert image frameNumber timestamp boxes, I.elapsed [image])

/-- The platform with this detector, for a batch size. -/
def platform (batchSize : Nat) : Platform :=
  { v with
    Detections := List RawDetection
    batchSize := batchSize
    detectBatch := I.detectBatch batchSize
    detect := I.detect
    track := I.track }

end Inference

end SmartTraffic
