import SmartTraffic.Server.Runtime
import SmartTraffic.Server.Snapshot

/-!
# Batches on the worker

`process_batch`: one loop tests and decodes the frames of a batch, the detector
runs on those that are due, and a second loop takes each decoded frame through
the pipeline and the control manager (`_process_frame_locked`).

`Platform` holds what the worker takes from Python, OpenCV, the detector and the
trackers. Every clock reading that concerns a frame is kept with the frame, in
`FrameReadings`, and so is `system_running` as its test finds it: a batch without
one of its frames is read by the same clock.
-/

namespace SmartTraffic

open Lib

/-- The exceptions that handling a frame can raise. -/
inductive FrameError
  | valueError
  | typeError
  | cvError
  | attributeError
  | keyError
  | overflowError
  /-- Raised by the detector. -/
  | detectorError
  deriving DecidableEq, Repr

/-- `except (ValueError, TypeError, cv2.error)`. -/
def FrameError.caught : FrameError → Bool
  | valueError => true
  | typeError => true
  | cvError => true
  | _ => false

/-- How `np.frombuffer` and `cv2.imdecode` can fail. -/
inductive ImageError
  | valueError
  | cvError
  deriving DecidableEq, Repr

def ImageError.toFrameError : ImageError → FrameError
  | valueError => .valueError
  | cvError => .cvError

/-- What the trackers and the analysers make of a frame. -/
structure Tracked (Image : Type) where
  /-- What `generate_stats` yields when the detector has run. -/
  observation : LaneStatistics
  /-- The number of enriched detections. -/
  detections : Nat
  annotated : Image
  trackingMs : Rat

/-- What the worker relies on. -/
structure Platform where
  Image : Type
  Detections : Type
  /-- The trackers, vehicle states and analysers of all lanes. -/
  Tracking : Type
  /-- `int(text)`; `none` is a `ValueError`. -/
  intOfStr : String → Option Int
  /-- `base64.b64decode(text, validate=True)`; `none` is a `binascii.Error`. -/
  b64decode : String → Option (List UInt8)
  /-- `cv2.imdecode` of the bytes, which yields `None` for what is no image. -/
  imdecode : List UInt8 → Except ImageError (Option Image)
  ndim : Image → Nat
  height : Image → Nat
  width : Image → Nat
  /-- `cv2.rotate` clockwise by so many degrees. -/
  rotate : Int → Image → Image
  imencode : Image → Option (List UInt8)
  batchSize : Nat
  /-- `detect_batch` on images with their frame numbers and timestamps; `none` is an exception. -/
  detectBatch : List (Image × Nat × Rat) → Option (List Detections × Rat)
  detect : Image → Nat → Rat → Option (Detections × Rat)
  /-- Track the detections, or predict without them, and analyse. -/
  track : Tracking → LaneName → Image → Option Detections → Nat → Rat → Option LaneStatistics →
    Tracked Image × Tracking

/-- What the worker reads while it handles one frame. -/
structure FrameReadings where
  systemRunning : Bool := true
  /-- `time.time()`, here and below: when the frame is tested. -/
  tested : Rat := 0
  decoded : Rat := 0
  checked : Rat := 0
  decodeStart : Rat := 0
  decodeEnd : Rat := 0
  yoloStart : Rat := 0
  trackingEnd : Rat := 0
  scheduled : Rat := 0
  snapshot : Rat := 0
  telemetry : Rat := 0
  lastUpdated : Rat := 0
  /-- The readings of the pipeline step and of the control manager. -/
  work : WorkInput := {}

/-- A packet of a batch. Its direction is that of a session, which is one of the four. -/
structure CameraFrame (v : Platform) extends Packet where
  /-- The image, if it was submitted decoded. -/
  image : Option v.Image
  image_isSome : image.isSome = toPacket.decoded
  lane : LaneName
  lane_eq : toPacket.direction = .str lane.key
  reads : FrameReadings

/-- A frame that passed the first loop: `(packet, image, orientation, preprocess_done_ms)`. -/
structure Ready (v : Platform) where
  frame : CameraFrame v
  upright : v.Image
  orientation : Orientation

/-- What `process_batch` returns for a frame. -/
structure BatchResult where
  direction : LaneName
  jpeg : List UInt8
  snapshot : FrameSnapshot
  telemetry : Dict String Json

/-- The parts of `ApplicationContext` and of the pipeline that the worker shares. -/
structure Worker (v : Platform) where
  tracking : v.Tracking
  world : PipelineWorld := {}
  /-- `_frame_count`. -/
  frameCount : Nat := 0
  systemRunning : Bool := true
  esp32 : ESP32Interface := {}
  stageCounters : StageCounters := {}
  frameProcessingErrors : Nat := 0
  lastYoloFrameIds : Dict String Json := ∅
  liveTelemetry : Dict String (Dict String Json) := ∅

/-! ## Decoding -/

def validRotations : List Int := [0, 90, 180, 270]

/-- The end of `parse_rotation`. -/
def checkRotation (value : Int) : Except FrameError Int :=
  if value % 360 ∈ validRotations then .ok (value % 360) else .error .valueError

namespace Platform

variable (v : Platform)

def parseRotation (value : Json) : Except FrameError Int :=
  match value with
  | .null => .ok 0
  | .bool _ => .error .valueError
  | .int n => checkRotation n
  | .float (.finite q) => checkRotation (truncate q)
  | .float .nan => .error .valueError
  -- `int` raises an `OverflowError` here, which `parse_rotation` does not turn into another
  | .float (.infinity _) => .error .overflowError
  | .str s =>
      match v.intOfStr s with
      | some n => checkRotation n
      | none => .error .valueError
  -- the `TypeError` of `int` is turned into a `ValueError`
  | .arr _ => .error .valueError
  | .obj _ => .error .valueError

/-- `normalize_frame_orientation`; `none` stands for a value that is no array. -/
def normalizeFrameOrientation (frame : Option v.Image) (rotation : Json) :
    Except FrameError (v.Image × Orientation) :=
  match frame with
  | none => .error .valueError
  | some frame =>
      if v.ndim frame ∉ [2, 3] then .error .valueError
      else match v.parseRotation rotation with
        | .error e => .error e
        | .ok correction =>
            let normalized := if correction = 0 then frame else v.rotate correction frame
            .ok (normalized,
              { rotation := correction
                inputWidth := v.width frame
                inputHeight := v.height frame
                width := v.width normalized
                height := v.height normalized })

end Platform

/-- `data.split(',')[-1]`. -/
def lastPiece (data : String) : String :=
  String.ofList (data.toList.reverse.takeWhile (· ≠ ',')).reverse

namespace CameraFrame

variable {v : Platform} (f : CameraFrame v)

/-- The image of `frame_data`. -/
def imageOfData : Except FrameError v.Image :=
  match f.payload.get? "frame_data" with
  | none => .error .keyError
  | some (.str data) =>
      match v.b64decode (lastPiece data) with
      | none => .error .valueError
      | some raw =>
          match v.imdecode raw with
          | .error e => .error e.toFrameError
          | .ok none => .error .valueError
          | .ok (some image) => .ok image
  -- no other JSON value has a `split`
  | some _ => .error .attributeError

/-- The image before it is turned; `none` is a `decoded_image` that is no array. -/
def decodedImage : Except FrameError (Option v.Image) :=
  match f.image with
  | some image => .ok (some image)
  | none =>
      if (f.payload.getJson "decoded_image").isNull then f.imageOfData.map some else .ok none

/-- Decode the frame and turn it upright. -/
def decode : Except FrameError (v.Image × Orientation) :=
  match f.decodedImage with
  | .error e => .error e
  | .ok image => v.normalizeFrameOrientation image (f.payload.getJson "rotation")

/-- The frame came while the system was stopped, or it has waited for too long. -/
def isDropped : Bool :=
  !f.reads.systemRunning || decide (2500 < f.reads.tested * 1000 - f.backendReceiveTimestamp)

/-- `timestamp or time.time()` of `process_single_frame`. -/
def timestamp : Rat :=
  if f.backendReceiveMonotonic = 0 then f.reads.work.wallTime else f.backendReceiveMonotonic

end CameraFrame

/-- The first loop of `process_batch`: the counters, and the frames that are ready. -/
def decodeLoop {v : Platform} (c : StageCounters) :
    List (CameraFrame v) → StageCounters × Except FrameError (List (Ready v))
  | [] => (c, .ok [])
  | f :: frames =>
      if f.isDropped then decodeLoop { c with dropped := c.dropped + 1 } frames
      else match f.decode with
        | .ok (upright, orientation) =>
            let (c, rest) := decodeLoop c frames
            (c, rest.map (⟨f, upright, orientation⟩ :: ·))
        | .error e =>
            if e.caught then decodeLoop { c with decodeFailed := c.decodeFailed + 1 } frames
            else (c, .error e)

/-! ## Detection -/

/-- An entry of `computed`, and the size of the group it was inferred in. -/
structure Computed (v : Platform) where
  detections : v.Detections
  elapsed : Rat
  groupSize : Nat

/-- Run the detector on the groups of the due frames; `none` is an exception. -/
def inferGroups {v : Platform} (frameCount : Nat) :
    List (List (Ready v)) → Option (List (LaneName × Computed v))
  | [] => some []
  | group :: groups => do
      let (boxes, elapsed) ← v.detectBatch (group.mapIdx fun i r =>
        (r.upright, frameCount + i + 1, r.frame.backendReceiveMonotonic))
      let rest ← inferGroups frameCount groups
      some ((group.zip boxes).map (fun (r, detections) =>
        (r.frame.lane, { detections := detections, elapsed := elapsed, groupSize := group.length }))
          ++ rest)

namespace Worker

variable {v : Platform} (w : Worker v)

/-- `due`. -/
def due (ready : List (Ready v)) : List (Ready v) :=
  ready.filter fun r => detectorIsDue (w.world.pipeline.lastDetectionTs r.frame.lane)
    r.frame.backendReceiveMonotonic w.world.pipeline.detectorFps

/-- `computed`. -/
def computed (ready : List (Ready v)) : Option (List (LaneName × Computed v)) :=
  inferGroups w.frameCount ((w.due ready).toChunks v.batchSize)

/-- Perception of `process_single_frame`, with `max_inference_ms`. -/
def perceive (r : Ready v) (computed : Option (Computed v)) :
    Worker v × Option (Tracked v.Image × Rat) :=
  let number := w.frameCount + 1
  let counted := { w with frameCount := number }
  let stats := w.world.pipeline.lastAuthoritativeStats r.frame.lane
  let track (detections : Option v.Detections) :=
    v.track w.tracking r.frame.lane r.upright detections number r.frame.timestamp stats
  if detectorIsDue (w.world.pipeline.lastDetectionTs r.frame.lane) r.frame.timestamp
      w.world.pipeline.detectorFps then
    match (computed.map fun c => (c.detections, c.elapsed)).orElse fun _ =>
        v.detect r.upright number r.frame.timestamp with
    | none => (counted, none)
    | some (detections, inferenceMs) =>
        let (tracked, tracking) := track (some detections)
        ({ counted with tracking := tracking }, some (tracked, max 0 inferenceMs))
  else
    let (tracked, tracking) := track none
    ({ counted with tracking := tracking }, some (tracked, 0))

end Worker

/-! ## One frame -/

/-- `frames_data` of `process_single_frame`. -/
def CameraFrame.framesData {v : Platform} (f : CameraFrame v) (observation : LaneStatistics) :
    Dict LaneName FramePayload where
  items := [(f.lane, { timestamp := f.timestamp, observation := observation })]
  nodup := List.nodup_singleton f.lane

/-- The timestamps of a payload are finite numbers once it has been admitted. -/
def millis : Json → Rat
  | .bool b => if b then 1 else 0
  | .int n => n
  | .float (.finite q) => q
  | _ => 0

def ratJson (q : Rat) : Json := .float (.finite q)

def Orientation.toJson (o : Orientation) : Json :=
  .obj [("rotation", .int o.rotation), ("input_width", .int o.inputWidth),
    ("input_height", .int o.inputHeight), ("width", .int o.width), ("height", .int o.height)]

def LatencyMetrics.toJson (m : LatencyMetrics) : Json :=
  .obj [("yolo_ms", ratJson m.yoloMs), ("tracking_ms", ratJson m.trackingMs),
    ("detector_ran", .bool m.detectorRan)]

/-- A dictionary written out. -/
def dictOf (fields : List (String × Json)) : Dict String Json :=
  fields.foldl (fun d field => d.set field.1 field.2) ∅

namespace Ready

variable {v : Platform} (r : Ready v)

def captureTs : Rat := millis (r.frame.payload.getJson "capture_timestamp")

/-- `p.get('upload_timestamp', p['capture_timestamp'])`. -/
def uploadTs : Rat :=
  ((r.frame.payload.get? "upload_timestamp").map millis).getD r.captureTs

def frameId : Json := r.frame.payload.getJson "frame_id"

/-- The snapshot of a processed frame. -/
def snapshot (w : Worker v) (result : PipelineResult) (tracked : Tracked v.Image)
    (latency : LatencyMetrics) : FrameSnapshot :=
  let reads := r.frame.reads
  let stats := result.laneStats.map Prod.snd
  let vehicles := (result.intersectionState.map (·.totalVehicles)).getD 0
  { timestamp := reads.snapshot
    frameId := r.frameId
    signal := result.frameSignal r.frame.lane
    totalVehicles := vehicles
    detectedVehicles := tracked.detections
    assignedVehicles := vehicles
    queueLength := roundDigits 1 ((stats.map (·.stoppedCount)).sum : Int)
    pceScore := roundDigits 1 (stats.map (·.pceScore)).sum
    frameProcessingErrors := w.frameProcessingErrors
    latencyMetrics := latency
    stabilityMetrics := result.stabilityMetrics
    lanes := result.lanesPayload
    captureTimestamp := truncate r.captureTs
    uploadTimestamp := truncate r.uploadTs
    backendReceiveTimestamp := r.frame.backendReceiveTimestamp
    decodeTimestamp := truncate (reads.decodeEnd * 1000)
    yoloStartTimestamp :=
      if latency.detectorRan then some (truncate (reads.yoloStart * 1000)) else none
    yoloEndTimestamp :=
      if latency.detectorRan then some (truncate (reads.trackingEnd * 1000)) else none
    trackingTimestamp := truncate (reads.trackingEnd * 1000)
    schedulerTimestamp := truncate (reads.scheduled * 1000)
    stageCounters := w.stageCounters
    frameOrientation := r.orientation }

/-- The telemetry of a processed frame. -/
def telemetry (w : Worker v) (s : FrameSnapshot) : Dict String Json :=
  let reads := r.frame.reads
  let sinceReceipt (t : Rat) := ratJson (roundDigits 2 (t * 1000 - r.frame.backendReceiveTimestamp))
  let previous := (w.liveTelemetry.get? r.frame.lane.key).getD ∅
  dictOf
    [("server_processing_ms", sinceReceipt reads.telemetry),
     ("queue_wait_ms", sinceReceipt reads.decodeStart),
     ("network_latency_ms", .null),
     ("capture_to_upload_ms", ratJson (roundDigits 2 (r.uploadTs - r.captureTs))),
     ("decode_latency_ms",
       ratJson (roundDigits 2 (reads.decodeEnd * 1000 - reads.decodeStart * 1000))),
     ("yolo_latency_ms", ratJson (roundDigits 2 s.latencyMetrics.yoloMs)),
     ("tracking_latency_ms", ratJson (roundDigits 2 s.latencyMetrics.trackingMs)),
     ("end_to_end_latency_ms", .null),
     ("frame_age_ms", sinceReceipt reads.telemetry),
     ("cross_device_clock_synchronized", .bool false),
     ("detector_ran", .bool s.latencyMetrics.detectorRan),
     ("latest_frame_id", r.frameId),
     ("last_detection_frame_id", w.lastYoloFrameIds.getJson r.frame.lane.key),
     -- a prediction is remembered until the next one
     ("last_prediction_frame_id", if s.latencyMetrics.detectorRan then
       previous.getJson "last_prediction_frame_id" else r.frameId),
     ("last_tracked_frame_id", r.frameId),
     ("frame_id", r.frameId),
     ("vehicle_count", .int s.totalVehicles),
     ("detected_count", .int s.detectedVehicles),
     ("assigned_count", .int s.assignedVehicles),
     ("queue_length", ratJson s.queueLength),
     ("pce_score", ratJson s.pceScore),
     ("latency_metrics", s.latencyMetrics.toJson),
     ("last_updated", ratJson reads.lastUpdated),
     ("orientation", r.orientation.toJson)]

/-- What `process_batch` adds to the telemetry of a result. -/
def batchTelemetry (computed : Option (Computed v)) (telemetry : Dict String Json) :
    Dict String Json :=
  let wait := max 0 (r.frame.reads.decoded * 1000 - r.frame.backendReceiveTimestamp)
  let size := match computed with
    | some c => .int c.groupSize
    | none => (r.frame.payload.get? "_inference_batch_size").getD (.int 0)
  ((telemetry.set "queue_wait_ms" (ratJson (roundDigits 2 wait))).set "batch_size" size).set
    "source_kind" ((r.frame.payload.get? "source_kind").getD (.str "jpeg"))

end Ready

namespace Worker

variable {v : Platform} (w : Worker v)

/-- `_process_frame_locked` from the end of perception on. -/
def conclude (r : Ready v) (computed : Option (Computed v)) (tracked : Tracked v.Image)
    (inferenceMs : Rat) : Worker v × BatchResult :=
  let reads := r.frame.reads
  let (world, stepped) :=
    w.world.processStep (reads.work.stepInput (r.frame.framesData tracked.observation))
  let latency : LatencyMetrics :=
    { yoloMs := roundDigits 2 inferenceMs
      trackingMs := roundDigits 2 (max 0 tracked.trackingMs)
      detectorRan := 0 < inferenceMs }
  let lastYoloFrameIds :=
    if latency.detectorRan then w.lastYoloFrameIds.set r.frame.lane.key r.frameId
    else w.lastYoloFrameIds
  let p := processResult w.systemRunning w.esp32 stepped reads.work.reply
  let w := { w with
    world := world
    lastYoloFrameIds := lastYoloFrameIds
    systemRunning := p.systemRunning
    esp32 := p.esp32 }
  let snapshot := r.snapshot w p.result tracked latency
  (w,
    { direction := r.frame.lane
      -- the bytes of a frame that was decoded before are not at hand
      jpeg := (v.imencode tracked.annotated).getD []
      snapshot := snapshot
      telemetry := r.batchTelemetry computed (r.telemetry w snapshot) })

/-- `ctx.increment_stage_counter("decoded")`. -/
def countDecoded : Worker v :=
  { w with stageCounters.decoded := w.stageCounters.decoded + 1 }

/-- `_process_frame_locked` on a decoded frame. -/
def processFrame (r : Ready v) (computed : Option (Computed v)) :
    Worker v × Except FrameError (Option BatchResult) :=
  if computed.isNone ∧ 2500 < r.frame.reads.checked * 1000 - r.frame.backendReceiveTimestamp then
    (w, .ok none)
  else
    match w.countDecoded.perceive r computed with
    | (perceived, none) => (perceived, .error .detectorError)
    | (perceived, some (tracked, inferenceMs)) =>
        let (concluded, result) := perceived.conclude r computed tracked inferenceMs
        (concluded, .ok (some result))

/-- The second loop of `process_batch`. -/
def processReady (computed : List (LaneName × Computed v)) :
    Worker v → List (Ready v) → Worker v × Except FrameError (List (CameraFrame v × BatchResult))
  | w, [] => (w, .ok [])
  | w, r :: ready =>
      match w.processFrame r (computed.lookup r.frame.lane) with
      | (w, .error e) => (w, .error e)
      | (w, .ok result) =>
          let (w, rest) := processReady computed w ready
          (w, rest.map ((result.map fun result => (r.frame, result)).toList ++ ·))

/-- The detector and the second loop. -/
def inferAndProcess (ready : List (Ready v)) :
    Worker v × Except FrameError (List (CameraFrame v × BatchResult)) :=
  match w.computed ready with
  | none => (w, .error .detectorError)
  | some computed => processReady computed w ready

/-- `process_batch`. -/
def processBatch (frames : List (CameraFrame v)) :
    Worker v × Except FrameError (List (CameraFrame v × BatchResult)) :=
  let (counters, ready) := decodeLoop w.stageCounters frames
  let w := { w with stageCounters := counters }
  match ready with
  | .error e => (w, .error e)
  | .ok [] => (w, .ok [])
  | .ok ready => w.inferAndProcess ready

end Worker

end SmartTraffic
