import SmartTraffic.Lib.Chunks
import SmartTraffic.Pipeline.Lanes
import SmartTraffic.Server.Inference

/-!
# Batching and what a camera sees

`process_batch` decides which frames are due, has the detector look at them in groups
of at most the batch size, and hands each frame what was found in it; the pipeline
decides again whether the frame is due. When the model answers for each image by
itself (`Independent`), every due frame is looked at once, in its own group, and gets
what its own image shows.

Two things go wrong beside that. A frame is numbered by its place in its group, so that
the numbers in the detections of all but the first due frame depend on the batch size;
and a frame received at the monotonic time zero is given the wall clock by the pipeline,
which need not agree then that it is due. `batching_transparent_iff` says that nothing
else does.
-/

namespace SmartTraffic.Proof

open Lib

/-! ## The detector on a group -/

/-- The detection with a frame number and a timestamp written over its own. -/
def stamp (frameNumber : Int) (timestamp : Rat) (d : RawDetection) : RawDetection :=
  { d with frameNumber := frameNumber, timestamp := timestamp }

/-- The number and the timestamp only label the detection. -/
theorem convertBox_stamp (d : VehicleDetector) (width height : Nat) (frameNumber : Int)
    (timestamp : Rat) (box : ModelBox) :
    d.convertBox width height frameNumber timestamp box
      = (d.convertBox width height 0 0 box).map (stamp frameNumber timestamp) := by
  unfold VehicleDetector.convertBox
  split
  · split
    · split_ifs <;> rfl
    · rfl
  · rfl

section Detector

variable {v : Platform} (I : Inference v)

theorem convert_stamp (image : v.Image) (frameNumber : Nat) (timestamp : Rat) (boxes : Boxes) :
    I.convert image frameNumber timestamp boxes
      = (I.convert image 0 0 boxes).map (stamp frameNumber timestamp) := by
  unfold Inference.convert
  rw [VehicleDetector.convert_eq, VehicleDetector.convert_eq, List.map_filterMap]
  congr 1
  funext box
  exact convertBox_stamp I.detector _ _ _ _ box

/-- There is a vehicle among the boxes of the image. -/
def ShowsVehicle (image : v.Image) (boxes : Boxes) : Prop := I.convert image 0 0 boxes ≠ []

theorem convert_of_not_showsVehicle {image : v.Image} {boxes : Boxes}
    (h : ¬ShowsVehicle I image boxes) (frameNumber : Nat) (timestamp : Rat) :
    I.convert image frameNumber timestamp boxes = [] := by
  rw [convert_stamp, not_not.mp h, List.map_nil]

/-- A vehicle tells two frame numbers apart. -/
theorem frameNumber_eq_of_convert_eq {image : v.Image} {boxes : Boxes} {m n : Nat} {ts : Rat}
    (hshows : ShowsVehicle I image boxes)
    (h : I.convert image m ts boxes = I.convert image n ts boxes) : m = n := by
  rw [convert_stamp I image m, convert_stamp I image n] at h
  unfold ShowsVehicle at hshows
  cases hdetections : I.convert image 0 0 boxes with
  | nil => exact absurd hdetections hshows
  | cons d detections =>
      rw [hdetections, List.map_cons, List.map_cons] at h
      have hhead := (List.cons.inj h).1
      have hnumber : (m : Int) = n := congrArg RawDetection.frameNumber hhead
      exact_mod_cast hnumber

/-- The model answers for each image, in order and by that image alone. -/
structure Independent (boxesOf : v.Image → Boxes) : Prop where
  predict_eq : ∀ images, I.predict images = some (images.map boxesOf)

variable {I} {boxesOf : v.Image → Boxes} (hI : Independent I boxesOf)
include hI

theorem predictBatch_eq {n : Nat} (images : List v.Image) (h : images.length ≤ n) :
    I.predictBatch n images = some (images.map boxesOf) := by
  unfold Inference.predictBatch
  by_cases hnil : images.isEmpty = true
  · rw [if_pos hnil, List.isEmpty_iff.mp hnil, List.map_nil]
  · rw [if_neg hnil, if_neg (by omega)]
    exact hI.predict_eq images

/-- A group that is not too large is looked at image by image. -/
theorem detectBatch_eq {n : Nat} {group : List (v.Image × Nat × Rat)} (h : group.length ≤ n) :
    I.detectBatch n group = some
      (group.map fun (image, frameNumber, timestamp) =>
        I.convert image frameNumber timestamp (boxesOf image),
       I.elapsed (group.map Prod.fst)) := by
  have hpredict := predictBatch_eq hI (n := n) (group.map Prod.fst) (by rwa [List.length_map])
  have hzip : (group.map (boxesOf ∘ Prod.fst)).zip group
      = group.map fun x => (boxesOf x.1, x) := by
    have h := List.zip_map' (f := boxesOf ∘ Prod.fst) (g := id) (l := group)
    rwa [List.map_id] at h
  unfold Inference.detectBatch
  rw [hpredict]
  dsimp only
  rw [if_neg (by simp), List.map_map, hzip, List.map_map]
  rfl

theorem detect_eq (image : v.Image) (frameNumber : Nat) (timestamp : Rat) :
    I.detect image frameNumber timestamp
      = some (I.convert image frameNumber timestamp (boxesOf image), I.elapsed [image]) := by
  unfold Inference.detect
  rw [hI.predict_eq]
  rfl

end Detector

/-! ## The groups of a batch -/

section Groups

variable {v : Platform} {n : Nat}

/-- What the image of a frame shows, numbered as the `i`-th frame of a group. -/
def ownDetections (I : Inference v) (boxesOf : v.Image → Boxes) (frameCount i : Nat)
    (r : Ready (I.platform n)) : List RawDetection :=
  I.convert r.upright (frameCount + i + 1) r.frame.backendReceiveMonotonic (boxesOf r.upright)

variable {I : Inference v} {boxesOf : v.Image → Boxes} (hI : Independent I boxesOf)
include hI

theorem detectBatch_group (frameCount : Nat) {group : List (Ready (I.platform n))}
    (h : group.length ≤ n) :
    ∃ elapsed, (I.platform n).detectBatch (group.mapIdx fun i r =>
        (r.upright, frameCount + i + 1, r.frame.backendReceiveMonotonic))
      = some (group.mapIdx (ownDetections I boxesOf frameCount), elapsed) := by
  let numbered (i : Nat) (r : Ready (I.platform n)) : v.Image × Nat × Rat :=
    (r.upright, frameCount + i + 1, r.frame.backendReceiveMonotonic)
  have hlen : (group.mapIdx numbered).length ≤ n := by rwa [List.length_mapIdx]
  have hdetect := detectBatch_eq hI hlen
  rw [map_mapIdx] at hdetect
  exact ⟨_, hdetect⟩

/-- **Every frame of the groups gets what its own image shows.** -/
theorem inferGroups_eq (frameCount : Nat) (groups : List (List (Ready (I.platform n))))
    (hsize : ∀ group ∈ groups, group.length ≤ n) :
    ∃ computed, inferGroups frameCount groups = some computed
      ∧ computed.map (fun item => (item.1, (item.2.detections : List RawDetection)))
        = groups.flatMap fun group => group.mapIdx fun i r =>
            (r.frame.lane, ownDetections I boxesOf frameCount i r) := by
  induction groups with
  | nil => exact ⟨[], rfl, rfl⟩
  | cons group groups ih =>
      obtain ⟨rest, hrest, hown⟩ := ih fun g hg => hsize g (List.mem_cons_of_mem _ hg)
      obtain ⟨elapsed, hdetect⟩ := detectBatch_group hI frameCount (hsize group List.mem_cons_self)
      have hzip := zip_mapIdx (ownDetections I boxesOf frameCount) group
      refine ⟨(group.mapIdx fun i r => (r.frame.lane,
        { detections := ownDetections I boxesOf frameCount i r, elapsed := elapsed,
          groupSize := group.length })) ++ rest, ?_, ?_⟩
      · unfold inferGroups
        rw [hdetect, hrest]
        show some ((group.zip (group.mapIdx (ownDetections I boxesOf frameCount))).map _ ++ rest)
          = _
        rw [hzip]
        exact congrArg (fun entries => some (entries ++ rest)) (map_mapIdx _ _ group)
      · rw [List.map_append, hown, List.flatMap_cons, map_mapIdx]

/-- **What `process_batch` computes**: for each due frame what its own image shows. -/
theorem computed_eq (hn : 0 < n) (w : Worker (I.platform n)) (ready : List (Ready (I.platform n))) :
    ∃ computed, w.computed ready = some computed
      ∧ computed.map (fun item => (item.1, (item.2.detections : List RawDetection)))
        = (w.due ready).mapIdx fun j r =>
            (r.frame.lane, ownDetections I boxesOf w.frameCount (j % n) r) := by
  obtain ⟨computed, hcomputed, hown⟩ := inferGroups_eq hI w.frameCount
    ((w.due ready).toChunks n) fun group hg => length_le_of_mem_toChunks hn hg
  refine ⟨computed, hcomputed, hown.trans ?_⟩
  exact flatMap_toChunks_mapIdx hn
    (fun i r => (r.frame.lane, ownDetections I boxesOf w.frameCount i r)) (w.due ready)

end Groups

/-! ## The detections of a lane -/

section Lanes

variable {v : Platform} {I : Inference v} {n : Nat}

/-- The detections that `computed` holds for a lane. -/
def detectionsFor (w : Worker (I.platform n)) (ready : List (Ready (I.platform n)))
    (lane : LaneName) : Option (List RawDetection) :=
  ((w.computed ready).bind fun computed => computed.lookup lane).map (·.detections)

theorem detectionsFor_of_computed {w : Worker (I.platform n)} {ready : List (Ready (I.platform n))}
    {computed : List (LaneName × Computed (I.platform n))}
    (hcomputed : w.computed ready = some computed) (lane : LaneName) :
    detectionsFor w ready lane = (computed.lookup lane).map (·.detections) := by
  unfold detectionsFor
  rw [hcomputed]
  rfl

theorem due_lanes_nodup (w : Worker (I.platform n)) {ready : List (Ready (I.platform n))}
    (hlanes : (ready.map (·.frame.lane)).Nodup) :
    ((w.due ready).map (·.frame.lane)).Nodup :=
  hlanes.sublist (List.filter_sublist.map _)

variable {boxesOf : v.Image → Boxes} (hI : Independent I boxesOf) (hn : 0 < n)
include hI hn

theorem detectionsFor_eq (w : Worker (I.platform n)) (ready : List (Ready (I.platform n)))
    (lane : LaneName) : detectionsFor w ready lane
      = ((w.due ready).mapIdx fun j r =>
          (r.frame.lane, ownDetections I boxesOf w.frameCount (j % n) r)).lookup lane := by
  obtain ⟨computed, hcomputed, hown⟩ := computed_eq hI hn w ready
  rw [detectionsFor_of_computed hcomputed, ← hown]
  exact (lookup_mapValues computed (fun _ c => (c.detections : List RawDetection)) lane).symm

theorem detectionsFor_due {w : Worker (I.platform n)} {ready : List (Ready (I.platform n))}
    (hlanes : (ready.map (·.frame.lane)).Nodup) {j : Nat} {r : Ready (I.platform n)}
    (h : (w.due ready)[j]? = some r) : detectionsFor w ready r.frame.lane
      = some (ownDetections I boxesOf w.frameCount (j % n) r) := by
  rw [detectionsFor_eq hI hn]
  have hkeys : (((w.due ready).mapIdx fun j r =>
      (r.frame.lane, ownDetections I boxesOf w.frameCount (j % n) r)).map Prod.fst).Nodup := by
    rw [map_mapIdx]
    dsimp only
    rw [mapIdx_const]
    exact due_lanes_nodup w hlanes
  refine lookup_eq_some_of_mem hkeys (List.mem_of_getElem? (i := j) ?_)
  rw [List.getElem?_mapIdx, h]
  rfl

theorem detectionsFor_not_due {w : Worker (I.platform n)} {ready : List (Ready (I.platform n))}
    {lane : LaneName} (h : ∀ r ∈ w.due ready, r.frame.lane ≠ lane) :
    detectionsFor w ready lane = none := by
  rw [detectionsFor_eq hI hn]
  refine List.lookup_eq_none_iff.mpr fun item hitem => ?_
  obtain ⟨j, hj, rfl⟩ := List.mem_mapIdx.mp hitem
  have hne := h _ (List.getElem_mem hj)
  simpa using Ne.symm hne

end Lanes

/-! ## Another batch size -/

section Resize

variable {v : Platform} {I : Inference v} {n : Nat} (m : Nat)

/-- The frame, for a worker with another batch size. -/
def resizeFrame (f : CameraFrame (I.platform n)) : CameraFrame (I.platform m) where
  toPacket := f.toPacket
  image := f.image
  image_isSome := f.image_isSome
  lane := f.lane
  lane_eq := f.lane_eq
  reads := f.reads

def resizeReady (r : Ready (I.platform n)) : Ready (I.platform m) where
  frame := resizeFrame m r.frame
  upright := r.upright
  orientation := r.orientation

/-- The worker in the same state, with another batch size. -/
def resizeWorker (w : Worker (I.platform n)) : Worker (I.platform m) where
  tracking := w.tracking
  world := w.world
  frameCount := w.frameCount
  systemRunning := w.systemRunning
  esp32 := w.esp32
  stageCounters := w.stageCounters
  frameProcessingErrors := w.frameProcessingErrors
  lastYoloFrameIds := w.lastYoloFrameIds
  liveTelemetry := w.liveTelemetry

/-- The same frames are due. -/
theorem due_resize (w : Worker (I.platform n)) (ready : List (Ready (I.platform n))) :
    (resizeWorker m w).due (ready.map (resizeReady m)) = (w.due ready).map (resizeReady m) := by
  unfold Worker.due
  rw [List.filter_map]
  rfl

theorem lanes_resize (ready : List (Ready (I.platform n))) :
    (ready.map (resizeReady m)).map (·.frame.lane) = ready.map (·.frame.lane) := by
  rw [List.map_map]
  rfl

end Resize

/-- Every batch size yields the same detections for each lane. -/
def SameForEverySize {v : Platform} {I : Inference v} {n : Nat} (w : Worker (I.platform n))
    (ready : List (Ready (I.platform n))) : Prop :=
  ∀ m, 0 < m → ∀ lane, detectionsFor (resizeWorker m w) (ready.map (resizeReady m)) lane
    = detectionsFor w ready lane

section Same

variable {v : Platform} {I : Inference v} {n : Nat} {boxesOf : v.Image → Boxes}
variable (hI : Independent I boxesOf) (hn : 0 < n)
include hI

/-- With another batch size a due frame has another number in its group. -/
theorem detectionsFor_resize {m : Nat} (hm : 0 < m) {w : Worker (I.platform n)}
    {ready : List (Ready (I.platform n))} (hlanes : (ready.map (·.frame.lane)).Nodup) {j : Nat}
    {r : Ready (I.platform n)} (h : (w.due ready)[j]? = some r) :
    detectionsFor (resizeWorker m w) (ready.map (resizeReady m)) r.frame.lane
      = some (ownDetections I boxesOf w.frameCount (j % m) r) := by
  have hlanes' := (lanes_resize m ready).symm ▸ hlanes
  have hget : ((resizeWorker m w).due (ready.map (resizeReady m)))[j]?
      = some (resizeReady m r) := by
    rw [due_resize, List.getElem?_map, h]
    rfl
  exact detectionsFor_due hI hm hlanes' hget

include hn

/--
**The detections depend on the batch size by the frame numbers**, and so do not when no
due frame behind the first shows a vehicle.
-/
theorem sameForEverySize_iff {w : Worker (I.platform n)} {ready : List (Ready (I.platform n))}
    (hlanes : (ready.map (·.frame.lane)).Nodup) : SameForEverySize w ready
      ↔ ∀ r ∈ (w.due ready).tail, ¬ShowsVehicle I r.upright (boxesOf r.upright) := by
  constructor
  · intro hsame r hr hshows
    obtain ⟨j, hj⟩ := List.getElem?_of_mem hr
    rw [List.getElem?_tail] at hj
    -- alone in its group the frame is the first, in a large group it is not
    have hone := (hsame 1 Nat.one_pos r.frame.lane).trans
      (hsame (j + 2) (by omega) r.frame.lane).symm
    rw [detectionsFor_resize hI Nat.one_pos hlanes hj,
      detectionsFor_resize hI (by omega) hlanes hj] at hone
    have hnumber := frameNumber_eq_of_convert_eq I hshows (Option.some.inj hone)
    rw [Nat.mod_one, Nat.mod_eq_of_lt (by omega)] at hnumber
    omega
  · intro hnone m hm lane
    by_cases hlane : ∃ r ∈ w.due ready, r.frame.lane = lane
    · obtain ⟨r, hr, rfl⟩ := hlane
      obtain ⟨j, hj⟩ := List.getElem?_of_mem hr
      rw [detectionsFor_resize hI hm hlanes hj, detectionsFor_due hI hn hlanes hj]
      cases j with
      | zero => rw [Nat.zero_mod, Nat.zero_mod]
      | succ j =>
          have htail : r ∈ (w.due ready).tail :=
            List.mem_of_getElem? (i := j) (by rw [List.getElem?_tail]; exact hj)
          unfold ownDetections
          rw [convert_of_not_showsVehicle I (hnone r htail),
            convert_of_not_showsVehicle I (hnone r htail)]
    · have hnot : ∀ r ∈ w.due ready, r.frame.lane ≠ lane := fun r hr heq => hlane ⟨r, hr, heq⟩
      rw [detectionsFor_not_due hI hn hnot]
      refine detectionsFor_not_due hI hm fun r hr => ?_
      rw [due_resize] at hr
      obtain ⟨r, hdue, rfl⟩ := List.mem_map.mp hr
      exact hnot r hdue

end Same

/-! ## The second loop -/

section Loop

variable {v : Platform}

/-- What a frame meets in the second loop. -/
inductive Handling (v : Platform)
  /-- It has waited for too long and is let go. -/
  | stale
  /-- The tracker is given the detections of the batch. -/
  | given (detections : v.Detections)
  /-- The pipeline runs its own detector. -/
  | detects
  /-- The tracker predicts. -/
  | predicts

/-- The test that `_process_frame_locked` makes of a frame without detections. -/
def IsStale (r : Ready v) : Prop :=
  2500 < r.frame.reads.checked * 1000 - r.frame.backendReceiveTimestamp

instance (r : Ready v) : Decidable (IsStale r) :=
  inferInstanceAs (Decidable (2500 < _))

/-- The pipeline finds the frame due, at the timestamp it gives the frame. -/
def pipelineFindsDue (w : Worker v) (r : Ready v) : Bool :=
  detectorIsDue (w.world.pipeline.lastDetectionTs r.frame.lane) r.frame.timestamp
    w.world.pipeline.detectorFps

/-- What the frame meets when its turn comes in this state. -/
def handling (w : Worker v) (r : Ready v) (computed : Option (Computed v)) : Handling v :=
  if computed.isNone ∧ IsStale r then .stale
  else if pipelineFindsDue w r then
    match computed with
    | some c => .given c.detections
    | none => .detects
  else .predicts

/-- What the tracker makes of the frame, given the detections if there are any. -/
def trackedWith (w : Worker v) (r : Ready v) (detections : Option v.Detections) :
    Tracked v.Image :=
  (v.track w.tracking r.frame.lane r.upright detections (w.frameCount + 1) r.frame.timestamp
    (w.world.pipeline.lastAuthoritativeStats r.frame.lane)).1

theorem perceive_due {w : Worker v} {r : Ready v} (h : pipelineFindsDue w r = true)
    (computed : Option (Computed v)) : (w.perceive r computed).2.map Prod.fst
      = ((computed.map fun c => (c.detections, c.elapsed)).orElse fun _ =>
          v.detect r.upright (w.frameCount + 1) r.frame.timestamp).map fun found =>
            trackedWith w r (some found.1) := by
  unfold pipelineFindsDue at h
  unfold Worker.perceive
  rw [if_pos h]
  dsimp only
  cases (computed.map fun c => (c.detections, c.elapsed)).orElse fun _ =>
      v.detect r.upright (w.frameCount + 1) r.frame.timestamp with
  | none => rfl
  | some found => rfl

theorem perceive_not_due {w : Worker v} {r : Ready v} (h : pipelineFindsDue w r = false)
    (computed : Option (Computed v)) :
    (w.perceive r computed).2.map Prod.fst = some (trackedWith w r none) := by
  unfold pipelineFindsDue at h
  unfold Worker.perceive
  rw [if_neg (ne_true_of_eq_false h)]
  rfl

/-- What `_process_frame_locked` does with a frame that meets this. -/
def Handled (w : Worker v) (r : Ready v) (computed : Option (Computed v)) : Handling v → Prop
  | .stale => w.processFrame r computed = (w, .ok none)
  | .given detections => (w.countDecoded.perceive r computed).2.map Prod.fst
      = some (trackedWith w r (some detections))
  | .detects => (w.countDecoded.perceive r computed).2.map Prod.fst
      = (v.detect r.upright (w.frameCount + 1) r.frame.timestamp).map fun found =>
          trackedWith w r (some found.1)
  | .predicts => (w.countDecoded.perceive r computed).2.map Prod.fst
      = some (trackedWith w r none)

/-- **The handling is what `_process_frame_locked` does.** -/
theorem processFrame_handling (w : Worker v) (r : Ready v) (computed : Option (Computed v)) :
    Handled w r computed (handling w r computed) := by
  unfold handling
  by_cases hstale : computed.isNone ∧ IsStale r
  · rw [if_pos hstale]
    exact if_pos hstale
  · rw [if_neg hstale]
    cases hdue : pipelineFindsDue w r with
    | true =>
        have hperceive := perceive_due (w := w.countDecoded) hdue computed
        rw [if_pos rfl]
        cases computed with
        | some c => exact hperceive
        | none => exact hperceive
    | false =>
        rw [if_neg Bool.false_ne_true]
        exact perceive_not_due (w := w.countDecoded) hdue computed

theorem perceive_world (w : Worker v) (r : Ready v) (computed : Option (Computed v)) :
    (w.perceive r computed).1.world = w.world := by
  unfold Worker.perceive
  dsimp only
  split
  · split <;> rfl
  · rfl

/-- A step with a frame of one lane leaves the detections of the other lanes alone. -/
theorem conclude_others (w : Worker v) (r : Ready v) (computed : Option (Computed v))
    (tracked : Tracked v.Image) (inferenceMs : Rat) :
    (w.conclude r computed tracked inferenceMs).1.world.pipeline.detectorFps
        = w.world.pipeline.detectorFps
      ∧ ∀ lane, lane ≠ r.frame.lane →
        (w.conclude r computed tracked inferenceMs).1.world.pipeline.lastDetectionTs lane
          = w.world.pipeline.lastDetectionTs lane := by
  let i := r.frame.reads.work.stepInput (r.frame.framesData tracked.observation)
  show (w.world.processStep i).1.pipeline.detectorFps = _
    ∧ ∀ lane, lane ≠ r.frame.lane → (w.world.processStep i).1.pipeline.lastDetectionTs lane = _
  rcases w.world.processStep_lanes i with ⟨-, hw⟩ | ⟨-, hts, -, hfps⟩
  · rw [hw]
    exact ⟨rfl, fun _ _ => rfl⟩
  · refine ⟨hfps, fun lane hlane => ?_⟩
    have hget : i.frames.get? lane = none := by
      refine List.lookup_eq_none_iff.mpr fun item hitem => ?_
      rw [List.mem_singleton.mp hitem]
      exact bne_iff_ne.mpr hlane
    rw [hts, TrafficPipeline.perceive_lastDetectionTs]
    unfold TrafficPipeline.detected
    rw [hget]
    rfl

/-- A frame that the detector does not fail on leaves the other lanes alone. -/
theorem processFrame_others (hdetect : ∀ image number ts, (v.detect image number ts).isSome)
    (w : Worker v) (r : Ready v) (computed : Option (Computed v)) :
    ∃ w' result, w.processFrame r computed = (w', .ok result)
      ∧ w'.world.pipeline.detectorFps = w.world.pipeline.detectorFps
      ∧ ∀ lane, lane ≠ r.frame.lane →
        w'.world.pipeline.lastDetectionTs lane = w.world.pipeline.lastDetectionTs lane := by
  by_cases hstale : computed.isNone ∧ IsStale r
  · exact ⟨w, none, if_pos hstale, rfl, fun _ _ => rfl⟩
  · have hworld := perceive_world w.countDecoded r computed
    have hsome : (w.countDecoded.perceive r computed).2 ≠ none := by
      intro hnone
      cases hdue : pipelineFindsDue w.countDecoded r with
      | false =>
          have h := perceive_not_due hdue computed
          rw [hnone] at h
          cases h
      | true =>
          have h := perceive_due hdue computed
          rw [hnone] at h
          cases computed with
          | some c => cases h
          | none =>
              have hfound := hdetect r.upright (w.countDecoded.frameCount + 1) r.frame.timestamp
              have hnot := Option.map_eq_none_iff.mp h.symm
              rw [Option.isSome_iff_ne_none] at hfound
              exact hfound hnot
    unfold IsStale at hstale
    unfold Worker.processFrame
    rw [if_neg hstale]
    revert hworld hsome
    rcases w.countDecoded.perceive r computed with ⟨perceived, _ | ⟨tracked, inferenceMs⟩⟩
    · intro _ hsome
      exact absurd rfl hsome
    · intro hworld _
      have hothers := conclude_others perceived r computed tracked inferenceMs
      dsimp only at hworld
      rw [hworld] at hothers
      exact ⟨_, _, rfl, hothers⟩

/-- What the frames meet one after the other. -/
def handlings (computed : List (LaneName × Computed v)) : Worker v → List (Ready v) →
    List (Handling v)
  | _, [] => []
  | w, r :: ready =>
      handling w r (computed.lookup r.frame.lane)
        :: match w.processFrame r (computed.lookup r.frame.lane) with
          | (_, .error _) => []
          | (w, .ok _) => handlings computed w ready

/-- The frames are handled one after the other as the list says; an error ends the batch. -/
def HandledAs (computed : List (LaneName × Computed v)) : Worker v → List (Ready v) →
    List (Handling v) → Prop
  | _, [], met => met = []
  | _, _ :: _, [] => False
  | w, r :: ready, first :: met =>
      Handled w r (computed.lookup r.frame.lane) first
        ∧ match w.processFrame r (computed.lookup r.frame.lane) with
          | (_, .error _) => met = []
          | (w, .ok _) => HandledAs computed w ready met

theorem handledAs_handlings (computed : List (LaneName × Computed v)) (w : Worker v)
    (ready : List (Ready v)) : HandledAs computed w ready (handlings computed w ready) := by
  induction ready generalizing w with
  | nil => rfl
  | cons r ready ih =>
      unfold handlings HandledAs
      refine ⟨processFrame_handling w r _, ?_⟩
      rcases w.processFrame r (computed.lookup r.frame.lane) with ⟨w', _ | result⟩
      · rfl
      · exact ih w'

theorem handling_congr {w w' : Worker v} {r : Ready v} (computed : Option (Computed v))
    (hfps : w'.world.pipeline.detectorFps = w.world.pipeline.detectorFps)
    (hlast : w'.world.pipeline.lastDetectionTs r.frame.lane
      = w.world.pipeline.lastDetectionTs r.frame.lane) :
    handling w' r computed = handling w r computed := by
  unfold handling pipelineFindsDue
  rw [hfps, hlast]

/--
**The frames of a batch do not get in each other's way**: with one frame for a lane,
each meets what it would meet first.
-/
theorem handlings_eq (hdetect : ∀ image number ts, (v.detect image number ts).isSome)
    (computed : List (LaneName × Computed v)) (w : Worker v) {ready : List (Ready v)}
    (hlanes : (ready.map (·.frame.lane)).Nodup) : handlings computed w ready
      = ready.map fun r => handling w r (computed.lookup r.frame.lane) := by
  induction ready generalizing w with
  | nil => rfl
  | cons r ready ih =>
      rw [List.map_cons, List.nodup_cons] at hlanes
      obtain ⟨w', result, hframe, hfps, hothers⟩ :=
        processFrame_others hdetect w r (computed.lookup r.frame.lane)
      unfold handlings
      rw [hframe, List.map_cons]
      dsimp only
      rw [ih w' hlanes.2]
      congr 1
      refine List.map_congr_left fun r' hr' => handling_congr _ hfps (hothers _ ?_)
      intro hlane
      exact hlanes.1 (hlane ▸ List.mem_map_of_mem hr')

end Loop

/-! ## The law -/

section Law

variable {v : Platform}

/-- The arguments of the calls of `detect_batch`. -/
def detectorCalls (w : Worker v) (ready : List (Ready v)) : List (List (v.Image × Nat × Rat)) :=
  ((w.due ready).toChunks v.batchSize).map fun group => group.mapIdx fun i r =>
    (r.upright, w.frameCount + i + 1, r.frame.backendReceiveMonotonic)

/-- What a frame should meet: the detections of the batch, and no detector without them. -/
def expectedHandling (r : Ready v) (computed : Option (Computed v)) : Handling v :=
  match computed with
  | some c => .given c.detections
  | none => if IsStale r then .stale else .predicts

/-- A frame meets what it should when the pipeline agrees with the batch that it is due. -/
theorem handling_eq_expected_iff (w : Worker v) (r : Ready v) (computed : Option (Computed v)) :
    handling w r computed = expectedHandling r computed
      ↔ (computed.isSome ∨ ¬IsStale r → pipelineFindsDue w r = computed.isSome) := by
  unfold handling expectedHandling
  cases computed with
  | some c =>
      rw [if_neg (by simp)]
      cases pipelineFindsDue w r <;> simp
  | none =>
      by_cases hstale : IsStale r
      · simp [hstale]
      · rw [if_neg (by simp [hstale])]
        cases pipelineFindsDue w r <;> simp [hstale]

/-- The wall clock finds the frame due if the monotonic time zero does, and only then. -/
def ClocksAgree (w : Worker v) (r : Ready v) : Prop :=
  detectorIsDue (w.world.pipeline.lastDetectionTs r.frame.lane) r.frame.reads.work.wallTime
      w.world.pipeline.detectorFps
    = detectorIsDue (w.world.pipeline.lastDetectionTs r.frame.lane) 0 w.world.pipeline.detectorFps

/-- The test of `due`. -/
def batchFindsDue (w : Worker v) (r : Ready v) : Bool :=
  detectorIsDue (w.world.pipeline.lastDetectionTs r.frame.lane) r.frame.backendReceiveMonotonic
    w.world.pipeline.detectorFps

theorem mem_due {w : Worker v} {ready : List (Ready v)} {r : Ready v} :
    r ∈ w.due ready ↔ r ∈ ready ∧ batchFindsDue w r = true := List.mem_filter

/-- The pipeline asks about another time than the batch only for a frame of the time zero. -/
theorem pipelineFindsDue_iff (w : Worker v) (r : Ready v) :
    pipelineFindsDue w r = batchFindsDue w r
      ↔ (r.frame.backendReceiveMonotonic = 0 → ClocksAgree w r) := by
  unfold pipelineFindsDue batchFindsDue CameraFrame.timestamp ClocksAgree
  by_cases hzero : r.frame.backendReceiveMonotonic = 0
  · rw [if_pos hzero, hzero]
    exact ⟨fun h _ => h, fun h => h rfl⟩
  · rw [if_neg hzero]
    exact ⟨fun _ h => absurd h hzero, fun _ => rfl⟩

/-- What the calls have found, under the lanes of the frames. -/
def filed (w : Worker v) (ready : List (Ready v)) (answers : List (List v.Detections × Rat)) :
    List (LaneName × Computed v) :=
  (((w.due ready).toChunks v.batchSize).zip answers).flatMap fun (group, boxes, elapsed) =>
    (group.zip boxes).map fun (r, detections) => (r.frame.lane,
      { detections := detections, elapsed := elapsed, groupSize := group.length })

/-- **The calls of the detector**: the batch is inferred by these and nothing else. -/
theorem computed_eq_mapM (w : Worker v) (ready : List (Ready v)) : w.computed ready
    = ((detectorCalls w ready).mapM v.detectBatch).map (filed w ready) := by
  unfold Worker.computed detectorCalls filed
  induction (w.due ready).toChunks v.batchSize with
  | nil => rfl
  | cons group groups ih =>
      unfold inferGroups
      rw [ih, List.map_cons, List.mapM_cons]
      cases v.detectBatch (group.mapIdx fun i r =>
          (r.upright, w.frameCount + i + 1, r.frame.backendReceiveMonotonic)) with
      | none => rfl
      | some answer =>
          cases (groups.map fun group => group.mapIdx fun i r => (r.upright, w.frameCount + i + 1,
              r.frame.backendReceiveMonotonic)).mapM v.detectBatch with
          | none => rfl
          | some answers => rfl

variable {I : Inference v} {n : Nat}

/-- Every due image is looked at once, and a frame gets what its own image shows. -/
structure SeesOwn (boxesOf : v.Image → Boxes) (w : Worker (I.platform n))
    (ready : List (Ready (I.platform n)))
    (computed : List (LaneName × Computed (I.platform n))) : Prop where
  calls : ((detectorCalls w ready).mapM (I.platform n).detectBatch).map (filed w ready)
    = some computed
  once : (detectorCalls w ready).flatten.map Prod.fst = (w.due ready).map (·.upright)
  bounded : ∀ call ∈ detectorCalls w ready, call.length ≤ n
  own : ∀ r ∈ w.due ready, ∃ c, computed.lookup r.frame.lane = some c
    ∧ ∃ number, c.detections
      = I.convert r.upright number r.frame.backendReceiveMonotonic (boxesOf r.upright)
  none : ∀ r ∈ ready, r ∉ w.due ready → computed.lookup r.frame.lane = none

/--
**Batching does not change what a camera sees**: every frame gets what its own image
shows, for every batch size, and the pipeline runs no detector of its own: each frame
meets what it should, and is handled so.
-/
def BatchingTransparent (boxesOf : v.Image → Boxes) (w : Worker (I.platform n))
    (ready : List (Ready (I.platform n))) : Prop :=
  ∃ computed, w.computed ready = some computed ∧ SeesOwn boxesOf w ready computed
    ∧ SameForEverySize w ready
    ∧ (handlings computed w ready
      = ready.map fun r => expectedHandling r (computed.lookup r.frame.lane))
    ∧ HandledAs computed w ready
      (ready.map fun r => expectedHandling r (computed.lookup r.frame.lane))

variable {boxesOf : v.Image → Boxes}

theorem seesOwn (hI : Independent I boxesOf) (hn : 0 < n) {w : Worker (I.platform n)}
    {ready : List (Ready (I.platform n))} (hlanes : (ready.map (·.frame.lane)).Nodup)
    {computed : List (LaneName × Computed (I.platform n))}
    (hcomputed : w.computed ready = some computed) : SeesOwn boxesOf w ready computed where
  calls := (computed_eq_mapM w ready).symm.trans hcomputed
  once := by
    have hcalls : (detectorCalls w ready).flatten = (w.due ready).mapIdx fun j r =>
        (r.upright, w.frameCount + j % n + 1, r.frame.backendReceiveMonotonic) := by
      unfold detectorCalls
      rw [← List.flatMap_def]
      exact flatMap_toChunks_mapIdx hn _ (w.due ready)
    rw [hcalls, map_mapIdx, mapIdx_const]
  bounded call hcall := by
    obtain ⟨group, hgroup, rfl⟩ := List.mem_map.mp hcall
    rw [List.length_mapIdx]
    exact length_le_of_mem_toChunks hn hgroup
  own r hr := by
    obtain ⟨j, hj⟩ := List.getElem?_of_mem hr
    have hfor := detectionsFor_due hI hn hlanes hj
    rw [detectionsFor_of_computed hcomputed] at hfor
    obtain ⟨c, hc, hown⟩ := Option.map_eq_some_iff.mp hfor
    exact ⟨c, hc, _, hown⟩
  none r hr hnot := by
    have hother : ∀ r' ∈ w.due ready, r'.frame.lane ≠ r.frame.lane := by
      intro r' hr' hlane
      have heq := List.inj_on_of_nodup_map hlanes (mem_due.mp hr').1 hr hlane
      exact hnot (heq ▸ hr')
    have hfor := detectionsFor_not_due hI hn hother
    rw [detectionsFor_of_computed hcomputed] at hfor
    exact Option.map_eq_none_iff.mp hfor

/-- The frames meet what they should when the two clocks agree on those of the time zero. -/
theorem handlings_expected_iff (hI : Independent I boxesOf) (hn : 0 < n)
    {w : Worker (I.platform n)} {ready : List (Ready (I.platform n))}
    (hlanes : (ready.map (·.frame.lane)).Nodup)
    {computed : List (LaneName × Computed (I.platform n))}
    (hcomputed : w.computed ready = some computed) :
    (handlings computed w ready
        = ready.map fun r => expectedHandling r (computed.lookup r.frame.lane))
      ↔ ∀ r ∈ ready, r.frame.backendReceiveMonotonic = 0 →
          batchFindsDue w r = true ∨ ¬IsStale r → ClocksAgree w r := by
  have hdetect : ∀ image number ts, ((I.platform n).detect image number ts).isSome := by
    intro image number ts
    exact Option.isSome_iff_exists.mpr ⟨_, detect_eq hI image number ts⟩
  have hsees := seesOwn hI hn hlanes hcomputed
  rw [handlings_eq hdetect computed w hlanes, List.map_inj_left]
  refine forall₂_congr fun r hr => ?_
  have hfound : (computed.lookup r.frame.lane).isSome = batchFindsDue w r := by
    cases hdue : batchFindsDue w r with
    | true =>
        obtain ⟨c, hc, -⟩ := hsees.own r (mem_due.mpr ⟨hr, hdue⟩)
        rw [hc]
        rfl
    | false =>
        have hnot : r ∉ w.due ready := by
          intro h
          rw [(mem_due.mp h).2] at hdue
          nomatch hdue
        rw [hsees.none r hr hnot]
        rfl
  rw [handling_eq_expected_iff, hfound, pipelineFindsDue_iff]
  exact ⟨fun h hzero hmet => h hmet hzero, fun h hmet hzero => h hzero hmet⟩

/--
**When batching changes nothing.** No due frame behind the first shows a vehicle, and a
frame received at the monotonic time zero is due by the wall clock if it is due, and
only then.
-/
theorem batching_transparent_iff (hI : Independent I boxesOf) (hn : 0 < n)
    (w : Worker (I.platform n)) (ready : List (Ready (I.platform n)))
    (hlanes : (ready.map (·.frame.lane)).Nodup) : BatchingTransparent boxesOf w ready
      ↔ (∀ r ∈ (w.due ready).tail, ¬ShowsVehicle I r.upright (boxesOf r.upright))
        ∧ ∀ r ∈ ready, r.frame.backendReceiveMonotonic = 0 →
            batchFindsDue w r = true ∨ ¬IsStale r → ClocksAgree w r := by
  obtain ⟨computed, hcomputed, -⟩ := computed_eq hI hn w ready
  rw [← sameForEverySize_iff hI hn hlanes, ← handlings_expected_iff hI hn hlanes hcomputed]
  constructor
  · rintro ⟨computed', hcomputed', -, hsame, hmet, -⟩
    rw [hcomputed] at hcomputed'
    obtain rfl := Option.some.inj hcomputed'
    exact ⟨hsame, hmet⟩
  · rintro ⟨hsame, hmet⟩
    exact ⟨computed, hcomputed, seesOwn hI hn hlanes hcomputed, hsame, hmet,
      hmet ▸ handledAs_handlings computed w ready⟩

end Law

/-! ## A road with and without a car -/

/-- Images of a road: `true` shows a car. -/
def roadPlatform : Platform where
  Image := Bool
  Detections := Unit
  Tracking := Unit
  intOfStr _ := none
  b64decode _ := none
  imdecode _ := .ok none
  ndim _ := 3
  height _ := 720
  width _ := 1280
  rotate _ image := image
  imencode _ := some []
  batchSize := 1
  detectBatch images := some (images.map fun _ => (), 10)
  detect _ _ _ := some ((), 10)
  track tracking lane image _ _ _ _ :=
    ({ observation := { laneName := lane.key }, detections := 0, annotated := image,
       trackingMs := 1 }, tracking)

def roadBoxes (image : Bool) : Boxes :=
  some (if image then
    [{ cls := 2, conf := .finite (9 / 10), x1 := .finite 100, y1 := .finite 100,
       x2 := .finite 300, y2 := .finite 200 }]
  else [])

def roadInference : Inference roadPlatform where
  detector := ⟨supportedClasses [(2, "car")], fun _ _ h => supportedClasses_supported _ h⟩
  predict images := some (images.map roadBoxes)
  elapsed _ := 10
  track tracking lane image _ _ _ _ :=
    ({ observation := { laneName := lane.key }, detections := 0, annotated := image,
       trackingMs := 1 }, tracking)

theorem roadInference_independent : Independent roadInference roadBoxes := ⟨fun _ => rfl⟩

/-- A decoded frame of a lane, received and handled at the given times. -/
def roadFrame (lane : LaneName) (image : Bool) (monotonic wall : Rat) :
    Ready (roadInference.platform 2) where
  frame :=
    { payload := dictOf [("direction", .str lane.key)]
      decoded := true
      ownerSocket := 7
      backendReceiveTimestamp := 1000000
      backendReceiveMonotonic := monotonic
      image := some image
      image_isSome := rfl
      lane := lane
      lane_eq := by cases lane <;> rfl
      reads := { checked := 1000, work := { wallTime := wall } } }
  upright := image
  orientation := { rotation := 0, inputWidth := 1280, inputHeight := 720, width := 1280,
                   height := 720 }

/-- A worker whose last detection for every lane was at this time, if there was one. -/
def roadWorker (last : Option Rat) : Worker (roadInference.platform 2) where
  tracking := ()
  world := { pipeline := { lastDetectionTs := fun _ => last } }

theorem road_with_one_car : BatchingTransparent roadBoxes (roadWorker none)
    [roadFrame .north true 1 1000, roadFrame .south false 1 1000] := by
  refine (batching_transparent_iff roadInference_independent (by decide) _ _ (by decide)).mpr
    ⟨fun r hr => ?_, fun r hr hzero => ?_⟩
  · obtain rfl := List.mem_singleton.mp hr
    exact fun hshows => hshows rfl
  · rcases List.mem_cons.mp hr with rfl | hr
    · exact absurd hzero (by decide)
    · obtain rfl := List.mem_singleton.mp hr
      exact absurd hzero (by decide)

/--
The frame numbers of two cars depend on the batch size; and a frame of the monotonic
time zero, a tenth of a second after a detection that was filed under the wall clock, is
due for the batch but not for the pipeline.
-/
theorem batching_shows : Independent roadInference roadBoxes
    ∧ ¬BatchingTransparent roadBoxes (roadWorker none)
        [roadFrame .north true 1 1000, roadFrame .south true 1 1000]
    ∧ ¬BatchingTransparent roadBoxes (roadWorker (some 1000))
        [roadFrame .north true 0 (1000 + 1 / 10)] := by
  refine ⟨roadInference_independent, ?_, ?_⟩
  · rintro ⟨-, -, -, hsame, -, -⟩
    have hcar : ShowsVehicle roadInference true (roadBoxes true) := by
      unfold ShowsVehicle
      decide +kernel
    exact (sameForEverySize_iff roadInference_independent (by decide) (by decide)).mp hsame
      _ List.mem_cons_self hcar
  · rintro ⟨computed, hcomputed, -, -, hmet, -⟩
    have hagree := (handlings_expected_iff roadInference_independent (by decide) (by decide)
      hcomputed).mp hmet _ List.mem_cons_self rfl (Or.inl (by decide +kernel))
    revert hagree
    unfold ClocksAgree
    decide +kernel

end SmartTraffic.Proof
