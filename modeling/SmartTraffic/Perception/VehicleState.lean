import SmartTraffic.Lib.Rounding
import SmartTraffic.Perception.Analytics

/-!
# The vehicle state manager

`VehicleStateManager.update` keeps a record of every tracked vehicle: how it
moves, how long it has been in its lane and in a queue, and whether it has been
seen often enough to count. `AnalyticsExporter.generate_stats` turns the records
that count into the statistics of the four lanes.

Detections are values: the caller makes new ones for every call. `math.hypot` is
a parameter. Class names are the labels of the detector, which are ASCII.
-/

namespace SmartTraffic

open Lib

/-- Whether a box is detector evidence or a projection of the tracker. -/
inductive ObservationState
  | observed
  | predicted
  deriving DecidableEq, Repr

/-- What `update` reads and writes of a `Detection`. -/
structure Detection where
  className : String
  /-- `(x1, y1, x2, y2)`. -/
  bbox : Int × Int × Int × Int
  trackId : Option Int := none
  lane : Option String := none
  motionPxSec : Rat := 0
  timeInLaneSec : Rat := 0
  queueTimeSec : Rat := 0
  isPriority : Bool := false
  observationType : ObservationState := .observed
  deriving DecidableEq, Repr

/-- The centre of the bounding box. -/
def Detection.centroid (d : Detection) : Int × Int :=
  let (x1, y1, x2, y2) := d.bbox
  ((x1 + x2) / 2, (y1 + y2) / 2)

/-- `det.lane or "Unknown"`. -/
def Detection.laneName (d : Detection) : String :=
  if d.lane.getD "" = "" then "Unknown" else d.lane.getD ""

/-- A `VehicleState`, with all its fields. -/
structure VehicleRecord where
  trackId : Int
  className : String
  lane : String
  lastCentroid : Int × Int
  firstSeenTimestamp : Rat
  lastSeenTimestamp : Rat
  enteredFrame : Int
  lastSeenFrame : Int
  motionPxSec : Rat := 0
  timeInLaneSec : Rat := 0
  queueTimeSec : Rat := 0
  consecutiveLowMotionFrames : Nat := 0
  consecutiveSeenFrames : Nat := 1
  isQueued : Bool := false
  isAlive : Bool := true
  isConfirmed : Bool := false
  isPriority : Bool := false
  observationType : ObservationState := .observed
  lastObservationFrameId : Int := 0
  lastPredictionFrameId : Option Int := none
  lastObservationTimestamp : Rat := 0
  deriving DecidableEq, Repr

namespace Config

def queueMotionThresholdPxSec : Rat := 15
def consecutiveQueueFrames : Nat := 10
def minConfirmationFrames : Nat := 2
def trackRemovalGraceSec : Rat := 9 / 5
def trackExpirationTimeoutSec : Rat := 4

end Config

/-! ## One vehicle -/

namespace VehicleRecord

/-- The record of a vehicle that is seen for the first time. -/
def create (d : Detection) (tid : Int) (frameNumber : Int) (timestamp : Rat) : VehicleRecord where
  trackId := tid
  className := d.className
  lane := d.laneName
  lastCentroid := d.centroid
  firstSeenTimestamp := timestamp
  lastSeenTimestamp := timestamp
  enteredFrame := frameNumber
  lastSeenFrame := frameNumber
  isPriority := d.isPriority
  lastObservationFrameId := frameNumber
  lastObservationTimestamp := timestamp

/-- The time in the lane; another lane starts it over, and the queue with it. -/
def enterLane (s : VehicleRecord) (laneName : String) (dt : Rat) : VehicleRecord :=
  let switched : Bool := s.lane ≠ laneName
  { s with
    lane := laneName
    timeInLaneSec :=
      if switched then 0 else if 0 < dt then s.timeInLaneSec + dt else s.timeInLaneSec
    queueTimeSec := if switched then 0 else s.queueTimeSec
    consecutiveLowMotionFrames := if switched then 0 else s.consecutiveLowMotionFrames }

/-- The motion since the last sighting, and whether it is slow. -/
def measureMotion (s : VehicleRecord) (distPx dt : Rat) : VehicleRecord :=
  let motion := if 0 < dt then distPx / dt else s.motionPxSec
  { s with
    motionPxSec := motion
    consecutiveLowMotionFrames :=
      if motion < Config.queueMotionThresholdPxSec then s.consecutiveLowMotionFrames + 1
      -- never below zero
      else s.consecutiveLowMotionFrames - 1 }

/-- Slow motion for long enough is a queue. -/
def flagQueue (s : VehicleRecord) (dt : Rat) : VehicleRecord :=
  let queued : Bool := Config.consecutiveQueueFrames ≤ s.consecutiveLowMotionFrames
  { s with
    isQueued := queued
    queueTimeSec := if queued ∧ 0 < dt then s.queueTimeSec + dt else s.queueTimeSec }

/-- One sighting more. -/
def countSighting (s : VehicleRecord) (minConfirmationFrames : Nat) : VehicleRecord :=
  let seen := s.consecutiveSeenFrames + 1
  { s with
    consecutiveSeenFrames := seen
    isConfirmed := s.isConfirmed || minConfirmationFrames ≤ seen }

/-- A vehicle that has a record is observed again. -/
def observe (hypot : Int → Int → Rat) (s : VehicleRecord) (d : Detection)
    (minConfirmationFrames : Nat) (frameNumber : Int) (timestamp : Rat) : VehicleRecord :=
  let dt := timestamp - s.lastSeenTimestamp
  let (cx, cy) := d.centroid
  let distPx := hypot (cx - s.lastCentroid.1) (cy - s.lastCentroid.2)
  let moved := ((s.enterLane d.laneName dt).measureMotion distPx dt).flagQueue dt
  { moved.countSighting minConfirmationFrames with
    lastCentroid := (cx, cy)
    lastSeenTimestamp := timestamp
    lastSeenFrame := frameNumber
    isAlive := true
    observationType := .observed
    lastObservationFrameId := frameNumber
    lastObservationTimestamp := timestamp }

/-- The tracker projects the vehicle. -/
def predict (s : VehicleRecord) (frameNumber : Int) : VehicleRecord :=
  { s with observationType := .predicted, lastPredictionFrameId := some frameNumber }

/-- A track that is not seen is not alive. -/
def markUnseen (activeTrackIds : Finset Int) (tid : Int) (s : VehicleRecord) : VehicleRecord :=
  if tid ∈ activeTrackIds then s else { s with isAlive := false }

/-- What the analysers read. -/
def toVehicleState (s : VehicleRecord) : VehicleState where
  className := s.className
  queueTimeSec := s.queueTimeSec
  isQueued := s.isQueued
  isPriority := s.isPriority

end VehicleRecord

/-- The detection with the parameters of its vehicle. -/
def Detection.enrich (d : Detection) (s : VehicleRecord) : Detection :=
  { d with
    motionPxSec := s.motionPxSec
    timeInLaneSec := s.timeInLaneSec
    queueTimeSec := s.queueTimeSec
    isPriority := s.isPriority }

/-! ## All vehicles -/

/-- `historical_tracks_count` of a new manager. -/
def noHistory : Dict String (Finset Int) :=
  ((((∅ : Dict String (Finset Int)).set "North" ∅).set "South" ∅).set "East" ∅).set "West" ∅

structure VehicleStateManager where
  activeStates : Dict Int VehicleRecord := ∅
  historicalTracksCount : Dict String (Finset Int) := noHistory
  minConfirmationFrames : Nat := Config.minConfirmationFrames
  trackRemovalGraceSec : Rat := Config.trackRemovalGraceSec

/-- The arguments of one `update`. -/
structure UpdateCall where
  detections : List Detection
  frameNumber : Int
  timestamp : Rat
  deriving DecidableEq, Repr

/-- How far an `update` has come. -/
structure Updating where
  manager : VehicleStateManager
  currentFrameTrackIds : Finset Int := ∅
  detections : List Detection := []

namespace VehicleStateManager

/-- A predicted detection marks the record of its vehicle, if there is one. -/
def predictOne (m : VehicleStateManager) (d : Detection) (tid frameNumber : Int) :
    VehicleStateManager × Detection :=
  match m.activeStates.get? tid with
  | none => (m, d)
  | some s =>
      ({ m with activeStates := m.activeStates.set tid (s.predict frameNumber) },
       d.enrich (s.predict frameNumber))

/-- The record of an observed detection, new or refreshed. -/
def sighted (hypot : Int → Int → Rat) (m : VehicleStateManager) (d : Detection)
    (tid frameNumber : Int) (timestamp : Rat) : VehicleRecord :=
  match m.activeStates.get? tid with
  | none => VehicleRecord.create d tid frameNumber timestamp
  | some s => s.observe hypot d m.minConfirmationFrames frameNumber timestamp

/-- An observed detection refreshes the record of its vehicle and may count it. -/
def observeOne (hypot : Int → Int → Rat) (m : VehicleStateManager) (d : Detection)
    (tid frameNumber : Int) (timestamp : Rat) : VehicleStateManager × Detection :=
  let s := m.sighted hypot d tid frameNumber timestamp
  let counted := (m.historicalTracksCount.get? d.laneName).getD ∅
  ({ m with
      activeStates := m.activeStates.set tid s
      historicalTracksCount :=
        if s.isConfirmed then m.historicalTracksCount.set d.laneName (insert tid counted)
        else m.historicalTracksCount },
   d.enrich s)

/-- One detection of a call. -/
def updateOne (hypot : Int → Int → Rat) (frameNumber : Int) (timestamp : Rat) (u : Updating)
    (d : Detection) : Updating :=
  match d.trackId with
  | none => { u with detections := u.detections ++ [d] }
  | some tid =>
      match d.observationType with
      | .predicted =>
          let (m, d') := u.manager.predictOne d tid frameNumber
          { u with manager := m, detections := u.detections ++ [d'] }
      | .observed =>
          let (m, d') := u.manager.observeOne hypot d tid frameNumber timestamp
          { manager := m
            currentFrameTrackIds := insert tid u.currentFrameTrackIds
            detections := u.detections ++ [d'] }

/-- A track that was not seen is stale once it has been away too long. -/
def isStale (m : VehicleStateManager) (s : VehicleRecord) (now : Rat) : Bool :=
  let inactivity := now - s.lastSeenTimestamp
  Config.trackExpirationTimeoutSec < inactivity || m.trackRemovalGraceSec < inactivity

/-- `_purge_stale_tracks`. -/
def purgeStaleTracks (m : VehicleStateManager) (activeTrackIds : Finset Int) (now : Rat) :
    VehicleStateManager :=
  let marked := m.activeStates.mapValues (VehicleRecord.markUnseen activeTrackIds)
  { m with
    activeStates := marked.filter fun item =>
      decide (item.1 ∈ activeTrackIds) || !m.isStale item.2 now }

def update (hypot : Int → Int → Rat) (m : VehicleStateManager) (c : UpdateCall) :
    VehicleStateManager × List Detection :=
  let u := c.detections.foldl (updateOne hypot c.frameNumber c.timestamp) { manager := m }
  (u.manager.purgeStaleTracks u.currentFrameTrackIds c.timestamp, u.detections)

/-- Append a vehicle to those of its lane. -/
def groupOne (grouped : Dict String (List VehicleRecord)) (s : VehicleRecord) :
    Dict String (List VehicleRecord) :=
  grouped.set s.lane ((grouped.get? s.lane).getD [] ++ [s])

/-- `get_confirmed_vehicles_by_lane`. -/
def getConfirmedVehiclesByLane (m : VehicleStateManager) : Dict String (List VehicleRecord) :=
  (m.activeStates.values.filter fun s => s.isAlive && s.isConfirmed).foldl groupOne ∅

end VehicleStateManager

/-! ## Statistics -/

/-- A `LaneStatistics` with the two fields that are only displayed. -/
structure ExportedStatistics extends LaneStatistics where
  avgMotionPxSec : Rat
  vehicleBreakdown : Dict String Int

/-- `counts` of `OccupancyAnalyzer.analyze`. -/
def vehicleCounts (vehicles : List VehicleRecord) : Dict String Int :=
  let start : Dict String Int := (((((∅ : Dict String Int).set "car" 0).set "bus" 0).set "truck"
    0).set "motorcycle" 0).set "bicycle" 0
  vehicles.foldl (fun counts s =>
    let category := s.className.toLower
    counts.set category (match counts.get? category with
      | some n => n + 1
      | none => 1)) start

/-- `avg_motion_px_sec` of `CongestionAnalyzer.analyze`. -/
def averageMotion (vehicles : List VehicleRecord) : Rat :=
  if vehicles = [] then 0
  else roundDigits 2 ((vehicles.map (·.motionPxSec)).sum / vehicles.length)

/-- The statistics of one lane. -/
def exportLane (m : VehicleStateManager) (grouped : Dict String (List VehicleRecord))
    (laneName : String) : ExportedStatistics :=
  let vehicles := (grouped.get? laneName).getD []
  let histCount := ((m.historicalTracksCount.get? laneName).getD ∅).card
  { generateLaneStats laneName (vehicles.map (·.toVehicleState)) histCount with
    avgMotionPxSec := averageMotion vehicles
    vehicleBreakdown := vehicleCounts vehicles }

/-- `AnalyticsExporter.generate_stats`: an entry for each of the four lanes. -/
def generateStats (m : VehicleStateManager) : List (String × ExportedStatistics) :=
  let grouped := m.getConfirmedVehiclesByLane
  ["North", "South", "East", "West"].map fun laneName => (laneName, exportLane m grouped laneName)

end SmartTraffic
