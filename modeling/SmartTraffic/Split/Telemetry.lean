import SmartTraffic.Dashboard.ViewModel
import SmartTraffic.Lib.Expiry
import SmartTraffic.Lib.Json

/-!
# Telemetry over Redis

In the split deployment the runtime writes each snapshot and the latest picture of each
approach under keys that expire, and the REST service polls them into a context of its
own, from which it answers health requests and streams pictures.

Both sides are cut at their awaits, and what Redis does is a step of its own: it carries out
a `set` some time after it was sent, or never, and answers a `get` some time before the answer
is received. Nothing is assumed of it beyond `RedisMay`: it stores only what it was sent, and
answers with a value it still holds, or with nothing. An operation may raise whether or not
it has taken effect.

The clock of a step is the time that passes; the wall clock of the REST service, against
which the timestamp of a snapshot is held, is another matter and an input.

Nobody listens on the telemetry channel, so a publication to it only takes its time.
-/

namespace SmartTraffic

open Lib

namespace Split

/-- A JPEG. -/
abbrev Picture := List UInt8

/-- One approach of `payload["lanes"]`, as far as the REST service reads it. -/
structure RemoteLane where
  streamStatus : StreamStatus
  frameAgeMs : Option Rat
  /-- The age is the difference of two readings of a monotonic clock. -/
  age_nonneg : ∀ age ∈ frameAgeMs, 0 ≤ age

/-- A published snapshot, as far as the REST service reads it. -/
structure RemoteSnapshot where
  timestamp : Rat
  systemRunning : Bool
  nodes : List Json
  lanes : List (String × RemoteLane)
  healthComponents : Json
  stageCounters : Json
  processingErrors : Json
  yoloMs : Json

/-- How far `publish_telemetry` has come. -/
inductive Publishing
  | idle
  /-- It awaits the `set` of the snapshot. -/
  | snapshot (snapshot : RemoteSnapshot)
  /-- It awaits the `set` of the first of these pictures. -/
  | frames (left : List (String × Picture))
  | channel

/-- What Redis has answered to a `get`, and when. -/
structure RedisAnswer (V : Type) where
  served : Rat
  value : Option V

/-- What the loop of `start_listener` is doing in the REST service. -/
inductive Poll
  | sleeping
  /-- It awaits the `get` of the snapshot, sent at the time `asked`. -/
  | snapshot (asked : Rat) (answer : Option (RedisAnswer RemoteSnapshot))
  /-- It awaits the `get` of the picture of the first of these approaches. -/
  | frames (asked : Rat) (answer : Option (RedisAnswer Picture))
      (left : List (String × RemoteLane))

/-- The approach whose picture is awaited. -/
def Poll.direction? : Poll → Option String
  | .frames _ _ ((direction, _) :: _) => some direction
  | _ => none

/-- The times of a `get` that was answered: sent, answered by Redis, received. -/
structure Receipt where
  asked : Rat
  served : Rat
  received : Rat

/-- The two services and what Redis holds. -/
structure RemoteMirror where
  /-- `is_connected` of the runtime's broadcaster. -/
  broadcasterConnected : Bool := false
  publishing : Publishing := .idle
  /-- `is_connected` of the REST service. -/
  isConnected : Bool := false
  poll : Poll := .sleeping
  latestSnapshot : Option RemoteSnapshot := none
  remoteReceivedAt : Rat := 0
  systemRunning : Bool := true
  remoteNodes : List Json := []
  frameBuffer : Dict String Picture := ∅
  frameUpdatedAt : Dict String Rat := ∅
  /-- Proof-only: what has been sent to Redis. -/
  snapshotsSent : List RemoteSnapshot := []
  picturesSent : List (String × Picture) := []
  /-- Proof-only: what Redis has stored. -/
  snapshotPuts : List (Deposit Unit RemoteSnapshot) := []
  picturePuts : List (Deposit String Picture) := []
  /-- Proof-only: the `get` of the latest snapshot, and the wall clock of the REST service when it
  was received. -/
  snapshotReceipt : Option Receipt := none
  takenAtWall : Rat := 0
  /-- Proof-only: the `get` of the picture that an approach shows. -/
  pictureReceipts : Dict String Receipt := ∅

inductive MirrorStep
  /-- The runtime gains or loses its connection. -/
  | broadcaster (up : Bool)
  /-- `publish_telemetry` up to its first await. -/
  | publishTelemetry (snapshot : RemoteSnapshot)
  /-- The `set` of the snapshot ends; `frameBuffer` is what the runtime then copies. -/
  | setSnapshot (raises : Bool) (frameBuffer : List (String × Picture))
  | setPicture (raises : Bool)
  /-- The publication to the channel ends. -/
  | published (raises : Bool)
  /-- The loop wakes up; `connects` is the outcome of `connect` if it has to be called. -/
  | wake (connects : Bool)
  | gotSnapshot (wall : Rat) (raises : Bool)
  | gotPicture (raises : Bool)
  /-- Redis carries out a `set`. -/
  | storesSnapshot (snapshot : RemoteSnapshot)
  | storesPicture (item : String × Picture)
  /-- Redis answers the `get` that is awaited. -/
  | servesSnapshot (value : Option RemoteSnapshot)
  | servesPicture (value : Option Picture)

namespace RemoteMirror

/-! ## `publish_telemetry` -/

def publishTelemetry (s : RemoteMirror) (snapshot : RemoteSnapshot) : RemoteMirror :=
  match s.publishing with
  | .idle =>
      if s.broadcasterConnected then
        { s with publishing := .snapshot snapshot, snapshotsSent := s.snapshotsSent ++ [snapshot] }
      else s
  | _ => s

/-- The publication is given up. -/
def giveUp (s : RemoteMirror) : RemoteMirror :=
  { s with publishing := .idle, broadcasterConnected := false }

/-- The `set` of the first of these pictures is sent, or else what is published to the channel. -/
def sendPictures (s : RemoteMirror) : List (String × Picture) → RemoteMirror
  | [] => { s with publishing := .channel }
  | item :: left =>
      { s with publishing := .frames (item :: left), picturesSent := s.picturesSent ++ [item] }

def setSnapshot (s : RemoteMirror) (raises : Bool) (frameBuffer : List (String × Picture)) :
    RemoteMirror :=
  match s.publishing with
  | .snapshot _ =>
      if raises then s.giveUp
      else s.sendPictures (frameBuffer.filter fun item => item.1 ≠ "active")
  | _ => s

def setPicture (s : RemoteMirror) (raises : Bool) : RemoteMirror :=
  match s.publishing with
  | .frames (_ :: left) => if raises then s.giveUp else s.sendPictures left
  | _ => s

def published (s : RemoteMirror) (raises : Bool) : RemoteMirror :=
  match s.publishing with
  | .channel => if raises then s.giveUp else { s with publishing := .idle }
  | _ => s

/-! ## Redis -/

/-- The snapshot is stored with `ex=5`. -/
def storesSnapshot (s : RemoteMirror) (now : Rat) (snapshot : RemoteSnapshot) : RemoteMirror :=
  { s with
    snapshotPuts := s.snapshotPuts ++ [{ key := (), value := snapshot, time := now, ttl := 5 }] }

/-- The picture is stored with `ex=3`. -/
def storesPicture (s : RemoteMirror) (now : Rat) (item : String × Picture) : RemoteMirror :=
  { s with
    picturePuts := s.picturePuts ++ [{ key := item.1, value := item.2, time := now, ttl := 3 }] }

def servesSnapshot (s : RemoteMirror) (now : Rat) (value : Option RemoteSnapshot) : RemoteMirror :=
  match s.poll with
  | .snapshot asked none => { s with poll := .snapshot asked (some { served := now, value }) }
  | _ => s

def servesPicture (s : RemoteMirror) (now : Rat) (value : Option Picture) : RemoteMirror :=
  match s.poll with
  | .frames asked none left => { s with poll := .frames asked (some { served := now, value }) left }
  | _ => s

/-- What is relied on of Redis: it stores only what it was sent, and answers a `get` with a value
that was stored for the key and has not expired, or with nothing. -/
def RedisMay (s : RemoteMirror) (now : Rat) : MirrorStep → Prop
  | .storesSnapshot snapshot => snapshot ∈ s.snapshotsSent
  | .storesPicture item => item ∈ s.picturesSent
  | .servesSnapshot value => MayAnswer s.snapshotPuts () now value
  | .servesPicture value =>
      ∀ direction, s.poll.direction? = some direction → MayAnswer s.picturePuts direction now value
  | _ => True

/-! ## The loop of the REST service -/

/-- Nothing fresh is known; the iteration ends. -/
def clear (s : RemoteMirror) : RemoteMirror :=
  { s with poll := .sleeping, remoteNodes := [], systemRunning := false, frameBuffer := ∅ }

/-- The iteration has raised. -/
def fail (s : RemoteMirror) : RemoteMirror := { s.clear with isConnected := false }

def wake (s : RemoteMirror) (now : Rat) (connects : Bool) : RemoteMirror :=
  match s.poll with
  | .sleeping =>
      if s.isConnected || connects then { s with isConnected := true, poll := .snapshot now none }
      else { s with isConnected := false }
  | _ => s

/-- The `get` of the first of these pictures is sent, or else the iteration ends. -/
def askPictures (s : RemoteMirror) (now : Rat) : List (String × RemoteLane) → RemoteMirror
  | [] => { s with poll := .sleeping }
  | item :: left => { s with poll := .frames now none (item :: left) }

/-- A fresh snapshot is taken. -/
def take (s : RemoteMirror) (receipt : Receipt) (wall : Rat) (snapshot : RemoteSnapshot) :
    RemoteMirror :=
  { s with
    latestSnapshot := some snapshot
    remoteReceivedAt := receipt.received
    snapshotReceipt := some receipt
    takenAtWall := wall
    systemRunning := snapshot.systemRunning
    remoteNodes := snapshot.nodes }

/-- The answer of Redis for the snapshot is received, or its `get` raises. -/
def gotSnapshot (s : RemoteMirror) (now wall : Rat) (raises : Bool) : RemoteMirror :=
  match s.poll with
  | .snapshot asked answer =>
      if raises then s.fail
      else
        match answer with
        | none => s
        | some ⟨_, none⟩ => s.clear
        | some ⟨served, some snapshot⟩ =>
            if wall - snapshot.timestamp < 3 then
              (s.take { asked, served, received := now } wall snapshot).askPictures now
                snapshot.lanes
            else s.clear
  | _ => s

/-- The picture of an approach is kept if it is there and the approach is LIVE. -/
def keepPicture (s : RemoteMirror) (receipt : Receipt) (value : Option Picture)
    (direction : String) (lane : RemoteLane) : RemoteMirror :=
  match value with
  | some picture =>
      if picture ≠ [] ∧ lane.streamStatus = .live then
        { s with
          frameBuffer := s.frameBuffer.set direction picture
          frameUpdatedAt :=
            s.frameUpdatedAt.set direction (receipt.received - lane.frameAgeMs.getD 0 / 1000)
          pictureReceipts := s.pictureReceipts.set direction receipt }
      else { s with frameBuffer := s.frameBuffer.erase direction }
  | none => { s with frameBuffer := s.frameBuffer.erase direction }

def gotPicture (s : RemoteMirror) (now : Rat) (raises : Bool) : RemoteMirror :=
  match s.poll with
  | .frames asked answer ((direction, lane) :: left) =>
      if raises then s.fail
      else
        match answer with
        | none => s
        | some ⟨served, value⟩ =>
            (s.keepPicture { asked, served, received := now } value direction lane).askPictures now
              left
  | _ => s

/-- One step at the time `now`. -/
def step (s : RemoteMirror) (now : Rat) : MirrorStep → RemoteMirror
  | .broadcaster up => { s with broadcasterConnected := up }
  | .publishTelemetry snapshot => s.publishTelemetry snapshot
  | .setSnapshot raises frameBuffer => s.setSnapshot raises frameBuffer
  | .setPicture raises => s.setPicture raises
  | .published raises => s.published raises
  | .wake connects => s.wake now connects
  | .gotSnapshot wall raises => s.gotSnapshot now wall raises
  | .gotPicture raises => s.gotPicture now raises
  | .storesSnapshot snapshot => s.storesSnapshot now snapshot
  | .storesPicture item => s.storesPicture now item
  | .servesSnapshot value => s.servesSnapshot now value
  | .servesPicture value => s.servesPicture now value

/-- What can be reached from a start at `epoch` by the time `now`. The REST service calls `connect`
once before its loop. -/
inductive Reached (epoch : Rat) : Rat → RemoteMirror → Prop
  | start (connects : Bool) : Reached epoch epoch { isConnected := connects }
  | step {now now' : Rat} {s : RemoteMirror} (hs : Reached epoch now s) (hle : now ≤ now')
      {i : MirrorStep} (hredis : s.RedisMay now' i) : Reached epoch now' (s.step now' i)

/-! ## What the REST service answers -/

/-- `get_health_dict` of a remote runtime. -/
structure RemoteHealth where
  status : String
  mode : String := "AUTOMATIC"
  components : Json
  stageCounters : Json
  frameProcessingErrors : Json
  inferenceLatencyMs : Json

/-- `time.monotonic() - self.remote_received_at < 3`. -/
def isFresh (s : RemoteMirror) (now : Rat) : Bool := now - s.remoteReceivedAt < 3

def getHealthDict (s : RemoteMirror) (now : Rat) : RemoteHealth where
  status :=
    if s.isFresh now && s.latestSnapshot.any (·.systemRunning) then "RUNNING" else "STOPPED"
  components :=
    if s.isFresh now then (s.latestSnapshot.map (·.healthComponents)).getD (.obj []) else .obj []
  stageCounters := (s.latestSnapshot.map (·.stageCounters)).getD (.obj [])
  frameProcessingErrors := (s.latestSnapshot.map (·.processingErrors)).getD (.int 0)
  inferenceLatencyMs := (s.latestSnapshot.map (·.yoloMs)).getD .null

/-- What an iteration of `generate_mjpeg_stream` does. -/
inductive StreamOutcome
  | ended
  | sends (header : String) (picture : Picture)
  | waits
deriving DecidableEq

/-- The header of a part. -/
def partHeader (length : Nat) (frameId : String) : String :=
  s!"--frame\r\nContent-Type: image/jpeg\r\nContent-Length: {length}\r\nX-Frame-Id: {frameId}"
    ++ "\r\nCache-Control: no-store\r\n\r\n"

/-- An iteration of `generate_mjpeg_stream`; `isPrevious` is `live is previous`. The REST service
has no telemetry of its own, so the frame id is empty. -/
def streamIteration (s : RemoteMirror) (now : Rat) (direction : String) (isPrevious : Bool) :
    StreamOutcome :=
  if s.systemRunning = false then .ended
  else
    match s.frameBuffer.get? direction, s.frameUpdatedAt.get? direction with
    | some live, some seen =>
        if live = [] ∨ 3 < now - seen then .ended
        else if isPrevious then .waits
        else .sends (partHeader live.length "") live
    | _, _ => .ended

end RemoteMirror

end Split

end SmartTraffic
