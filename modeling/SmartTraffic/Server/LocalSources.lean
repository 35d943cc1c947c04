import SmartTraffic.Server.EventLoop

/-!
# Local cameras

`LocalCameraSources`: cameras that hang on the computer itself. Each has a thread
that reads images and keeps the newest one for its direction; a pump wakes at
intervals, refreshes the heartbeats, takes all that is kept at once and submits
it image by image, as a camera of the network would.

The object registers itself as the connection of the nodes `LOCAL-north` and so
on when it is started. What OpenCV reads, and when, is an input.
-/

namespace SmartTraffic

open Lib

/-- What a capture thread keeps: an image, known by a number, and when it was read. -/
structure Capture where
  image : Nat
  /-- `time.time() * 1000`. -/
  received : Rat
  deriving DecidableEq, Repr

/-- Where `_pump` is. -/
inductive Pump
  /-- There is no task, or it has ended. -/
  | ended
  | sleeping
  /-- It has still to submit these images. -/
  | submitting (frames : List (String × Capture))
  deriving DecidableEq, Repr

/-- The pump with these images left: it sleeps when there are none. -/
def Pump.next : List (String × Capture) → Pump
  | [] => .sleeping
  | frames => .submitting frames

/-- The pump once an image has been submitted. What it does not catch ends it. -/
def Pump.after (answer : Answer) (rest : List (String × Capture)) : Pump :=
  match answer with
  | .raised _ => .ended
  | _ => .next rest

/-- The images the pump has still to submit. -/
def Pump.frames : Pump → List (String × Capture)
  | .submitting frames => frames
  | _ => []

/-- Why `start` raises a `ValueError`. -/
inductive SourceError
  /-- Camera sources must map north/east/south/west to source. -/
  | notAMapping
  /-- Source must be USB index, file/RTSP URL or picamera:N. -/
  | notASource
  | alreadyHasACamera (direction : String)
  deriving DecidableEq, Repr

/-- `isinstance(source, (str, int))` and no `bool`. -/
def isCameraSource : Json → Bool
  | .str _ => true
  | .int _ => true
  | _ => false

/-- `LocalCameraSources`, with the server whose handler it is given. -/
structure LocalSources where
  server : Server := {}
  /-- The object itself, as a connection. -/
  socket : Socket
  /-- The node and the token of each direction. -/
  nodes : Dict String (String × String) := ∅
  latest : Dict String Capture := ∅
  /-- The directions that have a capture thread. -/
  threads : List String := []
  pump : Pump := .ended
  /-- `shutdown` awaits the end of the pump and of the threads. -/
  closing : Bool := false

/-- One stretch of the sources, or of anything else on the event loop. -/
inductive SourceAction
  /-- The thread of a direction has read an image. -/
  | capture (direction : String) (image : Nat)
  /-- The pump's sleep is over. -/
  | wake
  /-- The pump submits the next image. -/
  | submit
  /-- `shutdown` up to its first await. -/
  | shutdown
  /-- The rest of `shutdown`. -/
  | detach
  | server (action : Action)

/-- What is seen of a stretch. -/
inductive Observed
  | captured (direction : String) (capture : Capture)
  /-- The pump has taken what was kept. -/
  | taken
  | submitted (direction : String) (capture : Capture) (effect : Option Effect)
  | served (effect : Option Effect)

namespace LocalSources

/-- The loop body of `start`: a session, a connection and a thread for the direction. -/
def attach (py : Python) (w : LocalSources) (r : Reading) (direction : String) : LocalSources :=
  { w with
    server := w.server.attachLocal py r direction w.socket
    nodes := w.nodes.set direction (s!"LOCAL-{direction}", r.uuid)
    threads := w.threads ++ [direction] }

/-- The loop of `start`; `uuids` is what `uuid4` yields for each direction. -/
def attachAll (py : Python) (r : Reading) (uuids : String → String) (w : LocalSources) :
    List (String × Json) → Except SourceError LocalSources
  | [] => .ok w
  | (direction, source) :: rest =>
      if isCameraSource source = false then .error .notASource
      else if (w.server.sessions.getSessionByDirection py direction r.time).isSome then
        .error (.alreadyHasACamera direction)
      else attachAll py r uuids (w.attach py { r with uuid := uuids direction } direction) rest

/-- The pump is started when there is anything to pump. -/
def startPump (w : LocalSources) (sources : List (String × Json)) : LocalSources :=
  if sources.isEmpty then w else { w with pump := .sleeping }

/-- `start` on the value of `TRAFFIC_SOURCES_JSON`. -/
def start (py : Python) (w : LocalSources) (r : Reading) (uuids : String → String)
    (sources : Json) : Except SourceError LocalSources :=
  match sources.toDict with
  | none => .error .notAMapping
  | some sources =>
      if sources.keys.any fun direction => direction ∉ directions then .error .notAMapping
      else
        (attachAll py r uuids w sources.items).map fun w => w.startPump sources.items

/-- `_capture` has read an image. -/
def capture (w : LocalSources) (r : Reading) (direction : String) (image : Nat) :
    LocalSources × Option Observed :=
  if direction ∈ w.threads then
    let capture : Capture := { image := image, received := r.time * 1000 }
    ({ w with latest := w.latest.set direction capture }, some (.captured direction capture))
  else (w, none)

/-- The heartbeats of all nodes. -/
def beatAll (w : LocalSources) (r : Reading) : Server :=
  w.nodes.values.foldl (fun s node => s.updateHeartbeat r node.1 node.2) w.server

/-- `_pump` from the end of its sleep up to its next await. -/
def wake (w : LocalSources) (r : Reading) : LocalSources × Option Observed :=
  match w.pump with
  | .sleeping =>
      ({ w with server := w.beatAll r, latest := ∅, pump := .next w.latest.items }, some .taken)
  | _ => (w, none)

/-- `_pump` submits an image. -/
def submit (py : Python) (w : LocalSources) (r : Reading) : LocalSources × Option Observed :=
  match w.pump with
  | .submitting ((direction, capture) :: rest) =>
      match w.nodes.get? direction with
      | none => ({ w with pump := .ended }, none)
      | some (node, token) =>
          let o := w.server.submitDecodedFrame py r direction node token w.socket r.timeNs
            capture.received
          ({ w with server := o.server, pump := .after o.answer rest },
            some (.submitted direction capture o.effect))
  | _ => (w, none)

/-- `shutdown` stops the threads and cancels the pump. -/
def shutdown (w : LocalSources) : LocalSources := { w with pump := .ended, closing := true }

/-- The end of `shutdown`: the nodes are unregistered. -/
def detach (w : LocalSources) : LocalSources :=
  if w.closing then
    { w with server := w.nodes.values.foldl (fun s node => s.unregister node.1) w.server }
  else w

def step (py : Python) (w : LocalSources) (i : Reading × SourceAction) :
    LocalSources × Option Observed :=
  match i.2 with
  | .capture direction image => w.capture i.1 direction image
  | .wake => w.wake i.1
  | .submit => w.submit py i.1
  | .shutdown => (w.shutdown, none)
  | .detach => (w.detach, none)
  | .server action =>
      let (server, effect) := w.server.step py (i.1, action)
      ({ w with server := server }, some (.served effect))

end LocalSources

end SmartTraffic
