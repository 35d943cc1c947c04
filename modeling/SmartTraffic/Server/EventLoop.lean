import SmartTraffic.Server.Command
import SmartTraffic.Server.Handler

/-!
# The event loop of the camera server

Everything that runs on the event loop, cut at its awaits: the messages of the
cameras, the frames that WebRTC and local sources submit, the coordinator that
hands batches to the worker and publishes the results, the expiry of sessions by
the ticker, the loss of sockets and the operator's commands.

An `Action` is one stretch of one task, and a run is any list of actions with
the `Reading` each of them takes. An action that cannot happen in a state
changes nothing. What the worker makes of a batch is an input.
-/

namespace SmartTraffic

open Lib

/-- What becomes of a packet in `process_batch`. -/
inductive PacketOutcome
  /-- The system was stopped or the frame stale. -/
  | dropped
  | decodeFailed
  /-- `_process_frame_locked` returned `None`. -/
  | noResult
  | processed (result : FrameResult)

/-- One stretch of a task. -/
inductive Action
  /-- `process_message`. -/
  | message (rawJson : Json) (websocket : Socket)
  /-- A registration goes on after the socket it replaces was closed. -/
  | registered (k : Nat)
  | submitDecodedFrame (direction nodeId token : String) (websocket : Socket) (frameId : Int)
      (receivedMs : Rat)
  /-- A local source takes its direction. -/
  | attachLocal (direction : String) (source : Socket)
  /-- `update_heartbeat` of a local source. -/
  | updateHeartbeat (nodeId token : String)
  /-- The endpoint of a socket ends. -/
  | socketLost (nodeId : String) (websocket : Socket)
  /-- The ticker removes the next expired session. -/
  | expire
  /-- A pairing QR is generated. -/
  | registerPairing (direction : String) (pairing : PairingSession)
  /-- The node list looks at the pairing of a direction. -/
  | readPairing (direction : String)
  /-- The operator's DISCONNECT, up to its await. -/
  | disconnectCommand (direction : String)
  /-- The rest of such a command. -/
  | disconnected (k : Nat)
  /-- START, STOP or RESTART, up to its await; `safe` is `hardware_is_safe_to_run`. -/
  | command (c : OperatorCommand) (safe : Bool)
  /-- The rest of a STOP or RESTART. -/
  | resetDone
  /-- The worker or the ticker stops the system because the output has failed. -/
  | outputFailed
  /-- The coordinator takes the slots. -/
  | takeBatch
  /-- `process_batch` returns. -/
  | batchDone (outcomes : List PacketOutcome)
  /-- `process_batch` raises after it has counted these outcomes. -/
  | batchRaises (counted : List PacketOutcome)
  /-- The coordinator publishes the next result. -/
  | commit

/-- The payload of a `FRAME_ACK`, but for the number of vehicles, which is the snapshot's. -/
structure FrameAck where
  frameId : Json
  direction : String
  serverProcessingMs : Json
  queueWaitMs : Json
  inferenceMs : Json

namespace Server

/-- The counters after `process_batch`. -/
def StageCounters.afterBatch (c : StageCounters) (outcomes : List PacketOutcome) : StageCounters :=
  outcomes.foldl (fun c outcome => match outcome with
    | .dropped => { c with dropped := c.dropped + 1 }
    | .decodeFailed => { c with decodeFailed := c.decodeFailed + 1 }
    | .noResult => c
    | .processed _ => { c with decoded := c.decoded + 1 }) c

/-- The packets of a batch that have a result. -/
def resultsOf (packets : List Packet) (outcomes : List PacketOutcome) :
    List (Packet × FrameResult) :=
  (packets.zip outcomes).filterMap fun (packet, outcome) => match outcome with
    | .processed result => some (packet, result)
    | _ => none

/-- The packets the coordinator has taken and not finished. -/
def inFlight (s : Server) : List Packet :=
  match s.coordinator with
  | .waiting => []
  | .inferring packets => packets
  | .committing results => results.map Prod.fst

/-- `run_coordinator` takes the slots when `batch_ready` is set. -/
def takeBatch (s : Server) : Server :=
  match s.coordinator with
  | .waiting =>
      if s.batchReady then
        { s with
          latestFrames := ∅
          batchReady := false
          coordinator := .inferring s.latestFrames.values }
      else s
  | _ => s

def batchDone (s : Server) (outcomes : List PacketOutcome) : Server :=
  match s.coordinator with
  | .inferring packets =>
      { s with
        stageCounters := StageCounters.afterBatch s.stageCounters (outcomes.take packets.length)
        coordinator := .committing (resultsOf packets outcomes) }
  | _ => s

/-- The handler of what a batch raises: the rest of the batch is gone. -/
def batchFails (s : Server) : Server :=
  { s with
    frameProcessingErrors := s.frameProcessingErrors + 1
    coordinator := .waiting }

def batchRaises (s : Server) (counted : List PacketOutcome) : Server :=
  match s.coordinator with
  | .inferring packets =>
      { s with
        stageCounters := StageCounters.afterBatch s.stageCounters (counted.take packets.length)
        }.batchFails
  | _ => s

/-- `telemetry['fps']`. -/
def framesPerSecond (previous : Option Rat) (now : Rat) : Rat :=
  match previous with
  | none => 0
  | some t => if t = 0 then 0 else roundDigits 1 (1 / max (1 / 1000) (now - t))

/-- The writes of a committed result. -/
def publish (s : Server) (r : Reading) (direction : String) (result : FrameResult) : Server :=
  let fps := framesPerSecond (s.frameUpdatedAt.get? direction) r.monotonic
  { s with
    frameBuffer := (s.frameBuffer.set direction result.jpeg).set "active" result.jpeg
    frameUpdatedAt := s.frameUpdatedAt.set direction r.monotonic
    liveTelemetry := s.liveTelemetry.set direction
      (result.telemetry.set "fps" (.float (.finite fps)))
    stageCounters.processed := s.stageCounters.processed + 1 }

/-- `run_coordinator` up to the await after the next result. -/
def commit (s : Server) (r : Reading) : Server × Option Effect :=
  match s.coordinator with
  | .committing [] => ({ s with coordinator := .waiting }, none)
  | .committing ((packet, result) :: results) =>
      let rest := { s with coordinator := .committing results }
      match s.sessions.validateSession packet.nodeId packet.sessionToken r.time with
      | .error _ =>
          -- the running test comes first, and it saves the rest of the batch
          if s.systemRunning then (s.batchFails, none)
          else ({ rest with stageCounters.dropped := s.stageCounters.dropped + 1 }, none)
      | .ok valid =>
          match valid && s.systemRunning && s.connectionOf packet.nodeId = some packet.ownerSocket,
              packet.direction with
          | true, .str direction =>
              (rest.publish r direction result, some (.committed direction packet))
          | _, _ => ({ rest with stageCounters.dropped := s.stageCounters.dropped + 1 }, none)
  | _ => (s, none)

/-- The `FRAME_ACK` for a frame that has just been committed, and the socket it goes over. -/
def frameAck (s : Server) (direction : String) (packet : Packet) : Option (Socket × FrameAck) :=
  (s.connectionOf packet.nodeId).map fun socket =>
    let telemetry := (s.liveTelemetry.get? direction).getD ∅
    (socket,
      { frameId := packet.payload.getJson "frame_id"
        direction := direction
        serverProcessingMs := telemetry.getJson "server_processing_ms"
        queueWaitMs := telemetry.getJson "queue_wait_ms"
        inferenceMs := telemetry.getJson "yolo_latency_ms" })

/-- The ticker's expiry: list the expired sessions, then remove them one by one. -/
def expire (s : Server) (r : Reading) : Server :=
  match s.expiring with
  | node :: rest => { s.unregister node with expiring := rest }
  | [] =>
      match s.sessions.expiredSessions r.time with
      | [] => s
      | node :: rest => { s.unregister node with expiring := rest }

/-- The tables without the entries of a direction. -/
def clearDirection (s : Server) (direction : String) : Server :=
  { s with
    frameBuffer := s.frameBuffer.erase direction
    frameUpdatedAt := s.frameUpdatedAt.erase direction
    liveTelemetry := s.liveTelemetry.erase direction }

/-- `handle_command("DISCONNECT")` up to its await. -/
def disconnectCommand (py : Python) (s : Server) (r : Reading) (direction : String) : Server :=
  match s.sessions.getSessionByDirection py direction r.time with
  | none => s.clearDirection direction
  | some session =>
      { s.unregister session.nodeId with disconnecting := s.disconnecting ++ [direction] }

/-- START, STOP or RESTART up to its await. -/
def handleCommand (s : Server) (c : OperatorCommand) (safe : Bool) : Server :=
  -- a START or RESTART on unsafe hardware is turned down and stops the system
  if c ≠ .stop ∧ safe = false then { s with systemRunning := false }
  else if c.resets then { s with systemRunning := c ≠ .stop, resetting := s.resetting + 1 }
  else { s with systemRunning := true, sessions := s.sessions.setAllStreaming true }

/-- The rest of a STOP or RESTART. -/
def resetDone (s : Server) : Server :=
  if s.resetting = 0 then s
  else
    { s with
      resetting := s.resetting - 1
      frameBuffer := ∅
      frameUpdatedAt := ∅
      sessions := s.sessions.setAllStreaming s.systemRunning }

/-- `LocalCameraSources.start` for one direction. -/
def attachLocal (py : Python) (s : Server) (r : Reading) (direction : String) (source : Socket) :
    Server :=
  if direction ∉ directions ∨ (s.sessions.getSessionByDirection py direction r.time).isSome then s
  else
    -- the source registers itself like a node, under an id of its own
    let node := s!"LOCAL-{direction}"
    let created := s.createSession py r node direction true
    { created with activeConnections := s.activeConnections.set node source }

def updateHeartbeat (s : Server) (r : Reading) (nodeId token : String) : Server :=
  match s.sessions.validateSession (.str nodeId) (.str token) r.time with
  | .ok true => { s with sessions := s.sessions.beat nodeId r.time }
  | _ => s

/-- The end of a socket: an older one leaves its replacement alone. -/
def socketLost (s : Server) (nodeId : String) (websocket : Socket) : Server :=
  if s.activeConnections.get? nodeId = some websocket then
    { s with activeConnections := s.activeConnections.erase nodeId }
  else s

/-- One stretch, and what it does to the slots and the tables. -/
def step (py : Python) (s : Server) (i : Reading × Action) : Server × Option Effect :=
  match i.2 with
  | .message rawJson websocket =>
      let o := s.processMessage py i.1 rawJson websocket
      (o.server, o.effect)
  | .registered k =>
      match s.registering[k]? with
      | none => (s, none)
      | some reg =>
          let o :=
            { s with registering := s.registering.eraseIdx k }.completeRegistration py i.1 reg
          (o.server, o.effect)
  | .submitDecodedFrame direction nodeId token websocket frameId receivedMs =>
      let o := s.submitDecodedFrame py i.1 direction nodeId token websocket frameId receivedMs
      (o.server, o.effect)
  | .attachLocal direction source => (s.attachLocal py i.1 direction source, none)
  | .updateHeartbeat nodeId token => (s.updateHeartbeat i.1 nodeId token, none)
  | .socketLost nodeId websocket => (s.socketLost nodeId websocket, none)
  | .expire => (s.expire i.1, none)
  | .registerPairing direction pairing =>
      ({ s with sessions := s.sessions.registerPairing py direction pairing }, none)
  | .readPairing direction =>
      ({ s with sessions := (s.sessions.getPairing py direction i.1.time).2 }, none)
  | .disconnectCommand direction => (s.disconnectCommand py i.1 direction, none)
  | .disconnected k =>
      match s.disconnecting[k]? with
      | none => (s, none)
      | some direction =>
          ({ s.clearDirection direction with disconnecting := s.disconnecting.eraseIdx k }, none)
  | .command c safe => (s.handleCommand c safe, none)
  | .resetDone => (s.resetDone, none)
  | .outputFailed => ({ s with systemRunning := false }, none)
  | .takeBatch => (s.takeBatch, none)
  | .batchDone outcomes => (s.batchDone outcomes, none)
  | .batchRaises counted => (s.batchRaises counted, none)
  | .commit => s.commit i.1

end Server

end SmartTraffic
