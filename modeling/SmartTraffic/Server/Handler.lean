import SmartTraffic.Lib.Rounding
import SmartTraffic.Server.Session

/-!
# The message handler

`MessageHandler.process_message` and the handlers behind it, on any JSON value.
A handler runs without interruption up to its next await; the only one that
matters here is the close of the socket that a registration replaces, where the
handler leaves a `Registration` behind.

An `Outcome` is the state after the call, what the caller gets, and what the call
did to the frame slots.
-/

namespace SmartTraffic

open Lib

def protocolVersion : String := "1.0"

inductive MessageType
  | registerCamera
  | registrationAck
  | heartbeat
  | heartbeatAck
  | disconnect
  | error
  | videoFrame
  | webrtcOffer
  | webrtcStop
  | startStream
  | stopStream
  deriving DecidableEq, Repr

/-- The value of a message type. -/
def MessageType.value : MessageType → String
  | .registerCamera => "REGISTER_CAMERA"
  | .registrationAck => "REGISTRATION_ACK"
  | .heartbeat => "HEARTBEAT"
  | .heartbeatAck => "HEARTBEAT_ACK"
  | .disconnect => "DISCONNECT"
  | .error => "ERROR"
  | .videoFrame => "VIDEO_FRAME"
  | .webrtcOffer => "WEBRTC_OFFER"
  | .webrtcStop => "WEBRTC_STOP"
  | .startStream => "START_STREAM"
  | .stopStream => "STOP_STREAM"

/-- `MessageType(value)`, or `none` for its `ValueError`. -/
def MessageType.ofValue (j : Json) : Option MessageType :=
  [.registerCamera, .registrationAck, .heartbeat, .heartbeatAck, .disconnect, .error, .videoFrame,
    .webrtcOffer, .webrtcStop, .startStream, .stopStream].find? fun t => j.isStr t.value

/-- `RegistrationAckPayload`. -/
structure RegistrationAck where
  nodeId : String
  sessionToken : String
  status : String := "CONNECTED"
  assignedDirection : String
  assignedLane : String
  cameraId : String
  message : String := "Camera registration successful"
  transports : List String := ["webrtc", "jpeg-json"]
  deriving DecidableEq, Repr

/-- The payload of a reply. -/
inductive ReplyPayload
  | error (nodeId : Option String) (errorCode message : String)
  | registrationAck (ack : RegistrationAck)
  | heartbeatAck (nodeId : String) (clientTimestamp : Json)
  | stream (type : MessageType)

/-- A reply; an `id` of `null` stands for none. -/
structure Reply where
  payload : ReplyPayload
  id : Json := .null

/-- A frame on its way from a camera to the worker. -/
structure Packet where
  payload : Dict String Json
  /-- The image was submitted decoded. -/
  decoded : Bool
  ownerSocket : Socket
  backendReceiveTimestamp : Int
  backendReceiveMonotonic : Rat

/-- `payload['direction']`. -/
def Packet.direction (p : Packet) : Json := p.payload.getJson "direction"

/-- `payload.get('node_id')`. -/
def Packet.nodeId (p : Packet) : Json := p.payload.getJson "node_id"

/-- `payload.get('session_token')`. -/
def Packet.sessionToken (p : Packet) : Json := p.payload.getJson "session_token"

structure StageCounters where
  received : Nat := 0
  decoded : Nat := 0
  decodeFailed : Nat := 0
  processed : Nat := 0
  dropped : Nat := 0
  deriving DecidableEq, Repr

/-- A registration that awaits the close of the socket it replaces. -/
structure Registration where
  nodeId : String
  direction : String
  /-- `registration_token`: what the client presented. -/
  token : String
  socket : Socket
  isPairingAuthorized : Bool
  correlationId : Json
  /-- The handler has checked the direction by then. -/
  direction_mem : direction ∈ directions

/-- What `process_batch` returns for a packet, as far as it is published. -/
structure FrameResult where
  jpeg : List UInt8
  telemetry : Dict String Json

/-- What the coordinator is doing. -/
inductive Coordinator
  /-- It awaits `batch_ready`, or is about to take the slots. -/
  | waiting
  /-- `process_batch` runs on the worker. -/
  | inferring (packets : List Packet)
  /-- It publishes the results one after another. -/
  | committing (results : List (Packet × FrameResult))

/-- A token that `create_session` has issued. -/
structure Issue where
  token : String
  nodeId : String
  direction : String
  deriving DecidableEq, Repr

/-- The state of the camera server. -/
structure Server where
  systemRunning : Bool := true
  sessions : SessionManager := {}
  activeConnections : Dict String Socket := ∅
  latestFrames : Dict String Packet := ∅
  batchReady : Bool := false
  droppedFramesCount : Nat := 0
  stageCounters : StageCounters := {}
  frameProcessingErrors : Nat := 0
  coordinator : Coordinator := .waiting
  frameBuffer : Dict String (List UInt8) := ∅
  frameUpdatedAt : Dict String Rat := ∅
  liveTelemetry : Dict String (Dict String Json) := ∅
  registering : List Registration := []
  /-- The expired nodes that the ticker has still to remove. -/
  expiring : List String := []
  /-- The directions of the DISCONNECT commands that await the close of a socket. -/
  disconnecting : List String := []
  /-- The number of STOP and RESTART commands that await their `reset_phase`. -/
  resetting : Nat := 0
  /-- Proof-only: the tokens issued so far. -/
  issued : List Issue := []

/-- What a stretch reads from the clocks and draws from `uuid.uuid4`. -/
structure Reading where
  /-- `time.time()`. -/
  time : Rat
  /-- `time.monotonic()`. -/
  monotonic : Rat := 0
  /-- `time.time_ns()`. -/
  timeNs : Int := 0
  uuid : String

/-- What a stretch does to the frame slots and the published tables. -/
inductive Effect
  /-- The packet enters `latest_frames[direction]`. -/
  | admitted (direction : String) (packet : Packet)
  /-- The processed packet is written to the tables under `direction`. -/
  | committed (direction : String) (packet : Packet)

/-- What the caller of a handler gets. -/
inductive Answer
  | reply (r : Reply)
  /-- The handler returns `None`. -/
  | silent
  | raised (e : PyError)
  /-- The handler is suspended. -/
  | awaiting
  /-- The message is handed on to the WebRTC ingest. -/
  | webrtc

/-- The result of a handler. -/
structure Outcome where
  server : Server
  answer : Answer
  effect : Option Effect := none

/-- Echo the correlation id on a reply. -/
def Outcome.echo (o : Outcome) (correlationId : Json) : Outcome :=
  match o.answer with
  | .reply r =>
      if correlationId.isNull then o
      else { o with answer := .reply { r with id := correlationId } }
  | _ => o

/-- `raw_json.get("payload", {})`. -/
def payloadOf (raw : Dict String Json) : Json := (raw.get? "payload").getD (.obj [])

/-! ## Validation by the schemas -/

/-- The envelope fields of `BaseMessage` that are not fixed by then: `id` and `timestamp`. -/
def envelopeValid (py : Python) (raw : Dict String Json) : Bool :=
  (raw.getJson "id").isOptStr && (raw.get? "timestamp").all py.readsFloat

/-- An `Optional[float]` field. -/
def isOptFloat (py : Python) (j : Json) : Bool := j.isNull || py.readsFloat j

/-- `RegistrationMessage.model_validate`. -/
def registrationValid (py : Python) (raw payload : Dict String Json) : Bool :=
  envelopeValid py raw && (payload.getJson "node_id").isOptStr
    && (payload.getJson "camera_direction").isOptStr && (payload.getJson "resolution").isOptStr
    && isOptFloat py (payload.getJson "fps") && (payload.getJson "device_info").isOptStr
    && (payload.getJson "session").isOptStr

/-- `HeartbeatMessage.model_validate`. -/
def heartbeatValid (py : Python) (raw payload : Dict String Json) : Bool :=
  envelopeValid py raw && (payload.getJson "node_id").isOptStr
    && (payload.getJson "session_token").isOptStr && (payload.getJson "cameraId").isOptStr
    && isOptFloat py (payload.getJson "uptime_sec")

/-- `DisconnectMessage.model_validate`, past `node_id` and `session_token`. -/
def disconnectValid (py : Python) (raw payload : Dict String Json) : Bool :=
  envelopeValid py raw && (payload.getJson "reason").isOptStr

namespace Server

/-- `_build_error` as the answer to a message with the given correlation id. -/
def buildError (s : Server) (id : Json) (nodeId : Option String) (errorCode message : String) :
    Outcome where
  server := s
  answer := .reply { payload := .error nodeId errorCode message, id := id }

/-- `_build_error` alone. -/
def fail (s : Server) (errorCode message : String) : Outcome :=
  s.buildError .null none errorCode message

/-- `get_connection`. -/
def connectionOf (s : Server) (nodeId : Json) : Option Socket :=
  match nodeId with
  | .str node => s.activeConnections.get? node
  | _ => none

/-- Unregister a node: `remove_session`, then `disconnect` up to its await. -/
def unregister (s : Server) (nodeId : String) : Server :=
  { s with
    sessions := s.sessions.removeSession nodeId
    activeConnections := s.activeConnections.erase nodeId }

/-- `create_session` with the token that `uuid4` yields. -/
def createSession (py : Python) (s : Server) (r : Reading) (nodeId direction : String)
    (streaming : Bool) : Server :=
  { s with
    sessions := s.sessions.createSession py nodeId direction r.uuid r.time streaming
    issued := ⟨r.uuid, nodeId, cleanDirection py direction⟩ :: s.issued }

/-! ## Frames -/

/-- A timestamp the client sent, if it is a finite number, else `default`. -/
def finiteOr (j : Json) (default : Json) : Except PyError Json :=
  match j.isFiniteNumber with
  | .error e => .error e
  | .ok true => .ok j
  | .ok false => .ok default

/-- The payload with `capture_timestamp`, `upload_timestamp` and `frame_id` filled in. -/
def stampPayload (r : Reading) (direction : String) (payload : Dict String Json) :
    Except PyError (Dict String Json) :=
  match finiteOr (payload.getJson "capture_timestamp") (.float (.finite (r.time * 1000))) with
  | .error e => .error e
  | .ok cap =>
      let payload := payload.set "capture_timestamp" cap
      match finiteOr ((payload.get? "upload_timestamp").getD cap) cap with
      | .error e => .error e
      | .ok upload =>
          let payload := payload.set "upload_timestamp" upload
          .ok (if payload.contains "frame_id" then payload
            else payload.set "frame_id" (.str s!"{direction}-{r.timeNs}"))

/-- A nonempty `frame_data` string of at most two million characters. -/
def frameDataValid (payload : Dict String Json) : Bool :=
  match payload.getJson "frame_data" with
  | .str data => data ≠ "" && data.length ≤ 2000000
  | _ => false

/-- `_handle_video_frame` from the running test on: count the frame and put it into its slot. -/
def enqueueFrame (s : Server) (r : Reading) (direction : String) (payload : Dict String Json)
    (decoded : Bool) (ownerSocket : Socket) : Outcome :=
  if s.systemRunning = false then s.fail "SYSTEM_PAUSED" "System is paused"
  else
    -- a frame that still waits in the slot is superseded and counts as dropped
    let superseded := if s.latestFrames.contains direction then 1 else 0
    let s := { s with
      stageCounters.received := s.stageCounters.received + 1
      stageCounters.dropped := s.stageCounters.dropped + superseded
      droppedFramesCount := s.droppedFramesCount + superseded }
    match stampPayload r direction payload with
    | .error e => { server := s, answer := .raised e }
    | .ok payload =>
        let packet : Packet :=
          { payload := payload, decoded := decoded, ownerSocket := ownerSocket
            backendReceiveTimestamp := ⌊r.time * 1000⌋, backendReceiveMonotonic := r.monotonic }
        { server := { s with
            latestFrames := s.latestFrames.set direction packet
            batchReady := true }
          answer := .silent
          effect := some (.admitted direction packet) }

def handleVideoFrame (py : Python) (s : Server) (r : Reading) (payload : Dict String Json)
    (decoded : Bool) (ownerSocket : Socket) : Outcome :=
  if !decoded && (payload.getJson "decoded_image").isNull && !frameDataValid payload then
    s.fail "INVALID_FRAME" "JPEG base64 must be nonempty and below 2MB"
  else
    match (payload.getJson "direction").orElse ((payload.getJson "camera_direction").orElse
      ((payload.getJson "assigned_direction").orElse (.str "north"))) with
    | .str direction => s.enqueueFrame r (py.lower direction) payload decoded ownerSocket
    | _ => { server := s, answer := .raised .attributeError }

def submitDecodedFrame (py : Python) (s : Server) (r : Reading) (direction nodeId token : String)
    (websocket : Socket) (frameId : Int) (receivedMs : Rat) : Outcome :=
  let silent : Outcome := { server := s, answer := .silent }
  match s.systemRunning, s.sessions.validateSession (.str nodeId) (.str token) r.time,
      s.sessions.sessions.get? nodeId with
  | true, .ok true, some session =>
      if s.activeConnections.get? nodeId ≠ some websocket then silent
      else if session.streaming = false ∨ session.cameraDirection ≠ direction then silent
      else
        let payload : Dict String Json := (∅ : Dict String Json)
          |>.set "direction" (.str direction) |>.set "node_id" (.str nodeId)
          |>.set "session_token" (.str token) |>.set "frame_id" (.str s!"{nodeId}-{frameId}")
          |>.set "capture_timestamp" (.float (.finite receivedMs))
          |>.set "upload_timestamp" (.float (.finite receivedMs))
          |>.set "source_kind" (.str "video")
        { s with sessions := s.sessions.beat nodeId r.time }.handleVideoFrame py r payload true
          websocket
  | _, _, _ => silent

/-! ## Heartbeat and disconnect -/

def handleHeartbeat (py : Python) (s : Server) (r : Reading) (raw payload : Dict String Json) :
    Outcome :=
  let nodeId := (payload.getJson "node_id").orElse
    ((payload.getJson "cameraId").orElse (.str "CAM-001"))
  let token := (payload.getJson "session_token").orElse ((raw.getJson "token").orElse (.str ""))
  let payload := (payload.set "node_id" nodeId).set "session_token" token
  match nodeId, heartbeatValid py raw payload with
  | .str node, true =>
      match s.sessions.validateSession nodeId token r.time with
      | .error e => { server := s, answer := .raised e }
      | .ok false =>
          s.buildError .null (some node) "UNAUTHORIZED_SESSION"
            s!"Session token invalid or expired for node '{node}'."
      | .ok true =>
          { server := { s with sessions := s.sessions.beat node r.time }
            answer := .reply { payload := .heartbeatAck node (raw.getJson "timestamp") } }
  | _, _ =>
      s.fail "INVALID_HEARTBEAT_PAYLOAD" s!"Schema validation error: {py.validationError payload}"

/-- `_handle_disconnect`. Whatever is wrong with the message is logged only. -/
def handleDisconnect (py : Python) (s : Server) (r : Reading) (raw payload : Dict String Json) :
    Outcome :=
  let nodeId := (payload.getJson "node_id").orElse
    ((payload.getJson "cameraId").orElse (.str "CAM-001"))
  let token := (payload.getJson "session_token").orElse ((raw.getJson "token").orElse (.str ""))
  let silent : Outcome := { server := s, answer := .silent }
  match nodeId, token, disconnectValid py raw payload with
  | .str node, .str _, true =>
      match s.sessions.validateSession nodeId token r.time with
      | .ok true => { server := s.unregister node, answer := .silent }
      | _ => silent
  | _, _, _ => silent

/-! ## Registration -/

/-- `_handle_register_camera` from the return of `connect` on. -/
def completeRegistration (py : Python) (s : Server) (r : Reading) (reg : Registration) : Outcome :=
  let connected := { s with activeConnections := s.activeConnections.set reg.nodeId reg.socket }
  let created := connected.createSession py r reg.nodeId reg.direction s.systemRunning
  -- a QR is good for one registration
  let cleared := { created with
    sessions := if reg.isPairingAuthorized then created.sessions.clearPairing py reg.direction
      else created.sessions }
  let ack : RegistrationAck :=
    { nodeId := reg.nodeId, sessionToken := r.uuid, assignedDirection := reg.direction
      assignedLane := s!"{py.capitalize reg.direction} Intersection - Lane 1"
      cameraId := reg.nodeId }
  ({ server := cleared, answer := .reply { payload := .registrationAck ack } } : Outcome).echo
    reg.correlationId

/-- `connect` up to its await, and the rest at once when no socket is replaced. -/
def connect (py : Python) (s : Server) (r : Reading) (reg : Registration) : Outcome :=
  -- the replaced socket is closed across an await, and only then is the new one entered
  if s.activeConnections.contains reg.nodeId then
    { server := { s with
        activeConnections := s.activeConnections.erase reg.nodeId
        registering := s.registering ++ [reg] }
      answer := .awaiting }
  else s.completeRegistration py r reg

/-- The direction a registration asks for, before it is lowered. -/
def requestedDirection (py : Python) (payload : Dict String Json) (nodeId : Json) : Json :=
  let direction := (payload.getJson "camera_direction").orElse (payload.getJson "assignedLane")
  if direction.truthy then direction
  else
    -- fall back on a direction named in the node id
    let upper := py.upper (py.strOf nodeId)
    let named := ["NORTH", "SOUTH", "EAST", "WEST"].find? fun d => d.toList <:+: upper.toList
    .str ((named.map py.lower).getD "north")

/-- The token presented is that of the node's own live session for the direction. -/
def isReconnect (s : Server) (nodeId direction token : String) (now : Rat) : Bool :=
  (s.sessions.sessions.get? nodeId).any fun session =>
    session.cameraDirection = direction && session.sessionToken = token && !session.isExpired now

/-- Another node holds a live session for the direction. -/
def isOccupied (py : Python) (s : Server) (nodeId : Json) (direction : String) (now : Rat) : Bool :=
  (s.sessions.getSessionByDirection py direction now).any fun previous =>
    !nodeId.isStr previous.nodeId

/-- `_handle_register_camera` from the authorisation on: the node and the direction are known. -/
def registerNode (py : Python) (s : Server) (r : Reading) (raw payload : Dict String Json)
    (nodeId : Json) (direction : String) (hd : direction ∈ directions) (websocket : Socket) :
    Outcome :=
  let token := py.strOf ((raw.getJson "token").orElse (.str ""))
  let isReconnect := s.isReconnect (py.strOf nodeId) direction token r.time
  -- looking at the pairing clears it when it has expired, whatever comes next
  let (isPairingAuthorized, sessions) :=
    s.sessions.validatePairing py direction (py.strOf nodeId) token r.time
  let s := { s with sessions := sessions }
  if !isPairingAuthorized && !isReconnect then
    s.fail "UNAUTHORIZED_PAIRING" "Pairing QR is invalid, expired, or belongs to another direction"
  else if s.isOccupied py nodeId direction r.time then
    s.fail "DIRECTION_OCCUPIED" "Disconnect the existing camera for this direction first"
  else
    let payload := (payload.set "node_id" nodeId).set "camera_direction" (.str direction)
    match nodeId, registrationValid py raw payload with
    | .str node, true =>
        s.connect py r
          { nodeId := node, direction := direction, token := token, socket := websocket
            isPairingAuthorized := isPairingAuthorized, correlationId := raw.getJson "id"
            direction_mem := hd }
    | _, _ =>
        s.fail "INVALID_REGISTRATION_PAYLOAD"
          s!"Schema validation error: {py.validationError payload}"

/-- `_handle_register_camera` up to its await. -/
def handleRegisterCamera (py : Python) (s : Server) (r : Reading) (raw : Dict String Json)
    (websocket : Socket) : Outcome :=
  let payload := (payloadOf raw).toDict.getD ∅
  let nodeId := (payload.getJson "node_id").orElse ((payload.getJson "session").orElse
    ((payload.getJson "cameraId").orElse ((raw.getJson "token").orElse (.str "CAM-001"))))
  let direction := py.lower (py.strOf (requestedDirection py payload nodeId))
  if hd : direction ∈ directions then
    s.registerNode py r raw payload nodeId direction hd websocket
  else s.fail "INVALID_DIRECTION" "Choose north, south, east or west"

/-! ## Dispatch -/

/-- What an authenticated message of a session leads to. -/
def route (py : Python) (s : Server) (r : Reading) (raw payload : Dict String Json)
    (msgType : MessageType) (session : NodeSession) (websocket : Socket) : Outcome :=
  let correlationId := raw.getJson "id"
  match msgType with
  | .webrtcOffer => { server := s, answer := .webrtc }
  | .webrtcStop => { server := s, answer := .webrtc }
  | .startStream =>
      if s.systemRunning = false then
        s.fail "SYSTEM_PAUSED" "Start the system from the dashboard first"
      else
        { server := { s with sessions := s.sessions.setStreaming session.nodeId true }
          answer := .reply { payload := .stream .startStream, id := correlationId } }
  | .stopStream =>
      { server := { s with sessions := s.sessions.setStreaming session.nodeId false }
        answer := .reply { payload := .stream .stopStream, id := correlationId } }
  | .videoFrame =>
      if session.streaming = false then s.fail "STREAM_PAUSED" "Request START_STREAM first"
      else (s.handleVideoFrame py r payload false websocket).echo correlationId
  | .heartbeat => (s.handleHeartbeat py r raw payload).echo correlationId
  | .disconnect => s.handleDisconnect py r raw payload
  | _ =>
      (s.fail "UNSUPPORTED_ACTION" s!"Action '{msgType.value}' is not supported.").echo
        correlationId

/-- Compare the direction a message names, if any, with the one of its session. -/
def directionMismatch (py : Python) (direction : Json) (session : NodeSession) :
    Except PyError Bool :=
  if direction.truthy then
    match direction with
    | .str d => .ok (py.lower d ≠ session.cameraDirection)
    | _ => .error .attributeError
  else .ok false

/-- `process_message` on a message other than REGISTER_CAMERA: authenticate the sender first. -/
def processAuthenticated (py : Python) (s : Server) (r : Reading) (raw : Dict String Json)
    (msgType : MessageType) (websocket : Socket) : Outcome :=
  match (payloadOf raw).toDict with
  | none => s.fail "INVALID_PAYLOAD" "payload must be an object"
  | some payload =>
      let nodeId := (payload.getJson "node_id").orElse (payload.getJson "cameraId")
      let token := (payload.getJson "session_token").orElse (raw.getJson "token")
      match s.sessions.validateSession nodeId token r.time, nodeId with
      | .error e, _ => { server := s, answer := .raised e }
      | .ok true, .str node =>
          match s.sessions.sessions.get? node with
          | none => s.fail "UNAUTHORIZED_SESSION" "Register this connection first"
          | some session =>
              if s.activeConnections.get? node ≠ some websocket then
                s.fail "UNAUTHORIZED_SESSION" "Register this connection first"
              else
                -- any message of an owner counts as a heartbeat
                let s := { s with sessions := s.sessions.beat node r.time }
                let direction :=
                  (payload.getJson "direction").orElse (payload.getJson "camera_direction")
                match directionMismatch py direction session with
                | .error e => { server := s, answer := .raised e }
                | .ok true =>
                    s.fail "DIRECTION_MISMATCH" "Frame direction does not match registration"
                | .ok false =>
                    -- the server's own direction and token replace what the client wrote
                    let payload := (payload.set "direction" (.str session.cameraDirection)).set
                      "session_token" token
                    s.route py r raw payload msgType session websocket
      | .ok _, _ => s.fail "UNAUTHORIZED_SESSION" "Register this connection first"

def processMessage (py : Python) (s : Server) (r : Reading) (rawJson : Json) (websocket : Socket) :
    Outcome :=
  match rawJson.toDict with
  | none => s.fail "MALFORMED_JSON" "Payload must be a JSON object."
  | some raw =>
      let msgTypeStr := (raw.getJson "message_type").orElse (raw.getJson "type")
      let protoVer := (raw.get? "protocol_version").getD (.str protocolVersion)
      let correlationId := raw.getJson "id"
      if msgTypeStr.truthy = false then
        s.fail "MISSING_MESSAGE_TYPE" "Field 'message_type' or 'type' is required."
      else if protoVer.isStr protocolVersion = false then
        s.buildError correlationId none "PROTOCOL_VERSION_MISMATCH"
          s!"Server requires protocol version '{protocolVersion}', received '{py.strOf protoVer}'."
      else
        match MessageType.ofValue msgTypeStr with
        | none =>
            s.buildError correlationId none "UNKNOWN_MESSAGE_TYPE"
              s!"Unknown message type '{py.strOf msgTypeStr}'."
        | some .registerCamera => (s.handleRegisterCamera py r raw websocket).echo correlationId
        | some msgType => s.processAuthenticated py r raw msgType websocket

end Server

end SmartTraffic
