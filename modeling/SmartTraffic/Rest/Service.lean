import SmartTraffic.Rest.Access
import SmartTraffic.Server.EventLoop
import SmartTraffic.Server.Output

/-!
# The REST service of the combined deployment

The operator's requests, cut at their awaits, on one event loop with the cameras, the ticker
and the coordinator, and beside the worker that runs the pipeline. A request is answered
once it has gone through `handle_command`; meanwhile others are taken, and the log records
those that succeed.

The pipeline exists while requests are served. Of the routes that only read, those are
modelled that look at a pairing or at the log.
-/

namespace SmartTraffic.Rest

open SmartTraffic Lib

/-! ## The log -/

/-- An entry of the log; its metadata are always empty. -/
structure LogEntry where
  id : String
  timestamp : Rat
  level : Text
  category : Text
  component : Text
  message : Text
  deriving DecidableEq

/-- `text.upper()`, and `text.lower()`. -/
def upper (text : Text) : Text := text.map Char.toUpper

def lower (text : Text) : Text := text.map Char.toLower

/-- `add_log`. -/
def addLog (logs : List LogEntry) (entry : LogEntry) : List LogEntry :=
  let logs := { entry with level := upper entry.level, category := upper entry.category } :: logs
  if 500 < logs.length then logs.dropLast else logs

/-- The parameters of `get_logs`. -/
structure LogQuery where
  category : Option Text := some ['A', 'L', 'L']
  level : Option Text := some ['A', 'L', 'L']
  search : Option Text := none
  limit : Nat := 100

/-- A filter by one field: an empty value and `ALL` let everything through. -/
def passes (value : Option Text) (field : Text) : Bool :=
  match value with
  | none => true
  | some value => value = [] || upper value = ['A', 'L', 'L'] || field = upper value

/-- `q in text`. -/
def contains (q text : Text) : Bool := text.tails.any fun tail => q.isPrefixOf tail

/-- The search looks at the message, the component and the category. -/
def isFound (search : Option Text) (entry : LogEntry) : Bool :=
  match search with
  | none => true
  | some q =>
      q = [] || contains (lower q) (lower entry.message)
        || contains (lower q) (lower entry.component) || contains (lower q) (lower entry.category)

/-- `get_logs`. -/
def getLogs (logs : List LogEntry) (query : LogQuery) : List LogEntry :=
  (logs.filter fun entry => passes query.category entry.category
    && passes query.level entry.level && isFound query.search entry).take query.limit

/-! ## The nodes -/

inductive NodeStatus
  | connected
  | paired
  | offline
  deriving DecidableEq, Repr

/-- An entry of `get_connected_nodes`, but for what a camera reports of itself. -/
structure NodeItem where
  nodeId : String
  assignedLane : Text
  deviceName : String
  status : NodeStatus
  /-- `none` stands for `Awaiting registration`. -/
  lastHeartbeat : Option Rat
  expiresAt : Option Int
  deriving DecidableEq

/-- `direction.capitalize() + " Approach"`. -/
def approachTitle (direction : String) : Text := (capitalize direction ++ " Approach").toList

/-- The entry of a live session in `payload["nodes"]`. -/
def connectedItem (session : NodeSession) : NodeItem where
  nodeId := session.nodeId
  assignedLane := approachTitle session.cameraDirection
  deviceName := "Mobile camera"
  status := .connected
  lastHeartbeat := some session.lastHeartbeat
  expiresAt := none

/-- The entry of an approach without a node. -/
def slotItem (direction : String) (pairing : Option PairingSession) : NodeItem where
  nodeId := (pairing.map (·.sessionId)).getD ("SLOT-" ++ String.ofList (upper direction.toList))
  assignedLane := approachTitle direction
  deviceName := if pairing.isSome then "Awaiting camera" else "No device connected"
  status := if pairing.isSome then .paired else .offline
  lastHeartbeat := none
  expiresAt := pairing.map fun pairing => truncate (pairing.expiresAt * 1000)

/-- `n["assigned_lane"].lower().startswith(direction)`. -/
def NodeItem.serves (item : NodeItem) (direction : String) : Bool :=
  direction.toList.isPrefixOf (lower item.assignedLane)

/-- One round of the loop over the directions. -/
def addSlot (py : Python) (now : Rat) (acc : List NodeItem × SessionManager) (direction : String) :
    List NodeItem × SessionManager :=
  if acc.1.any (·.serves direction) then acc
  else
    let (pairing, m) := acc.2.getPairing py direction now
    (acc.1 ++ [slotItem direction pairing], m)

/-- The entries of the sessions that are not expired. -/
def liveItems (m : SessionManager) (now : Rat) : List NodeItem :=
  (m.sessions.values.filter fun session => !session.isExpired now).map connectedItem

/-- `get_connected_nodes`, which clears the expired pairings it comes upon. -/
def getConnectedNodes (py : Python) (m : SessionManager) (now : Rat) :
    List NodeItem × SessionManager :=
  ["north", "east", "south", "west"].foldl (addSlot py now) (liveItems m now, m)

/-! ## Requests -/

inductive Request
  /-- `POST /system/start`, `/system/stop` and `/system/restart`. -/
  | command (c : OperatorCommand)
  /-- `POST /system/config`. -/
  | configure (payload : Dict String Json)
  /-- `DELETE /cameras/{direction}`. -/
  | disconnectCamera (direction : Text)
  /-- `POST /cameras/{direction}`. -/
  | configureCamera (direction : Text)
  /-- `GET /qr/generate`; `suffix` is drawn for the session id, and the picture may fail. -/
  | generateQr (direction : Text) (suffix : String) (pictureFails : Bool)
  /-- `GET /mobile-nodes` and `GET /cameras`. -/
  | mobileNodes
  /-- `GET /logs`. -/
  | logs (query : LogQuery)

/-- The route depends on `verify_operator_auth`. -/
def Request.isGuarded : Request → Bool
  | .command _ => true
  | .configure _ => true
  | .disconnectCamera _ => true
  | _ => false

inductive Response
  /-- What `handle_command` returns. -/
  | success (message : Text)
  | pairing (pairing : PairingSession)
  | nodes (items : List NodeItem)
  | logs (entries : List LogEntry)
  | error (error : HttpError)
  /-- A parameter is out of its range, which FastAPI answers with a 422. -/
  | invalid

/-- How far a request has come in `handle_command`. -/
inductive Pending
  /-- `reset_phase` waits for the pipeline lock. -/
  | resetting (c : OperatorCommand)
  /-- `reset_phase` is done. -/
  | reset (c : OperatorCommand)
  /-- `configure` waits for the pipeline lock. -/
  | configuring (settings : Settings)
  /-- The socket of the camera is being closed. -/
  | disconnecting (direction : String)
  /-- Only the return is left. -/
  | returning (message : Text)

structure ControlCentre where
  server : Server := {}
  world : PipelineWorld := {}
  /-- `model_manager.confidence`. -/
  confidence : Rat
  logs : List LogEntry := []
  pending : Dict Nat Pending := ∅
  /-- The number of requests that have come in. -/
  received : Nat := 0

/-- One stretch of a request or of something else in the process. -/
inductive Activity
  /-- A request with this `X-Operator-Token` comes in; `hardware` is the status of the output if
  there is a control manager. -/
  | request (token : Option Text) (request : Request) (hardware : Option HardwareStatus)
  /-- The thread of a pending request gets the pipeline lock. -/
  | thread (id : Nat)
  /-- The next stretch of a pending request on the event loop. -/
  | resume (id : Nat)
  /-- Something else on the event loop. -/
  | server (action : Action)
  /-- The worker runs `process_step`. -/
  | process (input : StepInput)

/-- The stretches of the event loop that belong to requests. -/
def isRequested : Action → Bool
  | .command _ _ => true
  | .resetDone => true
  | .disconnectCommand _ => true
  | .disconnected _ => true
  | .registerPairing _ _ => true
  | .readPairing _ => true
  | _ => false

/-- The answer of `handle_command` to START, STOP and RESTART. -/
def acknowledgement : OperatorCommand → Text
  | .start => "System start acknowledged by runtime".toList
  | .stop => "System stop acknowledged by runtime".toList
  | .restart => "System restart acknowledged by runtime".toList

namespace ControlCentre

/-- The answer that an activity gives to a request. -/
abbrev Answered := ControlCentre × Option (Nat × Response)

def answer (s : ControlCentre) (id : Nat) (response : Response) : Answered :=
  (s, some (id, response))

def suspend (s : ControlCentre) (id : Nat) (stage : Pending) : Answered :=
  ({ s with pending := s.pending.set id stage }, none)

/-- The end of `command`: the result is logged and returned. -/
def finish (s : ControlCentre) (r : Reading) (id : Nat) (message : Text) : Answered :=
  ({ s with
      pending := s.pending.erase id
      logs := addLog s.logs
        { id := r.uuid, timestamp := r.time, level := "INFO".toList, category := "SYSTEM".toList
          component := "Runtime".toList, message := message } },
    some (id, .success message))

/-- `handle_command` with START, STOP or RESTART. -/
def command (s : ControlCentre) (id : Nat) (c : OperatorCommand)
    (hardware : Option HardwareStatus) : Answered :=
  let safe := hardware.all hardwareIsSafeToRun
  let s := { s with server := s.server.handleCommand c safe }
  match hardware with
  | some status =>
      if c ≠ .stop ∧ hardwareIsSafeToRun status = false then
        s.answer id (.error ⟨503, SignalOutput.refusal status⟩)
      else if c.resets then s.suspend id (.resetting c)
      else s.suspend id (.returning (acknowledgement c))
  | none =>
      if c.resets then s.suspend id (.resetting c)
      else s.suspend id (.returning (acknowledgement c))

/-- `configure_system`, and `handle_command` up to its await, which checks the same again. -/
def configure (conv : Conversions) (s : ControlCentre) (id : Nat) (payload : Dict String Json) :
    Answered :=
  match settingsOf conv payload with
  | .error e => s.answer id (.error (configError e))
  | .ok settings => s.suspend id (.configuring settings)

def disconnectCamera (py : Python) (s : ControlCentre) (r : Reading) (id : Nat)
    (direction : String) : Answered :=
  let disconnected := { s with server := s.server.disconnectCommand py r direction }
  if (s.server.sessions.getSessionByDirection py direction r.time).isSome then
    disconnected.suspend id (.disconnecting direction)
  else disconnected.finish r id "Camera disconnected".toList

/-- `generate_qr_payload_and_image`. -/
def generateQr (py : Python) (s : ControlCentre) (r : Reading) (id : Nat) (direction : String)
    (suffix : String) (pictureFails : Bool) : Answered :=
  let pairing : PairingSession :=
    { sessionId := s!"CAM-{String.ofList (upper direction.toList)}-{suffix}", token := r.uuid
      expiresAt := r.time + 300 }
  let s := { s with
    server.sessions := s.server.sessions.registerPairing py direction pairing }
  if pictureFails then s.answer id (.error ⟨500, "Internal Server Error"⟩)
  else s.answer id (.pairing pairing)

/-- The operation of a route, once the operator is verified where that is asked for. -/
def operate (py : Python) (conv : Conversions) (s : ControlCentre) (r : Reading) (id : Nat)
    (request : Request) (hardware : Option HardwareStatus) : Answered :=
  match request with
  | .command c => s.command id c hardware
  | .configure payload => s.configure conv id payload
  | .disconnectCamera direction =>
      match directionValue direction with
      | .error e => s.answer id (.error e)
      | .ok direction => s.disconnectCamera py r id direction
  | .configureCamera direction =>
      match directionValue direction with
      | .error e => s.answer id (.error e)
      | .ok _ =>
          s.answer id (.error ⟨422, "This runtime accepts mobile cameras. Connect a phone using "
            ++ "its direction QR code."⟩)
  | .generateQr direction suffix pictureFails =>
      match directionValue direction with
      | .error e => s.answer id (.error e)
      | .ok direction => s.generateQr py r id direction suffix pictureFails
  | .mobileNodes =>
      let (items, sessions) := getConnectedNodes py s.server.sessions r.time
      { s with server.sessions := sessions }.answer id (.nodes items)
  | .logs query =>
      if 1 ≤ query.limit ∧ query.limit ≤ 1000 then
        s.answer id (.logs (getLogs s.logs query))
      else s.answer id .invalid

/-- A request comes in. -/
def receive (py : Python) (conv : Conversions) (env : OperatorEnviron) (s : ControlCentre)
    (r : Reading) (token : Option Text) (request : Request) (hardware : Option HardwareStatus) :
    Answered :=
  let id := s.received
  let s := { s with received := s.received + 1 }
  match if request.isGuarded then env.verify token else .ok () with
  | .error e => s.answer id (.error e)
  | .ok () => s.operate py conv r id request hardware

/-- The part of a request that runs in a thread. -/
def runThread (s : ControlCentre) (id : Nat) : ControlCentre :=
  match s.pending.get? id with
  | some (.resetting c) =>
      { s with world := s.world.command c, pending := s.pending.set id (.reset c) }
  | some (.configuring settings) =>
      { s with
        confidence := settings.confidence
        world := s.world.configure settings.minGreenSec settings.maxGreenSec
        pending := s.pending.set id
          (.returning "Confidence applied; timing bounds apply from the next phase".toList) }
  | _ => s

/-- A request goes on. -/
def resume (s : ControlCentre) (r : Reading) (id : Nat) : Answered :=
  match s.pending.get? id with
  | some (.reset c) =>
      { s with server := s.server.resetDone }.suspend id (.returning (acknowledgement c))
  | some (.disconnecting direction) =>
      { s with
        server := { s.server.clearDirection direction with
          disconnecting := s.server.disconnecting.erase direction } }.finish r id
        "Camera disconnected".toList
  | some (.returning message) => s.finish r id message
  | _ => (s, none)

def step (py : Python) (conv : Conversions) (env : OperatorEnviron) (s : ControlCentre)
    (i : Reading × Activity) : Answered :=
  match i.2 with
  | .request token request hardware => s.receive py conv env i.1 token request hardware
  | .thread id => (s.runThread id, none)
  | .resume id => s.resume i.1 id
  | .server action =>
      if isRequested action then (s, none)
      else ({ s with server := (s.server.step py (i.1, action)).1 }, none)
  | .process input => ({ s with world := (s.world.processStep input).1 }, none)

end ControlCentre

end SmartTraffic.Rest
