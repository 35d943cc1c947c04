import SmartTraffic.Lib.Lease
import SmartTraffic.Server.EventLoop

/-!
# The WebRTC ingest

`WebRTCIngest`: the peers, their negotiation, their receiver and sampler tasks
and their cleanup, cut at the awaits. A peer is known by its place in the list of
all peers made so far, a task by its place in the list of all tasks.

aiortc is an input. It parses offers, and it may deliver frames, tracks and
changes of state for any peer at any time, also for one that has been replaced.
Everything else on the event loop, from the expiry of sessions to the operator's
commands, is an `Action` of the server. What a frame shows and how long a sampler
sleeps are left out.
-/

namespace SmartTraffic

open Lib

/-- `peer.latest`, but for the image. -/
structure LatestFrame where
  frameId : Nat
  receivedMs : Rat
  deriving DecidableEq, Repr

/-- `_Peer`. -/
structure Peer where
  nodeId : String
  token : String
  websocket : Socket
  tasks : List Nat := []
  latest : Option LatestFrame := none
  ready : Bool := false
  frameId : Nat := 0
  deriving DecidableEq, Repr

/-- Where a task of a peer is. -/
inductive TaskState
  /-- `_receive` awaits `track.recv()`. -/
  | receiving
  /-- `_sample` awaits `ready`. -/
  | waiting
  | sleeping
  /-- `_sample` awaits the conversion of a frame it has taken. -/
  | converting (frame : LatestFrame)
  | ended
  deriving DecidableEq, Repr

/-- The task is a sampler that has not ended. -/
def TaskState.samples : TaskState → Bool
  | .receiving => false
  | .waiting => true
  | .sleeping => true
  | .converting _ => true
  | .ended => false

structure PeerTask where
  peer : Nat
  state : TaskState
  /-- `cancel` was called, and the task has not run since. -/
  cancelled : Bool := false
  deriving DecidableEq, Repr

/-- Where a call of `_close_peer` is. -/
inductive Closing
  /-- Its task has been created and has not run yet. -/
  | scheduled (peer : Nat)
  /-- It awaits the tasks it has cancelled. -/
  | gathering (peer : Nat) (tasks : List Nat)
  /-- It awaits `pc.close()`. -/
  | closingPc (peer : Nat)
  | closed
  deriving DecidableEq, Repr

/-- The peers and their tasks. -/
structure PeerTable where
  /-- `self.peers`. -/
  peers : Dict String Nat := ∅
  /-- The peers made so far. -/
  made : List Peer := []
  /-- The tasks made so far. -/
  tasks : List PeerTask := []

namespace PeerTable

/-- A new peer takes the place of its node. -/
def register (t : PeerTable) (nodeId token : String) (websocket : Socket) : PeerTable :=
  { t with
    peers := t.peers.set nodeId t.made.length
    made := t.made ++ [{ nodeId := nodeId, token := token, websocket := websocket }] }

/-- `self.peers.get(peer.node_id) is peer`. -/
def isCurrent (t : PeerTable) (p : Nat) : Bool :=
  (t.made[p]?).any fun peer => t.peers.get? peer.nodeId = some p

def modifyPeer (t : PeerTable) (p : Nat) (f : Peer → Peer) : PeerTable :=
  { t with made := t.made.modify p f }

def setTask (t : PeerTable) (k : Nat) (state : TaskState) : PeerTable :=
  { t with tasks := t.tasks.modify k fun task => { task with state := state } }

/-- The peer leaves the table if it is in it. -/
def drop (t : PeerTable) (p : Nat) : PeerTable :=
  match t.made[p]? with
  | none => t
  | some peer =>
      if t.peers.get? peer.nodeId = some p then { t with peers := t.peers.erase peer.nodeId } else t

/-- `task.cancel()` on each of the tasks. -/
def cancel (t : PeerTable) (tasks : List Nat) : PeerTable :=
  { t with
    tasks := t.tasks.mapIdx fun k task =>
      if k ∈ tasks ∧ task.state ≠ .ended then { task with cancelled := true } else task }

/-- The peer after its tasks have been gathered. -/
def clear (t : PeerTable) (p : Nat) : PeerTable :=
  t.modifyPeer p fun peer => { peer with tasks := [], latest := none }

/-- `_close_peer` up to its first await. It never runs in one of the peer's own tasks. -/
def closePeer (t : PeerTable) (p : Nat) : PeerTable × Closing :=
  match t.made[p]? with
  | none => (t, .closed)
  | some peer =>
      let t := (t.drop p).cancel peer.tasks
      if peer.tasks = [] then (t.clear p, .closingPc p) else (t, .gathering p peer.tasks)

/-- The tasks that are gathered have all ended. -/
def haveEnded (t : PeerTable) (tasks : List Nat) : Bool :=
  tasks.all fun k => (t.tasks[k]?).all fun task => task.state = .ended

/-- `_close_peer` up to its next await. -/
def resume (t : PeerTable) : Closing → PeerTable × Closing
  | .scheduled p => t.closePeer p
  | .gathering p tasks =>
      if t.haveEnded tasks then (t.clear p, .closingPc p) else (t, .gathering p tasks)
  | .closingPc _ => (t, .closed)
  | .closed => (t, .closed)

/-- The receiver and the sampler of a peer are created. -/
def spawn (t : PeerTable) (p : Nat) : PeerTable :=
  let k := t.tasks.length
  { t.modifyPeer p fun peer => { peer with tasks := [k, k + 1] } with
    tasks := t.tasks ++ [{ peer := p, state := .receiving }, { peer := p, state := .waiting }] }

/-- The next frame of a peer, at the given time in milliseconds. -/
def number (t : PeerTable) (p : Nat) (receivedMs : Rat) : PeerTable :=
  t.modifyPeer p fun peer =>
    { peer with
      frameId := peer.frameId + 1
      latest := some { frameId := peer.frameId + 1, receivedMs := receivedMs }
      ready := true }

/-- The latest frame leaves the peer. -/
def takeLatest (t : PeerTable) (p : Nat) : PeerTable :=
  t.modifyPeer p fun peer => { peer with latest := none, ready := false }

/-- A task that has not ended, with its peer. -/
def taskOf (t : PeerTable) (k : Nat) : Option (PeerTask × Peer) :=
  match t.tasks[k]? with
  | none => none
  | some task => (t.made[task.peer]?).map fun peer => (task, peer)

end PeerTable

/-! ## The ingest -/

/-- A media section of a session description. -/
structure MediaDescription where
  kind : String
  direction : Option String
  deriving DecidableEq, Repr

/-- What is used of aiortc besides its callbacks. -/
structure Aiortc where
  /-- `SessionDescription.parse`, as far as its `media` are read; `none` when it raises. -/
  parse : String → Option (List MediaDescription)

inductive OfferError
  | valueError (message : String)
  | permissionError (message : String)
  /-- Whatever an await has raised: a timeout, a cancellation, an error of aiortc. -/
  | interrupted
  deriving DecidableEq, Repr

inductive OfferStage
  /-- It awaits `_close_peer(old)`. -/
  | replacing (closing : Closing)
  /-- It awaits aiortc. -/
  | negotiating
  /-- It awaits `_close_peer(peer)` before it raises. -/
  | failing (closing : Closing) (error : OfferError)
  | done
  deriving DecidableEq, Repr

/-- A call of `offer` that has registered its peer. -/
structure Offer where
  peer : Nat
  stage : OfferStage
  deriving DecidableEq, Repr

/-- The arguments of a call of `submit_decoded_frame`, but for the image, and the peer it is for. -/
structure SubmitCall where
  peer : Nat
  direction : String
  nodeId : String
  token : String
  websocket : Socket
  frameId : Nat
  receivedMs : Rat
  deriving DecidableEq, Repr

/-- What is seen of a stretch. -/
inductive IngestEffect
  /-- `offer` puts a new peer into the table. -/
  | registered (nodeId : String) (peer : Nat)
  /-- `offer` returns the answer of its peer. -/
  | answered (nodeId : String) (peer : Nat)
  | raised (error : OfferError)
  /-- A frame gets its id. -/
  | numbered (peer : Nat) (frameId : Nat)
  | submitted (call : SubmitCall)
  deriving DecidableEq, Repr

/-- One stretch of a task. -/
inductive IngestAction
  /-- Something else runs on the event loop. -/
  | environment (action : Action)
  | offer (nodeId token : String) (websocket : Socket) (sdp : Json)
  /-- What an offer awaits has returned. -/
  | offerResumes (k : Nat)
  /-- What an offer awaits has raised. -/
  | offerInterrupted (k : Nat)
  | track (peer : Nat) (kind : String)
  | connectionStateChange (peer : Nat) (connectionState : String)
  /-- `track.recv()` returns a frame. -/
  | received (task : Nat)
  | recvRaises (task : Nat)
  /-- `ready.wait()` returns. -/
  | woken (task : Nat)
  /-- `sleep` returns. -/
  | slept (task : Nat)
  /-- `to_thread` returns the image. -/
  | converted (task : Nat)
  | conversionRaises (task : Nat)
  /-- A task gets its `CancelledError`. -/
  | cancelled (task : Nat)
  | closingResumes (k : Nat)
  /-- `pc.close()` raises, or the closing is cancelled. -/
  | closingRaises (k : Nat)
  | close (nodeId : String) (websocket : Option Socket)
  | shutdown

structure WebRTCIngest where
  server : Server
  table : PeerTable := {}
  /-- The offers that have registered a peer. -/
  offers : List Offer := []
  /-- The calls of `_close_peer` that no offer makes. -/
  closings : List Closing := []
  /-- `_closed`. -/
  closed : Bool := false

namespace WebRTCIngest

/-- `_session`. -/
def session (s : WebRTCIngest) (now : Rat) (p : Nat) : Option NodeSession :=
  match s.table.made[p]? with
  | none => none
  | some peer =>
      if s.table.peers.get? peer.nodeId ≠ some p then none
      else
        match s.server.sessions.validateSession (.str peer.nodeId) (.str peer.token) now with
        | .ok true =>
            if s.server.activeConnections.get? peer.nodeId ≠ some peer.websocket then none
            else s.server.sessions.sessions.get? peer.nodeId
        | _ => none

/-- `_streaming`. -/
def streaming (s : WebRTCIngest) (now : Rat) (p : Nat) : Option NodeSession :=
  (s.session now p).filter fun session => session.streaming && s.server.systemRunning

/-- `_schedule_close`. -/
def scheduleClose (s : WebRTCIngest) (p : Nat) : WebRTCIngest :=
  { s with closings := s.closings ++ [.scheduled p] }

/-! ### Offers -/

/-- The test on the media of an offer. -/
def sendsOneVideo : List MediaDescription → Bool
  | [media] => media.kind = "video"
      && (media.direction = some "sendonly" || media.direction = some "sendrecv")
  | _ => false

/-- What is wrong with the description that is offered. -/
def checkDescription (aiortc : Aiortc) (sdp : Json) : Option OfferError :=
  match sdp with
  | .str text =>
      if 100000 < text.length then some (.valueError "Invalid SDP offer")
      else
        match aiortc.parse text with
        | none => some (.valueError "Invalid SDP offer")
        | some media =>
            if sendsOneVideo media then none
            else some (.valueError "Offer must send exactly one video track and no audio or data")
  | _ => some (.valueError "Invalid SDP offer")

/-- `offer` before it makes a peer. -/
def checkOffer (aiortc : Aiortc) (s : WebRTCIngest) (now : Rat) (nodeId token : String)
    (websocket : Socket) (sdp : Json) : Option OfferError :=
  if s.closed then some (.valueError "WebRTC ingest is shut down")
  else
    match s.server.sessions.validateSession (.str nodeId) (.str token) now with
    | .ok true =>
        if s.server.activeConnections.get? nodeId ≠ some websocket then
          some (.permissionError "Invalid camera session")
        else checkDescription aiortc sdp
    | _ => some (.permissionError "Invalid camera session")

/-- `offer` from the making of the peer up to the first await. -/
def register (s : WebRTCIngest) (nodeId token : String) (websocket : Socket) : WebRTCIngest :=
  let p := s.table.made.length
  let table := s.table.register nodeId token websocket
  match s.table.peers.get? nodeId with
  | none => { s with table := table, offers := s.offers ++ [⟨p, .negotiating⟩] }
  | some old =>
      -- the new peer has the place by then, so the old one is not popped here
      let (table, closing) := table.closePeer old
      { s with table := table, offers := s.offers ++ [⟨p, .replacing closing⟩] }

def offer (aiortc : Aiortc) (s : WebRTCIngest) (now : Rat) (nodeId token : String)
    (websocket : Socket) (sdp : Json) : WebRTCIngest × Option IngestEffect :=
  match s.checkOffer aiortc now nodeId token websocket sdp with
  | some error => (s, some (.raised error))
  | none => (s.register nodeId token websocket, some (.registered nodeId s.table.made.length))

def setOffer (s : WebRTCIngest) (k : Nat) (stage : OfferStage) : WebRTCIngest :=
  { s with offers := s.offers.modify k fun o => { o with stage := stage } }

/-- The handler of whatever the negotiation raises, up to its await. -/
def failOffer (s : WebRTCIngest) (k p : Nat) (error : OfferError) : WebRTCIngest :=
  let (table, closing) := s.table.closePeer p
  { s with table := table }.setOffer k (.failing closing error)

def offerResumes (s : WebRTCIngest) (now : Rat) (k : Nat) : WebRTCIngest × Option IngestEffect :=
  match s.offers[k]? with
  | none => (s, none)
  | some { peer := _, stage := .replacing closing } =>
      let (table, closing) := s.table.resume closing
      let stage := if closing = .closed then .negotiating else .replacing closing
      ({ s with table := table }.setOffer k stage, none)
  | some { peer := p, stage := .negotiating } =>
      -- the answer is returned in the stretch of this test
      match s.table.made[p]?, s.session now p with
      | some peer, some _ => (s.setOffer k .done, some (.answered peer.nodeId p))
      | _, _ =>
          let error := .permissionError "Camera session changed during negotiation"
          (s.failOffer k p error, none)
  | some { peer := _, stage := .failing closing error } =>
      let (table, closing) := s.table.resume closing
      let s := { s with table := table }
      if closing = .closed then (s.setOffer k .done, some (.raised error))
      else (s.setOffer k (.failing closing error), none)
  | some { peer := _, stage := .done } => (s, none)

def offerInterrupted (s : WebRTCIngest) (k : Nat) : WebRTCIngest × Option IngestEffect :=
  match s.offers[k]? with
  | none => (s, none)
  | some { peer := p, stage := .replacing _ } => (s.failOffer k p .interrupted, none)
  | some { peer := p, stage := .negotiating } => (s.failOffer k p .interrupted, none)
  | some { peer := _, stage := .failing _ _ } =>
      (s.setOffer k .done, some (.raised .interrupted))
  | some { peer := _, stage := .done } => (s, none)

/-! ### Callbacks -/

/-- `on_track`. -/
def onTrack (s : WebRTCIngest) (p : Nat) (kind : String) : WebRTCIngest :=
  match s.table.made[p]? with
  | none => s
  | some peer =>
      if kind ≠ "video" ∨ peer.tasks ≠ [] then s.scheduleClose p
      else { s with table := s.table.spawn p }

/-- `on_state_change`. -/
def onStateChange (s : WebRTCIngest) (p : Nat) (connectionState : String) : WebRTCIngest :=
  if connectionState ∈ ["failed", "closed"] ∧ s.table.isCurrent p then s.scheduleClose p else s

/-! ### Receiver and sampler -/

/-- `_receive` ends. -/
def endReceive (s : WebRTCIngest) (k p : Nat) : WebRTCIngest :=
  let s := { s with table := s.table.setTask k .ended }
  if s.table.isCurrent p then s.scheduleClose p else s

/-- `_receive` with a frame. aiortc may still hand one over after a `cancel`. -/
def received (s : WebRTCIngest) (now : Rat) (k : Nat) : WebRTCIngest × Option IngestEffect :=
  match s.table.taskOf k with
  | some ({ peer := p, state := .receiving, cancelled := _ }, peer) =>
      match s.session now p, s.streaming now p with
      | none, _ => (s.endReceive k p, none)
      | some _, none =>
          let table := s.table.modifyPeer p fun peer => { peer with latest := none }
          ({ s with table := table }, none)
      | some _, some _ =>
          ({ s with table := s.table.number p (now * 1000) },
           some (.numbered p (peer.frameId + 1)))
  | _ => (s, none)

/-- `track.recv()` raises. -/
def recvRaises (s : WebRTCIngest) (k : Nat) : WebRTCIngest :=
  match s.table.tasks[k]? with
  | some { peer := p, state := .receiving, cancelled := _ } => s.endReceive k p
  | _ => s

/-- `_sample` sees `ready`. -/
def woken (s : WebRTCIngest) (k : Nat) : WebRTCIngest :=
  match s.table.taskOf k with
  | some ({ peer := _, state := .waiting, cancelled := false }, peer) =>
      if peer.ready then { s with table := s.table.setTask k .sleeping } else s
  | _ => s

/-- `_sample` takes the latest frame and starts its conversion. -/
def slept (s : WebRTCIngest) (now : Rat) (k : Nat) : WebRTCIngest :=
  match s.table.taskOf k with
  | some ({ peer := p, state := .sleeping, cancelled := false }, peer) =>
      let table := s.table.takeLatest p
      match peer.latest, s.streaming now p with
      | some frame, some _ => { s with table := table.setTask k (.converting frame) }
      | _, _ => { s with table := table.setTask k .waiting }
  | _ => s

/-- `_sample` with the image: whatever has changed meanwhile is looked at again. -/
def converted (py : Python) (s : WebRTCIngest) (r : Reading) (k : Nat) :
    WebRTCIngest × Option IngestEffect :=
  match s.table.taskOf k with
  | some ({ peer := p, state := .converting frame, cancelled := false }, peer) =>
      match s.streaming r.time p with
      | none => ({ s with table := s.table.setTask k .waiting }, none)
      | some session =>
          let call : SubmitCall :=
            { peer := p, direction := session.cameraDirection, nodeId := peer.nodeId
              token := peer.token, websocket := peer.websocket, frameId := frame.frameId
              receivedMs := frame.receivedMs }
          let o := s.server.submitDecodedFrame py r call.direction call.nodeId call.token
            call.websocket call.frameId call.receivedMs
          let s := { s with server := o.server }
          match o.answer with
          | .raised _ =>
              ({ s with table := s.table.setTask k .ended }.scheduleClose p,
               some (.submitted call))
          | _ => ({ s with table := s.table.setTask k .waiting }, some (.submitted call))
  | _ => (s, none)

/-- `_sample` fails. -/
def conversionRaises (s : WebRTCIngest) (k : Nat) : WebRTCIngest :=
  match s.table.tasks[k]? with
  | some { peer := p, state := .converting _, cancelled := false } =>
      { s with table := s.table.setTask k .ended }.scheduleClose p
  | _ => s

/-- A task that was cancelled runs once more. -/
def cancelled (s : WebRTCIngest) (k : Nat) : WebRTCIngest :=
  match s.table.tasks[k]? with
  | some { peer := p, state := .receiving, cancelled := true } => s.endReceive k p
  | some { peer := _, state := _, cancelled := true } =>
      { s with table := s.table.setTask k .ended }
  | _ => s

/-! ### Closing -/

def closingResumes (s : WebRTCIngest) (k : Nat) : WebRTCIngest :=
  match s.closings[k]? with
  | none => s
  | some closing =>
      let (table, closing) := s.table.resume closing
      { s with table := table, closings := s.closings.set k closing }

/-- `close`, up to its first await. -/
def close (s : WebRTCIngest) (nodeId : String) (websocket : Option Socket) : WebRTCIngest :=
  match s.table.peers.get? nodeId with
  | none => s
  | some p =>
      if websocket.isNone ∨ (s.table.made[p]?).map (·.websocket) = websocket then
        let (table, closing) := s.table.closePeer p
        { s with table := table, closings := s.closings ++ [closing] }
      else s

/-- `shutdown`, up to its first await. -/
def shutdown (s : WebRTCIngest) : WebRTCIngest :=
  { s with closed := true, closings := s.closings ++ s.table.peers.values.map .scheduled }

/-- One stretch, and what is seen of it. -/
def step (py : Python) (aiortc : Aiortc) (s : WebRTCIngest) (i : Reading × IngestAction) :
    WebRTCIngest × Option IngestEffect :=
  match i.2 with
  | .environment action => ({ s with server := (s.server.step py (i.1, action)).1 }, none)
  | .offer nodeId token websocket sdp => s.offer aiortc i.1.time nodeId token websocket sdp
  | .offerResumes k => s.offerResumes i.1.time k
  | .offerInterrupted k => s.offerInterrupted k
  | .track p kind => (s.onTrack p kind, none)
  | .connectionStateChange p state => (s.onStateChange p state, none)
  | .received k => s.received i.1.time k
  | .recvRaises k => (s.recvRaises k, none)
  | .woken k => (s.woken k, none)
  | .slept k => (s.slept i.1.time k, none)
  | .converted k => s.converted py i.1 k
  | .conversionRaises k => (s.conversionRaises k, none)
  | .cancelled k => (s.cancelled k, none)
  | .closingResumes k => (s.closingResumes k, none)
  | .closingRaises k => ({ s with closings := s.closings.set k .closed }, none)
  | .close nodeId websocket => (s.close nodeId websocket, none)
  | .shutdown => (s.shutdown, none)

/-- The ingest of a server before its first offer. -/
def beforeOffers (server : Server) : WebRTCIngest := { server := server }

end WebRTCIngest

end SmartTraffic
