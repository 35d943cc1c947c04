import SmartTraffic.Lib.Mailbox
import SmartTraffic.Lib.Run
import SmartTraffic.Server.Intake

/-!
# The frame slots between the cameras and the coordinator

The coordinator of `EventLoop` takes the slots in one stretch. Here it is cut at
each of its awaits: `batch_ready.wait()`, the 20 ms in which it gathers, the run
of the executor and the publication. `_handle_video_frame` may be called with
anything at any point, and everything else on the event loop goes on as before.

`step_moves` says that the slots and the event are a mailbox of the library, and
`slept_eq_takeBatch` that the finer coordinator does what the coarse one does.
-/

namespace SmartTraffic

open Lib

/-- The camera server, with the coordinator at one of its awaits. -/
structure SlotServer where
  server : Server
  /-- `batch_ready.wait()` has returned, and the coordinator sleeps. -/
  gathering : Bool := false

inductive SlotAction
  /-- `_handle_video_frame` is called with a message of this payload. -/
  | handleVideoFrame (payload : Json) (decoded : Bool) (ownerSocket : Socket)
  /-- `batch_ready.wait()` returns. -/
  | waited
  /-- `asyncio.sleep(.02)` returns. -/
  | slept
  /-- Publishing a result raises. -/
  | publishRaises
  /-- Another stretch of the event loop. -/
  | other (action : Action)

/-- `run_coordinator` takes the slots and clears the event. -/
def Server.drainSlots (s : Server) : Server :=
  { s with
    latestFrames := ∅
    batchReady := false
    coordinator := .inferring s.latestFrames.values }

namespace SlotServer

/-- What the coordinator awaits. -/
def stage (w : SlotServer) : Stage :=
  match w.server.coordinator, w.gathering with
  | .waiting, false => .waiting
  | .waiting, true => .gathering
  | _, _ => .busy

/-- The slots and the event as a mailbox. -/
def mailbox (w : SlotServer) : Mailbox String Packet where
  slots := w.server.latestFrames
  ready := w.server.batchReady
  stage := w.stage

def handleVideoFrame (py : Python) (w : SlotServer) (r : Reading) (payload : Json) (decoded : Bool)
    (ownerSocket : Socket) : SlotServer × Option Effect :=
  match payload.toDict with
  | none => (w, none)
  | some payload =>
      let o := w.server.handleVideoFrame py r payload decoded ownerSocket
      ({ w with server := o.server }, o.effect)

def publishRaises (w : SlotServer) : SlotServer :=
  match w.server.coordinator with
  | .committing _ => { w with server := w.server.batchFails }
  | _ => w

def step (py : Python) (w : SlotServer) (i : Reading × SlotAction) : SlotServer × Option Effect :=
  match i.2 with
  | .handleVideoFrame payload decoded owner => w.handleVideoFrame py i.1 payload decoded owner
  | .waited =>
      if w.stage = .waiting ∧ w.server.batchReady = true then ({ w with gathering := true }, none)
      else (w, none)
  | .slept =>
      if w.stage = .gathering then ({ server := w.server.drainSlots, gathering := false }, none)
      else (w, none)
  | .publishRaises => (w.publishRaises, none)
  -- the coordinator takes the slots when it has slept
  | .other .takeBatch => (w, none)
  | .other action =>
      let o := w.server.step py (i.1, action)
      ({ w with server := o.1 }, o.2)

/-- The server before its first frame, whatever else it holds. -/
def beforeFrames (s : Server) : SlotServer where
  server := { s with latestFrames := ∅, batchReady := false, coordinator := .waiting }

end SlotServer

/-- A frame is accepted. -/
def admission (effect : Option Effect) : Option (Mail String Packet) :=
  match effect with
  | some (.admitted direction packet) => some (.put direction packet)
  | _ => none

/-- What a step does to the slots: a frame is accepted, or a batch is taken. -/
def mailOf (e : Event SlotServer (Reading × SlotAction) (Option Effect)) :
    Option (Mail String Packet) :=
  match e.input.2 with
  | .slept =>
      if e.pre.stage = .gathering then some (.take e.pre.server.latestFrames.items) else none
  | _ => admission e.out

/-! ## What the handlers do to the slots -/

/-- What the cameras and the coordinator share. -/
def Server.shared (s : Server) := (s.latestFrames, s.batchReady, s.coordinator)

/-- Nothing is done to the slots, or a frame is put into one and the event is set. -/
def Posts (s s' : Server) (e : Option Effect) : Prop :=
  (s'.shared = s.shared ∧ e = none)
    ∨ ∃ d p, s'.shared = (s.latestFrames.set d p, true, s.coordinator)
        ∧ e = some (.admitted d p)

theorem posts_of_eq {s s' : Server} (h : s'.shared = s.shared) : Posts s s' none := Or.inl ⟨h, rfl⟩

theorem Posts.congr {s s₁ s' : Server} {e : Option Effect} (hs : s₁.shared = s.shared)
    (h : Posts s₁ s' e) : Posts s s' e := by
  have hparts : s₁.latestFrames = s.latestFrames ∧ s₁.coordinator = s.coordinator := by
    simp only [Server.shared, Prod.mk.injEq] at hs
    exact ⟨hs.1, hs.2.2⟩
  rcases h with ⟨h, he⟩ | ⟨d, p, h, he⟩
  · exact Or.inl ⟨h.trans hs, he⟩
  · exact Or.inr ⟨d, p, by rw [h, hparts.1, hparts.2], he⟩

theorem posts_echo {s : Server} {o : Outcome} (h : Posts s o.server o.effect) (id : Json) :
    Posts s (o.echo id).server (o.echo id).effect := by
  rw [echo_server, echo_effect]
  exact h

theorem enqueueFrame_posts (s : Server) (r : Reading) (d : String) (payload : Dict String Json)
    (decoded : Bool) (owner : Socket) :
    Posts s (s.enqueueFrame r d payload decoded owner).server
      (s.enqueueFrame r d payload decoded owner).effect := by
  unfold Server.enqueueFrame
  by_cases hrun : s.systemRunning = false
  · rw [if_pos hrun]
    exact posts_of_eq rfl
  · rw [if_neg hrun]
    dsimp only
    cases Server.stampPayload r d payload with
    | error e => exact posts_of_eq rfl
    | ok stamped => exact Or.inr ⟨d, _, rfl, rfl⟩

theorem handleVideoFrame_posts (py : Python) (s : Server) (r : Reading)
    (payload : Dict String Json) (decoded : Bool) (owner : Socket) :
    Posts s (s.handleVideoFrame py r payload decoded owner).server
      (s.handleVideoFrame py r payload decoded owner).effect := by
  unfold Server.handleVideoFrame
  split_ifs
  · exact posts_of_eq rfl
  · split
    · exact enqueueFrame_posts s r _ payload decoded owner
    · exact posts_of_eq rfl

theorem submitDecodedFrame_posts (py : Python) (s : Server) (r : Reading)
    (direction nodeId token : String) (websocket : Socket) (frameId : Int) (receivedMs : Rat) :
    Posts s (s.submitDecodedFrame py r direction nodeId token websocket frameId receivedMs).server
      (s.submitDecodedFrame py r direction nodeId token websocket frameId receivedMs).effect := by
  unfold Server.submitDecodedFrame
  dsimp only
  split
  · split_ifs
    · exact posts_of_eq rfl
    · exact posts_of_eq rfl
    · refine Posts.congr ?_ (handleVideoFrame_posts py _ r _ true websocket)
      rfl
  · exact posts_of_eq rfl

theorem completeRegistration_posts (py : Python) (s : Server) (r : Reading) (reg : Registration) :
    Posts s (s.completeRegistration py r reg).server (s.completeRegistration py r reg).effect := by
  unfold Server.completeRegistration
  dsimp only
  refine posts_echo (posts_of_eq ?_) _
  rfl

theorem handleRegisterCamera_posts (py : Python) (s : Server) (r : Reading)
    (raw : Dict String Json) (websocket : Socket) :
    Posts s (s.handleRegisterCamera py r raw websocket).server
      (s.handleRegisterCamera py r raw websocket).effect := by
  unfold Server.handleRegisterCamera
  dsimp only
  split_ifs
  · unfold Server.registerNode
    dsimp only
    split_ifs
    · exact posts_of_eq rfl
    · exact posts_of_eq rfl
    · split
      · unfold Server.connect
        dsimp only
        split_ifs
        · exact posts_of_eq rfl
        · refine Posts.congr ?_ (completeRegistration_posts py _ r _)
          rfl
      · exact posts_of_eq rfl
  · exact posts_of_eq rfl

theorem route_posts (py : Python) (s : Server) (r : Reading) (raw payload : Dict String Json)
    (msgType : MessageType) (session : NodeSession) (websocket : Socket) :
    Posts s (s.route py r raw payload msgType session websocket).server
      (s.route py r raw payload msgType session websocket).effect := by
  unfold Server.route
  cases msgType with
  | videoFrame =>
      dsimp only
      split_ifs
      · exact posts_of_eq rfl
      · exact posts_echo (handleVideoFrame_posts py s r payload false websocket) _
  | heartbeat =>
      refine posts_echo ?_ _
      unfold Server.handleHeartbeat
      dsimp only
      split
      · split <;> exact posts_of_eq rfl
      · exact posts_of_eq rfl
  | disconnect =>
      unfold Server.handleDisconnect
      dsimp only
      split
      · split <;> exact posts_of_eq rfl
      · exact posts_of_eq rfl
  | startStream => dsimp only; split_ifs <;> exact posts_of_eq rfl
  | stopStream | webrtcOffer | webrtcStop => exact posts_of_eq rfl
  | registerCamera | registrationAck | heartbeatAck | error =>
      exact posts_echo (posts_of_eq rfl) _

theorem processAuthenticated_posts (py : Python) (s : Server) (r : Reading)
    (raw : Dict String Json) (msgType : MessageType) (websocket : Socket) :
    Posts s (s.processAuthenticated py r raw msgType websocket).server
      (s.processAuthenticated py r raw msgType websocket).effect := by
  unfold Server.processAuthenticated
  split
  · exact posts_of_eq rfl
  · dsimp only
    split
    · exact posts_of_eq rfl
    · split
      · exact posts_of_eq rfl
      · split_ifs
        · exact posts_of_eq rfl
        · split
          · exact posts_of_eq rfl
          · exact posts_of_eq rfl
          · refine Posts.congr ?_ (route_posts py _ r raw _ msgType _ websocket)
            rfl
    · exact posts_of_eq rfl

theorem processMessage_posts (py : Python) (s : Server) (r : Reading) (rawJson : Json)
    (websocket : Socket) :
    Posts s (s.processMessage py r rawJson websocket).server
      (s.processMessage py r rawJson websocket).effect := by
  unfold Server.processMessage
  split
  · exact posts_of_eq rfl
  · dsimp only
    split_ifs
    · exact posts_of_eq rfl
    · exact posts_of_eq rfl
    · split
      · exact posts_of_eq rfl
      · exact posts_echo (handleRegisterCamera_posts py s r _ websocket) _
      · exact processAuthenticated_posts py s r _ _ websocket

/-! ## What the stretches do to the slots -/

/-- Every stretch but the coordinator's own posts. -/
theorem step_posts (py : Python) (s : Server) (r : Reading) {action : Action}
    (hcoord : action.ofCoordinator = false) :
    Posts s (s.step py (r, action)).1 (s.step py (r, action)).2 := by
  cases action with
  | message rawJson websocket => exact processMessage_posts py s r rawJson websocket
  | registered k =>
      unfold Server.step
      dsimp only
      split
      · exact posts_of_eq rfl
      · refine Posts.congr ?_ (completeRegistration_posts py _ r _)
        rfl
  | submitDecodedFrame d node token websocket frameId receivedMs =>
      exact submitDecodedFrame_posts py s r d node token websocket frameId receivedMs
  | attachLocal d source =>
      refine posts_of_eq ?_
      show (s.attachLocal py r d source).shared = s.shared
      unfold Server.attachLocal
      split_ifs <;> rfl
  | updateHeartbeat node token =>
      refine posts_of_eq ?_
      show (s.updateHeartbeat r node token).shared = s.shared
      unfold Server.updateHeartbeat
      split <;> rfl
  | socketLost node websocket =>
      refine posts_of_eq ?_
      show (s.socketLost node websocket).shared = s.shared
      unfold Server.socketLost
      split_ifs <;> rfl
  | expire =>
      refine posts_of_eq ?_
      show (s.expire r).shared = s.shared
      unfold Server.expire
      split
      · rfl
      · split <;> rfl
  | disconnectCommand d =>
      refine posts_of_eq ?_
      show (s.disconnectCommand py r d).shared = s.shared
      unfold Server.disconnectCommand
      split <;> rfl
  | disconnected k =>
      unfold Server.step
      dsimp only
      split <;> exact posts_of_eq rfl
  | command c safe =>
      refine posts_of_eq ?_
      show (s.handleCommand c safe).shared = s.shared
      unfold Server.handleCommand
      split_ifs <;> rfl
  | resetDone =>
      refine posts_of_eq ?_
      show (s.resetDone).shared = s.shared
      unfold Server.resetDone
      split_ifs <;> rfl
  | registerPairing | readPairing | outputFailed => exact posts_of_eq rfl
  | takeBatch | batchDone | batchRaises | commit => cases hcoord

/-- The batch goes on or ends; the slots and the event stay as they are. -/
structure Works (s s' : Server) : Prop where
  slots : s'.latestFrames = s.latestFrames
  ready : s'.batchReady = s.batchReady
  stays : s.coordinator = .waiting → s' = s

theorem batchDone_works (s : Server) (outcomes : List PacketOutcome) :
    Works s (s.batchDone outcomes) := by
  unfold Server.batchDone
  cases hc : s.coordinator with
  | waiting => exact ⟨rfl, rfl, fun _ => rfl⟩
  | committing results => exact ⟨rfl, rfl, fun _ => rfl⟩
  | inferring packets => exact ⟨rfl, rfl, fun h => by rw [hc] at h; cases h⟩

theorem batchRaises_works (s : Server) (counted : List PacketOutcome) :
    Works s (s.batchRaises counted) := by
  unfold Server.batchRaises
  cases hc : s.coordinator with
  | waiting => exact ⟨rfl, rfl, fun _ => rfl⟩
  | committing results => exact ⟨rfl, rfl, fun _ => rfl⟩
  | inferring packets => exact ⟨rfl, rfl, fun h => by rw [hc] at h; cases h⟩

theorem commit_works (s : Server) (r : Reading) :
    Works s (s.commit r).1 ∧ ∀ d p, (s.commit r).2 ≠ some (.admitted d p) := by
  unfold Server.commit
  cases hc : s.coordinator with
  | waiting => exact ⟨⟨rfl, rfl, fun _ => rfl⟩, fun d p h => by cases h⟩
  | inferring packets => exact ⟨⟨rfl, rfl, fun _ => rfl⟩, fun d p h => by cases h⟩
  | committing results =>
      have hstays : ∀ s' : Server, s.coordinator = .waiting → s' = s := by
        intro s' h
        rw [hc] at h
        cases h
      cases results with
      | nil => exact ⟨⟨rfl, rfl, hstays _⟩, fun d p h => by cases h⟩
      | cons head results =>
          obtain ⟨packet, result⟩ := head
          dsimp only
          split
          · split_ifs
            · exact ⟨⟨rfl, rfl, hstays _⟩, fun d p h => by cases h⟩
            · exact ⟨⟨rfl, rfl, hstays _⟩, fun d p h => by cases h⟩
          · split
            · exact ⟨⟨rfl, rfl, hstays _⟩, fun d p h => by cases h⟩
            · exact ⟨⟨rfl, rfl, hstays _⟩, fun d p h => by cases h⟩

/-! ## The slots are a mailbox -/

namespace SlotServer

open Mailbox

theorem mailbox_of_shared {w : SlotServer} {s : Server} (h : s.shared = w.server.shared) :
    ({ w with server := s } : SlotServer).mailbox = w.mailbox := by
  simp only [Server.shared, Prod.mk.injEq] at h
  obtain ⟨hslots, hready, hcoord⟩ := h
  unfold mailbox stage
  dsimp only
  rw [hslots, hready, hcoord]

/-- A stretch that posts moves the mailbox, and what it admits is what is seen of it. -/
theorem posts_moves {w : SlotServer} {s : Server} {e : Option Effect} (h : Posts w.server s e) :
    Moves w.mailbox (admission e) ({ w with server := s } : SlotServer).mailbox := by
  rcases h with ⟨h, rfl⟩ | ⟨d, p, h, rfl⟩
  · rw [mailbox_of_shared h]
    exact .rest _
  · simp only [Server.shared, Prod.mk.injEq] at h
    obtain ⟨hslots, hready, hcoord⟩ := h
    have hstage : ({ w with server := s } : SlotServer).stage = w.stage := by
      unfold stage
      dsimp only
      rw [hcoord]
    have hbox : ({ w with server := s } : SlotServer).mailbox
        = { w.mailbox with slots := w.mailbox.slots.set d p, ready := true } :=
      Mailbox.ext hslots hready hstage
    rw [hbox]
    exact .put _ d p

/-- The coordinator gathers only while it has no batch. -/
def Tidy (w : SlotServer) : Prop := w.gathering = true → w.server.coordinator = .waiting

theorem stage_busy {w : SlotServer} (h : w.server.coordinator ≠ .waiting) : w.stage = .busy := by
  unfold stage
  cases hc : w.server.coordinator with
  | waiting => exact absurd hc h
  | inferring packets => rfl
  | committing results => rfl

/-- What the coordinator does with its batch is not seen, and may end it. -/
theorem works_moves {w : SlotServer} {s : Server} (ht : w.Tidy) (h : Works w.server s) :
    Moves w.mailbox none ({ w with server := s } : SlotServer).mailbox := by
  by_cases hc : w.server.coordinator = .waiting
  · rw [h.stays hc]
    exact .rest _
  · have hbusy : w.mailbox.stage = .busy := stage_busy hc
    by_cases hs : s.coordinator = .waiting
    · have hg : w.gathering = false := by
        by_contra hg
        exact hc (ht (by simpa using hg))
      have hstage : ({ w with server := s } : SlotServer).stage = .waiting := by
        unfold stage
        dsimp only
        rw [hs, hg]
      have hbox : ({ w with server := s } : SlotServer).mailbox
          = { w.mailbox with stage := .waiting } := Mailbox.ext h.slots h.ready hstage
      rw [hbox]
      exact .finish hbusy
    · have hbusy' : ({ w with server := s } : SlotServer).stage = w.stage :=
        (stage_busy hs).trans hbusy.symm
      have hbox : ({ w with server := s } : SlotServer).mailbox = w.mailbox :=
        Mailbox.ext h.slots h.ready hbusy'
      rw [hbox]
      exact .rest _

theorem tidy_posts {w : SlotServer} {s : Server} {e : Option Effect} (ht : w.Tidy)
    (h : Posts w.server s e) : ({ w with server := s } : SlotServer).Tidy := by
  intro hg
  have hcoord : s.coordinator = w.server.coordinator := by
    rcases h with ⟨h, -⟩ | ⟨d, p, h, -⟩
    · exact congrArg (fun x => x.2.2) h
    · exact congrArg (fun x => x.2.2) h
  exact hcoord.trans (ht hg)

theorem tidy_works {w : SlotServer} {s : Server} (ht : w.Tidy) (h : Works w.server s) :
    ({ w with server := s } : SlotServer).Tidy := by
  intro hg
  have hwait := ht hg
  show s.coordinator = .waiting
  rw [h.stays hwait]
  exact hwait

/-- What a step does to the mailbox, and that the coordinator keeps its order. -/
def Follows (w w' : SlotServer) (l : Option (Mail String Packet)) : Prop :=
  Moves w.mailbox l w'.mailbox ∧ w'.Tidy

theorem gathers_of_stage {w : SlotServer} (h : w.stage = .gathering) :
    w.gathering = true ∧ w.server.coordinator = .waiting := by
  unfold stage at h
  split at h
  · cases h
  · rename_i hc hg; exact ⟨hg, hc⟩
  · cases h

theorem waits_of_stage {w : SlotServer} (h : w.stage = .waiting) :
    w.gathering = false ∧ w.server.coordinator = .waiting := by
  unfold stage at h
  split at h
  · rename_i hc hg; exact ⟨hg, hc⟩
  · cases h
  · cases h

/-- A stretch of a handler, as an event. -/
theorem follows_posts {w : SlotServer} {s : Server} {e : Option Effect} (ht : w.Tidy)
    (h : Posts w.server s e) : Follows w { w with server := s } (admission e) :=
  ⟨posts_moves h, tidy_posts ht h⟩

theorem follows_works {w : SlotServer} {s : Server} (ht : w.Tidy) (h : Works w.server s) :
    Follows w { w with server := s } none := ⟨works_moves ht h, tidy_works ht h⟩

/-- **Every step moves the mailbox.** -/
theorem step_moves (py : Python) {w : SlotServer} (ht : w.Tidy) (i : Reading × SlotAction) :
    Follows w (w.step py i).1 (mailOf (eventOf (step py) w i)) := by
  obtain ⟨r, action⟩ := i
  cases action with
  | handleVideoFrame payload decoded owner =>
      show Follows w (w.handleVideoFrame py r payload decoded owner).1
        (admission (w.handleVideoFrame py r payload decoded owner).2)
      unfold handleVideoFrame
      cases payload.toDict with
      | none => exact ⟨.rest _, ht⟩
      | some payload => exact follows_posts ht (handleVideoFrame_posts py _ r payload decoded owner)
  | waited =>
      unfold mailOf eventOf step
      dsimp only
      split_ifs with h
      · -- the coordinator gathers from here on
        obtain ⟨hstage, hready⟩ := h
        have hcoord := (waits_of_stage hstage).2
        have hgather : ({ w with gathering := true } : SlotServer).stage = .gathering := by
          unfold stage
          dsimp only
          rw [hcoord]
        have hbox : ({ w with gathering := true } : SlotServer).mailbox
            = { w.mailbox with stage := .gathering } := Mailbox.ext rfl rfl hgather
        refine ⟨?_, fun _ => hcoord⟩
        rw [hbox]
        exact .wake hstage hready
      · exact ⟨.rest _, ht⟩
  | slept =>
      unfold mailOf eventOf step
      dsimp only
      split_ifs with h
      · exact ⟨.take h, fun hg => by cases hg⟩
      · exact ⟨.rest _, ht⟩
  | publishRaises =>
      show Follows w w.publishRaises none
      unfold publishRaises
      cases hc : w.server.coordinator with
      | waiting => exact ⟨.rest _, ht⟩
      | inferring packets => exact ⟨.rest _, ht⟩
      | committing results =>
          -- the error ends the commit and posts no frame
          exact follows_works ht ⟨rfl, rfl, fun h => by rw [hc] at h; cases h⟩
  | other action =>
      cases action with
      | takeBatch => exact ⟨.rest _, ht⟩
      | batchDone outcomes => exact follows_works ht (batchDone_works w.server outcomes)
      | batchRaises counted => exact follows_works ht (batchRaises_works w.server counted)
      | commit =>
          obtain ⟨hworks, hnot⟩ := commit_works w.server r
          have hnone : admission (w.server.commit r).2 = none := by
            unfold admission
            split
            · rename_i d p heq; exact absurd heq (hnot d p)
            · rfl
          show Follows w { w with server := (w.server.commit r).1 }
            (admission (w.server.commit r).2)
          rw [hnone]
          exact follows_works ht hworks
      | _ => exact follows_posts ht (step_posts py w.server r rfl)

/-- The coarse coordinator of the event loop takes the slots just as the finer one does. -/
theorem slept_eq_takeBatch {w : SlotServer} (hstage : w.stage = .gathering)
    (hready : w.server.batchReady = true) : w.server.drainSlots = w.server.takeBatch := by
  unfold Server.takeBatch
  rw [(gathers_of_stage hstage).2]
  dsimp only
  rw [if_pos hready]
  rfl

/-! ## Runs -/

theorem run_from (py : Python) {w : SlotServer} {ls : List (Option (Mail String Packet))}
    (ht : w.Tidy) (h : Run ls w.mailbox) (is : List (Reading × SlotAction)) :
    Run (ls ++ (events (step py) w is).map mailOf) (final (step py) w is).mailbox := by
  induction is generalizing w ls with
  | nil => simpa [final] using h
  | cons i is ih =>
      obtain ⟨hmove, ht'⟩ := step_moves py ht i
      have hnext := ih ht' (h.step hmove)
      rw [List.append_assoc] at hnext
      exact hnext

/-- **Every run of the server is a run of the mailbox.** -/
theorem run_beforeFrames (py : Python) (s : Server) (is : List (Reading × SlotAction)) :
    Run ((events (step py) (beforeFrames s) is).map mailOf)
      (final (step py) (beforeFrames s) is).mailbox := by
  have ht : (beforeFrames s).Tidy := fun hg => by cases hg
  exact run_from py ht Run.start is

end SlotServer

end SmartTraffic
