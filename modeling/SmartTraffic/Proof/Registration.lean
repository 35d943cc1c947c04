import SmartTraffic.Server.Register
import SmartTraffic.Proof.Sessions

/-!
# Registrations that take effect

A camera is authorised before the socket it replaces is closed, and its session
is created after that. In between the handler waits in `registering`, and other
stretches may take away what authorised it. `Spares` says that a stretch does
not; the invariant `Waiting` then carries the authorisation, and the freedom of
the direction, to the stretch in which the registration takes effect.
-/

namespace SmartTraffic.Proof

open SmartTraffic Lib

/-! ## What the event loop does to the sessions -/

theorem Survives.trans {r : Rat} {m m' m'' : SessionManager} (h : Survives r m m')
    (h' : Survives r m' m'') : Survives r m m'' := by
  intro node s hs
  obtain ⟨s', hs', hcont'⟩ := h' node s hs
  obtain ⟨s₀, hs₀, hcont⟩ := h node s' hs'
  exact ⟨s₀, hs₀, hcont.identity.trans hcont'.identity, fun hl => hcont.live (hcont'.live hl)⟩

theorem survives_of_eq {r : Rat} {m m' : SessionManager} (h : m'.sessions = m.sessions) :
    Survives r m m' := survives_of_shrinks fun node s hs => by rw [h] at hs; exact hs

theorem survives_setStreaming (r : Rat) (m : SessionManager) (node : String) (b : Bool) :
    Survives r m (m.setStreaming node b) := by
  unfold SessionManager.setStreaming SessionManager.update
  cases hget : m.sessions.get? node with
  | none => exact survives_of_eq rfl
  | some s =>
      intro n s' hs'
      by_cases hn : n = node
      · subst hn
        rw [Dict.get?_set_self] at hs'
        obtain rfl := Option.some.inj hs'
        exact ⟨s, hget, rfl, fun h => h⟩
      · rw [Dict.get?_set_of_ne _ _ hn] at hs'
        exact ⟨s', hs', continues_refl r s'⟩

theorem survives_setAllStreaming (r : Rat) (m : SessionManager) (b : Bool) :
    Survives r m (m.setAllStreaming b) := by
  intro node s' hs'
  unfold SessionManager.setAllStreaming at hs'
  rw [Dict.get?_mapValues] at hs'
  obtain ⟨s, hs, rfl⟩ := Option.map_eq_some_iff.mp hs'
  exact ⟨s, hs, rfl, fun h => h⟩

/-- The stretch creates no session, revives none, and suspends no registration. -/
structure Grantless (r : Rat) (s s' : Server) : Prop where
  sessions : Survives r s.sessions s'.sessions
  issued : s'.issued = s.issued
  registering : s'.registering = s.registering

theorem grantless_of_eq {r : Rat} {s s' : Server} (hs : s'.sessions.sessions = s.sessions.sessions)
    (hi : s'.issued = s.issued) (hr : s'.registering = s.registering) : Grantless r s s' :=
  ⟨survives_of_eq hs, hi, hr⟩

theorem Grantless.refl (r : Rat) (s : Server) : Grantless r s s := grantless_of_eq rfl rfl rfl

theorem Grantless.trans {r : Rat} {s s' s'' : Server} (h : Grantless r s s')
    (h' : Grantless r s' s'') : Grantless r s s'' :=
  ⟨h.sessions.trans h'.sessions, h'.issued.trans h.issued, h'.registering.trans h.registering⟩

theorem grantless_unregister (r : Rat) (s : Server) (node : String) :
    Grantless r s (s.unregister node) :=
  ⟨survives_of_shrinks (Dict.shrinks_erase _ _), rfl, rfl⟩

/-- A heartbeat is refreshed once its session has been validated. -/
theorem grantless_beat {r : Rat} {s : Server} {node : String} {token : Json}
    (hvalid : s.sessions.validateSession (.str node) token r = .ok true) :
    Grantless r s { s with sessions := s.sessions.beat node r } := by
  refine ⟨?_, rfl, rfl⟩
  have h := refreshHeartbeat_survives s.sessions (.str node) token r
  unfold SessionManager.refreshHeartbeat at h
  rw [hvalid] at h
  exact h

theorem grantless_lookedUp (py : Python) (s : Server) (d : String) (now : Rat) :
    Grantless now s (s.lookedUp py d now) := grantless_of_eq (lookedUp_sessions py s d now) rfl rfl

theorem handleVideoFrame_grantless (py : Python) (s : Server) (r : Reading)
    (frame : Dict String Json) (decoded : Bool) (owner : Socket) :
    Grantless r.time s (s.handleVideoFrame py r frame decoded owner).server := by
  unfold Server.handleVideoFrame
  split_ifs
  · exact Grantless.refl _ s
  · split
    · unfold Server.enqueueFrame
      by_cases hrun : s.systemRunning = false
      · rw [if_pos hrun]
        exact Grantless.refl _ s
      · rw [if_neg hrun]
        dsimp only
        split <;> exact grantless_of_eq rfl rfl rfl
    · exact Grantless.refl _ s

theorem submitDecodedFrame_grantless (py : Python) (s : Server) (r : Reading)
    (d node token : String) (websocket : Socket) (frameId : Int) (receivedMs : Rat) :
    Grantless r.time s
      (s.submitDecodedFrame py r d node token websocket frameId receivedMs).server := by
  unfold Server.submitDecodedFrame
  split
  · rename_i session hrun hvalid hget
    split_ifs
    · exact Grantless.refl _ s
    · exact Grantless.refl _ s
    · exact (grantless_beat hvalid).trans (handleVideoFrame_grantless py _ r _ _ _)
  · exact Grantless.refl _ s

theorem handleHeartbeat_grantless (py : Python) (s : Server) (r : Reading)
    (raw payload : Dict String Json) :
    Grantless r.time s (s.handleHeartbeat py r raw payload).server := by
  unfold Server.handleHeartbeat
  dsimp only
  split
  · rename_i node hnode _
    split
    · exact Grantless.refl _ s
    · exact Grantless.refl _ s
    · rename_i hvalid
      rw [hnode] at hvalid
      exact grantless_beat hvalid
  · exact Grantless.refl _ s

theorem handleDisconnect_grantless (py : Python) (s : Server) (r : Reading)
    (raw payload : Dict String Json) :
    Grantless r.time s (s.handleDisconnect py r raw payload).server := by
  unfold Server.handleDisconnect
  dsimp only
  split
  · split
    · exact grantless_unregister _ s _
    · exact Grantless.refl _ s
  · exact Grantless.refl _ s

theorem route_grantless (py : Python) (s : Server) (r : Reading) (raw payload : Dict String Json)
    (msgType : MessageType) (session : NodeSession) (websocket : Socket) :
    Grantless r.time s (s.route py r raw payload msgType session websocket).server := by
  unfold Server.route
  dsimp only
  cases msgType with
  | videoFrame =>
      dsimp only
      split_ifs
      · exact Grantless.refl _ s
      · rw [echo_server]
        exact handleVideoFrame_grantless py s r payload false websocket
  | heartbeat =>
      dsimp only
      rw [echo_server]
      exact handleHeartbeat_grantless py s r raw payload
  | disconnect => exact handleDisconnect_grantless py s r raw payload
  | startStream =>
      dsimp only
      split_ifs
      · exact Grantless.refl _ s
      · exact ⟨survives_setStreaming _ _ _ _, rfl, rfl⟩
  | stopStream => exact ⟨survives_setStreaming _ _ _ _, rfl, rfl⟩
  | webrtcOffer | webrtcStop => exact Grantless.refl _ s
  | registerCamera | registrationAck | heartbeatAck | error =>
      dsimp only
      rw [echo_server]
      exact Grantless.refl _ s

theorem processAuthenticated_grantless (py : Python) (s : Server) (r : Reading)
    (raw : Dict String Json) (msgType : MessageType) (websocket : Socket) :
    Grantless r.time s (s.processAuthenticated py r raw msgType websocket).server := by
  unfold Server.processAuthenticated
  split
  · exact Grantless.refl _ s
  · dsimp only
    split
    · exact Grantless.refl _ s
    · rename_i node hvalid hnode
      rw [hnode] at hvalid
      split
      · exact Grantless.refl _ s
      · split_ifs
        · exact Grantless.refl _ s
        · split
          · exact grantless_beat hvalid
          · exact grantless_beat hvalid
          · exact (grantless_beat hvalid).trans (route_grantless py _ r raw _ msgType _ websocket)
    · exact Grantless.refl _ s

/-! ## Registrations -/

/-- The stretch creates a session of the node for the direction. -/
structure Registered (py : Python) (s s' : Server) (r : Reading) (node d : String) : Prop where
  direction : d ∈ directions
  sessions : ∃ streaming, s'.sessions.sessions
    = (s.sessions.createSession py node d r.uuid r.time streaming).sessions
  issued : s'.issued = ⟨r.uuid, node, d⟩ :: s.issued

/-- The pairings play no part in the creation of a session. -/
theorem createSession_congr (py : Python) {m m' : SessionManager} (h : m'.sessions = m.sessions)
    (ht : m'.timeoutSec = m.timeoutSec) (node d token : String) (now : Rat) (streaming : Bool) :
    (m'.createSession py node d token now streaming).sessions
      = (m.createSession py node d token now streaming).sessions := by
  have hevict : (m'.evict py node (cleanDirection py d) now).sessions
      = (m.evict py node (cleanDirection py d) now).sessions := by
    unfold SessionManager.evict SessionManager.getSessionByDirection
    rw [h]
    split
    · exact h
    · split_ifs
      · unfold SessionManager.removeSession; rw [h]
      · exact h
  unfold SessionManager.createSession SessionManager.newSession
  dsimp only
  rw [hevict, ht]

theorem completeRegistration_registered (py : Python) {s s₁ : Server} {r : Reading}
    {reg : Registration} (h : s₁.sessions.sessions = s.sessions.sessions)
    (ht : s₁.sessions.timeoutSec = s.sessions.timeoutSec) (hi : s₁.issued = s.issued) :
    Registered py s (s₁.completeRegistration py r reg).server r reg.nodeId reg.direction
      ∧ (s₁.completeRegistration py r reg).server.registering = s₁.registering := by
  unfold Server.completeRegistration
  dsimp only
  rw [echo_server]
  refine ⟨⟨reg.direction_mem, ⟨s₁.systemRunning, ?_⟩, ?_⟩, rfl⟩
  · dsimp only [Server.createSession]
    rw [← createSession_congr py h ht]
    split_ifs <;> rfl
  · dsimp only [Server.createSession]
    rw [hi, cleanDirection_direction py reg.direction_mem]

theorem registerNode_registers {py : Python} {s : Server} {r : Reading}
    {raw payload : Dict String Json} {nodeId : Json} {d : String} (hd : d ∈ directions)
    (websocket : Socket) :
    match s.registrationFor py r raw payload nodeId d hd websocket with
    | some reg => (s.registerNode py r raw payload nodeId d hd websocket).server
        = ((s.lookedUp py reg.direction r.time).connect py r reg).server
    | none =>
        Grantless r.time s (s.registerNode py r raw payload nodeId d hd websocket).server := by
  have h := registerNode_eq py s r raw payload nodeId hd websocket
  cases hfor : s.registrationFor py r raw payload nodeId d hd websocket with
  | some reg =>
      rw [hfor] at h
      obtain ⟨hdir, heq⟩ := h
      dsimp only
      rw [heq, hdir]
  | none =>
      rw [hfor] at h
      dsimp only at h ⊢
      rw [h]
      exact grantless_lookedUp py s d r.time

/-- **What a REGISTER_CAMERA does**: an authorised registration connects, any other does nothing. -/
theorem processMessage_registers (py : Python) (s : Server) (r : Reading) {rawJson : Json}
    {raw : Dict String Json} (hraw : rawJson.toDict = some raw) (hreg : isRegisterCamera raw = true)
    (websocket : Socket) :
    match s.registrationOf py r rawJson websocket with
    | some reg => (s.processMessage py r rawJson websocket).server
        = ((s.lookedUp py reg.direction r.time).connect py r reg).server
    | none => Grantless r.time s (s.processMessage py r rawJson websocket).server := by
  obtain ⟨hproto, htype⟩ := Bool.and_eq_true_iff.mp hreg
  have htype := of_decide_eq_true htype
  unfold Server.processMessage Server.registrationOf
  rw [hraw]
  dsimp only
  rw [if_pos hreg, if_neg (by rw [truthy_of_ofValue htype]; simp), if_neg (by rw [hproto]; simp),
    htype]
  dsimp only
  rw [echo_server]
  unfold Server.handleRegisterCamera
  dsimp only
  split_ifs with hd
  · exact registerNode_registers hd websocket
  · exact Grantless.refl _ s

/-- **Every other message creates no session.** -/
theorem processMessage_grantless {py : Python} {s : Server} {r : Reading} {rawJson : Json}
    (hno : ∀ raw, rawJson.toDict = some raw → isRegisterCamera raw = false) (websocket : Socket) :
    Grantless r.time s (s.processMessage py r rawJson websocket).server := by
  unfold Server.processMessage
  cases hraw : rawJson.toDict with
  | none => exact Grantless.refl _ s
  | some raw =>
      dsimp only
      split_ifs with htruthy hproto
      · exact Grantless.refl _ s
      · exact Grantless.refl _ s
      · cases htype : MessageType.ofValue ((raw.getJson "message_type").orElse
            (raw.getJson "type")) with
        | none => exact Grantless.refl _ s
        | some msgType =>
            cases msgType with
            | registerCamera =>
                have hreg := hno raw hraw
                unfold isRegisterCamera at hreg
                rw [htype] at hreg
                simp [hproto] at hreg
            | _ => exact processAuthenticated_grantless py s r raw _ websocket

/-! ## Stretches -/

/-- The registration whose session a stretch creates. -/
inductive TakesEffect (py : Python) (s : Server) : Reading × Action → Registration → Prop
  /-- There is no older socket to close. -/
  | atOnce {r : Reading} {rawJson : Json} {websocket : Socket} {reg : Registration}
      (h : s.registrationOf py r rawJson websocket = some reg)
      (hfree : s.activeConnections.contains reg.nodeId = false) :
      TakesEffect py s (r, .message rawJson websocket) reg
  /-- It has been closed. -/
  | resumed {r : Reading} {k : Nat} {reg : Registration} (h : s.registering[k]? = some reg) :
      TakesEffect py s (r, .registered k) reg

/-- What a stretch does to sessions and waiting registrations. -/
inductive Enrols (py : Python) (s : Server) (i : Reading × Action) (s' : Server) : Prop
  | grantless (h : Grantless i.1.time s s')
  /-- An authorised registration has to wait. -/
  | waits {reg : Registration} (h : ∃ rawJson websocket, i.2 = .message rawJson websocket
        ∧ s.registrationOf py i.1 rawJson websocket = some reg)
      (sessions : s'.sessions = (s.lookedUp py reg.direction i.1.time).sessions)
      (issued : s'.issued = s.issued) (registering : s'.registering = s.registering ++ [reg])
  | registers {reg : Registration} (h : TakesEffect py s i reg)
      (registered : Registered py s s' i.1 reg.nodeId reg.direction)
      (registering : ∀ reg' ∈ s'.registering, reg' ∈ s.registering)
  | attaches {d : String} {source : Socket} (h : i.2 = .attachLocal d source)
      (free : s.sessions.getSessionByDirection py d i.1.time = none)
      (registered : Registered py s s' i.1 s!"LOCAL-{d}" d)
      (registering : s'.registering = s.registering)

/-- A message that is authorised to register is a REGISTER_CAMERA. -/
theorem processMessage_connects {py : Python} {s : Server} {r : Reading} {rawJson : Json}
    {websocket : Socket} {reg : Registration}
    (hof : s.registrationOf py r rawJson websocket = some reg) :
    (s.processMessage py r rawJson websocket).server
      = ((s.lookedUp py reg.direction r.time).connect py r reg).server := by
  have hraw : ∃ raw, rawJson.toDict = some raw ∧ isRegisterCamera raw = true := by
    unfold Server.registrationOf at hof
    split at hof
    · nomatch hof
    · rename_i raw hraw
      dsimp only at hof
      split_ifs at hof with hreg
      exact ⟨raw, hraw, hreg⟩
  obtain ⟨raw, hraw, hreg⟩ := hraw
  have h := processMessage_registers py s r hraw hreg websocket
  rw [hof] at h
  exact h

/-- What `completeRegistration` runs on when a registration of `s` takes effect. -/
structure CompletesFrom (s s₁ : Server) : Prop where
  sessions : s₁.sessions.sessions = s.sessions.sessions
  timeoutSec : s₁.sessions.timeoutSec = s.sessions.timeoutSec
  issued : s₁.issued = s.issued
  registering : ∀ reg ∈ s₁.registering, reg ∈ s.registering

/-- **A registration takes effect in `completeRegistration`**, at once or when it is resumed. -/
theorem takesEffect_completes {py : Python} {s : Server} {i : Reading × Action}
    {reg : Registration} (h : TakesEffect py s i reg) : ∃ s₁, CompletesFrom s s₁
      ∧ (s.step py i).1 = (s₁.completeRegistration py i.1 reg).server := by
  cases h with
  | @atOnce r rawJson websocket _ hof hfree =>
      have hnow : ¬(s.lookedUp py reg.direction r.time).activeConnections.contains reg.nodeId
          = true := by
        show ¬s.activeConnections.contains reg.nodeId = true
        rw [hfree]; simp
      refine ⟨s.lookedUp py reg.direction r.time, ⟨lookedUp_sessions py s reg.direction r.time,
        getPairing_timeoutSec py _ reg.direction r.time, rfl, fun _ hreg => hreg⟩, ?_⟩
      show (s.processMessage py r rawJson websocket).server = _
      rw [processMessage_connects hof]
      unfold Server.connect
      rw [if_neg hnow]
  | @resumed r k _ hk =>
      refine ⟨{ s with registering := s.registering.eraseIdx k },
        ⟨rfl, rfl, rfl, fun _ hreg => List.mem_of_mem_eraseIdx hreg⟩, ?_⟩
      unfold Server.step
      dsimp only
      rw [hk]

/-- **A registration that takes effect creates the session of its node.** -/
theorem takesEffect_registered {py : Python} {s : Server} {i : Reading × Action}
    {reg : Registration} (h : TakesEffect py s i reg) :
    Registered py s (s.step py i).1 i.1 reg.nodeId reg.direction
      ∧ ∀ reg' ∈ (s.step py i).1.registering, reg' ∈ s.registering := by
  obtain ⟨s₁, hfrom, heq⟩ := takesEffect_completes h
  obtain ⟨hregistered, hsame⟩ := completeRegistration_registered py hfrom.sessions
    hfrom.timeoutSec hfrom.issued
  rw [heq]
  refine ⟨hregistered, fun reg' hreg' => ?_⟩
  rw [hsame] at hreg'
  exact hfrom.registering reg' hreg'

/-- **A pairing authorises one registration**: the one that takes effect clears it. -/
theorem takesEffect_consumes {py : Python} {s : Server} {i : Reading × Action} {reg : Registration}
    (h : TakesEffect py s i reg) (hauth : reg.isPairingAuthorized = true) :
    (s.step py i).1.sessions.pairingSessions.get? (cleanDirection py reg.direction) = none := by
  obtain ⟨s₁, -, heq⟩ := takesEffect_completes h
  rw [heq]
  unfold Server.completeRegistration
  dsimp only
  rw [echo_server, if_pos hauth]
  exact Dict.get?_erase_self _ _

theorem message_enrols (py : Python) (s : Server) (r : Reading) (rawJson : Json)
    (websocket : Socket) : Enrols py s (r, .message rawJson websocket)
      (s.processMessage py r rawJson websocket).server := by
  cases hof : s.registrationOf py r rawJson websocket with
  | some reg =>
      cases hconn : s.activeConnections.contains reg.nodeId with
      | true =>
          have hwait : (s.lookedUp py reg.direction r.time).activeConnections.contains reg.nodeId
              = true := hconn
          rw [processMessage_connects hof]
          unfold Server.connect
          rw [if_pos hwait]
          exact .waits ⟨rawJson, websocket, rfl, hof⟩ rfl rfl rfl
      | false =>
          have heffect : TakesEffect py s (r, .message rawJson websocket) reg := .atOnce hof hconn
          obtain ⟨hregistered, hsame⟩ := takesEffect_registered heffect
          exact .registers heffect hregistered hsame
  | none =>
      by_cases hreg : ∃ raw, rawJson.toDict = some raw ∧ isRegisterCamera raw = true
      · obtain ⟨raw, hraw, hreg⟩ := hreg
        have h := processMessage_registers py s r hraw hreg websocket
        rw [hof] at h
        exact .grantless h
      · refine .grantless (processMessage_grantless (fun raw hraw => ?_) websocket)
        by_contra hyes
        exact hreg ⟨raw, hraw, by simpa using hyes⟩

/-- The coordinator leaves sessions alone. -/
theorem coordinator_grantless (py : Python) (s : Server) (i : Reading × Action)
    (hi : i.2.ofCoordinator = true) : Grantless i.1.time s (s.step py i).1 := by
  obtain ⟨r, action⟩ := i
  cases action with
  | takeBatch =>
      show Grantless r.time s s.takeBatch
      unfold Server.takeBatch
      split
      · split_ifs <;> exact grantless_of_eq rfl rfl rfl
      · exact Grantless.refl _ s
  | batchDone outcomes =>
      show Grantless r.time s (s.batchDone outcomes)
      unfold Server.batchDone
      split <;> exact grantless_of_eq rfl rfl rfl
  | batchRaises counted =>
      show Grantless r.time s (s.batchRaises counted)
      unfold Server.batchRaises
      split <;> exact grantless_of_eq rfl rfl rfl
  | commit =>
      show Grantless r.time s (s.commit r).1
      unfold Server.commit
      split
      · exact grantless_of_eq rfl rfl rfl
      · dsimp only
        split
        · split_ifs <;> exact grantless_of_eq rfl rfl rfl
        · split <;> exact grantless_of_eq rfl rfl rfl
      · exact Grantless.refl _ s
  | _ => cases hi

/-- **A session is created only for a registration that takes effect, or for a local source.** -/
theorem step_enrols (py : Python) (s : Server) (i : Reading × Action) :
    Enrols py s i (s.step py i).1 := by
  obtain ⟨r, action⟩ := i
  cases action with
  | message rawJson websocket => exact message_enrols py s r rawJson websocket
  | registered k =>
      cases hk : s.registering[k]? with
      | none =>
          unfold Server.step
          dsimp only
          rw [hk]
          exact .grantless (Grantless.refl _ s)
      | some reg =>
          -- the registration that was waiting goes on
          have heffect : TakesEffect py s (r, .registered k) reg := .resumed hk
          obtain ⟨hregistered, hsame⟩ := takesEffect_registered heffect
          exact .registers heffect hregistered hsame
  | submitDecodedFrame d node token websocket frameId receivedMs =>
      exact .grantless
        (submitDecodedFrame_grantless py s r d node token websocket frameId receivedMs)
  | attachLocal d source =>
      show Enrols py s _ (s.attachLocal py r d source)
      unfold Server.attachLocal
      split_ifs with hno
      · exact .grantless (Grantless.refl _ s)
      · -- the approach is free, so the camera of the host gets a session
        obtain ⟨hd, hfree⟩ := not_or.mp hno
        rw [not_not] at hd
        refine .attaches rfl (by simpa using hfree) ⟨hd, ⟨true, rfl⟩, ?_⟩ rfl
        dsimp only [Server.createSession]
        rw [cleanDirection_direction py hd]
  | updateHeartbeat node token =>
      refine .grantless ?_
      show Grantless r.time s (s.updateHeartbeat r node token)
      unfold Server.updateHeartbeat
      split
      · rename_i hvalid
        exact grantless_beat hvalid
      · exact Grantless.refl _ s
  | socketLost node websocket =>
      refine .grantless ?_
      show Grantless r.time s (s.socketLost node websocket)
      unfold Server.socketLost
      split_ifs
      · exact grantless_of_eq rfl rfl rfl
      · exact Grantless.refl _ s
  | expire =>
      refine .grantless ?_
      show Grantless r.time s (s.expire r)
      unfold Server.expire
      -- sessions end, and none begins
      split
      · exact (grantless_unregister r.time s _).trans (grantless_of_eq rfl rfl rfl)
      · split
        · exact Grantless.refl _ s
        · exact (grantless_unregister r.time s _).trans (grantless_of_eq rfl rfl rfl)
  | registerPairing d pairing => exact .grantless (grantless_of_eq rfl rfl rfl)
  | readPairing d => exact .grantless (grantless_lookedUp py s d r.time)
  | disconnectCommand d =>
      refine .grantless ?_
      show Grantless r.time s (s.disconnectCommand py r d)
      unfold Server.disconnectCommand
      -- the session of the approach ends, if it has one
      split
      · exact grantless_of_eq rfl rfl rfl
      · exact (grantless_unregister r.time s _).trans (grantless_of_eq rfl rfl rfl)
  | disconnected k =>
      refine .grantless ?_
      unfold Server.step
      dsimp only
      split <;> exact grantless_of_eq rfl rfl rfl
  | command c safe =>
      refine .grantless ?_
      show Grantless r.time s (s.handleCommand c safe)
      unfold Server.handleCommand
      split_ifs
      · exact grantless_of_eq rfl rfl rfl
      · exact grantless_of_eq rfl rfl rfl
      · exact ⟨survives_setAllStreaming _ _ _, rfl, rfl⟩
  | resetDone =>
      refine .grantless ?_
      show Grantless r.time s s.resetDone
      unfold Server.resetDone
      split_ifs
      · exact Grantless.refl _ s
      · exact ⟨survives_setAllStreaming _ _ _, rfl, rfl⟩
  | outputFailed => exact .grantless (grantless_of_eq rfl rfl rfl)
  | takeBatch | batchDone | batchRaises | commit =>
      -- the coordinator does not touch the tables
      exact .grantless (coordinator_grantless py s _ rfl)

/-! ## Sessions of the server -/

/-- What holds of the sessions of the server when the clock last read `c`. -/
structure LiveTable (py : Python) (s : Server) (c : Rat) : Prop where
  sound : SoundTable s
  live : OneLive py s.sessions c

theorem oneLive_congr {py : Python} {m m' : SessionManager} {c : Rat}
    (h : m'.sessions = m.sessions) (hm : OneLive py m c) : OneLive py m' c :=
  ⟨fun n s hs => hm.keyed n s (h ▸ hs),
    fun n n' s s' hs hs' => hm.unique n n' s s' (h ▸ hs) (h ▸ hs')⟩

/-- The four directions are clean. -/
theorem cleanDirection_clean (py : Python) {d : String} (hd : d ∈ directions) :
    cleanDirection py (cleanDirection py d) = py.lower (cleanDirection py d) := by
  rw [cleanDirection_direction py hd, cleanDirection_direction py hd, lower_direction py hd]

theorem oneLive_registered {py : Python} {s s' : Server} {r : Reading} {node d : String}
    (h : OneLive py s.sessions r.time) (hreg : Registered py s s' r node d) :
    OneLive py s'.sessions r.time := by
  obtain ⟨streaming, hsessions⟩ := hreg.sessions
  exact oneLive_congr hsessions
    (oneLive_create h (cleanDirection_clean py hreg.direction) node r.uuid streaming)

theorem liveTable_step {py : Python} {s : Server} {c : Rat} {i : Reading × Action}
    (h : LiveTable py s c) (hc : c ≤ i.1.time) : LiveTable py (s.step py i).1 i.1.time := by
  have hlive := oneLive_later h.live hc
  refine ⟨sound_step py s i h.sound, ?_⟩
  cases step_enrols py s i with
  | grantless hq => exact oneLive_survives hlive hq.sessions
  | waits hof hsessions _ _ =>
      refine oneLive_congr ?_ hlive
      rw [hsessions]
      exact lookedUp_sessions py s _ _
  | registers _ hreg _ => exact oneLive_registered hlive hreg
  | attaches _ _ hreg _ => exact oneLive_registered hlive hreg

/-! ## Waiting registrations -/

/-- No other node has a live session for the direction of the registration. -/
def DirectionFree (s : Server) (c : Rat) (reg : Registration) : Prop :=
  ∀ node session, s.sessions.sessions.get? node = some session → node ≠ reg.nodeId →
    session.cameraDirection = reg.direction → session.isExpired c = true

/-- What a registration that waits relies on. -/
structure Waiting (py : Python) (s : Server) (c : Rat) (reg : Registration) : Prop where
  pairing : reg.isPairingAuthorized = true → ∃ pairing,
    s.sessions.pairingSessions.get? (cleanDirection py reg.direction) = some pairing
      ∧ pairing.sessionId = reg.nodeId ∧ pairing.token = reg.token
  session : reg.isPairingAuthorized = false → ∃ session,
    s.sessions.sessions.get? reg.nodeId = some session
      ∧ session.cameraDirection = reg.direction ∧ session.sessionToken = reg.token
  free : DirectionFree s c reg

/-- The stretch leaves alone what a waiting registration relies on. -/
structure Spares (py : Python) (s s' : Server) (reg : Registration) : Prop where
  /-- The pairing that authorised it is not consumed, replaced or cleared. -/
  pairing : reg.isPairingAuthorized = true →
    s'.sessions.pairingSessions.get? (cleanDirection py reg.direction)
      = s.sessions.pairingSessions.get? (cleanDirection py reg.direction)
  /-- The session that authorised it is neither removed nor replaced. -/
  session : reg.isPairingAuthorized = false → ∀ session,
    s.sessions.sessions.get? reg.nodeId = some session →
    ∃ session', s'.sessions.sessions.get? reg.nodeId = some session'
      ∧ session'.identity = session.identity
  /-- No session of another node is created for its direction. -/
  direction : ∀ token node, s'.issued = ⟨token, node, reg.direction⟩ :: s.issued →
    node = reg.nodeId

/-- What authorised the registration has not expired when it goes on. -/
structure InTime (py : Python) (s : Server) (now : Rat) (reg : Registration) : Prop where
  pairing : reg.isPairingAuthorized = true → ∀ pairing,
    s.sessions.pairingSessions.get? (cleanDirection py reg.direction) = some pairing →
    now ≤ pairing.expiresAt
  session : reg.isPairingAuthorized = false → ∀ session,
    s.sessions.sessions.get? reg.nodeId = some session → session.isExpired now = false

/-- The stretch spares every registration that goes on waiting, and goes on with one in time. -/
structure InOrder (py : Python) (s : Server) (i : Reading × Action) : Prop where
  spares : ∀ reg ∈ s.registering, reg ∈ (s.step py i).1.registering →
    Spares py s (s.step py i).1 reg
  inTime : ∀ k reg, i.2 = .registered k → s.registering[k]? = some reg →
    InTime py s i.1.time reg

theorem directionFree_later {s : Server} {c now : Rat} {reg : Registration}
    (h : DirectionFree s c reg) (hc : c ≤ now) : DirectionFree s now reg :=
  fun node session hget hne hd => isExpired_mono hc (h node session hget hne hd)

/-- **A direction that is not occupied is free.** -/
theorem directionFree_of_not_occupied {py : Python} {s : Server} {c : Rat} {reg : Registration}
    (h : LiveTable py s c) (hocc : s.isOccupied py (.str reg.nodeId) reg.direction c = false) :
    DirectionFree s c reg := by
  intro node session hget hne hd
  by_contra hlive
  have hlive : session.isExpired c = false := by simpa using hlive
  have hclean : py.lower session.cameraDirection = cleanDirection py reg.direction := by
    rw [hd, lower_direction py reg.direction_mem, cleanDirection_direction py reg.direction_mem]
  obtain ⟨found, hfound, hnode⟩ := getSessionByDirection_unique h.live hget hclean hlive
  unfold Server.isOccupied at hocc
  rw [hfound] at hocc
  simp [Json.isStr, hnode] at hocc
  exact hne hocc.symm

theorem waiting_of_registrationOf {py : Python} {s : Server} {r : Reading} {rawJson : Json}
    {websocket : Socket} {reg : Registration} (h : LiveTable py s r.time)
    (hof : s.registrationOf py r rawJson websocket = some reg) : Waiting py s r.time reg := by
  obtain ⟨hpairing, hsession, hocc⟩ := registrationOf_eq_some hof
  refine ⟨fun hq => ?_, fun hq => ?_, directionFree_of_not_occupied h hocc⟩
  · obtain ⟨pairing, hget, -, hid, htoken⟩ := hpairing hq
    exact ⟨pairing, hget, hid, htoken⟩
  · obtain ⟨session, hget, hd, htoken, -⟩ := hsession hq
    exact ⟨session, hget, hd, htoken⟩

/-- Looking at a pairing that has not expired leaves it there. -/
theorem lookedUp_pairing {py : Python} {s : Server} {d : String} {now : Rat}
    {pairing : PairingSession}
    (hget : s.sessions.pairingSessions.get? (cleanDirection py d) = some pairing)
    (hlive : now ≤ pairing.expiresAt) :
    (s.lookedUp py d now).sessions.pairingSessions = s.sessions.pairingSessions := by
  unfold Server.lookedUp SessionManager.getPairing
  dsimp only
  rw [hget]
  dsimp only
  rw [if_neg (not_lt.mpr hlive)]

/-- **What a registration relies on survives every stretch that spares it.** -/
theorem waiting_step {py : Python} {s : Server} {c : Rat} {i : Reading × Action}
    {reg : Registration} (hc : c ≤ i.1.time) (h : Waiting py s c reg)
    (hspares : Spares py s (s.step py i).1 reg) : Waiting py (s.step py i).1 i.1.time reg := by
  refine ⟨fun hq => ?_, fun hq => ?_, ?_⟩
  · rw [hspares.pairing hq]
    exact h.pairing hq
  · obtain ⟨session, hget, hd, htoken⟩ := h.session hq
    obtain ⟨session', hget', hid⟩ := hspares.session hq session hget
    simp only [NodeSession.identity, Prod.mk.injEq] at hid
    exact ⟨session', hget', hid.2.2.1.trans hd, hid.2.1.trans htoken⟩
  · have hfree := directionFree_later h.free hc
    -- a session survives, or has just been created
    have hsurvives : Survives i.1.time s.sessions (s.step py i).1.sessions →
        DirectionFree (s.step py i).1 i.1.time reg := by
      intro hs node session' hget' hne hd
      obtain ⟨session, hget, hcont⟩ := hs node session' hget'
      by_contra hlive
      have hexp := hfree node session hget hne (hcont.direction.symm.trans hd)
      rw [hcont.live (by simpa using hlive)] at hexp
      cases hexp
    have hcreated : ∀ node d, Registered py s (s.step py i).1 i.1 node d →
        DirectionFree (s.step py i).1 i.1.time reg := by
      intro node d hreg n session' hget' hne hd
      obtain ⟨streaming, hsessions⟩ := hreg.sessions
      rw [hsessions] at hget'
      rcases createSession_get? hget' with ⟨rfl, rfl⟩ | hold
      · have hdir : d = reg.direction := by
          rw [← hd]
          exact (cleanDirection_direction py hreg.direction).symm
        exact absurd (hspares.direction _ _ (hdir ▸ hreg.issued)) hne
      · exact hfree n session' hold hne hd
    cases step_enrols py s i with
    | grantless hq => exact hsurvives hq.sessions
    | waits _ hsessions _ _ =>
        refine hsurvives (survives_of_eq ?_)
        rw [hsessions]
        exact lookedUp_sessions py s _ _
    | registers _ hreg _ => exact hcreated _ _ hreg
    | attaches _ _ hreg _ => exact hcreated _ _ hreg

/-! ## The law -/

/-- The registration is authorised in the stretch in which it takes effect. -/
structure Authorised (py : Python) (s : Server) (i : Reading × Action) (reg : Registration) :
    Prop where
  /-- The token presented is that of a pairing or of the node's own session, as of now. -/
  token : PairingFor py s.sessions reg i.1.time ∨ SessionFor s.sessions reg i.1.time
  /-- No unexpired session of another node is evicted. -/
  evictsNone : ∀ node session, node ≠ reg.nodeId →
    s.sessions.sessions.get? node = some session → session.isExpired i.1.time = false →
    (s.step py i).1.sessions.sessions.get? node = some session
  /-- The pairing is spent. -/
  consumed : reg.isPairingAuthorized = true →
    (s.step py i).1.sessions.pairingSessions.get? (cleanDirection py reg.direction) = none

/-- The invariant of a server whose clock last read `c`. -/
structure Enrolment (py : Python) (s : Server) (c : Rat) : Prop where
  table : LiveTable py s c
  waiting : ∀ reg ∈ s.registering, Waiting py s c reg

theorem enrolment_step {py : Python} {s : Server} {c : Rat} {i : Reading × Action}
    (h : Enrolment py s c) (hc : c ≤ i.1.time) (hok : InOrder py s i) :
    Enrolment py (s.step py i).1 i.1.time := by
  refine ⟨liveTable_step h.table hc, fun reg hreg => ?_⟩
  have hold : reg ∈ s.registering → Waiting py (s.step py i).1 i.1.time reg := fun hmem =>
    waiting_step hc (h.waiting reg hmem) (hok.spares reg hmem hreg)
  cases step_enrols py s i with
  | grantless hq => exact hold (hq.registering ▸ hreg)
  | registers _ _ hsub => exact hold (hsub reg hreg)
  | attaches _ _ _ hsame => exact hold (hsame ▸ hreg)
  | @waits reg' hof hsessions _ hregistering =>
      rw [hregistering] at hreg
      rcases List.mem_append.mp hreg with hmem | hnew
      · exact hold hmem
      · -- the handler has just been suspended
        obtain rfl := List.mem_singleton.mp hnew
        obtain ⟨rawJson, websocket, -, hof⟩ := hof
        have htable : LiveTable py s i.1.time := ⟨h.table.sound, oneLive_later h.table.live hc⟩
        have hwaiting := waiting_of_registrationOf htable hof
        have hlooked := lookedUp_sessions py s reg.direction i.1.time
        refine ⟨fun hq => ?_, fun hq => ?_, ?_⟩
        · obtain ⟨pairing, hget, hlive, -⟩ := (registrationOf_eq_some hof).1 hq
          rw [hsessions, lookedUp_pairing hget hlive]
          exact hwaiting.pairing hq
        · rw [hsessions, hlooked]
          exact hwaiting.session hq
        · intro node session hget
          rw [hsessions, hlooked] at hget
          exact hwaiting.free node session hget

/-- **A registration whose direction is free evicts nobody.** -/
theorem evictsNone_of_free {py : Python} {s s' : Server} {r : Reading} {reg : Registration}
    (h : LiveTable py s r.time) (hfree : DirectionFree s r.time reg)
    (hreg : Registered py s s' r reg.nodeId reg.direction) {node : String} {session : NodeSession}
    (hne : node ≠ reg.nodeId) (hget : s.sessions.sessions.get? node = some session) :
    s'.sessions.sessions.get? node = some session := by
  obtain ⟨streaming, hsessions⟩ := hreg.sessions
  have hevict : s.sessions.evict py reg.nodeId (cleanDirection py reg.direction) r.time
      = s.sessions := by
    unfold SessionManager.evict
    cases hfind : s.sessions.getSessionByDirection py (cleanDirection py reg.direction) r.time with
    | none => rfl
    | some existing =>
        dsimp only
        by_cases hown : existing.nodeId = reg.nodeId
        · rw [if_neg (not_not.mpr hown)]
        · unfold SessionManager.getSessionByDirection at hfind
          obtain ⟨n, hn⟩ := (Dict.mem_values_iff _).mp (List.mem_of_find?_eq_some hfind)
          have hfound := List.find?_some hfind
          obtain ⟨hdir, hlive⟩ := Bool.and_eq_true_iff.mp hfound
          have hdir := of_decide_eq_true hdir
          rw [cleanDirection_direction py reg.direction_mem,
            cleanDirection_direction py reg.direction_mem,
            lower_direction py (h.sound.sessions n existing hn).1] at hdir
          rw [h.live.keyed n existing hn] at hown
          have hexp := hfree n existing hn hown hdir
          rw [hexp] at hlive
          nomatch hlive
  rw [hsessions]
  unfold SessionManager.createSession
  dsimp only
  rw [hevict, Dict.get?_set_of_ne _ _ hne]
  exact hget

theorem authorised_step {py : Python} {s : Server} {c : Rat} {i : Reading × Action}
    (h : Enrolment py s c) (hc : c ≤ i.1.time) (hok : InOrder py s i) {reg : Registration}
    (heffect : TakesEffect py s i reg) : Authorised py s i reg := by
  have htable : LiveTable py s i.1.time := ⟨h.table.sound, oneLive_later h.table.live hc⟩
  have hregistered := (takesEffect_registered heffect).1
  have hauth : (PairingFor py s.sessions reg i.1.time ∨ SessionFor s.sessions reg i.1.time)
      ∧ DirectionFree s i.1.time reg := by
    cases heffect with
    | atOnce hof hfree =>
        obtain ⟨hpairing, hsession, hocc⟩ := registrationOf_eq_some hof
        refine ⟨?_, directionFree_of_not_occupied htable hocc⟩
        cases hq : reg.isPairingAuthorized with
        | true => exact Or.inl (hpairing hq)
        | false => exact Or.inr (hsession hq)
    | resumed hk =>
        have hwaiting := h.waiting reg (List.mem_of_getElem? hk)
        have hintime := hok.inTime _ reg rfl hk
        refine ⟨?_, directionFree_later hwaiting.free hc⟩
        cases hq : reg.isPairingAuthorized with
        | true =>
            obtain ⟨pairing, hget, hid, htoken⟩ := hwaiting.pairing hq
            exact Or.inl ⟨pairing, hget, hintime.pairing hq pairing hget, hid, htoken⟩
        | false =>
            obtain ⟨session, hget, hd, htoken⟩ := hwaiting.session hq
            exact Or.inr ⟨session, hget, hd, htoken, hintime.session hq session hget⟩
  exact ⟨hauth.1,
    fun _ _ hne hget _ => evictsNone_of_free htable hauth.2 hregistered hne hget,
    takesEffect_consumes heffect⟩

/-- In every event, sessions are created for authorised registrations and local sources only. -/
def RegistersAuthorised (py : Python) (e : Event Server (Reading × Action) (Option Effect)) :
    Prop :=
  (e.post.issued ≠ e.pre.issued → (∃ d source, e.input.2 = .attachLocal d source)
      ∨ ∃ reg, TakesEffect py e.pre e.input reg
          ∧ e.post.issued = ⟨e.input.1.uuid, reg.nodeId, reg.direction⟩ :: e.pre.issued)
    ∧ ∀ reg, TakesEffect py e.pre e.input reg → Authorised py e.pre e.input reg

theorem authorised_run {py : Python} {s : Server} {c : Rat} {run : List (Reading × Action)}
    (h : Enrolment py s c) (hclock : (c :: run.map (·.1.time)).Pairwise (· ≤ ·))
    (hok : ∀ e ∈ events (Server.step py) s run, InOrder py e.pre e.input) :
    ∀ e ∈ events (Server.step py) s run, RegistersAuthorised py e := by
  induction run generalizing s c with
  | nil => intro e he; exact absurd he List.not_mem_nil
  | cons i run ih =>
      obtain ⟨hle, hrest⟩ := List.pairwise_cons.mp hclock
      have hc : c ≤ i.1.time := hle _ (List.mem_map_of_mem List.mem_cons_self)
      rw [events_cons, List.forall_mem_cons] at hok ⊢
      refine ⟨⟨fun hissued => ?_, fun reg heffect => authorised_step h hc hok.1 heffect⟩,
        ih (enrolment_step h hc hok.1) hrest hok.2⟩
      cases step_enrols py s i with
      | grantless hq => exact absurd hq.issued hissued
      | waits _ _ hsame _ => exact absurd hsame hissued
      | registers heffect hreg _ => exact Or.inr ⟨_, heffect, hreg.issued⟩
      | attaches hattach _ _ _ => exact Or.inl ⟨_, _, hattach⟩

/--
**Registrations are authorised when they take effect.** A camera's session is
created only for a registration whose token is, in that very stretch, the token
of the pairing of its direction or of its own live session; no other camera is
thrown out, and the pairing is spent. This holds in every interleaving in which
no stretch takes away what a waiting registration relies on.
-/
theorem registrations_authorised (py : Python) (s : Server) (hs : Initial s)
    (hnone : s.registering = []) (run : List (Reading × Action))
    (hclock : (run.map (·.1.time)).Pairwise (· ≤ ·))
    (hok : ∀ e ∈ events (Server.step py) s run, InOrder py e.pre e.input) :
    ∀ e ∈ events (Server.step py) s run, RegistersAuthorised py e := by
  cases run with
  | nil => exact fun e he => absurd he List.not_mem_nil
  | cons i run =>
      have hstart : Enrolment py s i.1.time := by
        refine ⟨⟨soundTable_init hs, oneLive_empty hs.sessions⟩, fun reg hreg => ?_⟩
        rw [hnone] at hreg
        exact absurd hreg List.not_mem_nil
      refine authorised_run hstart (List.pairwise_cons.mpr ⟨fun t ht => ?_, hclock⟩) hok
      rcases List.mem_cons.mp ht with rfl | hlater
      · exact le_refl _
      · exact (List.pairwise_cons.mp hclock).1 t hlater

theorem inOrder_of_none_waiting {py : Python} {s : Server} {i : Reading × Action}
    (h : s.registering.isEmpty = true) : InOrder py s i := by
  have hnil := List.isEmpty_iff.mp h
  refine ⟨fun reg hreg => ?_, fun k reg _ hk => ?_⟩
  · rw [hnil] at hreg; exact absurd hreg List.not_mem_nil
  · rw [hnil] at hk; nomatch hk

/-- A camera of the sample run reconnects: its old socket has to be closed first. -/
def reconnectRun : List (Reading × Action) :=
  sampleRun.take 2 ++
    [(readingAt 2 "t2", .message (.obj [("type", .str "REGISTER_CAMERA"), ("token", .str "t1"),
      ("payload", .obj [("node_id", .str "CAM-1"), ("camera_direction", .str "north")])]) 8)]

/-- The old socket is closed, and the registration is resumed. -/
def resumedRun : List (Reading × Action) := reconnectRun ++ [(readingAt 3 "t3", .registered 0)]

theorem resumedRun_inOrder : ∀ e ∈ events (Server.step plainPython) {} resumedRun,
    InOrder plainPython e.pre e.input := by
  unfold resumedRun
  rw [events_append, List.forall_mem_append]
  constructor
  · have hnone : ∀ e ∈ events (Server.step plainPython) {} reconnectRun,
        e.pre.registering.isEmpty = true := by decide +kernel
    exact fun e he => inOrder_of_none_waiting (hnone e he)
  · intro e he
    obtain rfl := List.mem_singleton.mp he
    refine ⟨fun reg _ hreg => ?_, fun k reg _ hk => ⟨fun hq => ?_, fun _ session hget => ?_⟩⟩
    · have hempty : ((final (Server.step plainPython) {} reconnectRun).step plainPython
          (readingAt 3 "t3", .registered 0)).1.registering.isEmpty = true := by decide +kernel
      exact absurd (List.isEmpty_iff.mp hempty) (List.ne_nil_of_mem hreg)
    · have hall : (final (Server.step plainPython) {} reconnectRun).registering.all
          (fun reg => !reg.isPairingAuthorized) = true := by decide +kernel
      have := List.all_eq_true.mp hall reg (List.mem_of_getElem? hk)
      rw [hq] at this
      nomatch this
    · have hall : (final (Server.step plainPython) {} reconnectRun).sessions.sessions.values.all
          (fun session => !session.isExpired 3) = true := by decide +kernel
      have := List.all_eq_true.mp hall session ((Dict.mem_values_iff _).mpr ⟨_, hget⟩)
      exact (Bool.not_eq_true' _).mp this

theorem reconnectRun_authorised :
    (∀ e ∈ events (Server.step plainPython) {} resumedRun, InOrder plainPython e.pre e.input)
      ∧ ∀ e ∈ events (Server.step plainPython) {} resumedRun, RegistersAuthorised plainPython e :=
  ⟨resumedRun_inOrder, registrations_authorised plainPython {} ⟨by decide, rfl, rfl, rfl, rfl⟩ rfl
    resumedRun (by decide +kernel) resumedRun_inOrder⟩

/-- The operator disconnects the camera while its old socket is closed, and it comes back. -/
theorem disconnected_camera_returns :
    ¬∀ e ∈ events (Server.step plainPython) {} (reconnectRun ++
      [(readingAt 3 "t3", .disconnectCommand "north"), (readingAt 4 "t4", .registered 0)]),
      RegistersAuthorised plainPython e := by
  intro hall
  let gone := final (Server.step plainPython) {}
    (reconnectRun ++ [(readingAt 3 "t3", .disconnectCommand "north")])
  have hlast : eventOf (Server.step plainPython) gone (readingAt 4 "t4", .registered 0)
      ∈ events (Server.step plainPython) {} (reconnectRun ++
        [(readingAt 3 "t3", .disconnectCommand "north"), (readingAt 4 "t4", .registered 0)]) :=
    (mem_events_iff _).mpr
      ⟨reconnectRun ++ [(readingAt 3 "t3", .disconnectCommand "north")], _, [], by simp, rfl⟩
  have hwaits : gone.registering[0]?.isSome = true := by decide +kernel
  obtain ⟨reg, hreg⟩ := Option.isSome_iff_exists.mp hwaits
  have hpairings : gone.sessions.pairingSessions.values.isEmpty = true := by decide +kernel
  have hsessions : gone.sessions.sessions.values.isEmpty = true := by decide +kernel
  rcases ((hall _ hlast).2 reg (.resumed hreg)).token with
    ⟨pairing, hget, -⟩ | ⟨session, hget, -⟩
  · have hmem := (Dict.mem_values_iff _).mpr ⟨_, hget⟩
    exact List.ne_nil_of_mem hmem (List.isEmpty_iff.mp hpairings)
  · have hmem := (Dict.mem_values_iff _).mpr ⟨_, hget⟩
    exact List.ne_nil_of_mem hmem (List.isEmpty_iff.mp hsessions)

end SmartTraffic.Proof
