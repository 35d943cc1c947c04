import SmartTraffic.Proof.Malformed

/-!
# Rejected messages

A message that is answered with an error has changed nothing. The handlers turn messages
down in about a dozen places, and only two writes come ahead of any of them: the
heartbeat of an authenticated sender, and the removal of a pairing that was found expired.
-/

namespace SmartTraffic

open Lib

/-- The answer is an error. -/
def Outcome.Rejects (o : Outcome) : Prop :=
  ∃ nodeId errorCode message id,
    o.answer = .reply { payload := .error nodeId errorCode message, id := id }

/-- Whether it is. -/
def Answer.isError : Answer → Bool
  | .reply { payload := .error _ _ _, id := _ } => true
  | _ => false

theorem rejects_of_isError {o : Outcome} (h : o.answer.isError = true) : o.Rejects := by
  unfold Answer.isError at h
  split at h
  · rename_i nodeId errorCode message id hanswer
    exact ⟨nodeId, errorCode, message, id, hanswer⟩
  · cases h

@[simp] theorem not_rejects_silent (s : Server) :
    ¬Outcome.Rejects { server := s, answer := .silent } := fun ⟨_, _, _, _, h⟩ => nomatch h

@[simp] theorem not_rejects_raised (s : Server) (e : PyError) :
    ¬Outcome.Rejects { server := s, answer := .raised e } := fun ⟨_, _, _, _, h⟩ => nomatch h

@[simp] theorem not_rejects_awaiting (s : Server) :
    ¬Outcome.Rejects { server := s, answer := .awaiting } := fun ⟨_, _, _, _, h⟩ => nomatch h

@[simp] theorem not_rejects_webrtc (s : Server) :
    ¬Outcome.Rejects { server := s, answer := .webrtc } := fun ⟨_, _, _, _, h⟩ => nomatch h

/-- An error stays one when it is echoed. -/
@[simp] theorem rejects_echo (o : Outcome) (id : Json) : (o.echo id).Rejects ↔ o.Rejects := by
  unfold Outcome.echo Outcome.Rejects
  cases hanswer : o.answer with
  | reply reply =>
      dsimp only
      split_ifs
      · rw [hanswer]
      · constructor
        · rintro ⟨nodeId, errorCode, message, id', h⟩
          have hpayload : reply.payload = .error nodeId errorCode message :=
            congrArg Reply.payload (Answer.reply.inj h)
          exact ⟨nodeId, errorCode, message, reply.id, by rw [← hpayload]⟩
        · rintro ⟨nodeId, errorCode, message, id', h⟩
          obtain rfl := Answer.reply.inj h
          exact ⟨nodeId, errorCode, message, id, rfl⟩
  | silent | raised | awaiting | webrtc => simp [hanswer]

/-! ## The handlers -/

/-- A frame that is counted is not turned down. -/
theorem enqueueFrame_rejected {s : Server} {r : Reading} {d : String} {payload : Dict String Json}
    {decoded : Bool} {owner : Socket} (h : (s.enqueueFrame r d payload decoded owner).Rejects) :
    (s.enqueueFrame r d payload decoded owner).server = s := by
  by_cases hrun : s.systemRunning = false
  · unfold Server.enqueueFrame
    rw [if_pos hrun]
    rfl
  · exfalso
    rw [Bool.not_eq_false] at hrun
    have hcounts := enqueueFrame_counts r d payload decoded owner hrun
    obtain ⟨nodeId, errorCode, message, id, hanswer⟩ := h
    unfold Counts at hcounts
    split at hcounts
    · rw [hcounts.answer] at hanswer
      nomatch hanswer
    · obtain ⟨e, he⟩ := hcounts.answer
      rw [he] at hanswer
      nomatch hanswer

theorem handleVideoFrame_rejected {py : Python} {s : Server} {r : Reading}
    {payload : Dict String Json} {decoded : Bool} {owner : Socket}
    (h : (s.handleVideoFrame py r payload decoded owner).Rejects) :
    (s.handleVideoFrame py r payload decoded owner).server = s := by
  unfold Server.handleVideoFrame at h ⊢
  split_ifs at h ⊢
  · rfl
  · split at h
    · exact enqueueFrame_rejected h
    · exact absurd h (not_rejects_raised _ _)

theorem handleHeartbeat_rejected {py : Python} {s : Server} {r : Reading}
    {raw payload : Dict String Json} (h : (s.handleHeartbeat py r raw payload).Rejects) :
    (s.handleHeartbeat py r raw payload).server = s := by
  unfold Server.handleHeartbeat at h ⊢
  dsimp only at h ⊢
  split at h
  · split at h
    · exact absurd h (not_rejects_raised _ _)
    · rfl
    · obtain ⟨_, _, _, _, h⟩ := h
      nomatch h
  · rfl

theorem route_rejected {py : Python} {s : Server} {r : Reading} {raw payload : Dict String Json}
    {msgType : MessageType} {session : NodeSession} {websocket : Socket}
    (h : (s.route py r raw payload msgType session websocket).Rejects) :
    (s.route py r raw payload msgType session websocket).server = s := by
  unfold Server.route at h ⊢
  cases msgType with
  | videoFrame =>
      dsimp only at h ⊢
      split_ifs at h ⊢
      · rfl
      · rw [rejects_echo] at h
        rw [echo_server]
        exact handleVideoFrame_rejected h
  | heartbeat =>
      dsimp only at h ⊢
      rw [rejects_echo] at h
      rw [echo_server]
      exact handleHeartbeat_rejected h
  | disconnect =>
      -- a disconnection is never rejected
      unfold Server.handleDisconnect at h
      dsimp only at h
      split at h
      · split at h <;> exact absurd h (not_rejects_silent _)
      · exact absurd h (not_rejects_silent _)
  | startStream =>
      dsimp only at h ⊢
      split_ifs at h ⊢
      · rfl
      · obtain ⟨_, _, _, _, h⟩ := h
        nomatch h
  | stopStream =>
      obtain ⟨_, _, _, _, h⟩ := h
      nomatch h
  | webrtcOffer | webrtcStop => exact absurd h (not_rejects_webrtc _)
  | registerCamera | registrationAck | heartbeatAck | error =>
      dsimp only
      rw [echo_server]
      rfl

/-! ## What may have happened -/

/-- What a rejected message leaves: the server as it was, but for the heartbeat of its
authenticated sender, or for a pairing that had expired. -/
inductive Permitted (py : Python) (s : Server) (r : Reading) (rawJson : Json) (websocket : Socket) :
    Server → Prop
  | unchanged : Permitted py s r rawJson websocket s
  | refreshed {raw payload : Dict String Json} {msgType : MessageType} {node : String}
      {session : NodeSession} (reaches : Authenticates rawJson raw payload msgType)
      (named : senderId payload = .str node)
      (sender : s.senderOf r raw payload websocket = some session) :
      Permitted py s r rawJson websocket { s with sessions := s.sessions.beat node r.time }
  | cleared {d : String} {pairing : PairingSession}
      (found : s.sessions.pairingSessions.get? (cleanDirection py d) = some pairing)
      (expired : pairing.expiresAt < r.time) :
      Permitted py s r rawJson websocket { s with sessions := s.sessions.clearPairing py d }

/-- What a session is good for: its node, its token, its direction and its streaming flag. -/
def NodeSession.standing (session : NodeSession) : String × String × String × Bool :=
  (session.nodeId, session.sessionToken, session.cameraDirection, session.streaming)

/-- The tables are the same, but for heartbeats and pairings that had expired. -/
structure SameTables (now : Rat) (s s' : Server) : Prop where
  sessions : ∀ node, (s'.sessions.sessions.get? node).map NodeSession.standing
    = (s.sessions.sessions.get? node).map NodeSession.standing
  activeConnections : s'.activeConnections = s.activeConnections
  latestFrames : s'.latestFrames = s.latestFrames
  stageCounters : s'.stageCounters = s.stageCounters
  pairings : ∀ d, s'.sessions.pairingSessions.get? d = s.sessions.pairingSessions.get? d
    ∨ (s'.sessions.pairingSessions.get? d = none
      ∧ ∃ pairing, s.sessions.pairingSessions.get? d = some pairing ∧ pairing.expiresAt < now)

theorem beat_standing (m : SessionManager) (node : String) (now : Rat) (n : String) :
    ((m.beat node now).sessions.get? n).map NodeSession.standing
      = (m.sessions.get? n).map NodeSession.standing := by
  unfold SessionManager.beat SessionManager.update
  cases hget : m.sessions.get? node with
  | none => rfl
  | some session =>
      dsimp only
      by_cases hn : n = node
      · subst hn
        rw [Dict.get?_set_self, hget]
        rfl
      · rw [Dict.get?_set_of_ne _ _ hn]

theorem beat_pairingSessions (m : SessionManager) (node : String) (now : Rat) :
    (m.beat node now).pairingSessions = m.pairingSessions := by
  unfold SessionManager.beat SessionManager.update
  cases m.sessions.get? node <;> rfl

/-- **None of that shows in the tables.** -/
theorem Permitted.sameTables {py : Python} {s s' : Server} {r : Reading} {rawJson : Json}
    {websocket : Socket} (h : Permitted py s r rawJson websocket s') : SameTables r.time s s' := by
  cases h with
  | unchanged => exact ⟨fun _ => rfl, rfl, rfl, rfl, fun _ => Or.inl rfl⟩
  | refreshed reaches hnode hsender =>
      refine ⟨fun n => beat_standing s.sessions _ r.time n, rfl, rfl, rfl, fun d => Or.inl ?_⟩
      dsimp only
      rw [beat_pairingSessions]
  | cleared found expired =>
      rename_i d pairing
      refine ⟨fun _ => rfl, rfl, rfl, rfl, fun d' => ?_⟩
      show (s.sessions.pairingSessions.erase (cleanDirection py d)).get? d' = _ ∨ _
      by_cases hd : d' = cleanDirection py d
      · subst hd
        exact Or.inr ⟨Dict.get?_erase_self _ _, pairing, found, expired⟩
      · exact Or.inl (Dict.get?_erase_of_ne _ hd)

theorem connect_not_rejected (py : Python) (s : Server) (r : Reading) (reg : Registration) :
    ¬(s.connect py r reg).Rejects := by
  unfold Server.connect
  split_ifs
  · exact not_rejects_awaiting _
  · unfold Server.completeRegistration
    rw [rejects_echo]
    rintro ⟨_, _, _, _, h⟩
    cases h

theorem handleRegisterCamera_rejected {py : Python} {s : Server} {r : Reading}
    {raw : Dict String Json} {websocket : Socket} (rawJson : Json)
    (h : (s.handleRegisterCamera py r raw websocket).Rejects) :
    Permitted py s r rawJson websocket (s.handleRegisterCamera py r raw websocket).server := by
  -- all that is left behind is that the pairing has been looked at
  have hlooked : ∀ d, Permitted py s r rawJson websocket
      { s with sessions := (s.sessions.getPairing py d r.time).2 } := by
    intro d
    unfold SessionManager.getPairing
    cases hfound : s.sessions.pairingSessions.get? (cleanDirection py d) with
    | none => exact .unchanged
    | some pairing =>
        dsimp only
        split_ifs with hexpired
        · exact .cleared hfound hexpired
        · exact .unchanged
  unfold Server.handleRegisterCamera at h ⊢
  dsimp only at h ⊢
  split_ifs at h ⊢
  · unfold Server.registerNode at h ⊢
    dsimp only at h ⊢
    rw [validatePairing_snd] at h ⊢
    split_ifs at h ⊢
    · exact hlooked _
    · exact hlooked _
    · split at h
      · exact absurd h (connect_not_rejected py _ r _)
      · exact hlooked _
  · exact .unchanged

theorem processAuthenticated_rejected {py : Python} {s : Server} {r : Reading} {rawJson : Json}
    {raw : Dict String Json} {msgType : MessageType} {websocket : Socket}
    (hraw : rawJson.toDict = some raw) (htype : messageType raw = some msgType)
    (hne : msgType ≠ .registerCamera)
    (h : (s.processAuthenticated py r raw msgType websocket).Rejects) :
    Permitted py s r rawJson websocket
      (s.processAuthenticated py r raw msgType websocket).server := by
  unfold Server.processAuthenticated at h ⊢
  cases hpayload : (payloadOf raw).toDict with
  | none => exact .unchanged
  | some payload =>
      rw [hpayload] at h
      dsimp only at h ⊢
      cases hvalid : s.sessions.validateSession ((payload.getJson "node_id").orElse
          (payload.getJson "cameraId")) ((payload.getJson "session_token").orElse
          (raw.getJson "token")) r.time with
      | error e =>
          rw [hvalid] at h
          exact absurd h (not_rejects_raised _ _)
      | ok valid =>
          cases valid with
          | false => exact .unchanged
          | true =>
              -- the session has been found, so it may be refreshed
              obtain ⟨node, session, hnode, hget, -, -⟩ := validateSession_ok hvalid
              rw [hvalid, hnode] at h
              rw [hnode]
              dsimp only at h ⊢
              rw [hget] at h ⊢
              dsimp only at h ⊢
              by_cases hconn : s.activeConnections.get? node = some websocket
              · rw [if_neg (not_not.mpr hconn)] at h ⊢
                -- the sender is the node of the session
                have hsender : s.senderOf r raw payload websocket = some session := by
                  unfold Server.senderOf
                  dsimp only
                  rw [hvalid, hnode]
                  dsimp only
                  rw [if_pos hconn, hget]
                have hrefreshed : Permitted py s r rawJson websocket
                    { s with sessions := s.sessions.beat node r.time } :=
                  .refreshed ⟨hraw, htype, hne, hpayload⟩ hnode hsender
                cases hmatch : Server.directionMismatch py ((payload.getJson "direction").orElse
                    (payload.getJson "camera_direction")) session with
                | error e =>
                    rw [hmatch] at h
                    exact absurd h (not_rejects_raised _ _)
                | ok mismatch =>
                    rw [hmatch] at h
                    cases mismatch with
                    | true => exact hrefreshed
                    | false =>
                        dsimp only at h ⊢
                        rw [route_rejected h]
                        exact hrefreshed
              · rw [if_pos hconn]
                exact .unchanged

namespace Proof

/--
**A rejected message changes nothing.** In every state, if `process_message` answers any
message with an ERROR, the server is as it was but for the heartbeat of the authenticated
sender or the removal of a pairing that had expired; so the sessions, the connections,
the frame slots, the counters and the live pairings are the same.
-/
theorem rejected_changes_nothing (py : Python) (s : Server) (r : Reading) (rawJson : Json)
    (websocket : Socket) (nodeId : Option String) (errorCode message : String) (id : Json)
    (h : (s.processMessage py r rawJson websocket).answer
      = .reply { payload := .error nodeId errorCode message, id := id }) :
    Permitted py s r rawJson websocket (s.processMessage py r rawJson websocket).server
      ∧ SameTables r.time s (s.processMessage py r rawJson websocket).server := by
  have hrejects : (s.processMessage py r rawJson websocket).Rejects :=
    ⟨nodeId, errorCode, message, id, h⟩
  have hpermitted : Permitted py s r rawJson websocket
      (s.processMessage py r rawJson websocket).server := by
    obtain ⟨-, id, nodeId, code, message, hanswer⟩ | ⟨raw, hraw, hcase⟩ :=
      processMessage_cases py s r rawJson websocket
    · rw [hanswer]
      exact .unchanged
    · obtain ⟨-, hanswer⟩ | ⟨msgType, htype, hne, hanswer⟩ := hcase
      · rw [hanswer, rejects_echo] at hrejects
        rw [hanswer, echo_server]
        exact handleRegisterCamera_rejected rawJson hrejects
      · rw [hanswer] at hrejects ⊢
        exact processAuthenticated_rejected hraw htype hne hrejects
  exact ⟨hpermitted, hpermitted.sameTables⟩

/-- The camera of the north sends a frame for the south: only its heartbeat is refreshed. -/
theorem rejected_changes_nothing_south :
    let s := final (Server.step plainPython) {} sampleRun
    let rawJson : Json := .obj [("type", .str "VIDEO_FRAME"), ("payload", .obj
      [("node_id", .str "CAM-1"), ("session_token", .str "t1"), ("direction", .str "south")])]
    SameTables 6 s (s.processMessage plainPython (readingAt 6 "") rawJson 7).server := by
  intro s rawJson
  have herror : (s.processMessage plainPython (readingAt 6 "") rawJson 7).answer.isError
      = true := by
    decide +kernel
  obtain ⟨nodeId, errorCode, message, id, hanswer⟩ := rejects_of_isError herror
  exact (rejected_changes_nothing plainPython s (readingAt 6 "") rawJson 7 nodeId errorCode message
    id hanswer).2

end Proof

end SmartTraffic
