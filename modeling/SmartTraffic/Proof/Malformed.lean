import SmartTraffic.Proof.Ownership
import SmartTraffic.Server.Intake

/-!
# Malformed messages

Which messages `process_message` fails over instead of answering them. The checks of the
schemas catch most of what a client can get wrong, but three values are used ahead of
them: the node id as a key of the session table, the direction as a string, and the
timestamps of a frame as numbers that fit a float.
-/

namespace SmartTraffic

open Lib

/-- The handler raises. -/
def Outcome.Raises (o : Outcome) : Prop := ∃ e, o.answer = .raised e

/-- Whether it does. -/
def Answer.isRaised : Answer → Bool
  | .raised _ => true
  | _ => false

theorem raises_of_isRaised {o : Outcome} (h : o.answer.isRaised = true) : o.Raises := by
  unfold Answer.isRaised at h
  split at h
  · rename_i e he
    exact ⟨e, he⟩
  · cases h

@[simp] theorem not_raises_reply (s : Server) (reply : Reply) :
    ¬Outcome.Raises { server := s, answer := .reply reply } := fun ⟨_, h⟩ => nomatch h

@[simp] theorem not_raises_silent (s : Server) :
    ¬Outcome.Raises { server := s, answer := .silent } := fun ⟨_, h⟩ => nomatch h

@[simp] theorem not_raises_webrtc (s : Server) :
    ¬Outcome.Raises { server := s, answer := .webrtc } := fun ⟨_, h⟩ => nomatch h

@[simp] theorem not_raises_fail (s : Server) (code message : String) :
    ¬(s.fail code message).Raises := fun ⟨_, h⟩ => nomatch h

@[simp] theorem not_raises_buildError (s : Server) (id : Json) (nodeId : Option String)
    (code message : String) : ¬(s.buildError id nodeId code message).Raises :=
  fun ⟨_, h⟩ => nomatch h

@[simp] theorem raises_echo (o : Outcome) (id : Json) : (o.echo id).Raises ↔ o.Raises := by
  unfold Outcome.echo
  split
  · rename_i reply hreply
    split_ifs
    · exact Iff.rfl
    · exact iff_of_false (fun ⟨_, h⟩ => nomatch h) fun ⟨_, h⟩ => by rw [hreply] at h; nomatch h
  · exact Iff.rfl

/-- A reply stays one when it is echoed. -/
theorem echo_reply {o : Outcome} {reply : Reply} (h : o.answer = .reply reply) (id : Json) :
    ∃ reply, (o.echo id).answer = .reply reply := by
  unfold Outcome.echo
  rw [h]
  dsimp only
  split_ifs
  · exact ⟨reply, h⟩
  · exact ⟨_, rfl⟩

/-! ## The handlers -/

/-- A string is always a key. -/
theorem validateSession_str_ne_error (m : SessionManager) (node : String) (token : Json)
    (now : Rat) (e : PyError) : m.validateSession (.str node) token now ≠ .error e := by
  unfold SessionManager.validateSession Dict.lookupJson
  dsimp only
  cases m.sessions.get? node <;> simp

theorem handleHeartbeat_returns (py : Python) (s : Server) (r : Reading)
    (raw payload : Dict String Json) : ¬(s.handleHeartbeat py r raw payload).Raises := by
  unfold Server.handleHeartbeat
  dsimp only
  split
  · rename_i node hnode hvalid
    rw [hnode]
    split
    · rename_i e he
      exact absurd he (validateSession_str_ne_error _ _ _ _ _)
    · simp
    · simp
  · simp

theorem handleDisconnect_returns (py : Python) (s : Server) (r : Reading)
    (raw payload : Dict String Json) : ¬(s.handleDisconnect py r raw payload).Raises := by
  unfold Server.handleDisconnect
  dsimp only
  split
  · split <;> simp
  · simp

/-- A registration is answered in the end. -/
theorem completeRegistration_replies (py : Python) (s : Server) (r : Reading)
    (reg : Registration) : ∃ reply, (s.completeRegistration py r reg).answer = .reply reply := by
  unfold Server.completeRegistration
  exact echo_reply rfl _

theorem connect_returns (py : Python) (s : Server) (r : Reading) (reg : Registration) :
    ¬(s.connect py r reg).Raises := by
  unfold Server.connect
  split_ifs
  · rintro ⟨e, h⟩
    cases h
  · obtain ⟨reply, hreply⟩ := completeRegistration_replies py s r reg
    rintro ⟨e, h⟩
    rw [hreply] at h
    cases h

theorem registerNode_returns (py : Python) (s : Server) (r : Reading)
    (raw payload : Dict String Json) (nodeId : Json) {d : String} (hd : d ∈ directions)
    (websocket : Socket) : ¬(s.registerNode py r raw payload nodeId d hd websocket).Raises := by
  unfold Server.registerNode
  dsimp only
  split_ifs
  · simp
  · simp
  · split
    · exact connect_returns py _ r _
    · simp

theorem handleRegisterCamera_returns (py : Python) (s : Server) (r : Reading)
    (raw : Dict String Json) (websocket : Socket) :
    ¬(s.handleRegisterCamera py r raw websocket).Raises := by
  unfold Server.handleRegisterCamera
  dsimp only
  split_ifs with hd
  · exact registerNode_returns py s r raw _ _ hd websocket
  · simp

/-- A timestamp of the frame is an integer beyond the range of a float. -/
def Overstamped (frame : Dict String Json) : Prop :=
  Overlong (frame.getJson "capture_timestamp") ∨ Overlong (frame.getJson "upload_timestamp")

/-- What is counted fails over its timestamps, and over nothing else. -/
theorem counts_raises_iff {s : Server} {r : Reading} {d : String} {frame : Dict String Json}
    {decoded : Bool} {owner : Socket} {o : Outcome} (h : Counts s r d frame decoded owner o) :
    o.Raises ↔ Overstamped frame := by
  unfold Counts at h
  unfold Overstamped
  rw [← stampPayload_error_iff (r := r) (d := d)]
  split at h
  · rename_i stamped hstamped
    rw [hstamped]
    refine iff_of_false ?_ fun ⟨e, he⟩ => nomatch he
    rintro ⟨e, he⟩
    rw [h.answer] at he
    nomatch he
  · rename_i e he
    exact iff_of_true h.answer ⟨e, he⟩

theorem handleVideoFrame_raises_iff {py : Python} {s : Server} {r : Reading} {d : String}
    {frame : Dict String Json} {owner : Socket} (hd : d ∈ directions)
    (hdir : frame.getJson "direction" = .str d) :
    (s.handleVideoFrame py r frame false owner).Raises
      ↔ ((frame.getJson "decoded_image").isNull = false ∨ Server.frameDataValid frame = true)
        ∧ s.systemRunning = true ∧ Overstamped frame := by
  by_cases hdata : (frame.getJson "decoded_image").isNull = false
      ∨ Server.frameDataValid frame = true
  · by_cases hrun : s.systemRunning = true
    · rw [counts_raises_iff (handleVideoFrame_counts hd hdir hrun (Or.inr hdata))]
      exact ⟨fun h => ⟨hdata, hrun, h⟩, fun h => h.2.2⟩
    · refine iff_of_false ?_ fun h => hrun h.2.1
      unfold Server.handleVideoFrame
      split_ifs
      · simp
      · rw [hdir, orElse_str (direction_ne_empty hd)]
        dsimp only
        unfold Server.enqueueFrame
        rw [if_pos (Bool.not_eq_true _ ▸ hrun)]
        simp
  · refine iff_of_false ?_ fun h => hdata h.1
    unfold Server.handleVideoFrame
    rw [if_pos (by simpa using hdata)]
    simp

/-! ## Messages -/

/-- The direction of a payload counts as given, and is no string. -/
def NoText (direction : Json) : Prop := direction.truthy = true ∧ ∀ d, direction ≠ .str d

theorem directionMismatch_error_iff (py : Python) {direction : Json} (session : NodeSession) :
    (∃ e, Server.directionMismatch py direction session = .error e) ↔ NoText direction := by
  unfold Server.directionMismatch NoText
  cases direction with
  | str d =>
      refine iff_of_false ?_ fun h => h.2 d rfl
      rintro ⟨e, h⟩
      split_ifs at h
  | _ => split_ifs with h <;> simp [h]

/-- **What fails behind the authentication**: a frame with a timestamp out of range. -/
theorem route_raises_iff {py : Python} {s : Server} {r : Reading} {raw payload : Dict String Json}
    {msgType : MessageType} {session : NodeSession} {websocket : Socket}
    (hd : session.cameraDirection ∈ directions)
    (hdir : payload.getJson "direction" = .str session.cameraDirection) :
    (s.route py r raw payload msgType session websocket).Raises
      ↔ msgType = .videoFrame ∧ session.streaming = true
        ∧ ((payload.getJson "decoded_image").isNull = false ∨ Server.frameDataValid payload = true)
        ∧ s.systemRunning = true ∧ Overstamped payload := by
  unfold Server.route
  dsimp only
  cases msgType with
  | videoFrame =>
      dsimp only
      split_ifs with hstream
      · simp [hstream]
      · rw [raises_echo, handleVideoFrame_raises_iff hd hdir]
        simp [hstream]
  | heartbeat =>
      dsimp only
      rw [raises_echo]
      exact iff_of_false (handleHeartbeat_returns py s r raw payload) (by simp)
  | disconnect => exact iff_of_false (handleDisconnect_returns py s r raw payload) (by simp)
  | startStream =>
      dsimp only
      split_ifs <;> simp
  | stopStream | webrtcOffer | webrtcStop => simp
  | registerCamera | registrationAck | heartbeatAck | error => simp

/-- `node_id`, or `cameraId` for want of one. -/
def senderId (payload : Dict String Json) : Json :=
  (payload.getJson "node_id").orElse (payload.getJson "cameraId")

/-- `direction`, or `camera_direction` for want of one. -/
def namedDirection (payload : Dict String Json) : Json :=
  (payload.getJson "direction").orElse (payload.getJson "camera_direction")

/-- The frame that the payload of a session carries is out of range. -/
def FrameOverstamped (py : Python) (s : Server) (raw payload : Dict String Json)
    (session : NodeSession) : Prop :=
  ∃ frame, s.frameFor py raw payload session = some frame ∧ Overstamped frame

/-- Neither the server's direction nor its token touches a timestamp. -/
theorem overstamped_set {payload : Dict String Json} {direction token : Json} :
    Overstamped ((payload.set "direction" direction).set "session_token" token)
      ↔ Overstamped payload := by
  have hset : ∀ k, k ≠ "direction" → k ≠ "session_token" →
      ((payload.set "direction" direction).set "session_token" token).getJson k
        = payload.getJson k := by
    intro k hdir htoken
    rw [Dict.getJson_set_of_ne _ _ htoken, Dict.getJson_set_of_ne _ _ hdir]
  unfold Overstamped
  rw [hset _ (by decide) (by decide), hset _ (by decide) (by decide)]

/-- What is authenticated, with its direction compared, fails over its frame. -/
theorem route_raises_iff_frame {py : Python} {s s' : Server} {r : Reading}
    {raw payload : Dict String Json} {msgType : MessageType} {session : NodeSession}
    {websocket : Socket} (hd : session.cameraDirection ∈ directions)
    (hrunning : s'.systemRunning = s.systemRunning)
    (hmatch : Server.directionMismatch py (namedDirection payload) session = .ok false) :
    (s'.route py r raw ((payload.set "direction" (.str session.cameraDirection)).set
        "session_token" ((payload.getJson "session_token").orElse (raw.getJson "token")))
        msgType session websocket).Raises
      ↔ msgType = .videoFrame ∧ FrameOverstamped py s raw payload session := by
  rw [route_raises_iff hd (by rw [Dict.getJson_set_of_ne _ _ (by decide), Dict.getJson_set_self]),
    overstamped_set, hrunning, frameDataValid_set (by decide), frameDataValid_set (by decide),
    Dict.getJson_set_of_ne _ _ (by decide), Dict.getJson_set_of_ne _ _ (by decide)]
  unfold FrameOverstamped Server.frameFor
  unfold namedDirection at hmatch
  dsimp only
  rw [hmatch]
  dsimp only
  refine and_congr_right fun _ => ?_
  by_cases hall : session.streaming = true ∧ ((payload.getJson "decoded_image").isNull = false
      ∨ Server.frameDataValid payload = true) ∧ s.systemRunning = true
  · obtain ⟨hstream, hdata, hrun⟩ := hall
    rw [if_pos (by simp [hstream, hdata, hrun])]
    simp [hstream, hdata, hrun, overstamped_set]
  · rw [if_neg (by simpa [and_assoc] using hall)]
    refine iff_of_false (fun h => hall ⟨h.1, h.2.1, h.2.2.1⟩) (by simp)

/-- **What fails from the authentication on.** -/
theorem processAuthenticated_raises_iff (py : Python) {s : Server} (hs : SoundSessions s)
    (r : Reading) {raw payload : Dict String Json}
    (hpayload : (payloadOf raw).toDict = some payload)
    (msgType : MessageType) (websocket : Socket) :
    (s.processAuthenticated py r raw msgType websocket).Raises
      ↔ (senderId payload).hashable = false
        ∨ ∃ session, s.senderOf r raw payload websocket = some session
          ∧ (NoText (namedDirection payload)
            ∨ msgType = .videoFrame ∧ FrameOverstamped py s raw payload session) := by
  -- only a node id that cannot be a key fails in the lookup
  have hhash : (∃ e, s.sessions.validateSession (senderId payload)
      ((payload.getJson "session_token").orElse (raw.getJson "token")) r.time = .error e)
        ↔ (senderId payload).hashable = false := validateSession_error_iff
  rw [← hhash]
  unfold Server.processAuthenticated Server.senderOf senderId
  rw [hpayload]
  dsimp only
  cases hvalid : s.sessions.validateSession ((payload.getJson "node_id").orElse
      (payload.getJson "cameraId")) ((payload.getJson "session_token").orElse
      (raw.getJson "token")) r.time with
  | error e => exact iff_of_true ⟨e, rfl⟩ (Or.inl ⟨e, rfl⟩)
  | ok valid =>
      rw [or_iff_right (by simp)]
      cases valid with
      | false => simp
      | true =>
          obtain ⟨node, session, hnode, hget, -, -⟩ := validateSession_ok hvalid
          rw [hnode]
          dsimp only
          rw [hget]
          dsimp only
          by_cases hconn : s.activeConnections.get? node = some websocket
          · rw [if_pos hconn, if_neg (not_not.mpr hconn)]
            simp only [Option.some.injEq, exists_eq_left']
            rw [← directionMismatch_error_iff py session]
            unfold namedDirection
            cases hmatch : Server.directionMismatch py ((payload.getJson "direction").orElse
                (payload.getJson "camera_direction")) session with
            | error e => exact iff_of_true ⟨e, rfl⟩ (Or.inl ⟨e, rfl⟩)
            | ok mismatch =>
                rw [or_iff_right (by simp)]
                cases mismatch with
                | true =>
                    -- a message for another direction is refused, and carries no frame
                    refine iff_of_false (by simp) ?_
                    rintro ⟨-, frame, hframe, -⟩
                    unfold Server.frameFor at hframe
                    dsimp only at hframe
                    rw [hmatch] at hframe
                    cases hframe
                | false => exact route_raises_iff_frame (hs node session hget).1 rfl hmatch
          · rw [if_neg hconn, if_pos hconn]
            simp

/-- The type of a message of the server's protocol version. -/
def messageType (raw : Dict String Json) : Option MessageType :=
  if ((raw.get? "protocol_version").getD (.str protocolVersion)).isStr protocolVersion then
    MessageType.ofValue ((raw.getJson "message_type").orElse (raw.getJson "type"))
  else none

/-- The message gets as far as the authentication of its sender. -/
structure Authenticates (rawJson : Json) (raw payload : Dict String Json) (msgType : MessageType) :
    Prop where
  object : rawJson.toDict = some raw
  typed : messageType raw = some msgType
  unregistered : msgType ≠ .registerCamera
  carries : (payloadOf raw).toDict = some payload

/-- The messages that are not answered. -/
inductive Malformed (py : Python) (s : Server) (r : Reading) (rawJson : Json) (websocket : Socket) :
    Prop
  /-- The node id is a list or an object. -/
  | node {raw payload : Dict String Json} {msgType : MessageType}
      (reaches : Authenticates rawJson raw payload msgType)
      (node : (senderId payload).hashable = false)
  /-- The owner of a session names a direction that is no string. -/
  | direction {raw payload : Dict String Json} {msgType : MessageType} {session : NodeSession}
      (reaches : Authenticates rawJson raw payload msgType)
      (sender : s.senderOf r raw payload websocket = some session)
      (direction : NoText (namedDirection payload))
  /-- It sends a frame with a timestamp that does not fit a float. -/
  | timestamp {raw payload : Dict String Json} {session : NodeSession}
      (reaches : Authenticates rawJson raw payload .videoFrame)
      (sender : s.senderOf r raw payload websocket = some session)
      (frame : FrameOverstamped py s raw payload session)

/-- **Where a message goes**: its envelope is turned down, or it registers, or its sender is
authenticated. -/
theorem processMessage_cases (py : Python) (s : Server) (r : Reading) (rawJson : Json)
    (websocket : Socket) :
    ((∀ raw, rawJson.toDict = some raw → messageType raw = none)
        ∧ ∃ id nodeId code message,
          s.processMessage py r rawJson websocket = s.buildError id nodeId code message)
      ∨ ∃ raw, rawJson.toDict = some raw
        ∧ ((messageType raw = some .registerCamera ∧ s.processMessage py r rawJson websocket
            = (s.handleRegisterCamera py r raw websocket).echo (raw.getJson "id"))
          ∨ ∃ msgType, messageType raw = some msgType ∧ msgType ≠ .registerCamera
            ∧ s.processMessage py r rawJson websocket
              = s.processAuthenticated py r raw msgType websocket) := by
  unfold Server.processMessage
  cases hraw : rawJson.toDict with
  | none => exact Or.inl ⟨by simp, _, _, _, _, rfl⟩
  | some raw =>
      dsimp only
      by_cases hproto : ((raw.get? "protocol_version").getD (.str protocolVersion)).isStr
          protocolVersion = true
      · -- of the two names of the type, the first that is set counts
        have htype : messageType raw
            = MessageType.ofValue ((raw.getJson "message_type").orElse (raw.getJson "type")) := by
          unfold messageType
          rw [if_pos hproto]
        cases hvalue : MessageType.ofValue ((raw.getJson "message_type").orElse
            (raw.getJson "type")) with
        | none =>
            refine Or.inl ⟨fun raw' hraw' => ?_, ?_⟩
            · obtain rfl := Option.some.inj hraw'
              rw [htype, hvalue]
            · split_ifs
              · exact ⟨_, _, _, _, rfl⟩
              · exact ⟨_, _, _, _, rfl⟩
              · exact ⟨_, _, _, _, rfl⟩
        | some msgType =>
            refine Or.inr ⟨raw, rfl, ?_⟩
            rw [htype, hvalue, if_neg (by rw [truthy_of_ofValue hvalue]; simp),
              if_neg (by rw [hproto]; simp)]
            cases msgType with
            | registerCamera => exact Or.inl ⟨rfl, rfl⟩
            | _ => exact Or.inr ⟨_, rfl, by simp, rfl⟩
      · refine Or.inl ⟨fun raw' hraw' => ?_, ?_⟩
        · obtain rfl := Option.some.inj hraw'
          unfold messageType
          rw [if_neg hproto]
        · rw [Bool.not_eq_true] at hproto
          rw [if_pos hproto]
          split_ifs
          · exact ⟨_, _, _, _, rfl⟩
          · exact ⟨_, _, _, _, rfl⟩

/-- Only what reaches the authentication can fail. -/
theorem processMessage_raises_iff (py : Python) (s : Server) (r : Reading) (rawJson : Json)
    (websocket : Socket) :
    (s.processMessage py r rawJson websocket).Raises
      ↔ ∃ raw payload msgType, Authenticates rawJson raw payload msgType
        ∧ (s.processAuthenticated py r raw msgType websocket).Raises := by
  obtain ⟨hno, id, nodeId, code, message, hanswer⟩ | ⟨raw, hraw, hcase⟩ :=
    processMessage_cases py s r rawJson websocket
  · rw [hanswer]
    refine iff_of_false (not_raises_buildError s id nodeId code message) ?_
    rintro ⟨raw, payload, msgType, hreaches, -⟩
    exact absurd ((hno raw hreaches.object).symm.trans hreaches.typed) (by simp)
  · have hsame : ∀ {raw' payload msgType}, Authenticates rawJson raw' payload msgType →
        raw' = raw := fun hreaches => Option.some.inj (hreaches.object.symm.trans hraw)
    obtain ⟨htype, hanswer⟩ | ⟨msgType, htype, hne, hanswer⟩ := hcase
    · rw [hanswer, raises_echo]
      refine iff_of_false (handleRegisterCamera_returns py s r raw websocket) ?_
      rintro ⟨raw', payload, msgType, hreaches, -⟩
      obtain rfl := hsame hreaches
      exact hreaches.unregistered (Option.some.inj (hreaches.typed.symm.trans htype))
    · rw [hanswer]
      constructor
      · intro hraises
        cases hpayload : (payloadOf raw).toDict with
        | none =>
            unfold Server.processAuthenticated at hraises
            rw [hpayload] at hraises
            exact absurd hraises (not_raises_fail _ _ _)
        | some payload => exact ⟨raw, payload, msgType, ⟨hraw, htype, hne, hpayload⟩, hraises⟩
      · rintro ⟨raw', payload, msgType', hreaches, hraises⟩
        obtain rfl := hsame hreaches
        obtain rfl := Option.some.inj (hreaches.typed.symm.trans htype)
        exact hraises

/-- **The messages over which the handler fails.** -/
theorem raises_iff_malformed (py : Python) {s : Server} (hs : SoundSessions s) (r : Reading)
    (rawJson : Json) (websocket : Socket) :
    (s.processMessage py r rawJson websocket).Raises ↔ Malformed py s r rawJson websocket := by
  rw [processMessage_raises_iff]
  constructor
  · rintro ⟨raw, payload, msgType, hreaches, hraises⟩
    rw [processAuthenticated_raises_iff py hs r hreaches.carries] at hraises
    obtain hnode | ⟨session, hsender, hdir | ⟨rfl, hframe⟩⟩ := hraises
    · exact .node hreaches hnode
    · exact .direction hreaches hsender hdir
    · exact .timestamp hreaches hsender hframe
  · rintro (⟨hreaches, hnode⟩ | ⟨hreaches, hsender, hdir⟩ | ⟨hreaches, hsender, hframe⟩)
    · refine ⟨_, _, _, hreaches, ?_⟩
      rw [processAuthenticated_raises_iff py hs r hreaches.carries]
      exact .inl hnode
    · refine ⟨_, _, _, hreaches, ?_⟩
      rw [processAuthenticated_raises_iff py hs r hreaches.carries]
      exact .inr ⟨_, hsender, .inl hdir⟩
    · refine ⟨_, _, _, hreaches, ?_⟩
      rw [processAuthenticated_raises_iff py hs r hreaches.carries]
      exact .inr ⟨_, hsender, .inr ⟨rfl, hframe⟩⟩

/-- The handler returns a reply or `None`: at once, when the socket it replaces is closed, or from
the ingest, where it catches what an offer raises. -/
def Outcome.Returns (py : Python) (o : Outcome) : Prop :=
  match o.answer with
  | .reply _ => True
  | .silent => True
  | .webrtc => True
  | .raised _ => False
  | .awaiting => ∀ reg ∈ o.server.registering, ∀ (s : Server) r,
      ∃ reply, (s.completeRegistration py r reg).answer = .reply reply

theorem returns_iff (py : Python) (o : Outcome) : o.Returns py ↔ ¬o.Raises := by
  unfold Outcome.Returns Outcome.Raises
  cases o.answer with
  | awaiting =>
      exact iff_of_true (fun reg _ s r => completeRegistration_replies py s r reg) (by simp)
  | reply | silent | webrtc | raised => simp

namespace Proof

/--
**Which messages are answered.** In every state that the server can reach, and for every
JSON value on any socket, `process_message` returns exactly if the message is not
malformed: no node id that cannot be looked up, no direction of an owner that is not a
string, and no frame of an owner with a timestamp out of the range of a float.
-/
theorem answered_iff (py : Python) {s : Server} (hinit : Initial s) (run : List (Reading × Action))
    (r : Reading) (rawJson : Json) (websocket : Socket) :
    ((final (Server.step py) s run).processMessage py r rawJson websocket).Returns py
      ↔ ¬Malformed py (final (Server.step py) s run) r rawJson websocket := by
  have hsound : SoundTable (final (Server.step py) s run) :=
    final_invariant_of_step (sound_step py) (soundTable_init hinit) run
  rw [returns_iff, raises_iff_malformed py hsound.sessions]

/-- A heartbeat whose node id is a list, on a server that has just started. -/
theorem listed_node_unanswered :
    ¬∀ (run : List (Reading × Action)) (r : Reading) (rawJson : Json) (websocket : Socket),
      ((final (Server.step plainPython) {} run).processMessage plainPython r rawJson
        websocket).Returns plainPython := by
  intro h
  let heartbeat : Json :=
    .obj [("type", .str "HEARTBEAT"), ("payload", .obj [("node_id", .arr [.int 1])])]
  have hraised : (Server.processMessage plainPython {} (readingAt 0 "") heartbeat
      0).answer.isRaised = true := by decide +kernel
  exact (returns_iff plainPython _).mp (h [] (readingAt 0 "") heartbeat 0)
    (raises_of_isRaised hraised)

/-- The registered camera of the north names its direction by a number. -/
theorem answered_iff_numbered :
    Malformed plainPython (final (Server.step plainPython) {} sampleRun) (readingAt 6 "")
      (.obj [("type", .str "HEARTBEAT"), ("payload", .obj [("node_id", .str "CAM-1"),
        ("session_token", .str "t1"), ("direction", .int 5)])]) 7 := by
  by_contra hno
  have hreturns :=
    (answered_iff plainPython ⟨by decide, rfl, rfl, rfl, rfl⟩ sampleRun _ _ _).mpr hno
  exact (returns_iff plainPython _).mp hreturns (raises_of_isRaised (by decide +kernel))

end Proof

end SmartTraffic
