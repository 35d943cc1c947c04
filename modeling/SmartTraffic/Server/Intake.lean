import SmartTraffic.Server.Change

/-!
# How frames come in

`frameOf` says which messages bring a frame: the checks of `process_message` and
`_handle_video_frame` up to the point where the frame is counted. From there on
only its timestamps decide whether it reaches its slot. Everything else that
happens on the event loop, the coordinator apart, leaves the slots, the batch in
flight and the counters alone.
-/

namespace SmartTraffic

open Lib

/-! ## Frames that are counted -/

/-- The message is a VIDEO_FRAME of the server's protocol version. -/
def isVideoFrame (raw : Dict String Json) : Bool :=
  ((raw.get? "protocol_version").getD (.str protocolVersion)).isStr protocolVersion
    && MessageType.ofValue ((raw.getJson "message_type").orElse (raw.getJson "type"))
      = some .videoFrame

namespace Server

/-- The session that authenticates a message, when the socket is its connection. -/
def senderOf (s : Server) (r : Reading) (raw payload : Dict String Json) (websocket : Socket) :
    Option NodeSession :=
  let nodeId := (payload.getJson "node_id").orElse (payload.getJson "cameraId")
  let token := (payload.getJson "session_token").orElse (raw.getJson "token")
  match s.sessions.validateSession nodeId token r.time, nodeId with
  | .ok true, .str node =>
      if s.activeConnections.get? node = some websocket then s.sessions.sessions.get? node else none
  | _, _ => none

/-- The frame a payload carries for a session, as it is handed to `_handle_video_frame`. -/
def frameFor (py : Python) (s : Server) (raw payload : Dict String Json) (session : NodeSession) :
    Option (Dict String Json) :=
  let direction := (payload.getJson "direction").orElse (payload.getJson "camera_direction")
  let token := (payload.getJson "session_token").orElse (raw.getJson "token")
  match directionMismatch py direction session with
  | .ok false =>
      if session.streaming && (!(payload.getJson "decoded_image").isNull || frameDataValid payload)
          && s.systemRunning then
        some ((payload.set "direction" (.str session.cameraDirection)).set "session_token" token)
      else none
  | _ => none

/-- The frame that a message brings, and the direction it is counted for. -/
def frameOf (py : Python) (s : Server) (r : Reading) (rawJson : Json) (websocket : Socket) :
    Option (String × Dict String Json) :=
  match rawJson.toDict with
  | none => none
  | some raw =>
      match isVideoFrame raw, (payloadOf raw).toDict with
      | true, some payload =>
          match s.senderOf r raw payload websocket with
          | none => none
          | some session =>
              (s.frameFor py raw payload session).map fun frame => (session.cameraDirection, frame)
      | _, _ => none

/-- The packet that enters a slot. -/
def packetOf (r : Reading) (stamped : Dict String Json) (decoded : Bool) (ownerSocket : Socket) :
    Packet where
  payload := stamped
  decoded := decoded
  ownerSocket := ownerSocket
  backendReceiveTimestamp := ⌊r.time * 1000⌋
  backendReceiveMonotonic := r.monotonic

/-- The slots, the coordinator and the counters: what the frames pass through. -/
def flow (s : Server) := (s.latestFrames, s.coordinator, s.stageCounters)

/-- The counters when a frame for the direction has come in. -/
def countReceived (s : Server) (d : String) : StageCounters :=
  { s.stageCounters with
    received := s.stageCounters.received + 1
    dropped := s.stageCounters.dropped + if s.latestFrames.contains d then 1 else 0 }

end Server

/-! ## What becomes of them -/

/-- The handler leaves the frames alone. -/
structure Ignores (s : Server) (o : Outcome) : Prop where
  flow : o.server.flow = s.flow
  effect : o.effect = none

/-- The frame is counted and put into its slot. -/
structure Enters (s : Server) (d : String) (p : Packet) (o : Outcome) : Prop where
  flow : o.server.flow = (s.latestFrames.set d p, s.coordinator, s.countReceived d)
  effect : o.effect = some (.admitted d p)
  answer : o.answer = .silent

/-- The frame is counted, and the handler fails over its timestamps. -/
structure Overflows (s : Server) (d : String) (o : Outcome) : Prop where
  flow : o.server.flow = (s.latestFrames, s.coordinator, s.countReceived d)
  effect : o.effect = none
  answer : ∃ e, o.answer = .raised e

/-- A frame is counted for the direction. -/
def Counts (s : Server) (r : Reading) (d : String) (frame : Dict String Json) (decoded : Bool)
    (owner : Socket) (o : Outcome) : Prop :=
  match Server.stampPayload r d frame with
  | .ok stamped => Enters s d (Server.packetOf r stamped decoded owner) o
  | .error _ => Overflows s d o

theorem ignores_of_eq {s s' : Server} {answer : Answer} (h : s'.flow = s.flow) :
    Ignores s { server := s', answer := answer } := ⟨h, rfl⟩

/-- An echoed answer is silent only if it was so before. -/
theorem echo_answer {o : Outcome} {id : Json} (h : ∀ r, o.answer ≠ .reply r) : o.echo id = o := by
  unfold Outcome.echo
  split
  · rename_i r hr
    exact absurd hr (h r)
  · rfl

theorem ignores_echo {s : Server} {o : Outcome} (h : Ignores s o) (id : Json) :
    Ignores s (o.echo id) :=
  ⟨by rw [echo_server]; exact h.flow, by rw [echo_effect]; exact h.effect⟩

theorem echo_silent {o : Outcome} {id : Json} (h : o.answer ≠ .silent) :
    (o.echo id).answer ≠ .silent := by
  unfold Outcome.echo
  split
  · split_ifs
    · exact h
    · simp
  · exact h

theorem counts_echo {s : Server} {r : Reading} {d : String} {frame : Dict String Json}
    {decoded : Bool} {owner : Socket} {o : Outcome} (h : Counts s r d frame decoded owner o)
    (id : Json) : Counts s r d frame decoded owner (o.echo id) := by
  unfold Counts at h ⊢
  split at h
  · rw [echo_answer fun r hr => by rw [h.answer] at hr; nomatch hr]
    exact h
  · rw [echo_answer fun r hr => by obtain ⟨e, he⟩ := h.answer; rw [he] at hr; nomatch hr]
    exact h

/-- Another server with the same frames counts alike. -/
theorem Counts.congr {s s₁ : Server} {r : Reading} {d : String} {frame : Dict String Json}
    {decoded : Bool} {owner : Socket} {o : Outcome} (hs : s₁.flow = s.flow)
    (h : Counts s₁ r d frame decoded owner o) : Counts s r d frame decoded owner o := by
  simp only [Server.flow, Prod.mk.injEq] at hs
  obtain ⟨hslots, hcoord, hcounters⟩ := hs
  have hcount : s₁.countReceived d = s.countReceived d := by
    unfold Server.countReceived; rw [hslots, hcounters]
  unfold Counts at h ⊢
  split at h
  · exact ⟨by rw [h.flow, hslots, hcoord, hcount], h.effect, h.answer⟩
  · exact ⟨by rw [h.flow, hslots, hcoord, hcount], h.effect, h.answer⟩

theorem Ignores.congr {s s₁ : Server} {o : Outcome} (hs : s₁.flow = s.flow) (h : Ignores s₁ o) :
    Ignores s o := ⟨h.flow.trans hs, h.effect⟩

/-! ## `_handle_video_frame` -/

theorem enqueueFrame_counts {s : Server} (r : Reading) (d : String) (frame : Dict String Json)
    (decoded : Bool) (owner : Socket) (hrun : s.systemRunning = true) :
    Counts s r d frame decoded owner (s.enqueueFrame r d frame decoded owner) := by
  unfold Counts Server.enqueueFrame
  rw [if_neg (by rw [hrun]; simp)]
  dsimp only
  cases Server.stampPayload r d frame with
  | error e => exact ⟨rfl, rfl, e, rfl⟩
  | ok stamped => exact ⟨rfl, rfl, rfl⟩

theorem handleVideoFrame_counts {py : Python} {s : Server} {r : Reading} {d : String}
    {frame : Dict String Json} {decoded : Bool} {owner : Socket} (hd : d ∈ directions)
    (hdir : frame.getJson "direction" = .str d) (hrun : s.systemRunning = true)
    (hdata : decoded = true ∨ (frame.getJson "decoded_image").isNull = false
      ∨ Server.frameDataValid frame = true) :
    Counts s r d frame decoded owner (s.handleVideoFrame py r frame decoded owner) := by
  unfold Server.handleVideoFrame
  rw [if_neg (by rcases hdata with h | h | h <;> simp [h]), hdir,
    orElse_str (direction_ne_empty hd)]
  dsimp only
  rw [lower_direction py hd]
  exact enqueueFrame_counts r d frame decoded owner hrun

/-- A frame that is not counted is turned down with a reply. -/
theorem handleVideoFrame_ignores (py : Python) {s : Server} (r : Reading) {d : String}
    {frame : Dict String Json} {decoded : Bool} (owner : Socket) (hd : d ∈ directions)
    (hdir : frame.getJson "direction" = .str d)
    (hno : s.systemRunning = false ∨ decoded = false
      ∧ (frame.getJson "decoded_image").isNull = true ∧ Server.frameDataValid frame = false) :
    Ignores s (s.handleVideoFrame py r frame decoded owner)
      ∧ (s.handleVideoFrame py r frame decoded owner).answer ≠ .silent := by
  unfold Server.handleVideoFrame
  split_ifs with hdata
  · exact ⟨ignores_of_eq rfl, fun h => nomatch h⟩
  · have hrun : s.systemRunning = false := by
      rcases hno with h | ⟨h1, h2, h3⟩
      · exact h
      · rw [h1, h2, h3] at hdata
        exact absurd rfl hdata
    rw [hdir, orElse_str (direction_ne_empty hd)]
    dsimp only
    unfold Server.enqueueFrame
    rw [if_pos hrun]
    exact ⟨ignores_of_eq rfl, fun h => nomatch h⟩

/-! ## Timestamps -/

/-- `math.isfinite` raises on the value. -/
def Overlong (j : Json) : Prop := j.isFiniteNumber = .error .overflowError

/-- Only an integer can be too large for a float. -/
theorem isFiniteNumber_error {j : Json} {e : PyError} (h : j.isFiniteNumber = .error e) :
    e = .overflowError := by
  unfold Json.isFiniteNumber at h
  split at h
  · nomatch h
  · split_ifs at h
    exact (Except.error.inj h).symm
  · nomatch h
  · nomatch h

theorem finiteOr_error_iff {j default : Json} :
    (∃ e, Server.finiteOr j default = .error e) ↔ Overlong j := by
  unfold Server.finiteOr Overlong
  constructor
  · rintro ⟨e, h⟩
    split at h
    · rename_i e' he
      rw [he, isFiniteNumber_error he]
    · nomatch h
    · nomatch h
  · intro h
    rw [h]
    exact ⟨_, rfl⟩

/-- What `finiteOr` yields is no longer too large. -/
theorem not_overlong_finiteOr {j default k : Json} (h : Server.finiteOr j default = .ok k)
    (hdefault : ¬Overlong default) : ¬Overlong k := by
  unfold Server.finiteOr at h
  split at h
  · nomatch h
  · rename_i hj
    obtain rfl := Except.ok.inj h
    unfold Overlong
    rw [hj]
    simp
  · obtain rfl := Except.ok.inj h
    exact hdefault

/-- **Stamping fails over a timestamp that is too large, and over nothing else.** -/
theorem stampPayload_error_iff {r : Reading} {d : String} {payload : Dict String Json} :
    (∃ e, Server.stampPayload r d payload = .error e)
      ↔ Overlong (payload.getJson "capture_timestamp")
        ∨ Overlong (payload.getJson "upload_timestamp") := by
  have hnow : ¬Overlong (.float (.finite (r.time * 1000))) := by
    simp [Overlong, Json.isFiniteNumber]
  unfold Server.stampPayload
  cases hcap : Server.finiteOr (payload.getJson "capture_timestamp")
      (.float (.finite (r.time * 1000))) with
  | error e =>
      exact iff_of_true ⟨e, rfl⟩ (Or.inl (finiteOr_error_iff.mp ⟨e, hcap⟩))
  | ok cap =>
      have hc : ¬Overlong (payload.getJson "capture_timestamp") := by
        intro h
        obtain ⟨e, he⟩ := finiteOr_error_iff.mpr h
        rw [hcap] at he
        nomatch he
      -- a timestamp that is absent is that of the capture
      have hup : Overlong (((payload.set "capture_timestamp" cap).get? "upload_timestamp").getD cap)
          ↔ Overlong (payload.getJson "upload_timestamp") := by
        rw [Dict.get?_set_of_ne _ _ (by decide)]
        unfold Dict.getJson
        cases payload.get? "upload_timestamp" with
        | none =>
            exact iff_of_false (not_overlong_finiteOr hcap hnow) (by simp [Overlong,
              Json.isFiniteNumber])
        | some j => exact Iff.rfl
      dsimp only
      rw [or_iff_right hc, ← hup, ← finiteOr_error_iff]
      cases Server.finiteOr _ cap with
      | error e => exact iff_of_true ⟨e, rfl⟩ ⟨e, rfl⟩
      | ok upload => exact iff_of_false (fun ⟨e, he⟩ => nomatch he) (fun ⟨e, he⟩ => nomatch he)

theorem submitDecodedFrame_enters (py : Python) {s : Server} (hs : SoundSessions s) (r : Reading)
    (d node token : String) (websocket : Socket) (frameId : Int) (receivedMs : Rat) :
    Ignores s (s.submitDecodedFrame py r d node token websocket frameId receivedMs)
      ∨ ∃ p,
        Enters s d p (s.submitDecodedFrame py r d node token websocket frameId receivedMs) := by
  unfold Server.submitDecodedFrame
  split
  · rename_i session hrun hvalid hget
    split_ifs with hconn hstream
    · exact Or.inl (ignores_of_eq rfl)
    · exact Or.inl (ignores_of_eq rfl)
    · obtain ⟨-, hdir⟩ := not_or.mp hstream
      rw [not_not] at hdir
      have hd : d ∈ directions := by rw [← hdir]; exact (hs node session hget).1
      -- the server's own timestamps are finite
      have hstamped : ∀ frame : Dict String Json, frame.getJson "direction" = .str d →
          frame.getJson "capture_timestamp" = .float (.finite receivedMs) →
          frame.getJson "upload_timestamp" = .float (.finite receivedMs) →
          ∃ p, Enters s d p ({ s with sessions := s.sessions.beat node r.time }.handleVideoFrame
            py r frame true websocket) := by
        intro frame hdirection hcap hup
        have hcounts : Counts s r d frame true websocket
            ({ s with sessions := s.sessions.beat node r.time }.handleVideoFrame py r frame true
              websocket) := by
          refine Counts.congr ?_ (handleVideoFrame_counts hd hdirection ?_ (Or.inl rfl))
          · rfl
          · exact hrun
        unfold Counts at hcounts
        split at hcounts
        · exact ⟨_, hcounts⟩
        · rename_i e he
          rcases stampPayload_error_iff.mp ⟨e, he⟩ with h | h
          · rw [hcap] at h; simp [Overlong, Json.isFiniteNumber] at h
          · rw [hup] at h; simp [Overlong, Json.isFiniteNumber] at h
      refine Or.inr (hstamped _ ?_ ?_ ?_)
      · simp [Dict.getJson, Dict.get?_set_of_ne]
      · simp [Dict.getJson, Dict.get?_set_of_ne]
      · simp [Dict.getJson, Dict.get?_set_of_ne]
  · exact Or.inl (ignores_of_eq rfl)

/-! ## Messages -/

theorem handleHeartbeat_ignores (py : Python) (s : Server) (r : Reading)
    (raw payload : Dict String Json) : Ignores s (s.handleHeartbeat py r raw payload) := by
  unfold Server.handleHeartbeat
  dsimp only
  split
  · split <;> exact ignores_of_eq rfl
  · exact ignores_of_eq rfl

theorem handleDisconnect_ignores (py : Python) (s : Server) (r : Reading)
    (raw payload : Dict String Json) : Ignores s (s.handleDisconnect py r raw payload) := by
  unfold Server.handleDisconnect
  dsimp only
  split
  · split <;> exact ignores_of_eq rfl
  · exact ignores_of_eq rfl

theorem completeRegistration_ignores (py : Python) (s : Server) (r : Reading)
    (reg : Registration) : Ignores s (s.completeRegistration py r reg) := by
  unfold Server.completeRegistration
  dsimp only
  refine ignores_echo ⟨?_, ?_⟩ _ <;> rfl

theorem connect_ignores (py : Python) (s : Server) (r : Reading) (reg : Registration) :
    Ignores s (s.connect py r reg) := by
  unfold Server.connect
  split_ifs
  · exact ignores_of_eq rfl
  · exact completeRegistration_ignores py s r reg

theorem registerNode_ignores (py : Python) (s : Server) (r : Reading)
    (raw payload : Dict String Json) (nodeId : Json) {d : String} (hd : d ∈ directions)
    (websocket : Socket) : Ignores s (s.registerNode py r raw payload nodeId d hd websocket) := by
  unfold Server.registerNode
  dsimp only
  split_ifs
  · exact ignores_of_eq rfl
  · exact ignores_of_eq rfl
  · split
    · refine Ignores.congr ?_ (connect_ignores py _ r _)
      rfl
    · exact ignores_of_eq rfl

theorem handleRegisterCamera_ignores (py : Python) (s : Server) (r : Reading)
    (raw : Dict String Json) (websocket : Socket) :
    Ignores s (s.handleRegisterCamera py r raw websocket) := by
  unfold Server.handleRegisterCamera
  dsimp only
  split_ifs with hd
  · exact registerNode_ignores py s r raw _ _ hd websocket
  · exact ignores_of_eq rfl

/-- Only a VIDEO_FRAME does anything to the frames. -/
theorem route_ignores {py : Python} {s : Server} {r : Reading} {raw payload : Dict String Json}
    {msgType : MessageType} {session : NodeSession} {websocket : Socket}
    (hne : msgType ≠ .videoFrame) :
    Ignores s (s.route py r raw payload msgType session websocket) := by
  unfold Server.route
  dsimp only
  cases msgType with
  | videoFrame => exact absurd rfl hne
  | heartbeat => exact ignores_echo (handleHeartbeat_ignores py s r raw payload) _
  | disconnect => exact handleDisconnect_ignores py s r raw payload
  | startStream => dsimp only; split_ifs <;> exact ignores_of_eq rfl
  | stopStream | webrtcOffer | webrtcStop => exact ignores_of_eq rfl
  | registerCamera | registrationAck | heartbeatAck | error =>
      exact ignores_echo (ignores_of_eq rfl) _

/-- What a message of a VIDEO_FRAME leads to: `frame` is what it brings, if anything. -/
def Brings (s : Server) (r : Reading) (found : Option (String × Dict String Json))
    (websocket : Socket) (o : Outcome) : Prop :=
  match found with
  | none => Ignores s o ∧ o.answer ≠ .silent
  | some (d, frame) => Counts s r d frame false websocket o

theorem brings_congr {s s₁ : Server} {r : Reading} {found : Option (String × Dict String Json)}
    {websocket : Socket} {o : Outcome} (hs : s₁.flow = s.flow) (h : Brings s₁ r found websocket o) :
    Brings s r found websocket o := by
  cases found with
  | none => exact ⟨h.1.congr hs, h.2⟩
  | some f => exact Counts.congr hs h

/-- A handler that answers with an error brings nothing. -/
theorem brings_fail (s : Server) (r : Reading) (websocket : Socket) (code message : String) :
    Brings s r none websocket (s.fail code message) := ⟨ignores_of_eq rfl, fun h => nomatch h⟩

theorem frameDataValid_set {payload : Dict String Json} {k : String} {j : Json}
    (h : k ≠ "frame_data") :
    Server.frameDataValid (payload.set k j) = Server.frameDataValid payload := by
  unfold Server.frameDataValid
  rw [Dict.getJson_set_of_ne _ _ (Ne.symm h)]

/-- **A VIDEO_FRAME of a streaming session, with its direction and token set by the server.** -/
theorem route_brings {py : Python} {s : Server} {r : Reading} {raw payload : Dict String Json}
    {session : NodeSession} {websocket : Socket} {token : Json} {running : Bool}
    (hd : session.cameraDirection ∈ directions) (hrunning : s.systemRunning = running) :
    Brings s r
      (if session.streaming && (!(payload.getJson "decoded_image").isNull
          || Server.frameDataValid payload) && running then
        some (session.cameraDirection,
          (payload.set "direction" (.str session.cameraDirection)).set "session_token" token)
      else none) websocket
      (s.route py r raw
        ((payload.set "direction" (.str session.cameraDirection)).set "session_token" token)
        .videoFrame session websocket) := by
  have hdir : ((payload.set "direction" (.str session.cameraDirection)).set "session_token"
      token).getJson "direction" = .str session.cameraDirection := by
    rw [Dict.getJson_set_of_ne _ _ (by decide), Dict.getJson_set_self]
  -- the frame is judged by fields that the server does not write over
  have himage : ((payload.set "direction" (.str session.cameraDirection)).set "session_token"
      token).getJson "decoded_image" = payload.getJson "decoded_image" := by
    rw [Dict.getJson_set_of_ne _ _ (by decide), Dict.getJson_set_of_ne _ _ (by decide)]
  have hdata : Server.frameDataValid ((payload.set "direction"
      (.str session.cameraDirection)).set "session_token" token)
      = Server.frameDataValid payload := by
    rw [frameDataValid_set (by decide), frameDataValid_set (by decide)]
  subst hrunning
  by_cases hall : (session.streaming && (!(payload.getJson "decoded_image").isNull
      || Server.frameDataValid payload) && s.systemRunning) = true
  · -- the frame passes every test at the door
    rw [if_pos hall]
    obtain ⟨hleft, hrun⟩ := Bool.and_eq_true_iff.mp hall
    obtain ⟨hstream, hframe⟩ := Bool.and_eq_true_iff.mp hleft
    unfold Server.route
    dsimp only
    rw [if_neg (by rw [hstream]; simp)]
    refine counts_echo (handleVideoFrame_counts hd hdir hrun (Or.inr ?_)) _
    rw [himage, hdata]
    simpa using Bool.or_eq_true_iff.mp hframe
  · rw [if_neg hall]
    unfold Server.route
    dsimp only
    split_ifs with hstream
    · -- a session that does not stream, or one of the other tests
      exact brings_fail s r websocket _ _
    · have hno : s.systemRunning = false ∨ (false = false
          ∧ (payload.getJson "decoded_image").isNull = true
          ∧ Server.frameDataValid payload = false) := by
        cases hrun : s.systemRunning with
        | false => exact Or.inl rfl
        | true => exact Or.inr (by simpa [hrun, hstream] using hall)
      rw [← himage, ← hdata] at hno
      obtain ⟨hignores, hanswer⟩ := handleVideoFrame_ignores py r websocket hd hdir hno
      exact ⟨ignores_echo hignores _, echo_silent hanswer⟩

theorem processAuthenticated_brings (py : Python) {s : Server} (hs : SoundSessions s) (r : Reading)
    {raw payload : Dict String Json} (hpayload : (payloadOf raw).toDict = some payload)
    (websocket : Socket) :
    Brings s r ((s.senderOf r raw payload websocket).bind fun session =>
        (s.frameFor py raw payload session).map fun frame => (session.cameraDirection, frame))
      websocket (s.processAuthenticated py r raw .videoFrame websocket) := by
  unfold Server.processAuthenticated Server.senderOf
  rw [hpayload]
  dsimp only
  cases hvalid : s.sessions.validateSession ((payload.getJson "node_id").orElse
      (payload.getJson "cameraId")) ((payload.getJson "session_token").orElse
      (raw.getJson "token")) r.time with
  | error e => exact ⟨ignores_of_eq rfl, fun h => nomatch h⟩
  | ok valid =>
      cases valid with
      | false => exact brings_fail s r websocket _ _
      | true =>
          obtain ⟨node, session, hnode, hget, -, -⟩ := validateSession_ok hvalid
          rw [hnode]
          dsimp only
          rw [hget]
          dsimp only
          by_cases hconn : s.activeConnections.get? node = some websocket
          · rw [if_pos hconn, if_neg (not_not.mpr hconn)]
            dsimp only [Option.bind_some]
            unfold Server.frameFor
            dsimp only
            cases hmatch : Server.directionMismatch py ((payload.getJson "direction").orElse
                (payload.getJson "camera_direction")) session with
            | error e => exact ⟨ignores_of_eq rfl, fun h => nomatch h⟩
            | ok mismatch =>
                cases mismatch with
                | true => exact ⟨ignores_of_eq rfl, fun h => nomatch h⟩
                | false =>
                    dsimp only
                    rw [apply_ite (Option.map fun frame => (session.cameraDirection, frame)),
                      Option.map_some, Option.map_none]
                    -- the heartbeat that is refreshed first does not concern the frames
                    refine brings_congr ?_ (route_brings (hs node session hget).1 ?_) <;> rfl
          · rw [if_neg hconn, if_pos hconn]
            exact brings_fail s r websocket _ _

/-- A text that names a message type is not empty. -/
theorem truthy_of_ofValue {j : Json} {t : MessageType} (h : MessageType.ofValue j = some t) :
    j.truthy = true := by
  unfold MessageType.ofValue at h
  have hvalue := List.find?_some h
  obtain rfl := Json.isStr_iff.mp hvalue
  cases t <;> decide

/-- **What a VIDEO_FRAME does**: its frame is counted, or it is turned down with an answer. -/
theorem processMessage_brings (py : Python) {s : Server} (hs : SoundSessions s) (r : Reading)
    {rawJson : Json} {raw : Dict String Json} (hraw : rawJson.toDict = some raw)
    (hvideo : isVideoFrame raw = true) (websocket : Socket) :
    Brings s r (s.frameOf py r rawJson websocket) websocket
      (s.processMessage py r rawJson websocket) := by
  obtain ⟨hproto, htype⟩ := Bool.and_eq_true_iff.mp hvideo
  have htype := of_decide_eq_true htype
  unfold Server.processMessage Server.frameOf
  rw [hraw]
  dsimp only
  rw [if_neg (by rw [truthy_of_ofValue htype]; simp), if_neg (by rw [hproto]; simp), htype, hvideo]
  dsimp only
  cases hpayload : (payloadOf raw).toDict with
  | none =>
      unfold Server.processAuthenticated
      rw [hpayload]
      exact brings_fail s r websocket _ _
  | some payload =>
      have hbrings := processAuthenticated_brings py hs r hpayload websocket
      dsimp only
      cases hsender : s.senderOf r raw payload websocket with
      | none => rw [hsender] at hbrings; exact hbrings
      | some session => rw [hsender] at hbrings; exact hbrings

/-- **Every other message leaves the frames alone.** -/
theorem processMessage_ignores {py : Python} {s : Server} {r : Reading} {rawJson : Json}
    (hno : ∀ raw, rawJson.toDict = some raw → isVideoFrame raw = false) (websocket : Socket) :
    Ignores s (s.processMessage py r rawJson websocket) := by
  unfold Server.processMessage
  cases hraw : rawJson.toDict with
  | none => exact ignores_of_eq rfl
  | some raw =>
      dsimp only
      split_ifs with htruthy hproto
      · exact ignores_of_eq rfl
      · exact ignores_of_eq rfl
      · cases htype : MessageType.ofValue ((raw.getJson "message_type").orElse
            (raw.getJson "type")) with
        | none => exact ignores_of_eq rfl
        | some msgType =>
            -- a frame would be one by its type alone
            have hne : msgType ≠ .videoFrame := by
              rintro rfl
              have hvideo := hno raw hraw
              unfold isVideoFrame at hvideo
              rw [htype] at hvideo
              simp [hproto] at hvideo
            -- the authentication reads the sessions and writes nothing
            have hauth : Ignores s (s.processAuthenticated py r raw msgType websocket) := by
              unfold Server.processAuthenticated
              split
              · exact ignores_of_eq rfl
              · dsimp only
                split
                · exact ignores_of_eq rfl
                · split
                  · exact ignores_of_eq rfl
                  · split_ifs
                    · exact ignores_of_eq rfl
                    · split
                      · exact ignores_of_eq rfl
                      · exact ignores_of_eq rfl
                      · refine Ignores.congr ?_ (route_ignores hne)
                        rfl
                · exact ignores_of_eq rfl
            cases msgType with
            | registerCamera =>
                exact ignores_echo (handleRegisterCamera_ignores py s r raw websocket) _
            | _ => exact hauth

/-- What a message brings, whatever it is. -/
theorem processMessage_frame (py : Python) {s : Server} (hs : SoundSessions s) (r : Reading)
    (rawJson : Json) (websocket : Socket) :
    (s.frameOf py r rawJson websocket = none ∧ Ignores s (s.processMessage py r rawJson websocket))
      ∨ ∃ d frame, s.frameOf py r rawJson websocket = some (d, frame)
          ∧ Counts s r d frame false websocket (s.processMessage py r rawJson websocket) := by
  by_cases hvideo : ∃ raw, rawJson.toDict = some raw ∧ isVideoFrame raw = true
  · obtain ⟨raw, hraw, hvideo⟩ := hvideo
    have hbrings := processMessage_brings py hs r hraw hvideo websocket
    cases hframe : s.frameOf py r rawJson websocket with
    | none => rw [hframe] at hbrings; exact Or.inl ⟨rfl, hbrings.1⟩
    | some f => rw [hframe] at hbrings; exact Or.inr ⟨f.1, f.2, rfl, hbrings⟩
  · have hno : ∀ raw, rawJson.toDict = some raw → isVideoFrame raw = false := by
      intro raw hraw
      by_contra hyes
      exact hvideo ⟨raw, hraw, by simpa using hyes⟩
    refine Or.inl ⟨?_, processMessage_ignores hno websocket⟩
    unfold Server.frameOf
    cases hraw : rawJson.toDict with
    | none => rfl
    | some raw =>
        dsimp only
        rw [hno raw hraw]

/-! ## Stretches -/

/-- The coordinator's own stretches. -/
def Action.ofCoordinator : Action → Bool
  | .takeBatch => true
  | .batchDone _ => true
  | .batchRaises _ => true
  | .commit => true
  | _ => false

/-- A frame is counted that does not reach its slot. -/
def FailsAtDoor (py : Python) (s : Server) (i : Reading × Action) (d : String) : Prop :=
  ∃ rawJson websocket frame, i.2 = .message rawJson websocket
    ∧ s.frameOf py i.1 rawJson websocket = some (d, frame)
    ∧ (Overlong (frame.getJson "capture_timestamp") ∨ Overlong (frame.getJson "upload_timestamp"))

/-- What a stretch does to the frames: nothing, put one into its slot, or fail over one. -/
def Intake (py : Python) (s : Server) (i : Reading × Action) (s' : Server) (e : Option Effect) :
    Prop :=
  ((∀ d, ¬FailsAtDoor py s i d) ∧ s'.flow = s.flow ∧ e = none)
    ∨ (∃ d p, (∀ d, ¬FailsAtDoor py s i d)
        ∧ s'.flow = (s.latestFrames.set d p, s.coordinator, s.countReceived d)
        ∧ e = some (.admitted d p))
    ∨ ∃ d, FailsAtDoor py s i d ∧ e = none
        ∧ s'.flow = (s.latestFrames, s.coordinator, s.countReceived d)

theorem not_failsAtDoor {py : Python} {s : Server} {i : Reading × Action}
    (h : ∀ rawJson websocket, i.2 ≠ .message rawJson websocket) (d : String) :
    ¬FailsAtDoor py s i d := fun ⟨rawJson, websocket, _, hi, _⟩ => h rawJson websocket hi

theorem intake_of_eq {py : Python} {s s' : Server} {i : Reading × Action}
    (h : ∀ rawJson websocket, i.2 ≠ .message rawJson websocket) (hflow : s'.flow = s.flow) :
    Intake py s i s' none := Or.inl ⟨not_failsAtDoor h, hflow, rfl⟩

/-- **Every stretch that is not one of the coordinator's is an intake.** -/
theorem step_intake (py : Python) {s : Server} (hs : SoundSessions s) (i : Reading × Action)
    (hi : i.2.ofCoordinator = false) : Intake py s i (s.step py i).1 (s.step py i).2 := by
  obtain ⟨r, action⟩ := i
  cases action with
  | message rawJson websocket =>
      rcases processMessage_frame py hs r rawJson websocket with
        ⟨hframe, h⟩ | ⟨d, frame, hframe, h⟩
      · -- no frame in the message
        refine Or.inl ⟨fun d => ?_, h.flow, h.effect⟩
        rintro ⟨_, _, _, hi, hsome, -⟩
        obtain ⟨rfl, rfl⟩ := Action.message.inj hi
        cases hframe.symm.trans hsome
      · unfold Counts at h
        split at h
        · -- a frame that could be stamped has been counted
          rename_i stamped hstamped
          refine Or.inr (Or.inl ⟨d, _, fun d' => ?_, h.flow, h.effect⟩)
          rintro ⟨_, _, frame', hi, hsome, hlong⟩
          obtain ⟨rfl, rfl⟩ := Action.message.inj hi
          obtain ⟨rfl, rfl⟩ := by simpa using hframe.symm.trans hsome
          obtain ⟨e, he⟩ := (stampPayload_error_iff (r := r) (d := d)).mpr hlong
          cases hstamped.symm.trans he
        · -- one that could not fails at the door
          rename_i e he
          exact Or.inr (Or.inr ⟨d, ⟨rawJson, websocket, frame, rfl, hframe,
            stampPayload_error_iff.mp ⟨e, he⟩⟩, h.effect, h.flow⟩)
  | registered k =>
      unfold Server.step
      dsimp only
      split
      · exact intake_of_eq (fun _ _ h => by cases h) rfl
      · have h := completeRegistration_ignores py
          { s with registering := s.registering.eraseIdx k } r
        exact Or.inl ⟨not_failsAtDoor fun _ _ h => (by cases h), (h _).flow, (h _).effect⟩
  | submitDecodedFrame d node token websocket frameId receivedMs =>
      rcases submitDecodedFrame_enters py hs r d node token websocket frameId receivedMs
        with h | ⟨p, h⟩
      · exact Or.inl ⟨not_failsAtDoor fun _ _ h => (by cases h), h.flow, h.effect⟩
      · exact Or.inr (Or.inl ⟨d, p, not_failsAtDoor fun _ _ h => (by cases h), h.flow, h.effect⟩)
  | attachLocal d source =>
      -- from here on nothing carries a frame
      refine intake_of_eq (fun _ _ h => by cases h) ?_
      show (s.attachLocal py r d source).flow = s.flow
      unfold Server.attachLocal
      split_ifs <;> rfl
  | updateHeartbeat node token =>
      refine intake_of_eq (fun _ _ h => by cases h) ?_
      show (s.updateHeartbeat r node token).flow = s.flow
      unfold Server.updateHeartbeat
      split <;> rfl
  | socketLost node websocket =>
      refine intake_of_eq (fun _ _ h => by cases h) ?_
      show (s.socketLost node websocket).flow = s.flow
      unfold Server.socketLost
      split_ifs <;> rfl
  | expire =>
      refine intake_of_eq (fun _ _ h => by cases h) ?_
      show (s.expire r).flow = s.flow
      unfold Server.expire
      split
      · rfl
      · split <;> rfl
  | registerPairing d pairing => exact intake_of_eq (fun _ _ h => by cases h) rfl
  | readPairing d => exact intake_of_eq (fun _ _ h => by cases h) rfl
  | disconnectCommand d =>
      refine intake_of_eq (fun _ _ h => by cases h) ?_
      show (s.disconnectCommand py r d).flow = s.flow
      unfold Server.disconnectCommand
      split <;> rfl
  | disconnected k =>
      unfold Server.step
      dsimp only
      split
      · exact intake_of_eq (fun _ _ h => by cases h) rfl
      · exact intake_of_eq (fun _ _ h => by cases h) rfl
  | command c safe =>
      refine intake_of_eq (fun _ _ h => by cases h) ?_
      show (s.handleCommand c safe).flow = s.flow
      unfold Server.handleCommand
      split_ifs <;> rfl
  | resetDone =>
      refine intake_of_eq (fun _ _ h => by cases h) ?_
      show (s.resetDone).flow = s.flow
      unfold Server.resetDone
      split_ifs <;> rfl
  | outputFailed => exact intake_of_eq (fun _ _ h => by cases h) rfl
  | takeBatch | batchDone | batchRaises | commit => cases hi

/-! ## The results of a batch -/

/-- A lookup fails on what cannot be hashed, and on nothing else. -/
theorem validateSession_error_iff {m : SessionManager} {nodeId token : Json} {now : Rat} :
    (∃ e, m.validateSession nodeId token now = .error e) ↔ nodeId.hashable = false := by
  unfold SessionManager.validateSession Dict.lookupJson
  cases nodeId with
  | str node =>
      dsimp only
      cases m.sessions.get? node <;> simp [Json.hashable]
  | _ => simp [Json.hashable]

theorem resultsOf_cons (packet : Packet) (packets : List Packet) (outcome : PacketOutcome)
    (outcomes : List PacketOutcome) :
    Server.resultsOf (packet :: packets) (outcome :: outcomes)
      = (match outcome with | .processed result => [(packet, result)] | _ => [])
        ++ Server.resultsOf packets outcomes := by
  unfold Server.resultsOf
  rw [List.zip_cons_cons, List.filterMap_cons]
  cases outcome <;> rfl

/-- The results come in the order of their packets. -/
theorem resultsOf_sublist (packets : List Packet) (outcomes : List PacketOutcome) :
    ((Server.resultsOf packets outcomes).map Prod.fst).Sublist packets := by
  induction packets generalizing outcomes with
  | nil => exact List.Sublist.refl _
  | cons packet packets ih =>
      cases outcomes with
      | nil => exact List.nil_sublist _
      | cons outcome outcomes =>
          rw [resultsOf_cons]
          cases outcome with
          | processed result => exact (ih outcomes).cons_cons packet
          | _ => exact (ih outcomes).cons packet

end SmartTraffic
