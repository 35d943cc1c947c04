import SmartTraffic.Server.Intake

/-!
# How cameras register

`registrationOf` says which messages are authorised to register, and as what: the
checks of `_handle_register_camera`. What follows them is `connect`, which may
have to close an older socket of the node first. The session is created only when
that is done.
-/

namespace SmartTraffic

open Lib

/-! ## Registrations that are authorised -/

/-- The message is a REGISTER_CAMERA of the server's protocol version. -/
def isRegisterCamera (raw : Dict String Json) : Bool :=
  ((raw.get? "protocol_version").getD (.str protocolVersion)).isStr protocolVersion
    && MessageType.ofValue ((raw.getJson "message_type").orElse (raw.getJson "type"))
      = some .registerCamera

namespace Server

/-- The registration of a node for a direction, when it is authorised. -/
def registrationFor (py : Python) (s : Server) (r : Reading) (raw payload : Dict String Json)
    (nodeId : Json) (direction : String) (hd : direction ∈ directions) (websocket : Socket) :
    Option Registration :=
  let token := py.strOf ((raw.getJson "token").orElse (.str ""))
  let authorized := (s.sessions.validatePairing py direction (py.strOf nodeId) token r.time).1
  if !authorized && !s.isReconnect (py.strOf nodeId) direction token r.time then none
  else if s.isOccupied py nodeId direction r.time then none
  else
    let payload := (payload.set "node_id" nodeId).set "camera_direction" (.str direction)
    match nodeId, registrationValid py raw payload with
    | .str node, true =>
        some
          { nodeId := node, direction := direction, token := token, socket := websocket
            isPairingAuthorized := authorized, correlationId := raw.getJson "id"
            direction_mem := hd }
    | _, _ => none

/-- The registration that a message is authorised for. -/
def registrationOf (py : Python) (s : Server) (r : Reading) (rawJson : Json) (websocket : Socket) :
    Option Registration :=
  match rawJson.toDict with
  | none => none
  | some raw =>
      if isRegisterCamera raw then
        let payload := (payloadOf raw).toDict.getD ∅
        let nodeId := (payload.getJson "node_id").orElse ((payload.getJson "session").orElse
          ((payload.getJson "cameraId").orElse ((raw.getJson "token").orElse (.str "CAM-001"))))
        let direction := py.lower (py.strOf (requestedDirection py payload nodeId))
        if hd : direction ∈ directions then
          s.registrationFor py r raw payload nodeId direction hd websocket
        else none
      else none

/-- The server once the pairing of a direction has been looked at. -/
def lookedUp (py : Python) (s : Server) (d : String) (now : Rat) : Server :=
  { s with sessions := (s.sessions.getPairing py d now).2 }

end Server

/-! ## What the checks have seen -/

/-- The pairing of the direction is for the node and the token, and has not expired. -/
def PairingFor (py : Python) (m : SessionManager) (reg : Registration) (now : Rat) : Prop :=
  ∃ pairing, m.pairingSessions.get? (cleanDirection py reg.direction) = some pairing
    ∧ now ≤ pairing.expiresAt ∧ pairing.sessionId = reg.nodeId ∧ pairing.token = reg.token

/-- The node has an unexpired session for the direction with the token. -/
def SessionFor (m : SessionManager) (reg : Registration) (now : Rat) : Prop :=
  ∃ session, m.sessions.get? reg.nodeId = some session ∧ session.cameraDirection = reg.direction
    ∧ session.sessionToken = reg.token ∧ session.isExpired now = false

theorem validatePairing_eq_true {py : Python} {m : SessionManager} {d node token : String}
    {now : Rat} (h : (m.validatePairing py d node token now).1 = true) :
    ∃ pairing, m.pairingSessions.get? (cleanDirection py d) = some pairing
      ∧ now ≤ pairing.expiresAt ∧ pairing.sessionId = node ∧ pairing.token = token := by
  unfold SessionManager.validatePairing SessionManager.getPairing at h
  cases hget : m.pairingSessions.get? (cleanDirection py d) with
  | none => rw [hget] at h; nomatch h
  | some pairing =>
      rw [hget] at h
      dsimp only at h
      split_ifs at h with hexp
      · nomatch h
      · obtain ⟨hid, htoken⟩ := by simpa using h
        exact ⟨pairing, rfl, not_lt.mp hexp, hid, htoken⟩

theorem isReconnect_eq_true {s : Server} {node d token : String} {now : Rat}
    (h : s.isReconnect node d token now = true) :
    ∃ session, s.sessions.sessions.get? node = some session ∧ session.cameraDirection = d
      ∧ session.sessionToken = token ∧ session.isExpired now = false := by
  unfold Server.isReconnect at h
  obtain ⟨session, hget, hall⟩ := (Option.any_eq_true _ _).mp h
  obtain ⟨hboth, hlive⟩ := Bool.and_eq_true_iff.mp hall
  obtain ⟨hd, htoken⟩ := Bool.and_eq_true_iff.mp hboth
  exact ⟨session, hget, of_decide_eq_true hd, of_decide_eq_true htoken, by simpa using hlive⟩

/-- **A registration that passes the checks is authorised, and its direction is free.** -/
theorem registrationFor_authorised {py : Python} {s : Server} {r : Reading}
    {raw payload : Dict String Json} {nodeId : Json} {d : String} {hd : d ∈ directions}
    {websocket : Socket} {reg : Registration}
    (h : s.registrationFor py r raw payload nodeId d hd websocket = some reg) :
    (reg.isPairingAuthorized = true → PairingFor py s.sessions reg r.time)
      ∧ (reg.isPairingAuthorized = false → SessionFor s.sessions reg r.time)
      ∧ s.isOccupied py (.str reg.nodeId) reg.direction r.time = false := by
  unfold Server.registrationFor at h
  dsimp only at h
  split_ifs at h with hauth hocc
  split at h
  · rename_i node _ _
    obtain rfl := Option.some.inj h
    refine ⟨fun hpairing => validatePairing_eq_true hpairing, fun hno => ?_, by simpa using hocc⟩
    dsimp only at hno
    rw [hno] at hauth
    exact isReconnect_eq_true (by simpa [Python.strOf] using hauth)
  · cases h

theorem registrationOf_eq_some {py : Python} {s : Server} {r : Reading} {rawJson : Json}
    {websocket : Socket} {reg : Registration}
    (h : s.registrationOf py r rawJson websocket = some reg) :
    (reg.isPairingAuthorized = true → PairingFor py s.sessions reg r.time)
      ∧ (reg.isPairingAuthorized = false → SessionFor s.sessions reg r.time)
      ∧ s.isOccupied py (.str reg.nodeId) reg.direction r.time = false := by
  unfold Server.registrationOf at h
  split at h
  · nomatch h
  · dsimp only at h
    split_ifs at h
    exact registrationFor_authorised h

/-! ## What a registration does -/

/-- Looking at a pairing leaves the sessions alone. -/
theorem lookedUp_sessions (py : Python) (s : Server) (d : String) (now : Rat) :
    (s.lookedUp py d now).sessions.sessions = s.sessions.sessions := getPairing_sessions py _ d now

theorem isOccupied_lookedUp (py : Python) (s : Server) (d d' : String) (now : Rat) (nodeId : Json) :
    (s.lookedUp py d now).isOccupied py nodeId d' now = s.isOccupied py nodeId d' now := by
  unfold Server.isOccupied SessionManager.getSessionByDirection
  rw [lookedUp_sessions]

/-- **An authorised registration connects, and any other is turned down.** -/
theorem registerNode_eq (py : Python) (s : Server) (r : Reading) (raw payload : Dict String Json)
    (nodeId : Json) {d : String} (hd : d ∈ directions) (websocket : Socket) :
    match s.registrationFor py r raw payload nodeId d hd websocket with
    | some reg => reg.direction = d
        ∧ s.registerNode py r raw payload nodeId d hd websocket
          = (s.lookedUp py d r.time).connect py r reg
    | none => (s.registerNode py r raw payload nodeId d hd websocket).server
        = s.lookedUp py d r.time := by
  have hocc := isOccupied_lookedUp py s d d r.time nodeId
  unfold Server.registrationFor Server.registerNode
  unfold Server.lookedUp at hocc ⊢
  dsimp only
  rw [validatePairing_snd, hocc]
  split_ifs
  · rfl
  · rfl
  · cases nodeId with
    | str node =>
        cases registrationValid py raw ((payload.set "node_id" (.str node)).set "camera_direction"
          (.str d)) with
        | true => exact ⟨rfl, rfl⟩
        | false => rfl
    | _ => rfl

end SmartTraffic
