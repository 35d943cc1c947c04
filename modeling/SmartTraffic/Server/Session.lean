import SmartTraffic.Lib.Json

/-!
# Sessions and connections

`SessionManager` and `ConnectionManager`: who is registered under which node id
with which token and direction, which pairing is offered for a direction, and
which socket is the connection of a node. The clock reading that a method takes
is an argument, and so is the token that `uuid.uuid4` yields.
-/

namespace SmartTraffic

open Lib

/-- The four approaches, as sessions name them. -/
def directions : List String := ["north", "south", "east", "west"]

/-- The identity of a socket. -/
abbrev Socket := Nat

/-- `NodeSession`, with the attribute `streaming` that its creators set at once. -/
structure NodeSession where
  nodeId : String
  sessionToken : String
  cameraDirection : String
  connectedAt : Rat
  lastHeartbeat : Rat
  heartbeatTimeoutSec : Rat
  streaming : Bool
  deriving DecidableEq, Repr

def NodeSession.isExpired (s : NodeSession) (now : Rat) : Bool :=
  s.heartbeatTimeoutSec < now - s.lastHeartbeat

/-- An entry of `pairing_sessions`. -/
structure PairingSession where
  sessionId : String
  token : String
  expiresAt : Rat
  deriving DecidableEq, Repr

structure SessionManager where
  sessions : Dict String NodeSession := ∅
  pairingSessions : Dict String PairingSession := ∅
  /-- `HEARTBEAT_TIMEOUT_SEC`. -/
  timeoutSec : Rat := 10

/-- `(camera_direction or "north").lower()`. -/
def cleanDirection (py : Python) (direction : String) : String :=
  py.lower (if direction = "" then "north" else direction)

namespace SessionManager

def getSessionByDirection (py : Python) (m : SessionManager) (direction : String) (now : Rat) :
    Option NodeSession :=
  m.sessions.values.find? fun s =>
    py.lower s.cameraDirection = cleanDirection py direction && !s.isExpired now

def removeSession (m : SessionManager) (nodeId : String) : SessionManager :=
  { m with sessions := m.sessions.erase nodeId }

/-- The table without the live session another node holds for the direction. -/
def evict (py : Python) (m : SessionManager) (nodeId direction : String) (now : Rat) :
    SessionManager :=
  match m.getSessionByDirection py direction now with
  | none => m
  | some existing => if existing.nodeId ≠ nodeId then m.removeSession existing.nodeId else m

/-- The session `create_session` makes. -/
def newSession (py : Python) (m : SessionManager) (nodeId direction token : String) (now : Rat)
    (streaming : Bool) : NodeSession where
  nodeId := nodeId
  sessionToken := token
  cameraDirection := cleanDirection py direction
  connectedAt := now
  lastHeartbeat := now
  heartbeatTimeoutSec := m.timeoutSec
  streaming := streaming

/-- `create_session`, and the `streaming` its caller then sets. -/
def createSession (py : Python) (m : SessionManager) (nodeId direction token : String) (now : Rat)
    (streaming : Bool) : SessionManager :=
  let evicted := m.evict py nodeId (cleanDirection py direction) now
  { evicted with
    sessions := evicted.sessions.set nodeId (m.newSession py nodeId direction token now streaming) }

/-- `validate_session` on the values a message carries. -/
def validateSession (m : SessionManager) (nodeId token : Json) (now : Rat) : Except PyError Bool :=
  match m.sessions.lookupJson nodeId with
  | .error e => .error e
  | .ok none => .ok false
  | .ok (some s) => .ok (!s.isExpired now && token.isStr s.sessionToken)

/-- `sessions[node_id]` with another heartbeat or streaming flag. -/
def update (m : SessionManager) (nodeId : String) (f : NodeSession → NodeSession) :
    SessionManager :=
  match m.sessions.get? nodeId with
  | none => m
  | some s => { m with sessions := m.sessions.set nodeId (f s) }

/-- `last_heartbeat = time.time()`. -/
def beat (m : SessionManager) (nodeId : String) (now : Rat) : SessionManager :=
  m.update nodeId fun s => { s with lastHeartbeat := now }

/-- `streaming = ..` on one session. -/
def setStreaming (m : SessionManager) (nodeId : String) (streaming : Bool) : SessionManager :=
  m.update nodeId fun s => { s with streaming := streaming }

/-- `streaming = ..` on every session. -/
def setAllStreaming (m : SessionManager) (streaming : Bool) : SessionManager :=
  { m with sessions := m.sessions.mapValues fun _ s => { s with streaming := streaming } }

/-- `get_expired_sessions`. -/
def expiredSessions (m : SessionManager) (now : Rat) : List String :=
  (m.sessions.items.filter fun (_, s) => s.isExpired now).map Prod.fst

/-- `update_heartbeat`, and the refresh that an authenticated message brings. -/
def refreshHeartbeat (m : SessionManager) (nodeId token : Json) (now : Rat) : SessionManager :=
  match nodeId, m.validateSession nodeId token now with
  | .str node, .ok true => m.beat node now
  | _, _ => m

def cleanupExpiredSessions (m : SessionManager) (now : Rat) : SessionManager :=
  (m.expiredSessions now).foldl removeSession m

/-- `register_pairing_session`. -/
def registerPairing (py : Python) (m : SessionManager) (direction : String) (p : PairingSession) :
    SessionManager :=
  { m with pairingSessions := m.pairingSessions.set (cleanDirection py direction) p }

/-- `clear_pairing_session`. -/
def clearPairing (py : Python) (m : SessionManager) (direction : String) : SessionManager :=
  { m with pairingSessions := m.pairingSessions.erase (cleanDirection py direction) }

/-- `get_pairing_session`. An expired pairing is cleared on the way. -/
def getPairing (py : Python) (m : SessionManager) (direction : String) (now : Rat) :
    Option PairingSession × SessionManager :=
  match m.pairingSessions.get? (cleanDirection py direction) with
  | none => (none, m)
  | some p => if p.expiresAt < now then (none, m.clearPairing py direction) else (some p, m)

/-- `validate_pairing_session`. -/
def validatePairing (py : Python) (m : SessionManager) (direction sessionId token : String)
    (now : Rat) : Bool × SessionManager :=
  let (pairing, m) := m.getPairing py direction now
  (pairing.any fun p => p.sessionId = sessionId && p.token = token, m)

end SessionManager

/-! ## Validation -/

/-- **A session that validates is in the table, unexpired, and has the token.** -/
theorem validateSession_ok {m : SessionManager} {nodeId token : Json} {now : Rat}
    (h : m.validateSession nodeId token now = .ok true) : ∃ node session, nodeId = .str node
      ∧ m.sessions.get? node = some session ∧ session.isExpired now = false
      ∧ token = .str session.sessionToken := by
  unfold SessionManager.validateSession at h
  cases hl : m.sessions.lookupJson nodeId with
  | error e => rw [hl] at h; nomatch h
  | ok found =>
      rw [hl] at h
      cases found with
      | none => exact absurd (Except.ok.inj h) Bool.false_ne_true
      | some session =>
          obtain ⟨node, hnode, hget⟩ := Dict.lookupJson_eq_some hl
          obtain ⟨hexp, htoken⟩ := Bool.and_eq_true_iff.mp (Except.ok.inj h)
          exact ⟨node, session, hnode, hget, Bool.not_eq_true' _ |>.mp hexp,
            Json.isStr_iff.mp htoken⟩

/-! ## What the operations do to the table -/

/-- What stays with a session: its node, its token, its direction and its timeout. -/
def NodeSession.identity (s : NodeSession) : String × String × String × Rat :=
  (s.nodeId, s.sessionToken, s.cameraDirection, s.heartbeatTimeoutSec)

/-- The sessions of `m'` are sessions of `m`, up to heartbeat and streaming. -/
def Retains (m m' : SessionManager) : Prop :=
  ∀ node session', m'.sessions.get? node = some session' →
    ∃ session, m.sessions.get? node = some session ∧ session.identity = session'.identity

theorem Retains.refl (m : SessionManager) : Retains m m := fun _ s h => ⟨s, h, rfl⟩

theorem Retains.trans {m m' m'' : SessionManager} (h : Retains m m') (h' : Retains m' m'') :
    Retains m m'' := by
  intro node s hs
  obtain ⟨s', hs', heq'⟩ := h' node s hs
  obtain ⟨s₀, hs₀, heq⟩ := h node s' hs'
  exact ⟨s₀, hs₀, heq.trans heq'⟩

theorem removeSession_retains (m : SessionManager) (nodeId : String) :
    Retains m (m.removeSession nodeId) :=
  fun _ s h => ⟨s, (Dict.get?_of_get?_erase m.sessions h).2, rfl⟩

/-- An eviction takes sessions away and changes none. -/
theorem evict_shrinks (py : Python) (m : SessionManager) (nodeId direction : String) (now : Rat) :
    m.sessions.Shrinks (m.evict py nodeId direction now).sessions := by
  unfold SessionManager.evict
  cases m.getSessionByDirection py direction now with
  | none => exact Dict.shrinks_refl _
  | some existing =>
      dsimp only
      split_ifs
      · exact Dict.shrinks_erase m.sessions existing.nodeId
      · exact Dict.shrinks_refl _

/-- An update of one session that leaves its identity alone. -/
theorem update_retains {m : SessionManager} {nodeId : String} {f : NodeSession → NodeSession}
    (hf : ∀ s, (f s).identity = s.identity) : Retains m (m.update nodeId f) := by
  unfold SessionManager.update
  cases hget : m.sessions.get? nodeId with
  | none => exact Retains.refl m
  | some s =>
      intro node s' hs'
      dsimp only at hs'
      -- only the entry of `nodeId` is written
      by_cases hnode : node = nodeId
      · subst hnode
        rw [Dict.get?_set_self] at hs'
        obtain rfl := Option.some.inj hs'
        exact ⟨s, hget, (hf s).symm⟩
      · rw [Dict.get?_set_of_ne _ _ hnode] at hs'
        exact ⟨s', hs', rfl⟩

theorem beat_retains (m : SessionManager) (nodeId : String) (now : Rat) :
    Retains m (m.beat nodeId now) := update_retains fun _ => rfl

theorem setStreaming_retains (m : SessionManager) (nodeId : String) (b : Bool) :
    Retains m (m.setStreaming nodeId b) := update_retains fun _ => rfl

theorem setAllStreaming_retains (m : SessionManager) (b : Bool) :
    Retains m (m.setAllStreaming b) := by
  intro node s' hs'
  unfold SessionManager.setAllStreaming at hs'
  rw [Dict.get?_mapValues] at hs'
  obtain ⟨s, hs, rfl⟩ := Option.map_eq_some_iff.mp hs'
  exact ⟨s, hs, rfl⟩

/-- A pairing that is read leaves the sessions alone. -/
theorem getPairing_sessions (py : Python) (m : SessionManager) (direction : String) (now : Rat) :
    (m.getPairing py direction now).2.sessions = m.sessions := by
  unfold SessionManager.getPairing
  cases m.pairingSessions.get? (cleanDirection py direction) with
  | none => rfl
  | some p => dsimp only; split_ifs <;> rfl

/-- **`create_session` keeps some of the sessions and writes the new one.** -/
theorem createSession_get? {py : Python} {m : SessionManager} {nodeId direction token : String}
    {now : Rat} {streaming : Bool} {node : String} {session : NodeSession}
    (h : (m.createSession py nodeId direction token now streaming).sessions.get? node
      = some session) :
    node = nodeId ∧ session = m.newSession py nodeId direction token now streaming
      ∨ m.sessions.get? node = some session := by
  unfold SessionManager.createSession at h
  dsimp only at h
  by_cases hnode : node = nodeId
  · subst hnode
    rw [Dict.get?_set_self] at h
    exact Or.inl ⟨rfl, (Option.some.inj h).symm⟩
  · rw [Dict.get?_set_of_ne _ _ hnode] at h
    exact Or.inr (evict_shrinks py m nodeId (cleanDirection py direction) now node session h)

/-- The identity under which the new session is entered. -/
theorem newSession_identity (py : Python) (m : SessionManager) (nodeId direction token : String)
    (now : Rat) (streaming : Bool) :
    (m.newSession py nodeId direction token now streaming).identity
      = (nodeId, token, cleanDirection py direction, m.timeoutSec) := rfl

end SmartTraffic
