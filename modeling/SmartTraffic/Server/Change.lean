import SmartTraffic.Server.EventLoop

/-!
# What a stretch of the event loop does

However a stretch comes about, it does one of five things to the tables that
decide about frames: it only takes entries away (`Calm`), it creates a session,
it admits a frame, the coordinator takes the slots, or it commits a result.
`step_change` says so for every action, and what a run preserves is derived from
it alone.
-/

namespace SmartTraffic

open Lib

/-! ## Directions -/

theorem lower_direction (py : Python) {d : String} (h : d ∈ directions) : py.lower d = d := by
  refine py.lower_ascii d ?_
  simp only [directions, List.mem_cons, List.not_mem_nil, or_false] at h
  rcases h with rfl | rfl | rfl | rfl <;> simp

theorem direction_ne_empty {d : String} (h : d ∈ directions) : d ≠ "" := by
  have hne : ∀ d ∈ directions, d ≠ "" := by decide
  exact hne d h

theorem cleanDirection_direction (py : Python) {d : String} (h : d ∈ directions) :
    cleanDirection py d = d := by
  unfold cleanDirection
  rw [if_neg (direction_ne_empty h)]
  exact lower_direction py h

/-! ## Ownership -/

/--
The packet belongs to `node`: its socket is the connection of `node`, whose live
session has the packet's token and the direction `d`.
-/
def Owned (s : Server) (now : Rat) (node d : String) (p : Packet) : Prop :=
  s.activeConnections.get? node = some p.ownerSocket
    ∧ ∃ session, s.sessions.sessions.get? node = some session ∧ session.isExpired now = false
        ∧ p.sessionToken = .str session.sessionToken ∧ session.cameraDirection = d

/-- Every session is for one of the four approaches and does not expire ahead of its heartbeat. -/
def SoundSessions (s : Server) : Prop :=
  ∀ node session, s.sessions.sessions.get? node = some session →
    session.cameraDirection ∈ directions ∧ 0 ≤ session.heartbeatTimeoutSec

/-! ## The five changes -/

/-- The published tables hold nothing new. -/
structure Unpublished (s s' : Server) : Prop where
  frameBuffer : s.frameBuffer.Shrinks s'.frameBuffer
  frameUpdatedAt : s.frameUpdatedAt.Shrinks s'.frameUpdatedAt
  liveTelemetry : s.liveTelemetry.Shrinks s'.liveTelemetry

theorem unpublished_of_eq {s s' : Server} (hb : s'.frameBuffer = s.frameBuffer)
    (hu : s'.frameUpdatedAt = s.frameUpdatedAt) (ht : s'.liveTelemetry = s.liveTelemetry) :
    Unpublished s s' := by
  refine ⟨?_, ?_, ?_⟩
  · rw [hb]; exact Dict.shrinks_refl _
  · rw [hu]; exact Dict.shrinks_refl _
  · rw [ht]; exact Dict.shrinks_refl _

theorem Unpublished.trans {s s' s'' : Server} (h : Unpublished s s') (h' : Unpublished s' s'') :
    Unpublished s s'' :=
  ⟨h.frameBuffer.trans h'.frameBuffer, h.frameUpdatedAt.trans h'.frameUpdatedAt,
    h.liveTelemetry.trans h'.liveTelemetry⟩

/-- No session, no connection and no frame is new. -/
structure Calm (s s' : Server) : Prop where
  sessions : Retains s.sessions s'.sessions
  timeout : s'.sessions.timeoutSec = s.sessions.timeoutSec
  connections : s.activeConnections.Shrinks s'.activeConnections
  slots : s'.latestFrames = s.latestFrames
  flight : ∀ p ∈ s'.inFlight, p ∈ s.inFlight
  tables : Unpublished s s'
  issued : s'.issued = s.issued

/-- A session is created for a node, along with its connection. -/
structure Creates (r : Reading) (node d : String) (s s' : Server) : Prop where
  /-- The direction is one of the four. -/
  direction : d ∈ directions
  /-- The node has the new session, every other node an old one. -/
  sessions : ∀ n session', s'.sessions.sessions.get? n = some session' →
    n = node ∧ session'.identity = (node, r.uuid, d, s.sessions.timeoutSec)
      ∨ ∃ session, s.sessions.sessions.get? n = some session
          ∧ session.identity = session'.identity ∧ n ≠ node
  timeout : s'.sessions.timeoutSec = s.sessions.timeoutSec
  connections : ∀ n socket, n ≠ node → s'.activeConnections.get? n = some socket →
    s.activeConnections.get? n = some socket
  slots : s'.latestFrames = s.latestFrames
  flight : ∀ p ∈ s'.inFlight, p ∈ s.inFlight
  tables : Unpublished s s'
  issued : s'.issued = ⟨r.uuid, node, d⟩ :: s.issued

/-- A frame is put into its slot. -/
structure Admits (r : Reading) (d : String) (p : Packet) (s s' : Server) : Prop where
  sessions : Retains s.sessions s'.sessions
  timeout : s'.sessions.timeoutSec = s.sessions.timeoutSec
  connections : s.activeConnections.Shrinks s'.activeConnections
  slots : s'.latestFrames = s.latestFrames.set d p
  flight : ∀ p ∈ s'.inFlight, p ∈ s.inFlight
  tables : Unpublished s s'
  issued : s'.issued = s.issued
  /-- The frame names its slot as its direction. -/
  direction : p.direction = .str d
  /-- Its sender owns it. -/
  owned : ∃ node, Owned s' r.time node d p

/-- The coordinator takes the slots. -/
structure Takes (s s' : Server) : Prop where
  sessions : s'.sessions = s.sessions
  connections : s'.activeConnections = s.activeConnections
  slots : s'.latestFrames = ∅
  flight : ∀ p ∈ s'.inFlight, p ∈ s.latestFrames.values
  tables : Unpublished s s'
  issued : s'.issued = s.issued

/-- A processed frame is published under its direction. -/
structure Commits (r : Reading) (d : String) (p : Packet) (s s' : Server) : Prop where
  running : s.systemRunning = true
  sessions : s'.sessions = s.sessions
  connections : s'.activeConnections = s.activeConnections
  stillRunning : s'.systemRunning = s.systemRunning
  slots : s'.latestFrames = s.latestFrames
  flight : ∀ p ∈ s'.inFlight, p ∈ s.inFlight
  issued : s'.issued = s.issued
  /-- Only the entries of the direction are written, and the buffer's `active` entry. -/
  frameBuffer : ∀ k, k ≠ d → k ≠ "active" → s'.frameBuffer.get? k = s.frameBuffer.get? k
  frameUpdatedAt : ∀ k, k ≠ d → s'.frameUpdatedAt.get? k = s.frameUpdatedAt.get? k
  liveTelemetry : ∀ k, k ≠ d → s'.liveTelemetry.get? k = s.liveTelemetry.get? k
  /-- The frame was in flight for the direction. -/
  mem : p ∈ s.inFlight
  direction : p.direction = .str d
  /-- A live session has its token, and its socket is the connection of that session's node. -/
  current : ∃ node session, s.sessions.sessions.get? node = some session
    ∧ session.isExpired r.time = false ∧ p.sessionToken = .str session.sessionToken
    ∧ s.activeConnections.get? node = some p.ownerSocket

/-- What the stretch of a handler does. -/
inductive Change (r : Reading) (s : Server) : Server → Option Effect → Prop
  | calm {s' : Server} (h : Calm s s') : Change r s s' none
  | create {s' : Server} {node d : String} (h : Creates r node d s s') : Change r s s' none
  | admission {s' : Server} {d : String} {p : Packet} (h : Admits r d p s s') :
      Change r s s' (some (.admitted d p))

theorem Change.cases {r : Reading} {s s' : Server} {e : Option Effect} (h : Change r s s' e) :
    (Calm s s' ∧ e = none) ∨ (∃ node d, Creates r node d s s' ∧ e = none)
      ∨ ∃ d p, Admits r d p s s' ∧ e = some (.admitted d p) := by
  cases h with
  | calm h => exact Or.inl ⟨h, rfl⟩
  | create h => exact Or.inr (Or.inl ⟨_, _, h, rfl⟩)
  | admission h => exact Or.inr (Or.inr ⟨_, _, h, rfl⟩)

/-! ## Calm stretches -/

theorem retains_of_sessions_eq {m m' : SessionManager} (h : m'.sessions = m.sessions) :
    Retains m m' := by
  intro node s hs
  rw [h] at hs
  exact ⟨s, hs, rfl⟩

/-- The parts of the server that decide about frames. -/
def Server.deciding (s : Server) :=
  (s.sessions, s.activeConnections, s.latestFrames, s.inFlight,
    (s.frameBuffer, s.frameUpdatedAt, s.liveTelemetry), s.issued)

/-- A stretch that leaves these parts alone is calm. -/
theorem calm_of_eq {s s' : Server} (h : s'.deciding = s.deciding) : Calm s s' := by
  simp only [Server.deciding, Prod.mk.injEq] at h
  obtain ⟨hsessions, hconn, hslots, hflight, ⟨hb, hu, ht⟩, hissued⟩ := h
  refine ⟨retains_of_sessions_eq (by rw [hsessions]), by rw [hsessions], ?_, hslots, ?_,
    unpublished_of_eq hb hu ht, hissued⟩
  · rw [hconn]; exact Dict.shrinks_refl _
  · rw [hflight]; exact fun p hp => hp

theorem Calm.refl (s : Server) : Calm s s := calm_of_eq rfl

theorem Calm.trans {s s' s'' : Server} (h : Calm s s') (h' : Calm s' s'') : Calm s s'' :=
  ⟨h.sessions.trans h'.sessions, h'.timeout.trans h.timeout, h.connections.trans h'.connections,
    h'.slots.trans h.slots, fun p hp => h.flight p (h'.flight p hp), h.tables.trans h'.tables,
    h'.issued.trans h.issued⟩

/-- Another table of sessions that retains the old ones. -/
theorem calm_sessions {s : Server} {m : SessionManager} (h : Retains s.sessions m)
    (ht : m.timeoutSec = s.sessions.timeoutSec) : Calm s { s with sessions := m } :=
  ⟨h, ht, Dict.shrinks_refl _, rfl, fun _ h => h, unpublished_of_eq rfl rfl rfl, rfl⟩

theorem update_timeoutSec (m : SessionManager) (node : String) (f : NodeSession → NodeSession) :
    (m.update node f).timeoutSec = m.timeoutSec := by
  unfold SessionManager.update
  cases m.sessions.get? node with
  | none => rfl
  | some s => rfl

theorem calm_beat (s : Server) (node : String) (now : Rat) :
    Calm s { s with sessions := s.sessions.beat node now } :=
  calm_sessions (beat_retains _ _ _) (update_timeoutSec _ _ _)

theorem calm_setStreaming (s : Server) (node : String) (b : Bool) :
    Calm s { s with sessions := s.sessions.setStreaming node b } :=
  calm_sessions (setStreaming_retains _ _ _) (update_timeoutSec _ _ _)

theorem calm_unregister (s : Server) (node : String) : Calm s (s.unregister node) :=
  ⟨removeSession_retains _ _, rfl, Dict.shrinks_erase _ _, rfl, fun _ h => h,
    unpublished_of_eq rfl rfl rfl, rfl⟩

theorem getPairing_timeoutSec (py : Python) (m : SessionManager) (d : String) (now : Rat) :
    (m.getPairing py d now).2.timeoutSec = m.timeoutSec := by
  unfold SessionManager.getPairing
  cases m.pairingSessions.get? (cleanDirection py d) with
  | none => rfl
  | some p => dsimp only; split_ifs <;> rfl

theorem calm_getPairing (py : Python) (s : Server) (d : String) (now : Rat) :
    Calm s { s with sessions := (s.sessions.getPairing py d now).2 } :=
  calm_sessions (retains_of_sessions_eq (getPairing_sessions py _ d now))
    (getPairing_timeoutSec py _ d now)

theorem calm_clearDirection (s : Server) (d : String) : Calm s (s.clearDirection d) :=
  ⟨Retains.refl _, rfl, Dict.shrinks_refl _, rfl, fun _ h => h,
    ⟨Dict.shrinks_erase _ _, Dict.shrinks_erase _ _, Dict.shrinks_erase _ _⟩, rfl⟩

/-- A calm stretch may come first. -/
theorem Calm.trans_change {r : Reading} {s s₁ s' : Server} {e : Option Effect} (h : Calm s s₁)
    (hc : Change r s₁ s' e) : Change r s s' e := by
  cases hc with
  | calm h' => exact .calm (h.trans h')
  | create h' =>
      refine .create ⟨h'.direction, fun n session' hs' => ?_, h'.timeout.trans h.timeout,
        fun n k hn hk => h.connections n k (h'.connections n k hn hk), h'.slots.trans h.slots,
        fun p hp => h.flight p (h'.flight p hp), h.tables.trans h'.tables,
        by rw [h'.issued, h.issued]⟩
      rcases h'.sessions n session' hs' with ⟨hn, hid⟩ | ⟨session, hs, hid, hn⟩
      · rw [h.timeout] at hid
        exact Or.inl ⟨hn, hid⟩
      · obtain ⟨session₀, hs₀, hid₀⟩ := h.sessions n session hs
        exact Or.inr ⟨session₀, hs₀, hid₀.trans hid, hn⟩
  | admission h' =>
      exact .admission ⟨h.sessions.trans h'.sessions, h'.timeout.trans h.timeout,
        h.connections.trans h'.connections, by rw [h'.slots, h.slots],
        fun p hp => h.flight p (h'.flight p hp), h.tables.trans h'.tables,
        h'.issued.trans h.issued, h'.direction, h'.owned⟩

/-! ## Frames -/

/-- A stamped payload has two timestamps set, and a frame id if it had none. -/
theorem stampPayload_ok {r : Reading} {d : String} {payload stamped : Dict String Json}
    (h : Server.stampPayload r d payload = .ok stamped) : ∃ cap upload frameId : Json,
    stamped = if (payload.set "capture_timestamp" cap |>.set "upload_timestamp" upload).contains
        "frame_id" then payload.set "capture_timestamp" cap |>.set "upload_timestamp" upload
      else payload.set "capture_timestamp" cap |>.set "upload_timestamp" upload
        |>.set "frame_id" frameId := by
  unfold Server.stampPayload at h
  split at h
  · cases h
  · dsimp only at h
    split at h
    · cases h
    · exact ⟨_, _, _, (Except.ok.inj h).symm⟩

/-- Stamping a payload leaves every other field alone. -/
theorem stampPayload_getJson {r : Reading} {d : String} {payload stamped : Dict String Json}
    (h : Server.stampPayload r d payload = .ok stamped) {k : String} (hc : k ≠ "capture_timestamp")
    (hu : k ≠ "upload_timestamp") (hf : k ≠ "frame_id") :
    stamped.getJson k = payload.getJson k := by
  obtain ⟨cap, upload, frameId, rfl⟩ := stampPayload_ok h
  split_ifs
  · rw [Dict.getJson_set_of_ne _ _ hu, Dict.getJson_set_of_ne _ _ hc]
  · rw [Dict.getJson_set_of_ne _ _ hf, Dict.getJson_set_of_ne _ _ hu,
      Dict.getJson_set_of_ne _ _ hc]

/-- **A frame whose sender owns the slot is admitted, or nothing is.** -/
theorem enqueueFrame_change {s : Server} {r : Reading} {d : String} {payload : Dict String Json}
    {decoded : Bool} {owner : Socket} (hdir : payload.getJson "direction" = .str d)
    (howned : ∀ p : Packet, p.ownerSocket = owner →
      p.sessionToken = payload.getJson "session_token" → ∃ node, Owned s r.time node d p) :
    Change r s (s.enqueueFrame r d payload decoded owner).server
      (s.enqueueFrame r d payload decoded owner).effect := by
  unfold Server.enqueueFrame
  by_cases hrun : s.systemRunning = false
  · rw [if_pos hrun]
    exact .calm (Calm.refl s)
  · rw [if_neg hrun]
    dsimp only
    cases hstamp : Server.stampPayload r d payload with
    | error e => exact .calm (calm_of_eq rfl)
    | ok stamped =>
        refine .admission ⟨Retains.refl _, rfl, Dict.shrinks_refl _, rfl, fun _ h => h,
          unpublished_of_eq rfl rfl rfl, rfl, ?_, howned _ rfl ?_⟩
        · show stamped.getJson "direction" = .str d
          rw [stampPayload_getJson hstamp (by decide) (by decide) (by decide)]
          exact hdir
        · show stamped.getJson "session_token" = payload.getJson "session_token"
          exact stampPayload_getJson hstamp (by decide) (by decide) (by decide)

theorem orElse_str {s : String} (h : s ≠ "") (j : Json) : (Json.str s).orElse j = .str s := by
  unfold Json.orElse Json.truthy
  rw [if_pos (by simpa using h)]

theorem handleVideoFrame_change {py : Python} {s : Server} {r : Reading} {d : String}
    {payload : Dict String Json} {decoded : Bool} {owner : Socket} (hd : d ∈ directions)
    (hdir : payload.getJson "direction" = .str d)
    (howned : ∀ p : Packet, p.ownerSocket = owner →
      p.sessionToken = payload.getJson "session_token" → ∃ node, Owned s r.time node d p) :
    Change r s (s.handleVideoFrame py r payload decoded owner).server
      (s.handleVideoFrame py r payload decoded owner).effect := by
  unfold Server.handleVideoFrame
  split_ifs
  · exact .calm (Calm.refl s)
  · rw [hdir, orElse_str (direction_ne_empty hd)]
    dsimp only
    rw [lower_direction py hd]
    exact enqueueFrame_change hdir howned

/-- The sender of a message that validates owns its frames once its heartbeat is refreshed. -/
theorem owned_of_beat {s : Server} {node : String} {session : NodeSession} {websocket : Socket}
    (now : Rat) (hget : s.sessions.sessions.get? node = some session)
    (htimeout : 0 ≤ session.heartbeatTimeoutSec)
    (hconn : s.activeConnections.get? node = some websocket) {p : Packet}
    (howner : p.ownerSocket = websocket) (htoken : p.sessionToken = .str session.sessionToken) :
    Owned { s with sessions := s.sessions.beat node now } now node session.cameraDirection p := by
  refine ⟨by rw [howner]; exact hconn, { session with lastHeartbeat := now }, ?_, ?_, htoken, rfl⟩
  · show (s.sessions.update node _).sessions.get? node = _
    unfold SessionManager.update
    rw [hget]
    exact Dict.get?_set_self _ _ _
  · unfold NodeSession.isExpired
    dsimp only
    rw [sub_self]
    exact decide_eq_false (not_lt.mpr htimeout)

/-- **A submitted frame is admitted for the session it names, or not at all.** -/
theorem submitDecodedFrame_change {py : Python} {s : Server} (hs : SoundSessions s) (r : Reading)
    (d node token : String) (websocket : Socket) (frameId : Int) (receivedMs : Rat) :
    Change r s (s.submitDecodedFrame py r d node token websocket frameId receivedMs).server
      (s.submitDecodedFrame py r d node token websocket frameId receivedMs).effect := by
  unfold Server.submitDecodedFrame
  split
  · rename_i session hrun hvalid hget
    split_ifs with hconn hstream
    · exact .calm (Calm.refl s)
    · exact .calm (Calm.refl s)
    · obtain ⟨node', session', hnode, hget', -, htoken⟩ := validateSession_ok hvalid
      obtain rfl := Json.str.inj hnode
      obtain rfl := Option.some.inj (hget.symm.trans hget')
      obtain ⟨-, hdir⟩ := not_or.mp hstream
      rw [not_not] at hdir hconn
      obtain ⟨hmem, htimeout⟩ := hs node session hget
      refine (calm_beat s node r.time).trans_change (handleVideoFrame_change (d := d) ?_ rfl ?_)
      · rw [← hdir]; exact hmem
      · intro p howner hp
        have hown := owned_of_beat r.time hget htimeout hconn howner (hp.trans htoken)
        rw [hdir] at hown
        exact ⟨node, hown⟩
  · exact .calm (Calm.refl s)

/-! ## Heartbeat, disconnect and registration -/

theorem handleHeartbeat_change (py : Python) (s : Server) (r : Reading)
    (raw payload : Dict String Json) :
    Change r s (s.handleHeartbeat py r raw payload).server
      (s.handleHeartbeat py r raw payload).effect := by
  unfold Server.handleHeartbeat
  dsimp only
  split
  · split
    · exact .calm (Calm.refl s)
    · exact .calm (Calm.refl s)
    · exact .calm (calm_beat s _ _)
  · exact .calm (Calm.refl s)

theorem handleDisconnect_change (py : Python) (s : Server) (r : Reading)
    (raw payload : Dict String Json) :
    Change r s (s.handleDisconnect py r raw payload).server
      (s.handleDisconnect py r raw payload).effect := by
  unfold Server.handleDisconnect
  dsimp only
  split
  · split
    · exact .calm (calm_unregister s _)
    · exact .calm (Calm.refl s)
  · exact .calm (Calm.refl s)

@[simp] theorem echo_server (o : Outcome) (id : Json) : (o.echo id).server = o.server := by
  unfold Outcome.echo
  split
  · split_ifs <;> rfl
  · rfl

@[simp] theorem echo_effect (o : Outcome) (id : Json) : (o.echo id).effect = o.effect := by
  unfold Outcome.echo
  split
  · split_ifs <;> rfl
  · rfl

theorem evict_timeoutSec (py : Python) (m : SessionManager) (node d : String) (now : Rat) :
    (m.evict py node d now).timeoutSec = m.timeoutSec := by
  unfold SessionManager.evict
  cases m.getSessionByDirection py d now with
  | none => rfl
  | some existing => dsimp only; split_ifs <;> rfl

/--
**Registering a socket for a node creates its session.** The connection is set
and the session created in one stretch; what else the stretch does to the
pairings does not show.
-/
theorem creates_of_createSession (py : Python) (streaming : Bool) {s s' : Server} {r : Reading}
    {node d : String} {socket : Socket} (hd : d ∈ directions)
    (hsessions : s'.sessions.sessions
      = (s.sessions.createSession py node d r.uuid r.time streaming).sessions)
    (htimeout : s'.sessions.timeoutSec = s.sessions.timeoutSec)
    (hconn : s'.activeConnections = s.activeConnections.set node socket)
    (hslots : s'.latestFrames = s.latestFrames) (hflight : ∀ p ∈ s'.inFlight, p ∈ s.inFlight)
    (htables : Unpublished s s')
    (hissued : s'.issued = ⟨r.uuid, node, cleanDirection py d⟩ :: s.issued) :
    Creates r node d s s' := by
  rw [cleanDirection_direction py hd] at hissued
  refine ⟨hd, fun n session' hs' => ?_, htimeout, fun n k hn hk => ?_, hslots, hflight, htables,
    hissued⟩
  · rw [hsessions] at hs'
    -- the eviction before it only takes sessions away
    by_cases hn : n = node
    · left
      rcases createSession_get? hs' with ⟨-, rfl⟩ | hold
      · rw [newSession_identity, cleanDirection_direction py hd]
        exact ⟨hn, rfl⟩
      · -- the entry of the node is the new session, not an old one
        subst hn
        unfold SessionManager.createSession at hs'
        dsimp only at hs'
        rw [Dict.get?_set_self] at hs'
        obtain rfl := Option.some.inj hs'
        rw [newSession_identity, cleanDirection_direction py hd]
        exact ⟨rfl, rfl⟩
    · rcases createSession_get? hs' with ⟨hnode, -⟩ | hold
      · exact absurd hnode hn
      · exact Or.inr ⟨session', hold, rfl, hn⟩
  · rw [hconn, Dict.get?_set_of_ne _ _ hn] at hk
    exact hk

theorem createSession_timeoutSec (py : Python) (m : SessionManager) (node d token : String)
    (now : Rat) (streaming : Bool) :
    (m.createSession py node d token now streaming).timeoutSec = m.timeoutSec :=
  evict_timeoutSec py m node (cleanDirection py d) now

theorem completeRegistration_change (py : Python) (s : Server) (r : Reading) (reg : Registration) :
    Change r s (s.completeRegistration py r reg).server
      (s.completeRegistration py r reg).effect := by
  unfold Server.completeRegistration
  dsimp only
  rw [echo_server, echo_effect]
  refine .create (creates_of_createSession py s.systemRunning reg.direction_mem ?_ ?_ rfl
    rfl (fun _ h => h) (unpublished_of_eq rfl rfl rfl) rfl)
  · dsimp only [Server.createSession]
    split_ifs <;> rfl
  · have ht := createSession_timeoutSec py s.sessions reg.nodeId reg.direction r.uuid r.time
      s.systemRunning
    dsimp only [Server.createSession]
    split_ifs
    · exact ht
    · exact ht

theorem connect_change (py : Python) (s : Server) (r : Reading) (reg : Registration) :
    Change r s (s.connect py r reg).server (s.connect py r reg).effect := by
  unfold Server.connect
  split_ifs
  · exact .calm ⟨Retains.refl _, rfl, Dict.shrinks_erase _ _, rfl, fun _ h => h,
      unpublished_of_eq rfl rfl rfl, rfl⟩
  · exact completeRegistration_change py s r reg

theorem validatePairing_snd (py : Python) (m : SessionManager) (d node token : String) (now : Rat) :
    (m.validatePairing py d node token now).2 = (m.getPairing py d now).2 := rfl

theorem registerNode_change (py : Python) (s : Server) (r : Reading)
    (raw payload : Dict String Json) (nodeId : Json) {d : String} (hd : d ∈ directions)
    (websocket : Socket) :
    Change r s (s.registerNode py r raw payload nodeId d hd websocket).server
      (s.registerNode py r raw payload nodeId d hd websocket).effect := by
  -- whatever follows, an expired pairing may have been cleared on the way
  have hcalm := calm_getPairing py s d r.time
  unfold Server.registerNode
  dsimp only
  rw [validatePairing_snd]
  split_ifs
  · exact .calm hcalm
  · exact .calm hcalm
  · refine hcalm.trans_change ?_
    split
    · exact connect_change py _ r _
    · exact .calm (Calm.refl _)

theorem handleRegisterCamera_change (py : Python) (s : Server) (r : Reading)
    (raw : Dict String Json) (websocket : Socket) :
    Change r s (s.handleRegisterCamera py r raw websocket).server
      (s.handleRegisterCamera py r raw websocket).effect := by
  unfold Server.handleRegisterCamera
  dsimp only
  split_ifs with hd
  · exact registerNode_change py s r raw _ _ hd websocket
  · exact .calm (Calm.refl s)

/-! ## Messages -/

/-- **What an authenticated message does**, with its direction and token set by the server. -/
theorem route_change {py : Python} {s : Server} {r : Reading} {raw payload : Dict String Json}
    {msgType : MessageType} {session : NodeSession} {websocket : Socket}
    (hd : session.cameraDirection ∈ directions)
    (hdir : payload.getJson "direction" = .str session.cameraDirection)
    (howned : ∀ p : Packet, p.ownerSocket = websocket →
      p.sessionToken = payload.getJson "session_token" →
      ∃ node, Owned s r.time node session.cameraDirection p) :
    Change r s (s.route py r raw payload msgType session websocket).server
      (s.route py r raw payload msgType session websocket).effect := by
  unfold Server.route
  dsimp only
  cases msgType with
  | videoFrame =>
      dsimp only
      split_ifs
      · exact .calm (Calm.refl s)
      · rw [echo_server, echo_effect]
        exact handleVideoFrame_change hd hdir howned
  | heartbeat =>
      dsimp only
      rw [echo_server, echo_effect]
      exact handleHeartbeat_change py s r raw payload
  | disconnect => exact handleDisconnect_change py s r raw payload
  | startStream =>
      dsimp only
      split_ifs
      · exact .calm (Calm.refl s)
      · exact .calm (calm_setStreaming s _ _)
  | stopStream => exact .calm (calm_setStreaming s _ _)
  | webrtcOffer => exact .calm (Calm.refl s)
  | webrtcStop => exact .calm (Calm.refl s)
  | registerCamera | registrationAck | heartbeatAck | error =>
      dsimp only
      rw [echo_server, echo_effect]
      exact .calm (Calm.refl s)

theorem processAuthenticated_change {py : Python} {s : Server} (hs : SoundSessions s) (r : Reading)
    (raw : Dict String Json) (msgType : MessageType) (websocket : Socket) :
    Change r s (s.processAuthenticated py r raw msgType websocket).server
      (s.processAuthenticated py r raw msgType websocket).effect := by
  unfold Server.processAuthenticated
  split
  · exact .calm (Calm.refl s)
  · rename_i payload hpayload
    dsimp only
    split
    · exact .calm (Calm.refl s)
    · rename_i node hvalid hnode
      split
      · exact .calm (Calm.refl s)
      · rename_i session hget
        split_ifs with hconn
        · exact .calm (Calm.refl s)
        · refine (calm_beat s node r.time).trans_change ?_
          split
          · exact .calm (Calm.refl _)
          · exact .calm (Calm.refl _)
          · obtain ⟨node', session', hnode', hget', -, htoken⟩ := validateSession_ok hvalid
            rw [hnode] at hnode'
            obtain rfl := Json.str.inj hnode'
            obtain rfl := Option.some.inj (hget.symm.trans hget')
            obtain ⟨hmem, htimeout⟩ := hs node session hget
            refine route_change hmem ?_ ?_
            · rw [Dict.getJson_set_of_ne _ _ (by decide), Dict.getJson_set_self]
            · intro p howner hp
              rw [Dict.getJson_set_self] at hp
              exact ⟨node, owned_of_beat r.time hget htimeout (not_not.mp hconn) howner
                (hp.trans htoken)⟩
    · exact .calm (Calm.refl s)

/-- **What a message does**, whatever the socket sends. -/
theorem processMessage_change {py : Python} {s : Server} (hs : SoundSessions s) (r : Reading)
    (rawJson : Json) (websocket : Socket) :
    Change r s (s.processMessage py r rawJson websocket).server
      (s.processMessage py r rawJson websocket).effect := by
  unfold Server.processMessage
  split
  · exact .calm (Calm.refl s)
  · dsimp only
    split_ifs
    · exact .calm (Calm.refl s)
    · exact .calm (Calm.refl s)
    · split
      · exact .calm (Calm.refl s)
      · rw [echo_server, echo_effect]
        exact handleRegisterCamera_change py s r _ websocket
      · exact processAuthenticated_change hs r _ _ websocket

/-! ## The coordinator -/

theorem mem_resultsOf {packets : List Packet} {outcomes : List PacketOutcome} {p : Packet}
    (h : p ∈ (Server.resultsOf packets outcomes).map Prod.fst) : p ∈ packets := by
  obtain ⟨⟨q, result⟩, hmem, rfl⟩ := List.mem_map.mp h
  obtain ⟨⟨q', outcome⟩, hzip, hq⟩ := List.mem_filterMap.mp hmem
  have hsame : q' = q := by
    cases outcome with
    | processed result' => exact congrArg Prod.fst (Option.some.inj hq)
    | _ => nomatch hq
  exact hsame ▸ (List.of_mem_zip hzip).1

theorem batchDone_calm (s : Server) (outcomes : List PacketOutcome) :
    Calm s (s.batchDone outcomes) := by
  unfold Server.batchDone
  cases hc : s.coordinator with
  | waiting => exact Calm.refl s
  | committing results => exact Calm.refl s
  | inferring packets =>
      refine ⟨Retains.refl _, rfl, Dict.shrinks_refl _, rfl, fun p hp => ?_,
        unpublished_of_eq rfl rfl rfl, rfl⟩
      unfold Server.inFlight
      rw [hc]
      exact mem_resultsOf hp

theorem batchFails_calm (s : Server) : Calm s s.batchFails :=
  ⟨Retains.refl _, rfl, Dict.shrinks_refl _, rfl, fun _ hp => absurd hp List.not_mem_nil,
    unpublished_of_eq rfl rfl rfl, rfl⟩

theorem batchRaises_calm (s : Server) (counted : List PacketOutcome) :
    Calm s (s.batchRaises counted) := by
  unfold Server.batchRaises
  cases s.coordinator with
  | waiting => exact Calm.refl s
  | committing results => exact Calm.refl s
  | inferring packets =>
      exact ⟨Retains.refl _, rfl, Dict.shrinks_refl _, rfl, fun _ hp => absurd hp List.not_mem_nil,
        unpublished_of_eq rfl rfl rfl, rfl⟩

theorem takeBatch_cases (s : Server) : Calm s s.takeBatch ∨ Takes s s.takeBatch := by
  unfold Server.takeBatch
  cases s.coordinator with
  | inferring packets => exact Or.inl (Calm.refl s)
  | committing results => exact Or.inl (Calm.refl s)
  | waiting =>
      dsimp only
      split_ifs
      · exact Or.inr ⟨rfl, rfl, rfl, fun _ hp => hp, unpublished_of_eq rfl rfl rfl, rfl⟩
      · exact Or.inl (Calm.refl s)

/-- A result that is dropped leaves one frame less in flight. -/
theorem calm_drop {s s' : Server} {packet : Packet} {result : FrameResult}
    {results : List (Packet × FrameResult)}
    (hc : s.coordinator = .committing ((packet, result) :: results))
    (hs' : s'.sessions = s.sessions ∧ s'.activeConnections = s.activeConnections
      ∧ s'.latestFrames = s.latestFrames ∧ s'.coordinator = .committing results
      ∧ s'.issued = s.issued)
    (htables : Unpublished s s') : Calm s s' := by
  obtain ⟨hsessions, hconn, hslots, hcoord, hissued⟩ := hs'
  refine ⟨retains_of_sessions_eq (by rw [hsessions]), by rw [hsessions], ?_, hslots, ?_, htables,
    hissued⟩
  · rw [hconn]; exact Dict.shrinks_refl _
  · intro p hp
    unfold Server.inFlight at hp ⊢
    rw [hcoord] at hp
    rw [hc]
    exact List.mem_cons_of_mem _ hp

/-- **The coordinator publishes a frame only for the session and the socket it came from.** -/
theorem commit_cases (s : Server) (r : Reading) :
    (Calm s (s.commit r).1 ∧ (s.commit r).2 = none)
      ∨ ∃ d p, Commits r d p s (s.commit r).1 ∧ (s.commit r).2 = some (.committed d p) := by
  unfold Server.commit
  cases hc : s.coordinator with
  | waiting => exact Or.inl ⟨Calm.refl s, rfl⟩
  | inferring packets => exact Or.inl ⟨Calm.refl s, rfl⟩
  | committing results =>
      cases results with
      | nil =>
          exact Or.inl ⟨⟨Retains.refl _, rfl, Dict.shrinks_refl _, rfl,
            fun _ hp => absurd hp List.not_mem_nil, unpublished_of_eq rfl rfl rfl, rfl⟩, rfl⟩
      | cons head results =>
          obtain ⟨packet, result⟩ := head
          dsimp only
          cases hvalid : s.sessions.validateSession packet.nodeId packet.sessionToken r.time with
          | error e =>
              dsimp only
              split_ifs
              · exact Or.inl ⟨batchFails_calm s, rfl⟩
              · exact Or.inl ⟨calm_drop hc ⟨rfl, rfl, rfl, rfl, rfl⟩
                  (unpublished_of_eq rfl rfl rfl), rfl⟩
          | ok valid =>
              dsimp only
              split
              · -- the session is valid and still on the socket the frame came over
                rename_i d hpass hdir
                obtain ⟨hboth, hconn⟩ := Bool.and_eq_true_iff.mp hpass
                obtain ⟨rfl, hrun⟩ := Bool.and_eq_true_iff.mp hboth
                obtain ⟨node, session, hnode, hget, hlive, htoken⟩ := validateSession_ok hvalid
                have hsocket : s.activeConnections.get? node = some packet.ownerSocket := by
                  have hsome := of_decide_eq_true hconn
                  rw [hnode] at hsome
                  exact hsome
                refine Or.inr ⟨d, packet, ⟨hrun, rfl, rfl, rfl, rfl, fun p hp => ?_, rfl,
                  fun k hk ha => ?_, fun k hk => ?_, fun k hk => ?_, ?_, hdir,
                  node, session, hget, hlive, htoken, hsocket⟩, rfl⟩
                · unfold Server.inFlight
                  rw [hc]
                  exact List.mem_cons_of_mem _ hp
                · -- neither the lane's slot nor the active one
                  show ((s.frameBuffer.set d result.jpeg).set "active" result.jpeg).get? k = _
                  rw [Dict.get?_set_of_ne _ _ ha, Dict.get?_set_of_ne _ _ hk]
                · exact Dict.get?_set_of_ne _ _ hk
                · exact Dict.get?_set_of_ne _ _ hk
                · unfold Server.inFlight
                  rw [hc]
                  exact List.mem_cons_self
              · exact Or.inl ⟨calm_drop hc ⟨rfl, rfl, rfl, rfl, rfl⟩
                  (unpublished_of_eq rfl rfl rfl), rfl⟩

/-! ## The other stretches -/

theorem expire_calm (s : Server) (r : Reading) : Calm s (s.expire r) := by
  have hnode : ∀ node rest, Calm s { s.unregister node with expiring := rest } :=
    fun node _ => (calm_unregister s node).trans (calm_of_eq rfl)
  unfold Server.expire
  split
  · exact hnode _ _
  · split
    · exact Calm.refl s
    · exact hnode _ _

theorem disconnectCommand_calm (py : Python) (s : Server) (r : Reading) (d : String) :
    Calm s (s.disconnectCommand py r d) := by
  unfold Server.disconnectCommand
  split
  · exact calm_clearDirection s d
  · exact (calm_unregister s _).trans (calm_of_eq rfl)

theorem handleCommand_calm (s : Server) (c : OperatorCommand) (safe : Bool) :
    Calm s (s.handleCommand c safe) := by
  unfold Server.handleCommand
  split_ifs
  · exact calm_of_eq rfl
  · exact calm_of_eq rfl
  · exact (calm_sessions (setAllStreaming_retains _ _) rfl).trans (calm_of_eq rfl)

theorem resetDone_calm (s : Server) : Calm s s.resetDone := by
  unfold Server.resetDone
  split_ifs
  · exact Calm.refl s
  · exact ⟨setAllStreaming_retains _ _, rfl, Dict.shrinks_refl _, rfl, fun _ h => h,
      ⟨Dict.shrinks_empty _, Dict.shrinks_empty _, Dict.shrinks_refl _⟩, rfl⟩

theorem attachLocal_change (py : Python) (s : Server) (r : Reading) (d : String) (source : Socket) :
    Change r s (s.attachLocal py r d source) none := by
  unfold Server.attachLocal
  split_ifs with hno
  · exact .calm (Calm.refl s)
  · have hd : d ∈ directions := by
      by_contra hnot
      exact hno (Or.inl hnot)
    exact .create (creates_of_createSession py true hd rfl
      (createSession_timeoutSec _ _ _ _ _ _ _) rfl rfl (fun _ h => h)
      (unpublished_of_eq rfl rfl rfl) rfl)

theorem updateHeartbeat_calm (s : Server) (r : Reading) (node token : String) :
    Calm s (s.updateHeartbeat r node token) := by
  unfold Server.updateHeartbeat
  split
  · exact calm_beat s node r.time
  · exact Calm.refl s

theorem socketLost_calm (s : Server) (node : String) (websocket : Socket) :
    Calm s (s.socketLost node websocket) := by
  unfold Server.socketLost
  split_ifs
  · exact ⟨Retains.refl _, rfl, Dict.shrinks_erase _ _, rfl, fun _ h => h,
      unpublished_of_eq rfl rfl rfl, rfl⟩
  · exact Calm.refl s

/-- A stretch is one of a handler, or the coordinator takes the slots or publishes a result. -/
theorem step_change {py : Python} {s : Server} (hs : SoundSessions s) (i : Reading × Action) :
    Change i.1 s (s.step py i).1 (s.step py i).2
      ∨ (Takes s (s.step py i).1 ∧ (s.step py i).2 = none)
      ∨ ∃ d p, Commits i.1 d p s (s.step py i).1 ∧ (s.step py i).2 = some (.committed d p) := by
  obtain ⟨r, action⟩ := i
  cases action with
  | message rawJson websocket => exact Or.inl (processMessage_change hs r rawJson websocket)
  | registered k =>
      unfold Server.step
      dsimp only
      split
      · exact Or.inl (.calm (Calm.refl s))
      · refine Or.inl (Calm.trans_change ?_ (completeRegistration_change py _ r _))
        exact calm_of_eq rfl
  | submitDecodedFrame d node token websocket frameId receivedMs =>
      exact Or.inl (submitDecodedFrame_change hs r d node token websocket frameId receivedMs)
  | attachLocal d source => exact Or.inl (attachLocal_change py s r d source)
  | updateHeartbeat node token => exact Or.inl (.calm (updateHeartbeat_calm s r node token))
  | socketLost node websocket => exact Or.inl (.calm (socketLost_calm s node websocket))
  | expire => exact Or.inl (.calm (expire_calm s r))
  | registerPairing d pairing =>
      exact Or.inl (.calm (calm_sessions (retains_of_sessions_eq rfl) rfl))
  | readPairing d => exact Or.inl (.calm (calm_getPairing py s d r.time))
  | disconnectCommand d => exact Or.inl (.calm (disconnectCommand_calm py s r d))
  | disconnected k =>
      unfold Server.step
      dsimp only
      split
      · exact Or.inl (.calm (Calm.refl s))
      · exact Or.inl (.calm ((calm_clearDirection s _).trans (calm_of_eq rfl)))
  | command c safe => exact Or.inl (.calm (handleCommand_calm s c safe))
  | resetDone => exact Or.inl (.calm (resetDone_calm s))
  | outputFailed => exact Or.inl (.calm (calm_of_eq rfl))
  | takeBatch =>
      rcases takeBatch_cases s with h | h
      · exact Or.inl (.calm h)
      · exact Or.inr (Or.inl ⟨h, rfl⟩)
  | batchDone outcomes => exact Or.inl (.calm (batchDone_calm s outcomes))
  | batchRaises counted => exact Or.inl (.calm (batchRaises_calm s counted))
  | commit =>
      rcases commit_cases s r with ⟨h, hnone⟩ | h
      · refine Or.inl ?_
        show Change r s (s.commit r).1 (s.commit r).2
        rw [hnone]
        exact .calm h
      · exact Or.inr (Or.inr h)

/-- **What a stretch does**: one of five things, and its effect says which frames it moves. -/
theorem step_cases {py : Python} {s : Server} (hs : SoundSessions s) (i : Reading × Action) :
    (Calm s (s.step py i).1 ∧ (s.step py i).2 = none)
      ∨ (∃ node d, Creates i.1 node d s (s.step py i).1 ∧ (s.step py i).2 = none)
      ∨ (∃ d p, Admits i.1 d p s (s.step py i).1 ∧ (s.step py i).2 = some (.admitted d p))
      ∨ (Takes s (s.step py i).1 ∧ (s.step py i).2 = none)
      ∨ ∃ d p, Commits i.1 d p s (s.step py i).1 ∧ (s.step py i).2 = some (.committed d p) := by
  rcases step_change hs i with h | h
  · rcases h.cases with h | h | h
    · exact Or.inl h
    · exact Or.inr (Or.inl h)
    · exact Or.inr (Or.inr (Or.inl h))
  · exact Or.inr (Or.inr (Or.inr h))

/-! ## Sound sessions -/

/-- Every session is sound, and so is any that is created. -/
structure SoundTable (s : Server) : Prop where
  sessions : SoundSessions s
  timeout : 0 ≤ s.sessions.timeoutSec

theorem sound_of_retains {s s' : Server} (h : SoundTable s) (hr : Retains s.sessions s'.sessions)
    (ht : s'.sessions.timeoutSec = s.sessions.timeoutSec) : SoundTable s' := by
  refine ⟨fun node session' hget => ?_, by rw [ht]; exact h.timeout⟩
  obtain ⟨session, hs, hid⟩ := hr node session' hget
  simp only [NodeSession.identity, Prod.mk.injEq] at hid
  rw [← hid.2.2.1, ← hid.2.2.2]
  exact h.sessions node session hs

theorem sound_step (py : Python) (s : Server) (i : Reading × Action) (h : SoundTable s) :
    SoundTable (s.step py i).1 := by
  rcases step_cases h.sessions i with
    ⟨hc, -⟩ | ⟨node, d, hc, -⟩ | ⟨d, p, ha, -⟩ | ⟨ht, -⟩ | ⟨d, p, hc, -⟩
  · exact sound_of_retains h hc.sessions hc.timeout
  · refine ⟨fun n session' hget => ?_, by rw [hc.timeout]; exact h.timeout⟩
    rcases hc.sessions n session' hget with ⟨-, hid⟩ | ⟨session, hs, hid, -⟩
    · simp only [NodeSession.identity, Prod.mk.injEq] at hid
      rw [hid.2.2.1, hid.2.2.2]
      exact ⟨hc.direction, h.timeout⟩
    · simp only [NodeSession.identity, Prod.mk.injEq] at hid
      rw [← hid.2.2.1, ← hid.2.2.2]
      exact h.sessions n session hs
  · exact sound_of_retains h ha.sessions ha.timeout
  · exact sound_of_retains h (retains_of_sessions_eq (by rw [ht.sessions])) (by rw [ht.sessions])
  · exact sound_of_retains h (retains_of_sessions_eq (by rw [hc.sessions])) (by rw [hc.sessions])

end SmartTraffic
