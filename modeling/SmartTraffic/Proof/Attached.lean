import SmartTraffic.Proof.Sources

/-!
# Local cameras keep their approaches

The session of a local camera is created when the sources are started and never
again. While the pump wakes up often enough, nothing a camera of the network
sends takes it away: `Harmless` says what a stretch leaves to a node, and
`Attached` is the invariant that carries the session from one waking to the next.
Once the session is gone, by whatever means, nothing brings it back.
-/

namespace SmartTraffic.Proof

open SmartTraffic Lib

/-! ## A session that is gone -/

theorem Dead.survives {m m' : SessionManager} {node token : String} {c r : Rat}
    (h : Dead m node token c) (hc : c ≤ r) (hs : Survives r m m') : Dead m' node token r := by
  rw [dead_iff] at h ⊢
  intro s' hs' htoken
  obtain ⟨s, hget, hcont⟩ := hs node s' hs'
  by_contra hlive
  have hlive := hcont.live (by simpa using hlive)
  rw [isExpired_mono hc (h s hget (hcont.token.symm.trans htoken))] at hlive
  cases hlive

theorem dead_enrols {py : Python} {s s' : Server} {i : Reading × Action} {node token : String}
    {c : Rat} (h : Dead s.sessions node token c) (hc : c ≤ i.1.time) (hfresh : i.1.uuid ≠ token)
    (he : Enrols py s i s') : Dead s'.sessions node token i.1.time := by
  have hregistered : ∀ {n d : String}, Registered py s s' i.1 n d →
      Dead s'.sessions node token i.1.time := by
    intro n d hreg
    obtain ⟨streaming, hsessions⟩ := hreg.sessions
    rw [dead_iff] at h ⊢
    intro session hget htoken
    rw [hsessions] at hget
    rcases createSession_get? hget with ⟨-, rfl⟩ | hold
    · exact absurd htoken hfresh
    · exact isExpired_mono hc (h session hold htoken)
  cases he with
  | grantless hq => exact h.survives hc hq.sessions
  | waits _ hsessions _ _ =>
      refine h.survives hc (survives_of_eq ?_)
      rw [hsessions]
      exact lookedUp_sessions py s _ _
  | registers _ hreg _ => exact hregistered hreg
  | attaches _ _ hreg _ => exact hregistered hreg

theorem updateHeartbeat_grantless (s : Server) (r : Reading) (node token : String) :
    Grantless r.time s (s.updateHeartbeat r node token) := by
  unfold Server.updateHeartbeat
  split
  · rename_i hvalid
    exact grantless_beat hvalid
  · exact Grantless.refl _ s

theorem grantless_foldl {r : Rat} {A : Type} {f : Server → A → Server}
    (hf : ∀ s a, Grantless r s (f s a)) (s : Server) (as : List A) :
    Grantless r s (as.foldl f s) := by
  induction as generalizing s with
  | nil => exact Grantless.refl r s
  | cons a as ih => exact (hf s a).trans (ih (f s a))

/-- A dead session lets no image in. -/
theorem submitDecodedFrame_dead (py : Python) {s : Server} {r : Reading} {d node token : String}
    (h : Dead s.sessions node token r.time) (websocket : Socket) (frameId : Int)
    (receivedMs : Rat) :
    s.submitDecodedFrame py r d node token websocket frameId receivedMs
      = { server := s, answer := .silent } := by
  unfold Server.submitDecodedFrame
  split
  · rename_i hvalid _
    exact absurd hvalid h
  · rfl

theorem nodes_step (py : Python) (w : LocalSources) (i : Reading × SourceAction) :
    (w.step py i).1.nodes = w.nodes := by
  obtain ⟨r, action⟩ := i
  cases action with
  | capture d image =>
      show (w.capture r d image).1.nodes = _
      unfold LocalSources.capture
      split_ifs <;> rfl
  | wake =>
      show (w.wake r).1.nodes = _
      unfold LocalSources.wake
      split <;> rfl
  | submit =>
      show (w.submit py r).1.nodes = _
      unfold LocalSources.submit
      split
      · split <;> rfl
      · rfl
  | detach =>
      show w.detach.nodes = _
      unfold LocalSources.detach
      split_ifs <;> rfl
  | shutdown | server => rfl

/-- The sources themselves create no session. -/
theorem source_grantless (py : Python) (w : LocalSources) (r : Reading) {action : SourceAction}
    (hno : ∀ a, action ≠ .server a) :
    Grantless r.time w.server (w.step py (r, action)).1.server := by
  cases action with
  | capture d image =>
      show Grantless r.time w.server (w.capture r d image).1.server
      unfold LocalSources.capture
      split_ifs <;> exact Grantless.refl _ _
  | wake =>
      show Grantless r.time w.server (w.wake r).1.server
      unfold LocalSources.wake
      split
      · exact grantless_foldl (fun s node => updateHeartbeat_grantless s r node.1 node.2) w.server
          w.nodes.values
      · exact Grantless.refl _ _
  | submit =>
      show Grantless r.time w.server (w.submit py r).1.server
      unfold LocalSources.submit
      split
      · split
        · exact Grantless.refl _ _
        · exact submitDecodedFrame_grantless py _ r _ _ _ _ _ _
      · exact Grantless.refl _ _
  | shutdown => exact Grantless.refl _ _
  | detach =>
      show Grantless r.time w.server w.detach.server
      unfold LocalSources.detach
      split_ifs
      · exact grantless_foldl (fun s (node : String × String) =>
          grantless_unregister r.time s node.1) w.server w.nodes.values
      · exact Grantless.refl _ _
  | server a => exact absurd rfl (hno a)

/-- **What is gone stays gone**, whatever happens. -/
theorem dead_source_step (py : Python) {w : LocalSources} {i : Reading × SourceAction}
    {node token : String} {c : Rat} (h : Dead w.server.sessions node token c) (hc : c ≤ i.1.time)
    (hfresh : i.1.uuid ≠ token) : Dead (w.step py i).1.server.sessions node token i.1.time := by
  obtain ⟨r, action⟩ := i
  by_cases hserver : ∃ a, action = .server a
  · obtain ⟨a, rfl⟩ := hserver
    show Dead (w.server.step py (r, a)).1.sessions node token r.time
    exact dead_enrols (i := (r, a)) h hc hfresh (step_enrols py w.server (r, a))
  · exact h.survives hc
      (source_grantless py w r fun a ha => hserver ⟨a, ha⟩).sessions

/-- A submission for the direction lets nothing in, and leaves the server as it is. -/
def LetsNothingIn (d : String)
    (e : Event LocalSources (Reading × SourceAction) (Option Observed)) : Prop :=
  ∀ capture effect, e.out = some (.submitted d capture effect) →
    effect = none ∧ e.post.server = e.pre.server

theorem dead_lets_nothing_in (py : Python) {w : LocalSources} {i : Reading × SourceAction}
    {d node token : String} (hnode : w.nodes.get? d = some (node, token))
    (h : Dead w.server.sessions node token i.1.time) :
    LetsNothingIn d (eventOf (LocalSources.step py) w i) := by
  obtain ⟨r, action⟩ := i
  intro capture effect hout
  cases action with
  | submit =>
      change (w.submit py r).2 = _ at hout
      show effect = none ∧ (w.submit py r).1.server = w.server
      by_cases hsome : ∃ d' capture' rest, w.pump = .submitting ((d', capture') :: rest)
      · obtain ⟨d', capture', rest, hpump⟩ := hsome
        cases hget : w.nodes.get? d' with
        | none =>
            unfold LocalSources.submit at hout
            rw [hpump] at hout
            dsimp only at hout
            rw [hget] at hout
            cases hout
        | some n =>
            obtain ⟨node', token'⟩ := n
            -- the node has been attached: its token is the dead one
            have heq := submit_eq py r hpump hget
            rw [heq] at hout ⊢
            dsimp only at hout ⊢
            obtain ⟨rfl, -, rfl⟩ : d' = d ∧ capture' = capture ∧ _ = effect := by
              simpa using hout
            obtain ⟨rfl, rfl⟩ := Prod.mk.inj (Option.some.inj (hget.symm.trans hnode))
            rw [submitDecodedFrame_dead py h]
            exact ⟨rfl, rfl⟩
      · -- the pump has nothing in hand
        unfold LocalSources.submit at hout
        split at hout
        · rename_i hpump
          exact absurd ⟨_, _, _, hpump⟩ hsome
        · cases hout
  | capture d' image =>
      -- the others hand nothing in
      change (w.capture r d' image).2 = _ at hout
      unfold LocalSources.capture at hout
      split_ifs at hout
      cases hout
  | wake =>
      change (w.wake r).2 = _ at hout
      unfold LocalSources.wake at hout
      split at hout <;> cases hout
  | shutdown | detach | server => cases hout

/--
**A local camera that has lost its session stays dark.** The session may have been
removed by the operator's DISCONNECT or have expired: in every run from then on
its images are submitted and none is let in, for `start` is not run again.
-/
theorem lost_source_stays_dark (py : Python) {w : LocalSources} {d node token : String} {c : Rat}
    (hnode : w.nodes.get? d = some (node, token)) (hdead : Dead w.server.sessions node token c)
    {run : List (Reading × SourceAction)} (hclock : (c :: run.map (·.1.time)).Pairwise (· ≤ ·))
    (hfresh : ∀ i ∈ run, i.1.uuid ≠ token) :
    ∀ e ∈ events (LocalSources.step py) w run, LetsNothingIn d e := by
  induction run generalizing w c with
  | nil => exact fun e he => absurd he List.not_mem_nil
  | cons i run ih =>
      obtain ⟨hle, hrest⟩ := List.pairwise_cons.mp hclock
      have hc : c ≤ i.1.time := hle _ (List.mem_map_of_mem List.mem_cons_self)
      rw [events_cons, List.forall_mem_cons]
      refine ⟨dead_lets_nothing_in py hnode (dead_later hdead hc), ih ?_
        (dead_source_step py hdead hc (hfresh i List.mem_cons_self)) hrest
        fun j hj => hfresh j (List.mem_cons_of_mem _ hj)⟩
      rw [nodes_step]
      exact hnode

/-- The operator disconnects the north camera, and it reads on. -/
def disconnectedCameras : LocalSources :=
  final (LocalSources.step plainPython) startedCameras
    [(readingAt 1 "", .server (.disconnectCommand "north"))]

theorem lost_source_stays_dark_north :
    Dead disconnectedCameras.server.sessions "LOCAL-north" "north-token" 1
      ∧ ∀ e ∈ events (LocalSources.step plainPython) disconnectedCameras cameraRun,
          LetsNothingIn "north" e := by
  have hdead : Dead disconnectedCameras.server.sessions "LOCAL-north" "north-token" 1 := by
    unfold Dead
    decide +kernel
  exact ⟨hdead, lost_source_stays_dark plainPython (rfl : disconnectedCameras.nodes.get? "north"
    = some ("LOCAL-north", "north-token")) hdead (by decide +kernel) (by decide +kernel)⟩

/-! ## What a stretch leaves to a node -/

/-- The session goes on: it is the same one, and its heartbeat is no older. -/
structure GoesOn (now : Rat) (a b : NodeSession) : Prop where
  identity : b.identity = a.identity
  heartbeat : a.lastHeartbeat ≤ b.lastHeartbeat
  past : b.lastHeartbeat ≤ now

theorem GoesOn.trans {now : Rat} {a b c : NodeSession} (h : GoesOn now a b) (h' : GoesOn now b c) :
    GoesOn now a c :=
  ⟨h'.identity.trans h.identity, h.heartbeat.trans h'.heartbeat, h'.past⟩

/-- The stretch leaves the node its session and its connection. -/
structure Harmless (now : Rat) (node : String) (s s' : Server) : Prop where
  session : ∀ a, s.sessions.sessions.get? node = some a → a.lastHeartbeat ≤ now →
    ∃ b, s'.sessions.sessions.get? node = some b ∧ GoesOn now a b
  connection : s'.activeConnections.get? node = s.activeConnections.get? node
  expiring : node ∈ s'.expiring → node ∈ s.expiring
  /-- No pairing is offered under its id. -/
  pairings : ∀ k p, s'.sessions.pairingSessions.get? k = some p → p.sessionId = node →
    s.sessions.pairingSessions.get? k = some p

/-- The node is not touched, and no pairing is added. -/
theorem harmless_of_untouched {now : Rat} {node : String} {s s' : Server}
    (hs : s'.sessions.sessions.get? node = s.sessions.sessions.get? node)
    (hc : s'.activeConnections.get? node = s.activeConnections.get? node)
    (he : s'.expiring = s.expiring)
    (hp : ∀ k p, s'.sessions.pairingSessions.get? k = some p →
      s.sessions.pairingSessions.get? k = some p) : Harmless now node s s' := by
  refine ⟨fun a ha hpast => ⟨a, hs.trans ha, rfl, le_rfl, hpast⟩, hc, ?_, fun k p hk _ => hp k p hk⟩
  rw [he]
  exact fun h => h

theorem harmless_of_eq {now : Rat} {node : String} {s s' : Server}
    (hs : s'.sessions = s.sessions) (hc : s'.activeConnections = s.activeConnections)
    (he : s'.expiring = s.expiring) : Harmless now node s s' :=
  harmless_of_untouched (by rw [hs]) (by rw [hc]) he (by rw [hs]; exact fun k p hp => hp)

theorem Harmless.refl (now : Rat) (node : String) (s : Server) : Harmless now node s s :=
  harmless_of_eq rfl rfl rfl

theorem Harmless.trans {now : Rat} {node : String} {s s' s'' : Server}
    (h : Harmless now node s s') (h' : Harmless now node s' s'') : Harmless now node s s'' := by
  refine ⟨fun a ha hpast => ?_, h'.connection.trans h.connection,
    fun he => h.expiring (h'.expiring he),
    fun k p hp hid => h.pairings k p (h'.pairings k p hp hid) hid⟩
  obtain ⟨b, hb, hgo⟩ := h.session a ha hpast
  obtain ⟨b', hb', hgo'⟩ := h'.session b hb hgo.past
  exact ⟨b', hb', hgo.trans hgo'⟩

/-- A session that is updated goes on, and the others stay as they are. -/
theorem harmless_update {now : Rat} {node n : String} {f : NodeSession → NodeSession} (s : Server)
    (hf : ∀ a, a.lastHeartbeat ≤ now → GoesOn now a (f a)) :
    Harmless now node s { s with sessions := s.sessions.update n f } := by
  have hpairings : (s.sessions.update n f).pairingSessions = s.sessions.pairingSessions := by
    unfold SessionManager.update
    split <;> rfl
  refine ⟨fun a ha hpast => ?_, rfl, fun he => he, fun k p hp _ => by rw [← hpairings]; exact hp⟩
  show ∃ b, (s.sessions.update n f).sessions.get? node = some b ∧ GoesOn now a b
  unfold SessionManager.update
  by_cases hn : node = n
  · subst hn
    rw [ha]
    exact ⟨f a, Dict.get?_set_self _ _ _, hf a hpast⟩
  · have hsame : GoesOn now a a := ⟨rfl, le_rfl, hpast⟩
    split
    · exact ⟨a, ha, hsame⟩
    · exact ⟨a, (Dict.get?_set_of_ne _ _ hn).trans ha, hsame⟩

theorem harmless_beat (now : Rat) (node n : String) (s : Server) :
    Harmless now node s { s with sessions := s.sessions.beat n now } :=
  harmless_update s fun _ hpast => ⟨rfl, hpast, le_rfl⟩

theorem harmless_setStreaming (now : Rat) (node n : String) (b : Bool) (s : Server) :
    Harmless now node s { s with sessions := s.sessions.setStreaming n b } :=
  harmless_update s fun _ hpast => ⟨rfl, le_rfl, hpast⟩

theorem harmless_setAllStreaming (now : Rat) (node : String) (b : Bool) (s : Server) :
    Harmless now node s { s with sessions := s.sessions.setAllStreaming b } := by
  refine ⟨fun a ha hpast => ?_, rfl, fun he => he, fun k p hp _ => hp⟩
  refine ⟨{ a with streaming := b }, ?_, rfl, le_rfl, hpast⟩
  show (s.sessions.sessions.mapValues _).get? node = _
  rw [Dict.get?_mapValues, ha]
  rfl

/-- Another node is unregistered. -/
theorem harmless_unregister (now : Rat) {node n : String} (hne : n ≠ node) (s : Server) :
    Harmless now node s (s.unregister n) :=
  harmless_of_untouched (Dict.get?_erase_of_ne _ (Ne.symm hne))
    (Dict.get?_erase_of_ne _ (Ne.symm hne)) rfl fun _ _ hp => hp

theorem harmless_lookedUp (now : Rat) (node : String) (py : Python) (s : Server) (d : String) :
    Harmless now node s (s.lookedUp py d now) := by
  refine harmless_of_untouched (by rw [lookedUp_sessions]) rfl rfl fun k p hp => ?_
  unfold Server.lookedUp SessionManager.getPairing at hp
  dsimp only at hp
  split at hp
  · exact hp
  · split_ifs at hp
    · exact (Dict.get?_of_get?_erase _ hp).2
    · exact hp

/-! ## The handlers -/

theorem handleVideoFrame_harmless (py : Python) (s : Server) (r : Reading) (node : String)
    (frame : Dict String Json) (decoded : Bool) (owner : Socket) :
    Harmless r.time node s (s.handleVideoFrame py r frame decoded owner).server := by
  unfold Server.handleVideoFrame
  split_ifs
  · exact Harmless.refl _ _ s
  · split
    · unfold Server.enqueueFrame
      by_cases hrun : s.systemRunning = false
      · rw [if_pos hrun]
        exact Harmless.refl _ _ s
      · rw [if_neg hrun]
        dsimp only
        split <;> exact harmless_of_eq rfl rfl rfl
    · exact Harmless.refl _ _ s

theorem submitDecodedFrame_harmless (py : Python) (s : Server) (r : Reading) (node : String)
    (d n token : String) (websocket : Socket) (frameId : Int) (receivedMs : Rat) :
    Harmless r.time node s
      (s.submitDecodedFrame py r d n token websocket frameId receivedMs).server := by
  unfold Server.submitDecodedFrame
  split
  · split_ifs
    · exact Harmless.refl _ _ s
    · exact Harmless.refl _ _ s
    · exact (harmless_beat r.time node n s).trans (handleVideoFrame_harmless py _ r node _ _ _)
  · exact Harmless.refl _ _ s

theorem handleHeartbeat_harmless (py : Python) (s : Server) (r : Reading) (node : String)
    (raw payload : Dict String Json) :
    Harmless r.time node s (s.handleHeartbeat py r raw payload).server := by
  unfold Server.handleHeartbeat
  dsimp only
  split
  · split
    · exact Harmless.refl _ _ s
    · exact Harmless.refl _ _ s
    · exact harmless_beat r.time node _ s
  · exact Harmless.refl _ _ s

/-- The node that a DISCONNECT takes for its sender. -/
def disconnects (payload : Dict String Json) : Json :=
  (payload.getJson "node_id").orElse ((payload.getJson "cameraId").orElse (.str "CAM-001"))

theorem handleDisconnect_harmless (py : Python) (s : Server) (r : Reading) {node : String}
    (raw : Dict String Json) {payload : Dict String Json} (hne : disconnects payload ≠ .str node) :
    Harmless r.time node s (s.handleDisconnect py r raw payload).server := by
  unfold Server.handleDisconnect
  dsimp only
  split
  · rename_i n _ hn _ _
    split
    · refine harmless_unregister _ (fun heq => hne ?_) s
      rw [← heq]
      exact hn
    · exact Harmless.refl _ _ s
  · exact Harmless.refl _ _ s

theorem route_harmless (py : Python) (s : Server) (r : Reading) {node : String}
    (raw : Dict String Json) {payload : Dict String Json} (hne : disconnects payload ≠ .str node)
    (msgType : MessageType) (session : NodeSession) (websocket : Socket) :
    Harmless r.time node s (s.route py r raw payload msgType session websocket).server := by
  unfold Server.route
  dsimp only
  cases msgType with
  | videoFrame =>
      dsimp only
      split_ifs
      · exact Harmless.refl _ _ s
      · rw [echo_server]
        exact handleVideoFrame_harmless py s r node payload false websocket
  | heartbeat =>
      dsimp only
      rw [echo_server]
      exact handleHeartbeat_harmless py s r node raw payload
  | disconnect => exact handleDisconnect_harmless py s r raw hne
  | startStream =>
      dsimp only
      split_ifs
      · exact Harmless.refl _ _ s
      · exact harmless_setStreaming _ _ _ _ s
  | stopStream => exact harmless_setStreaming _ _ _ _ s
  | webrtcOffer | webrtcStop => exact Harmless.refl _ _ s
  | registerCamera | registrationAck | heartbeatAck | error =>
      dsimp only
      rw [echo_server]
      exact Harmless.refl _ _ s

/-- The sender that is authenticated, or the default, is the one a DISCONNECT is for. -/
theorem disconnects_cases {payload : Dict String Json} {n : String} (a b : Json)
    (h : (payload.getJson "node_id").orElse (payload.getJson "cameraId") = .str n) :
    disconnects ((payload.set "direction" a).set "session_token" b) = .str n
      ∨ disconnects ((payload.set "direction" a).set "session_token" b) = .str "CAM-001" := by
  unfold disconnects
  rw [Dict.getJson_set_of_ne _ _ (by decide), Dict.getJson_set_of_ne _ _ (by decide),
    Dict.getJson_set_of_ne _ _ (by decide), Dict.getJson_set_of_ne _ _ (by decide)]
  unfold Json.orElse at h ⊢
  by_cases hnode : (payload.getJson "node_id").truthy = true
  · rw [if_pos hnode] at h ⊢
    exact Or.inl h
  · rw [if_neg hnode] at h ⊢
    by_cases hcamera : (payload.getJson "cameraId").truthy = true
    · rw [if_pos hcamera]
      exact Or.inl h
    · rw [if_neg hcamera]
      exact Or.inr rfl

/-- **A message over another socket does the node no harm.** -/
theorem processAuthenticated_harmless (py : Python) {s : Server} (r : Reading) {node : String}
    {k websocket : Socket} (hconn : s.activeConnections.get? node = some k) (hk : websocket ≠ k)
    (hcam : node ≠ "CAM-001") (raw : Dict String Json) (msgType : MessageType) :
    Harmless r.time node s (s.processAuthenticated py r raw msgType websocket).server := by
  unfold Server.processAuthenticated
  split
  · exact Harmless.refl _ _ s
  · rename_i payload _
    dsimp only
    split
    · exact Harmless.refl _ _ s
    · rename_i n _ hn
      split
      · exact Harmless.refl _ _ s
      · by_cases hown : s.activeConnections.get? n ≠ some websocket
        · rw [if_pos hown]
          exact Harmless.refl _ _ s
        · rw [if_neg hown]
          -- the sender is another node
          have hne : n ≠ node := by
            rintro rfl
            rw [not_not, hconn] at hown
            exact hk (Option.some.inj hown).symm
          split
          · exact harmless_beat _ _ _ s
          · exact harmless_beat _ _ _ s
          · refine (harmless_beat r.time node n s).trans (route_harmless py _ r raw ?_ _ _ _)
            rcases disconnects_cases _ _ hn with h | h
            · rw [h]
              exact fun heq => hne (Json.str.inj heq)
            · rw [h]
              exact fun heq => hcam (Json.str.inj heq).symm
    · exact Harmless.refl _ _ s

/-! ## A session that is created for another node -/

/-- The search for a live session of the direction does not find the node's. -/
def Unfound (py : Python) (m : SessionManager) (d node : String) (now : Rat) : Prop :=
  ∀ found, m.getSessionByDirection py d now = some found → found.nodeId ≠ node

theorem createSession_get?_of_ne {py : Python} {m : SessionManager} {n d node : String}
    {now : Rat} (hd : d ∈ directions) (hne : n ≠ node) (hunfound : Unfound py m d node now)
    (token : String) (streaming : Bool) :
    (m.createSession py n d token now streaming).sessions.get? node = m.sessions.get? node := by
  unfold SessionManager.createSession
  dsimp only
  rw [Dict.get?_set_of_ne _ _ (Ne.symm hne), cleanDirection_direction py hd]
  unfold SessionManager.evict
  split
  · rfl
  · rename_i found hfound
    split_ifs
    · exact Dict.get?_erase_of_ne _ (Ne.symm (hunfound found hfound))
    · rfl

theorem createSession_pairings (py : Python) (m : SessionManager) (n d token : String) (now : Rat)
    (streaming : Bool) :
    (m.createSession py n d token now streaming).pairingSessions = m.pairingSessions := by
  unfold SessionManager.createSession SessionManager.evict
  dsimp only
  split
  · rfl
  · split_ifs <;> rfl

theorem completeRegistration_harmless (py : Python) (s : Server) (r : Reading) {node : String}
    {reg : Registration} (hne : reg.nodeId ≠ node)
    (hunfound : Unfound py s.sessions reg.direction node r.time) :
    Harmless r.time node s (s.completeRegistration py r reg).server := by
  unfold Server.completeRegistration
  dsimp only
  rw [echo_server]
  have hsession := createSession_get?_of_ne reg.direction_mem hne hunfound r.uuid s.systemRunning
  have hpairings := createSession_pairings py s.sessions reg.nodeId reg.direction r.uuid r.time
    s.systemRunning
  refine harmless_of_untouched ?_ (Dict.get?_set_of_ne _ _ (Ne.symm hne)) rfl fun k p hp => ?_
  · dsimp only [Server.createSession]
    split_ifs
    · exact hsession
    · exact hsession
  · rw [← hpairings]
    dsimp only [Server.createSession] at hp
    split_ifs at hp
    · exact (Dict.get?_of_get?_erase _ hp).2
    · exact hp

theorem connect_harmless (py : Python) (s : Server) (r : Reading) {node : String}
    {reg : Registration} (hne : reg.nodeId ≠ node)
    (hunfound : Unfound py s.sessions reg.direction node r.time) :
    Harmless r.time node s (s.connect py r reg).server := by
  unfold Server.connect
  split_ifs
  · exact harmless_of_untouched rfl (Dict.get?_erase_of_ne _ (Ne.symm hne)) rfl fun _ _ hp => hp
  · exact completeRegistration_harmless py s r hne hunfound

/-! ## A local camera that is attached -/

section

variable {session : NodeSession} {node token d : String} {timeout : Rat}

theorem token_of_identity (h : session.identity = (node, token, d, timeout)) :
    session.sessionToken = token :=
  congrArg (fun x : String × String × String × Rat => x.2.1) h

theorem direction_of_identity (h : session.identity = (node, token, d, timeout)) :
    session.cameraDirection = d :=
  congrArg (fun x : String × String × String × Rat => x.2.2.1) h

theorem timeout_of_identity (h : session.identity = (node, token, d, timeout)) :
    session.heartbeatTimeoutSec = timeout :=
  congrArg (fun x : String × String × String × Rat => x.2.2.2) h

end

/-- A local camera: the object that is its connection, its node, its token and its approach. -/
structure Attachment where
  socket : Socket
  node : String
  token : String
  direction : String

/-- What holds of an attached camera whose pump last woke up at `last`, when the clock read `c`. -/
structure Attached (py : Python) (a : Attachment) (timeout last : Rat) (s : Server) (c : Rat) :
    Prop where
  table : LiveTable py s c
  session : ∃ session, s.sessions.sessions.get? a.node = some session
    ∧ session.identity = (a.node, a.token, a.direction, timeout)
    ∧ last ≤ session.lastHeartbeat ∧ session.lastHeartbeat ≤ c
  connection : s.activeConnections.get? a.node = some a.socket
  expiring : a.node ∉ s.expiring
  /-- Nobody is invited to register under its id. -/
  pairings : ∀ k p, s.sessions.pairingSessions.get? k = some p → p.sessionId ≠ a.node
  /-- Nobody waits to take its node or its approach. -/
  waiting : ∀ reg ∈ s.registering, reg.nodeId ≠ a.node ∧ reg.direction ≠ a.direction

/--
The action is none that takes the camera's approach away: the operator does not
disconnect it, nobody presents its token, no pairing is made out for its node,
and its object is no socket of the network.
-/
def Permitted (py : Python) (a : Attachment) : Action → Prop
  | .message rawJson websocket => websocket ≠ a.socket
      ∧ ∀ raw, rawJson.toDict = some raw →
          py.strOf ((raw.getJson "token").orElse (.str "")) ≠ a.token
  | .socketLost _ websocket => websocket ≠ a.socket
  | .registerPairing _ pairing => pairing.sessionId ≠ a.node
  | .disconnectCommand d => cleanDirection py d ≠ a.direction
  | _ => True

section

variable {py : Python} {a : Attachment} {timeout last c now : Rat} {s : Server}

/-- **It lives as long as the pump has not been silent for longer than the timeout.** -/
theorem Attached.live (h : Attached py a timeout last s c) (hnow : now ≤ last + timeout) :
    ∃ session, s.sessions.sessions.get? a.node = some session
      ∧ session.identity = (a.node, a.token, a.direction, timeout)
      ∧ session.isExpired now = false := by
  obtain ⟨session, hget, hid, hlast, -⟩ := h.session
  refine ⟨session, hget, hid, decide_eq_false ?_⟩
  rw [timeout_of_identity hid]
  linarith

theorem Attached.direction_mem (h : Attached py a timeout last s c) : a.direction ∈ directions := by
  obtain ⟨session, hget, hid, -⟩ := h.session
  rw [← direction_of_identity hid]
  exact (h.table.sound.sessions _ _ hget).1

/-- The search for a live session of its approach finds its own. -/
theorem Attached.found (h : Attached py a timeout last s c) (hc : c ≤ now)
    (hnow : now ≤ last + timeout) :
    ∃ found, s.sessions.getSessionByDirection py a.direction now = some found
      ∧ found.nodeId = a.node := by
  obtain ⟨session, hget, hid, hlive⟩ := h.live hnow
  refine getSessionByDirection_unique (oneLive_later h.table.live hc) hget ?_ hlive
  rw [direction_of_identity hid, cleanDirection_direction py h.direction_mem,
    lower_direction py h.direction_mem]

/-- The search for another approach does not. -/
theorem Attached.unfound (h : Attached py a timeout last s c) {d : String}
    (hne : cleanDirection py d ≠ a.direction) : Unfound py s.sessions d a.node now := by
  intro found hfound hnode
  unfold SessionManager.getSessionByDirection at hfound
  obtain ⟨n, hn⟩ := (Dict.mem_values_iff _).mp (List.mem_of_find?_eq_some hfound)
  have hmatch := List.find?_some hfound
  have hdir := of_decide_eq_true (Bool.and_eq_true_iff.mp hmatch).1
  rw [lower_direction py (h.table.sound.sessions n found hn).1] at hdir
  -- the session found stands under its own node
  rw [h.table.live.keyed n found hn] at hnode
  obtain ⟨session, hget, hid, -⟩ := h.session
  rw [← hnode, hn] at hget
  obtain rfl := Option.some.inj hget
  exact hne (hdir.symm.trans (direction_of_identity hid))

theorem registrationOf_token {r : Reading} {rawJson : Json} {websocket : Socket}
    {reg : Registration} (h : s.registrationOf py r rawJson websocket = some reg) :
    ∃ raw, rawJson.toDict = some raw
      ∧ reg.token = py.strOf ((raw.getJson "token").orElse (.str "")) := by
  unfold Server.registrationOf at h
  split at h
  · cases h
  · rename_i raw hraw
    refine ⟨raw, hraw, ?_⟩
    dsimp only at h
    split_ifs at h
    unfold Server.registrationFor at h
    dsimp only at h
    split_ifs at h
    split at h
    · obtain rfl := Option.some.inj h
      rfl
    · cases h

/-- **Nobody is authorised to take its node or its approach.** -/
theorem Attached.spared (h : Attached py a timeout last s c) {r : Reading} (hc : c ≤ r.time)
    (hnow : r.time ≤ last + timeout) {rawJson : Json} {websocket : Socket} {reg : Registration}
    (hok : Permitted py a (.message rawJson websocket))
    (hof : s.registrationOf py r rawJson websocket = some reg) :
    reg.nodeId ≠ a.node ∧ reg.direction ≠ a.direction := by
  obtain ⟨hpairing, hsession, hocc⟩ := registrationOf_eq_some hof
  have hnode : reg.nodeId ≠ a.node := by
    intro heq
    cases hq : reg.isPairingAuthorized with
    | true =>
        obtain ⟨pairing, hget, -, hid, -⟩ := hpairing hq
        exact h.pairings _ pairing hget (hid.trans heq)
    | false =>
        obtain ⟨session, hget, -, htoken, -⟩ := hsession hq
        obtain ⟨raw, hraw, hreg⟩ := registrationOf_token hof
        obtain ⟨own, hown, hid, -⟩ := h.session
        rw [heq, hown] at hget
        obtain rfl := Option.some.inj hget
        exact hok.2 raw hraw (hreg.symm.trans (htoken.symm.trans (token_of_identity hid)))
  refine ⟨hnode, fun hdir => ?_⟩
  obtain ⟨found, hfound, hfnode⟩ := h.found hc hnow
  unfold Server.isOccupied at hocc
  rw [hdir, hfound] at hocc
  simp [Json.isStr, hfnode] at hocc
  exact hnode hocc

/-! ## Every stretch -/

theorem unfound_lookedUp {d node : String} (h : Unfound py s.sessions d node now) (d' : String) :
    Unfound py (s.lookedUp py d' now).sessions d node now := by
  unfold Unfound SessionManager.getSessionByDirection at h ⊢
  rw [lookedUp_sessions]
  exact h

/-- A REGISTER_CAMERA that is turned down looks at a pairing at most. -/
theorem refused_harmless {r : Reading} {rawJson : Json} {raw : Dict String Json}
    {websocket : Socket} (hraw : rawJson.toDict = some raw) (hreg : isRegisterCamera raw = true)
    (hof : s.registrationOf py r rawJson websocket = none) (node : String) :
    Harmless r.time node s (s.handleRegisterCamera py r raw websocket).server := by
  unfold Server.registrationOf at hof
  rw [hraw] at hof
  dsimp only at hof
  rw [if_pos hreg] at hof
  unfold Server.handleRegisterCamera
  dsimp only
  split_ifs with hd
  · rw [dif_pos hd] at hof
    have h := registerNode_eq py s r raw ((payloadOf raw).toDict.getD ∅)
      ((((payloadOf raw).toDict.getD ∅).getJson "node_id").orElse
        ((((payloadOf raw).toDict.getD ∅).getJson "session").orElse
          ((((payloadOf raw).toDict.getD ∅).getJson "cameraId").orElse
            ((raw.getJson "token").orElse (.str "CAM-001"))))) hd websocket
    rw [hof] at h
    dsimp only at h
    rw [h]
    exact harmless_lookedUp _ _ _ _ _
  · exact Harmless.refl _ _ s

/-- **No message of the network harms an attached camera.** -/
theorem message_harmless (h : Attached py a timeout last s c) {r : Reading} (hc : c ≤ r.time)
    (hnow : r.time ≤ last + timeout) (hcam : a.node ≠ "CAM-001") {rawJson : Json}
    {websocket : Socket} (hok : Permitted py a (.message rawJson websocket)) :
    Harmless r.time a.node s (s.processMessage py r rawJson websocket).server := by
  cases hof : s.registrationOf py r rawJson websocket with
  | some reg =>
      -- a registration goes on to connect, for another node and another approach
      obtain ⟨hnode, hdir⟩ := h.spared hc hnow hok hof
      rw [processMessage_connects hof]
      exact (harmless_lookedUp _ _ py s _).trans (connect_harmless py _ r hnode
        (unfound_lookedUp (h.unfound (by rwa [cleanDirection_direction py reg.direction_mem])) _))
  | none =>
      unfold Server.processMessage
      cases hraw : rawJson.toDict with
      | none => exact Harmless.refl _ _ s
      | some raw =>
          dsimp only
          split_ifs with htruthy hproto
          · exact Harmless.refl _ _ s
          · exact Harmless.refl _ _ s
          · cases htype : MessageType.ofValue ((raw.getJson "message_type").orElse
                (raw.getJson "type")) with
            | none => exact Harmless.refl _ _ s
            | some msgType =>
                cases msgType with
                | registerCamera =>
                    -- a registration that is turned down here
                    have hreg : isRegisterCamera raw = true := by
                      unfold isRegisterCamera
                      rw [htype]
                      simpa using hproto
                    dsimp only
                    rw [echo_server]
                    exact refused_harmless hraw hreg hof a.node
                | _ => exact processAuthenticated_harmless py r h.connection hok.1 hcam raw _

/-- The ticker removes what has expired. -/
theorem expire_harmless (h : Attached py a timeout last s c) {r : Reading}
    (hnow : r.time ≤ last + timeout) : Harmless r.time a.node s (s.expire r) := by
  -- removing another node does no harm
  have hremove : ∀ n rest, n ≠ a.node → (a.node ∈ rest → a.node ∈ s.expiring) →
      Harmless r.time a.node s { s.unregister n with expiring := rest } := by
    intro n rest hne hrest
    have hq := harmless_unregister r.time hne s
    exact ⟨hq.session, hq.connection, hrest, hq.pairings⟩
  unfold Server.expire
  split
  · -- the list of an earlier stretch, on which the camera is not
    rename_i n rest hexpiring
    refine hremove n rest (fun heq => h.expiring ?_) fun hmem => ?_
    · rw [hexpiring, heq]; exact List.mem_cons_self
    · rw [hexpiring]; exact List.mem_cons_of_mem _ hmem
  · -- the list is made anew, and the camera's session is not on it
    have hnot : a.node ∉ s.sessions.expiredSessions r.time := by
      intro hmem
      unfold SessionManager.expiredSessions at hmem
      obtain ⟨⟨n, session⟩, hin, hn⟩ := List.mem_map.mp hmem
      obtain ⟨hitem, hexp⟩ := List.mem_filter.mp hin
      obtain ⟨own, hown, -, hlive⟩ := h.live hnow
      have hget : s.sessions.sessions.get? a.node = some session := by
        rw [← hn]
        exact (Dict.mem_items_iff _).mp hitem
      obtain rfl := Option.some.inj (hown.symm.trans hget)
      dsimp only at hexp
      rw [hlive] at hexp
      cases hexp
    split
    · exact Harmless.refl _ _ s
    · rename_i n rest hexpired
      rw [hexpired] at hnot
      refine hremove n rest (fun heq => hnot ?_) fun hmem => ?_
      · rw [heq]; exact List.mem_cons_self
      · exact absurd (List.mem_cons_of_mem _ hmem) hnot

theorem attachLocal_harmless (h : Attached py a timeout last s c) {r : Reading} (hc : c ≤ r.time)
    (hnow : r.time ≤ last + timeout) (hlocal : a.node = s!"LOCAL-{a.direction}") (d : String)
    (source : Socket) : Harmless r.time a.node s (s.attachLocal py r d source) := by
  unfold Server.attachLocal
  split_ifs with hno
  · exact Harmless.refl _ _ s
  · obtain ⟨hd, hfree⟩ := not_or.mp hno
    rw [not_not] at hd
    have hdir : d ≠ a.direction := by
      rintro rfl
      obtain ⟨found, hfound, -⟩ := h.found hc hnow
      rw [hfound] at hfree
      exact hfree rfl
    -- the names of two nodes differ as their directions do
    have hnames : ∀ d ∈ directions, ∀ e ∈ directions, s!"LOCAL-{d}" = s!"LOCAL-{e}" → d = e := by
      decide +kernel
    have hne : s!"LOCAL-{d}" ≠ a.node := by
      rw [hlocal]
      exact fun heq => hdir (hnames d hd _ h.direction_mem heq)
    have hunfound : Unfound py s.sessions d a.node r.time :=
      h.unfound (by rwa [cleanDirection_direction py hd])
    refine harmless_of_untouched (createSession_get?_of_ne hd hne hunfound r.uuid true)
      (Dict.get?_set_of_ne _ _ (Ne.symm hne)) rfl fun k p hp => ?_
    have hpairings := createSession_pairings py s.sessions s!"LOCAL-{d}" d r.uuid r.time true
    rw [← hpairings]
    exact hp

theorem updateHeartbeat_harmless (s : Server) (r : Reading) (node n token : String) :
    Harmless r.time node s (s.updateHeartbeat r n token) := by
  unfold Server.updateHeartbeat
  split
  · exact harmless_beat _ _ _ s
  · exact Harmless.refl _ _ s

theorem coordinator_harmless (py : Python) (s : Server) (node : String) (r : Reading)
    {action : Action} (hcoord : action.ofCoordinator = true) :
    Harmless r.time node s (s.step py (r, action)).1 := by
  cases action with
  | takeBatch =>
      show Harmless r.time node s s.takeBatch
      unfold Server.takeBatch
      split
      · split_ifs <;> exact harmless_of_eq rfl rfl rfl
      · exact Harmless.refl _ _ s
  | batchDone outcomes =>
      show Harmless r.time node s (s.batchDone outcomes)
      unfold Server.batchDone
      split <;> exact harmless_of_eq rfl rfl rfl
  | batchRaises counted =>
      show Harmless r.time node s (s.batchRaises counted)
      unfold Server.batchRaises
      split <;> exact harmless_of_eq rfl rfl rfl
  | commit =>
      show Harmless r.time node s (s.commit r).1
      unfold Server.commit
      split
      · exact harmless_of_eq rfl rfl rfl
      · dsimp only
        split
        · split_ifs <;> exact harmless_of_eq rfl rfl rfl
        · split <;> exact harmless_of_eq rfl rfl rfl
      · exact Harmless.refl _ _ s
  | _ => cases hcoord

/-- **No permitted stretch harms an attached camera.** -/
theorem step_harmless (h : Attached py a timeout last s c) {r : Reading} (hc : c ≤ r.time)
    (hnow : r.time ≤ last + timeout) (hlocal : a.node = s!"LOCAL-{a.direction}") {action : Action}
    (hok : Permitted py a action) : Harmless r.time a.node s (s.step py (r, action)).1 := by
  cases action with
  | message rawJson websocket =>
      have hnames : ∀ d ∈ directions, s!"LOCAL-{d}" ≠ "CAM-001" := by decide +kernel
      -- a registration may take the id of an older client, which is not a local one
      have hcam : a.node ≠ "CAM-001" := by
        rw [hlocal]
        exact hnames _ h.direction_mem
      exact message_harmless h hc hnow hcam hok
  | registered k =>
      unfold Server.step
      dsimp only
      split
      · exact Harmless.refl _ _ s
      · rename_i reg hk
        -- the registration that waited spares the camera
        obtain ⟨hnode, hdir⟩ := h.waiting reg (List.mem_of_getElem? hk)
        refine Harmless.trans ?_ (completeRegistration_harmless py _ r hnode ?_)
        · exact harmless_of_eq rfl rfl rfl
        · exact h.unfound (by rwa [cleanDirection_direction py reg.direction_mem])
  | submitDecodedFrame d n token websocket frameId receivedMs =>
      exact submitDecodedFrame_harmless py s r _ d n token websocket frameId receivedMs
  | attachLocal d source => exact attachLocal_harmless h hc hnow hlocal d source
  | updateHeartbeat n token => exact updateHeartbeat_harmless s r _ n token
  | socketLost n websocket =>
      show Harmless r.time a.node s (s.socketLost n websocket)
      unfold Server.socketLost
      split_ifs with hlost
      · -- the socket that is lost belongs to another node
        have hne : n ≠ a.node := by
          rintro rfl
          exact hok (Option.some.inj (hlost.symm.trans h.connection))
        exact harmless_of_untouched rfl (Dict.get?_erase_of_ne _ (Ne.symm hne)) rfl
          fun _ _ hp => hp
      · exact Harmless.refl _ _ s
  | expire => exact expire_harmless h hnow
  | registerPairing d pairing =>
      refine ⟨fun b hb hpast => ⟨b, hb, rfl, le_rfl, hpast⟩, rfl, fun he => he,
        fun k p hp hid => ?_⟩
      change (s.sessions.pairingSessions.set _ pairing).get? k = some p at hp
      rw [Dict.get?_set] at hp
      split_ifs at hp
      · -- the new pairing is not for the node
        obtain rfl := Option.some.inj hp
        exact absurd hid hok
      · exact hp
  | readPairing d => exact harmless_lookedUp _ _ py s d
  | disconnectCommand d =>
      show Harmless r.time a.node s (s.disconnectCommand py r d)
      unfold Server.disconnectCommand
      split
      · exact harmless_of_eq rfl rfl rfl
      · -- the approach that the operator disconnects is another one
        rename_i found hfound
        have hq := harmless_unregister r.time (h.unfound hok found hfound) s
        exact hq.trans (harmless_of_eq rfl rfl rfl)
  | disconnected k =>
      unfold Server.step
      dsimp only
      split <;> exact harmless_of_eq rfl rfl rfl
  | command cmd safe =>
      show Harmless r.time a.node s (s.handleCommand cmd safe)
      unfold Server.handleCommand
      split_ifs
      · exact harmless_of_eq rfl rfl rfl
      · exact harmless_of_eq rfl rfl rfl
      · -- streaming is set for all, and nothing is removed
        have hq := harmless_setAllStreaming r.time a.node true s
        exact ⟨hq.session, hq.connection, hq.expiring, hq.pairings⟩
  | resetDone =>
      show Harmless r.time a.node s s.resetDone
      unfold Server.resetDone
      split_ifs
      · exact Harmless.refl _ _ s
      · have hq := harmless_setAllStreaming r.time a.node s.systemRunning s
        exact ⟨hq.session, hq.connection, hq.expiring, hq.pairings⟩
  | outputFailed => exact harmless_of_eq rfl rfl rfl
  | takeBatch | batchDone | batchRaises | commit => exact coordinator_harmless py s _ _ rfl

/-- Who waits after a stretch waited before it, or has just been authorised. -/
theorem waiting_after (h : Attached py a timeout last s c) {r : Reading} (hc : c ≤ r.time)
    (hnow : r.time ≤ last + timeout) {action : Action} (hok : Permitted py a action) :
    ∀ reg ∈ (s.step py (r, action)).1.registering,
      reg.nodeId ≠ a.node ∧ reg.direction ≠ a.direction := by
  intro reg hreg
  cases step_enrols py s (r, action) with
  | grantless hq => exact h.waiting reg (hq.registering ▸ hreg)
  | registers _ _ hsub => exact h.waiting reg (hsub reg hreg)
  | attaches _ _ _ hsame => exact h.waiting reg (hsame ▸ hreg)
  | @waits reg' hof _ _ hregistering =>
      rw [hregistering] at hreg
      rcases List.mem_append.mp hreg with hmem | hnew
      · exact h.waiting reg hmem
      · obtain rfl := List.mem_singleton.mp hnew
        obtain ⟨rawJson, websocket, hmessage, hof⟩ := hof
        obtain rfl : action = _ := hmessage
        exact h.spared hc hnow hok hof

/-- **An attached camera stays attached.** -/
theorem attached_step (h : Attached py a timeout last s c) {r : Reading} (hc : c ≤ r.time)
    (hnow : r.time ≤ last + timeout) (hlocal : a.node = s!"LOCAL-{a.direction}")
    (action : Action) (hok : Permitted py a action) :
    Attached py a timeout last (s.step py (r, action)).1 r.time := by
  have hq := step_harmless h hc hnow hlocal hok
  obtain ⟨session, hget, hid, hlast, hpast⟩ := h.session
  obtain ⟨session', hget', hgo⟩ := hq.session session hget (hpast.trans hc)
  exact ⟨liveTable_step (i := (r, action)) h.table hc,
    ⟨session', hget', hgo.identity.trans hid, hlast.trans hgo.heartbeat, hgo.past⟩,
    hq.connection.trans h.connection, fun he => h.expiring (hq.expiring he),
    fun k p hp hpid => h.pairings k p (hq.pairings k p hp hpid) hpid,
    waiting_after h hc hnow hok⟩

/-! ## The sources at work -/

theorem Attached.later (h : Attached py a timeout last s c) (hc : c ≤ now) :
    Attached py a timeout last s now := by
  obtain ⟨session, hget, hid, hlast, hpast⟩ := h.session
  exact { h with
    table := ⟨h.table.sound, oneLive_later h.table.live hc⟩
    session := ⟨session, hget, hid, hlast, hpast.trans hc⟩ }

theorem Attached.valid (h : Attached py a timeout last s c) (hnow : now ≤ last + timeout) :
    s.sessions.validateSession (.str a.node) (.str a.token) now = .ok true := by
  obtain ⟨session, hget, hid, hlive⟩ := h.live hnow
  have htoken := token_of_identity hid
  unfold SessionManager.validateSession Dict.lookupJson
  dsimp only
  rw [hget]
  simp [hlive, Json.isStr, htoken]

/-- Its own heartbeat counts from now. -/
theorem attached_beat (h : Attached py a timeout last s c) {r : Reading} (hc : c ≤ r.time)
    (hnow : r.time ≤ last + timeout) (hlocal : a.node = s!"LOCAL-{a.direction}") :
    Attached py a timeout r.time (s.updateHeartbeat r a.node a.token) r.time := by
  have hstep : Attached py a timeout last (s.updateHeartbeat r a.node a.token) r.time :=
    attached_step h hc hnow hlocal (.updateHeartbeat a.node a.token) trivial
  have hvalid := h.valid hnow
  obtain ⟨session, hget, hid, -⟩ := h.session
  refine { hstep with session := ⟨{ session with lastHeartbeat := r.time }, ?_, hid, le_rfl,
    le_rfl⟩ }
  unfold Server.updateHeartbeat
  rw [hvalid]
  dsimp only
  unfold SessionManager.beat SessionManager.update
  rw [hget]
  exact Dict.get?_set_self _ _ _

theorem attached_beats (h : Attached py a timeout last s c) {r : Reading} (hc : c ≤ r.time)
    (hnow : r.time ≤ last + timeout) (hlocal : a.node = s!"LOCAL-{a.direction}")
    (nodes : List (String × String)) :
    Attached py a timeout last
      (nodes.foldl (fun s node => s.updateHeartbeat r node.1 node.2) s) r.time := by
  induction nodes generalizing s c with
  | nil => exact h.later hc
  | cons node nodes ih =>
      exact ih (attached_step h hc hnow hlocal (.updateHeartbeat node.1 node.2) trivial) le_rfl

/-- **The pump refreshes it** when it refreshes all. -/
theorem attached_beatAll (h : Attached py a timeout last s c) {r : Reading} (hc : c ≤ r.time)
    (hnow : r.time ≤ last + timeout) (hlocal : a.node = s!"LOCAL-{a.direction}")
    {nodes : List (String × String)} (hmem : (a.node, a.token) ∈ nodes) :
    Attached py a timeout r.time
      (nodes.foldl (fun s node => s.updateHeartbeat r node.1 node.2) s) r.time := by
  have htimeout : 0 ≤ timeout := by
    obtain ⟨session, hget, hid, -⟩ := h.session
    rw [← timeout_of_identity hid]
    exact (h.table.sound.sessions _ _ hget).2
  induction nodes generalizing s c with
  | nil => exact absurd hmem List.not_mem_nil
  | cons node nodes ih =>
      rcases List.mem_cons.mp hmem with rfl | hmem
      · exact attached_beats (attached_beat h hc hnow hlocal) le_rfl (by linarith) hlocal nodes
      · exact ih (attached_step h hc hnow hlocal (.updateHeartbeat node.1 node.2) trivial) le_rfl
          hmem

end

/-- The pump takes what is kept. -/
def Observed.isTaken : Option Observed → Bool
  | some .taken => true
  | _ => false

/-- When the pump last woke up, after a stretch. -/
def lastWake (last : Rat) (e : Event LocalSources (Reading × SourceAction) (Option Observed)) :
    Rat :=
  if Observed.isTaken e.out then e.input.1.time else last

/-- The sources run on, and what else happens is permitted. -/
def RunsOn (py : Python) (a : Attachment) : SourceAction → Prop
  | .server action => Permitted py a action
  | .shutdown => False
  | .detach => False
  | _ => True

section

variable {py : Python} {a : Attachment} {timeout last c : Rat} {w : LocalSources}

theorem attached_source_step (h : Attached py a timeout last w.server c)
    (hnode : w.nodes.get? a.direction = some (a.node, a.token)) {i : Reading × SourceAction}
    (hc : c ≤ i.1.time) (hnow : i.1.time ≤ last + timeout)
    (hlocal : a.node = s!"LOCAL-{a.direction}") (hok : RunsOn py a i.2) :
    Attached py a timeout (lastWake last (eventOf (LocalSources.step py) w i))
      (w.step py i).1.server i.1.time := by
  obtain ⟨r, action⟩ := i
  cases action with
  | capture d image =>
      show Attached py a timeout
        (if Observed.isTaken (w.capture r d image).2 then r.time else last)
        (w.capture r d image).1.server r.time
      unfold LocalSources.capture
      split_ifs <;> first | exact h.later hc | contradiction
  | wake =>
      show Attached py a timeout (if Observed.isTaken (w.wake r).2 then r.time else last)
        (w.wake r).1.server r.time
      unfold LocalSources.wake
      split
      · -- the pump has woken up, and sends the heartbeat of every node
        exact attached_beatAll h hc hnow hlocal ((Dict.mem_values_iff _).mpr ⟨_, hnode⟩)
      · exact h.later hc
  | submit =>
      -- a submission is no heartbeat
      have hnot : Observed.isTaken (w.submit py r).2 = false := by
        unfold LocalSources.submit
        split
        · split <;> rfl
        · rfl
      show Attached py a timeout (if Observed.isTaken (w.submit py r).2 then r.time else last)
        (w.submit py r).1.server r.time
      rw [hnot, if_neg Bool.false_ne_true]
      unfold LocalSources.submit
      split
      · rename_i d capture rest _
        split
        · exact h.later hc
        · rename_i node token _
          exact attached_step h hc hnow hlocal (.submitDecodedFrame d node token w.socket
            r.timeNs capture.received) trivial
      · exact h.later hc
  | server action => exact attached_step h hc hnow hlocal action hok
  | shutdown | detach => exact absurd hok id

/-- What an attached camera has at a reading of the clock. -/
structure KeepsApproach (a : Attachment) (s : Server) (now : Rat) : Prop where
  valid : s.sessions.validateSession (.str a.node) (.str a.token) now = .ok true
  connection : s.activeConnections.get? a.node = some a.socket
  /-- No other node has a live session for the approach. -/
  alone : ∀ n session, s.sessions.sessions.get? n = some session →
    session.cameraDirection = a.direction → session.isExpired now = false → n = a.node

theorem Attached.keeps {s : Server} {now : Rat} (h : Attached py a timeout last s c) (hc : c ≤ now)
    (hnow : now ≤ last + timeout) : KeepsApproach a s now := by
  refine ⟨h.valid hnow, h.connection, fun n session hget hdir hlive => ?_⟩
  obtain ⟨own, hown, hid, hownlive⟩ := h.live hnow
  have hsame := direction_of_identity hid
  exact (oneLive_later h.table.live hc).unique n a.node session own hget hown
    (congrArg py.lower (hdir.trans hsame.symm)) hlive hownlive

/-- No stretch comes later than `gap` after the pump last woke up. -/
def Punctual (gap : Rat) :
    Rat → List (Event LocalSources (Reading × SourceAction) (Option Observed)) → Prop
  | _, [] => True
  | last, e :: es => e.input.1.time ≤ last + gap ∧ Punctual gap (lastWake last e) es

instance decidablePunctual (gap : Rat) : (last : Rat) →
    (es : List (Event LocalSources (Reading × SourceAction) (Option Observed))) →
    Decidable (Punctual gap last es)
  | _, [] => isTrue trivial
  | last, e :: es =>
      have := decidablePunctual gap (lastWake last e) es
      inferInstanceAs (Decidable (_ ∧ _))

theorem attached_run (h : Attached py a timeout last w.server c)
    (hnode : w.nodes.get? a.direction = some (a.node, a.token))
    (hlocal : a.node = s!"LOCAL-{a.direction}") {run : List (Reading × SourceAction)}
    (hclock : (c :: run.map (·.1.time)).Pairwise (· ≤ ·))
    (hpunctual : Punctual timeout last (events (LocalSources.step py) w run))
    (hok : ∀ i ∈ run, RunsOn py a i.2) :
    ∀ e ∈ events (LocalSources.step py) w run,
      KeepsApproach a e.pre.server e.input.1.time := by
  induction run generalizing w c last with
  | nil => exact fun e he => absurd he List.not_mem_nil
  | cons i run ih =>
      obtain ⟨hle, hrest⟩ := List.pairwise_cons.mp hclock
      have hc : c ≤ i.1.time := hle _ (List.mem_map_of_mem List.mem_cons_self)
      rw [events_cons] at hpunctual ⊢
      obtain ⟨hnow, hpunctual⟩ := hpunctual
      have hi := hok i List.mem_cons_self
      rw [List.forall_mem_cons]
      refine ⟨h.keeps hc hnow, ih (attached_source_step h hnode hc hnow hlocal hi) ?_ hrest
        hpunctual fun j hj => hok j (List.mem_cons_of_mem _ hj)⟩
      rw [nodes_step]
      exact hnode

end

/-! ## From the start -/

/-- A server that comes up: nobody is registered, invited or waiting. -/
structure ComesUp (s : Server) : Prop where
  initial : Initial s
  registering : s.registering = []
  expiring : s.expiring = []
  pairings : s.sessions.pairingSessions = ∅

/-- What `start` keeps while it attaches one camera after the other. -/
structure Attaching (py : Python) (socket : Socket) (timeout now : Rat) (w : LocalSources) :
    Prop where
  table : LiveTable py w.server now
  timeoutSec : w.server.sessions.timeoutSec = timeout
  own : w.socket = socket
  registering : w.server.registering = []
  expiring : w.server.expiring = []
  pairings : w.server.sessions.pairingSessions = ∅
  nodes : ∀ d node token, w.nodes.get? d = some (node, token) →
    node = s!"LOCAL-{d}" ∧ Attached py ⟨socket, node, token, d⟩ timeout now w.server now

section

variable {py : Python} {socket : Socket} {timeout : Rat} {w : LocalSources} {r : Reading}
  {d : String}

theorem attachLocal_eq {s : Server} (hd : d ∈ directions)
    (hfree : s.sessions.getSessionByDirection py d r.time = none) (source : Socket) :
    s.attachLocal py r d source
      = { s.createSession py r s!"LOCAL-{d}" d true with
          activeConnections := s.activeConnections.set s!"LOCAL-{d}" source } := by
  unfold Server.attachLocal
  rw [if_neg (by rw [hfree]; simp [hd])]

/-- The camera that has just been attached. -/
theorem attached_new (h : Attaching py socket timeout r.time w) (hd : d ∈ directions)
    (hfree : w.server.sessions.getSessionByDirection py d r.time = none) :
    Attached py ⟨socket, s!"LOCAL-{d}", r.uuid, d⟩ timeout r.time
      (w.server.attachLocal py r d w.socket) r.time := by
  have hstep : LiveTable py (w.server.attachLocal py r d w.socket) r.time :=
    liveTable_step (i := (r, .attachLocal d w.socket)) h.table le_rfl
  have hpairings := (createSession_pairings py w.server.sessions s!"LOCAL-{d}" d r.uuid r.time
    true).trans h.pairings
  rw [attachLocal_eq hd hfree] at hstep ⊢
  refine ⟨hstep, ⟨w.server.sessions.newSession py s!"LOCAL-{d}" d r.uuid r.time true,
    Dict.get?_set_self _ _ _, ?_, le_rfl, le_rfl⟩, ?_, ?_, fun k p hp => ?_, fun reg hreg => ?_⟩
  · rw [newSession_identity, cleanDirection_direction py hd, h.timeoutSec]
  · exact (Dict.get?_set_self _ _ _).trans (congrArg some h.own)
  · show _ ∉ w.server.expiring
    rw [h.expiring]
    exact List.not_mem_nil
  · change (w.server.sessions.createSession py _ d r.uuid r.time true).pairingSessions.get? k
      = _ at hp
    rw [hpairings] at hp
    cases hp
  · change reg ∈ w.server.registering at hreg
    rw [h.registering] at hreg
    exact absurd hreg List.not_mem_nil

theorem attaching_attach (h : Attaching py socket timeout r.time w) (hd : d ∈ directions)
    (hfree : w.server.sessions.getSessionByDirection py d r.time = none) :
    Attaching py socket timeout r.time (w.attach py r d) := by
  have hnew := attached_new h hd hfree
  -- who was attached before is still attached
  have hold : ∀ {a : Attachment}, a.node = s!"LOCAL-{a.direction}" →
      Attached py a timeout r.time w.server r.time →
      Attached py a timeout r.time (w.server.attachLocal py r d w.socket) r.time := by
    intro a hlocal ha
    have htimeout := h.table.sound.timeout
    rw [h.timeoutSec] at htimeout
    exact attached_step ha le_rfl (by linarith) hlocal (.attachLocal d w.socket) trivial
  have hpairings := (createSession_pairings py w.server.sessions s!"LOCAL-{d}" d r.uuid r.time
    true).trans h.pairings
  have htimeout := (createSession_timeoutSec py w.server.sessions s!"LOCAL-{d}" d r.uuid r.time
    true).trans h.timeoutSec
  have heq : w.server.attachLocal py r d w.socket = _ := attachLocal_eq hd hfree w.socket
  have htable : LiveTable py (w.attach py r d).server r.time := hnew.table
  refine ⟨htable, ?_, h.own, ?_, ?_, ?_, fun k node token hget => ?_⟩
  · show (w.server.attachLocal py r d w.socket).sessions.timeoutSec = timeout
    rw [heq]
    exact htimeout
  · show (w.server.attachLocal py r d w.socket).registering = []
    rw [heq]
    exact h.registering
  · show (w.server.attachLocal py r d w.socket).expiring = []
    rw [heq]
    exact h.expiring
  · show (w.server.attachLocal py r d w.socket).sessions.pairingSessions = ∅
    rw [heq]
    exact hpairings
  · change (w.nodes.set d (s!"LOCAL-{d}", r.uuid)).get? k = some (node, token) at hget
    rw [Dict.get?_set] at hget
    split_ifs at hget with hsame
    · -- the node that has just been attached
      subst hsame
      obtain ⟨rfl, rfl⟩ := Prod.mk.inj (Option.some.inj hget)
      exact ⟨rfl, hnew⟩
    · obtain ⟨hlocal, ha⟩ := h.nodes k node token hget
      exact ⟨hlocal, hold hlocal ha⟩

end

theorem attachAll_attaching {py : Python} {socket : Socket} {timeout : Rat} {r : Reading}
    {uuids : String → String} {w w' : LocalSources} {items : List (String × Json)}
    (h : Attaching py socket timeout r.time w) (hkeys : ∀ d ∈ items.map Prod.fst, d ∈ directions)
    (hall : LocalSources.attachAll py r uuids w items = .ok w') :
    Attaching py socket timeout r.time w' := by
  induction items generalizing w with
  | nil =>
      obtain rfl := Except.ok.inj hall
      exact h
  | cons item items ih =>
      obtain ⟨d, source⟩ := item
      unfold LocalSources.attachAll at hall
      split_ifs at hall with hsource hoccupied
      have hd : d ∈ directions := hkeys d List.mem_cons_self
      refine ih ?_ (fun k hk => hkeys k (List.mem_cons_of_mem _ hk)) hall
      exact attaching_attach (r := { r with uuid := uuids d }) h hd (by simpa using hoccupied)

/-- **Every camera is attached once `start` returns.** -/
theorem start_attached {py : Python} {s : Server} {socket : Socket} {r : Reading}
    {uuids : String → String} {sources : Json} {w : LocalSources} (hs : ComesUp s)
    (hstart : (constructed s socket).start py r uuids sources = .ok w) {d node token : String}
    (hnode : w.nodes.get? d = some (node, token)) :
    node = s!"LOCAL-{d}"
      ∧ Attached py ⟨socket, node, token, d⟩ s.sessions.timeoutSec r.time w.server r.time := by
  obtain ⟨fields, w', -, hkeys, hall, rfl⟩ := start_eq_ok hstart
  have hempty : Attaching py socket s.sessions.timeoutSec r.time (constructed s socket) :=
    ⟨⟨soundTable_init hs.initial, oneLive_empty hs.initial.sessions⟩, rfl, rfl, hs.registering,
      hs.expiring, hs.pairings, fun d node token hget => by cases hget⟩
  have h := attachAll_attaching hempty hkeys hall
  unfold LocalSources.startPump at hnode ⊢
  split_ifs at hnode ⊢ <;> exact h.nodes d node token hnode

/--
**A local camera keeps its approach.** While the pump never sleeps longer than the
heartbeat timeout, nothing that the other cameras send and nothing that the
ticker does takes away its session or its connection, and no other camera gets
in beside it. Only the operator's DISCONNECT, or somebody with its token or a
pairing for its node, can.
-/
theorem source_keeps_its_approach (py : Python) {s : Server} (hs : ComesUp s) {socket : Socket}
    {r : Reading} {uuids : String → String} {sources : Json} {w : LocalSources}
    (hstart : (constructed s socket).start py r uuids sources = .ok w) {d node token : String}
    (hnode : w.nodes.get? d = some (node, token)) {run : List (Reading × SourceAction)}
    (hclock : (r.time :: run.map (·.1.time)).Pairwise (· ≤ ·))
    (hpunctual : Punctual s.sessions.timeoutSec r.time (events (LocalSources.step py) w run))
    (hok : ∀ i ∈ run, RunsOn py ⟨socket, node, token, d⟩ i.2) :
    ∀ e ∈ events (LocalSources.step py) w run,
      KeepsApproach ⟨socket, node, token, d⟩ e.pre.server e.input.1.time := by
  obtain ⟨hlocal, h⟩ := start_attached hs hstart hnode
  exact attached_run h hnode hlocal hclock hpunctual hok

/-- A camera of the network wants the north approach as well. -/
def intruder : Json :=
  .obj [("type", .str "REGISTER_CAMERA"), ("token", .str "t1"),
    ("payload", .obj [("node_id", .str "CAM-1"), ("camera_direction", .str "north")])]

def intrudedRun : List (Reading × SourceAction) :=
  [(readingAt 0 "", .server (.registerPairing "north" ⟨"CAM-1", "t1", 300⟩))] ++ cameraRun
    ++ [(readingAt 5 "t2", .server (.message intruder 7)), (readingAt 14 "", .wake)]

theorem source_keeps_its_approach_north :
    ComesUp ({} : Server) ∧ ∀ e ∈ events (LocalSources.step plainPython) startedCameras intrudedRun,
      KeepsApproach ⟨9, "LOCAL-north", "north-token", "north"⟩ e.pre.server e.input.1.time := by
  have hfresh : ComesUp ({} : Server) := ⟨⟨by decide, rfl, rfl, rfl, rfl⟩, rfl, rfl, rfl⟩
  refine ⟨hfresh, ?_⟩
  refine source_keeps_its_approach plainPython hfresh (rfl : (constructed {} 9).start plainPython
    (readingAt 0 "t0") cameraTokens twoCameras = .ok startedCameras) rfl (by decide +kernel)
    (by decide +kernel) ?_
  have hcameras : ∀ i ∈ cameraRun,
      RunsOn plainPython ⟨9, "LOCAL-north", "north-token", "north"⟩ i.2 := by
    simp [cameraRun, RunsOn]
  intro i hi
  simp only [intrudedRun, List.mem_append, List.mem_cons, List.not_mem_nil, or_false] at hi
  rcases hi with (rfl | hcamera) | rfl | rfl
  · show "CAM-1" ≠ "LOCAL-north"
    decide
  · exact hcameras i hcamera
  · refine ⟨by decide, fun raw hraw => ?_⟩
    obtain rfl := Option.some.inj hraw
    decide +kernel
  · trivial

end SmartTraffic.Proof
