import SmartTraffic.Server.Intake
import SmartTraffic.Signal.Keys
import SmartTraffic.Proof.Isolation

/-!
# Delivery of accepted frames

A VIDEO_FRAME that is accepted waits in its slot, is taken with a batch, and
comes to its turn among the results of that batch. At the door the sender may be
named by `node_id` or by `cameraId`; when the result is published, only `node_id`
is read. And a batch is all or nothing: what one of its frames raises loses the
results of the others. So a frame is delivered exactly when its sender is named
by `node_id`, when `process_batch` gets through the batch, and when no result
ahead of it carries an id that cannot be looked up.
-/

namespace SmartTraffic.Proof

open SmartTraffic Lib

variable {v : Platform}

/-! ## The sender of an accepted frame -/

/-- The message's own payload. -/
def payloadIn (rawJson : Json) : Option (Dict String Json) :=
  rawJson.toDict.bind fun raw => (payloadOf raw).toDict

/-- The message brings a frame of `node` for `d`, under the node's session. -/
structure Sends (s : Server) (r : Reading) (rawJson : Json) (websocket : Socket) (node d : String)
    (p : Packet) : Prop where
  /-- The sender is named by `node_id`, or else by `cameraId`. -/
  named : ∃ payload, payloadIn rawJson = some payload
    ∧ (payload.getJson "node_id").orElse (payload.getJson "cameraId") = .str node
    ∧ p.nodeId = payload.getJson "node_id"
    ∧ ∀ frameId, payload.get? "frame_id" = some frameId → p.payload.getJson "frame_id" = frameId
  session : ∃ session, s.sessions.sessions.get? node = some session
    ∧ session.isExpired r.time = false ∧ session.cameraDirection = d
    ∧ p.sessionToken = .str session.sessionToken
  socket : s.activeConnections.get? node = some websocket
  owner : p.ownerSocket = websocket
  direction : p.direction = .str d

theorem senderOf_eq_some {s : Server} {r : Reading} {raw payload : Dict String Json}
    {websocket : Socket} {session : NodeSession}
    (h : s.senderOf r raw payload websocket = some session) :
    ∃ node, (payload.getJson "node_id").orElse (payload.getJson "cameraId") = .str node
      ∧ s.sessions.sessions.get? node = some session ∧ session.isExpired r.time = false
      ∧ (payload.getJson "session_token").orElse (raw.getJson "token")
        = .str session.sessionToken
      ∧ s.activeConnections.get? node = some websocket := by
  unfold Server.senderOf at h
  dsimp only at h
  split at h
  · rename_i node hvalid hnode
    split_ifs at h with hconn
    obtain ⟨node', session', hnode', hget, hlive, htoken⟩ := validateSession_ok hvalid
    obtain rfl := Json.str.inj (hnode.symm.trans hnode')
    obtain rfl := Option.some.inj (h.symm.trans hget)
    exact ⟨node, hnode, hget, hlive, htoken, hconn⟩
  · cases h

/-- A frame id that the client sent stays. -/
theorem stampPayload_frameId {r : Reading} {d : String} {payload stamped : Dict String Json}
    (h : Server.stampPayload r d payload = .ok stamped) {frameId : Json}
    (hid : payload.get? "frame_id" = some frameId) :
    stamped.getJson "frame_id" = frameId := by
  obtain ⟨cap, upload, _, rfl⟩ := stampPayload_ok h
  have hget : ((payload.set "capture_timestamp" cap).set "upload_timestamp" upload).get? "frame_id"
      = some frameId := by
    rw [Dict.get?_set_of_ne _ _ (by decide), Dict.get?_set_of_ne _ _ (by decide), hid]
  rw [if_pos (by unfold Dict.contains; rw [hget]; rfl)]
  unfold Dict.getJson
  rw [hget]
  rfl

/-- **An accepted VIDEO_FRAME has put a frame of its sender into the slot.** -/
theorem accepted_sends {py : Python} {s : Server} (hs : SoundSessions s) {r : Reading}
    {rawJson : Json} {raw : Dict String Json} {websocket : Socket}
    (hraw : rawJson.toDict = some raw) (hvideo : isVideoFrame raw = true)
    (haccepted : (s.processMessage py r rawJson websocket).answer = .silent) :
    ∃ node d p, Sends s r rawJson websocket node d p
      ∧ (s.processMessage py r rawJson websocket).effect = some (.admitted d p) := by
  have hbrings := processMessage_brings py hs r hraw hvideo websocket
  cases hframe : s.frameOf py r rawJson websocket with
  | none => rw [hframe] at hbrings; exact absurd haccepted hbrings.2
  | some found =>
      obtain ⟨d, frame⟩ := found
      rw [hframe] at hbrings
      unfold Brings Counts at hbrings
      dsimp only at hbrings
      split at hbrings
      · -- the frame was stamped, so it is in the slot
        rename_i stamped hstamped
        unfold Server.frameOf at hframe
        rw [hraw] at hframe
        dsimp only at hframe
        rw [hvideo] at hframe
        cases hpayload : (payloadOf raw).toDict with
        | none => rw [hpayload] at hframe; nomatch hframe
        | some payload =>
            rw [hpayload] at hframe
            dsimp only at hframe
            cases hsender : s.senderOf r raw payload websocket with
            | none => rw [hsender] at hframe; nomatch hframe
            | some session =>
                rw [hsender] at hframe
                obtain ⟨frame', hfor, hpair⟩ := Option.map_eq_some_iff.mp hframe
                obtain ⟨rfl, rfl⟩ := Prod.mk.inj hpair
                -- who sent it, by the session it names
                obtain ⟨node, hnode, hget, hlive, htoken, hconn⟩ := senderOf_eq_some hsender
                have hseal : frame' = (payload.set "direction" (.str session.cameraDirection)).set
                    "session_token" (.str session.sessionToken) := by
                  unfold Server.frameFor at hfor
                  dsimp only at hfor
                  split at hfor
                  · split_ifs at hfor
                    rw [← Option.some.inj hfor, htoken]
                  · nomatch hfor
                subst hseal
                refine ⟨node, session.cameraDirection, _, ⟨⟨payload, ?_, hnode, ?_, ?_⟩,
                  ⟨session, hget, hlive, rfl, ?_⟩, hconn, rfl, ?_⟩, hbrings.effect⟩
                · -- the fields the server has not written over are those that were sent
                  unfold payloadIn; rw [hraw]; exact hpayload
                · show stamped.getJson "node_id" = _
                  rw [stampPayload_getJson hstamped (by decide) (by decide) (by decide),
                    Dict.getJson_set_of_ne _ _ (by decide), Dict.getJson_set_of_ne _ _ (by decide)]
                · intro frameId hid
                  refine stampPayload_frameId hstamped ?_
                  rw [Dict.get?_set_of_ne _ _ (by decide), Dict.get?_set_of_ne _ _ (by decide), hid]
                · show stamped.getJson "session_token" = _
                  rw [stampPayload_getJson hstamped (by decide) (by decide) (by decide),
                    Dict.getJson_set_self]
                · show stamped.getJson "direction" = _
                  rw [stampPayload_getJson hstamped (by decide) (by decide) (by decide),
                    Dict.getJson_set_of_ne _ _ (by decide), Dict.getJson_set_self]
      · -- a frame that could not be stamped is answered with an error
        obtain ⟨e, he⟩ := hbrings.answer
        rw [haccepted] at he
        nomatch he

/-- The frame that is put into the slot is its sender's own. -/
theorem sends_owned {py : Python} {s : Server} (h : Registry s) {r : Reading} {rawJson : Json}
    {websocket : Socket} (hfresh : FreshToken s (r, .message rawJson websocket))
    {node d : String} {p : Packet} (hsends : Sends s r rawJson websocket node d p)
    (heff : (s.step py (r, .message rawJson websocket)).2 = some (.admitted d p)) :
    Owned (s.step py (r, .message rawJson websocket)).1 r.time node d p := by
  have hnext := registry_step py s _ h hfresh
  obtain ⟨node', howned⟩ := admitted_owned h heff
  obtain ⟨session, hget, -, hdir, htoken⟩ := hsends.session
  -- its token was issued before, and for one node
  have hissued : IssuedFor s p node d :=
    ⟨session.sessionToken, htoken, hdir ▸ h.session node session hget⟩
  obtain ⟨rfl, -⟩ := issuedFor_unique hnext (issuedFor_of_owned hnext howned)
    (issuedFor_mono (issued_step h _).1 hissued)
  exact howned

/-! ## One frame of each direction in flight -/

/-- The registry, and the frames in flight are for different directions. -/
structure OneEach (s : Server) : Prop where
  registry : Registry s
  distinct : (s.inFlight.map Packet.direction).Nodup

/-- The frames in the slots are for different directions. -/
theorem slots_distinct {s : Server} (h : Registry s) :
    (s.latestFrames.values.map Packet.direction).Nodup := by
  have hkeys : s.latestFrames.values.map Packet.direction
      = (s.latestFrames.items.map Prod.fst).map Json.str := by
    unfold Dict.values
    rw [List.map_map, List.map_map]
    refine List.map_congr_left fun item hitem => ?_
    exact (h.slot item.1 item.2 ((Dict.mem_items_iff _).mp hitem)).1
  rw [hkeys]
  exact s.latestFrames.nodup.map fun _ _ heq => Json.str.inj heq

/-- What is not the coordinator's leaves its batch alone and publishes nothing. -/
theorem intake_coordinator (py : Python) {s : Server} {i : Reading × Action}
    (hs : SoundSessions s) (hi : i.2.ofCoordinator = false) :
    (s.step py i).1.coordinator = s.coordinator
      ∧ ∀ d q, (s.step py i).2 ≠ some (.committed d q) := by
  rcases step_intake py hs i hi with
    ⟨-, hflow, hout⟩ | ⟨d, p, -, hflow, hout⟩ | ⟨d, -, hout, hflow⟩ <;>
  · simp only [Server.flow, Prod.mk.injEq] at hflow
    exact ⟨hflow.2.1, fun d q h => by rw [hout] at h; simp at h⟩

theorem distinct_step {py : Python} {s : Server} (h : OneEach s) (i : Reading × Action) :
    ((s.step py i).1.inFlight.map Packet.direction).Nodup := by
  have hsub : ∀ {s' : Server}, s'.inFlight.Sublist s.inFlight →
      (s'.inFlight.map Packet.direction).Nodup :=
    fun hs' => h.distinct.sublist (hs'.map _)
  cases hi : i.2.ofCoordinator with
  | false =>
      refine hsub ?_
      unfold Server.inFlight
      rw [(intake_coordinator py h.registry.sound hi).1]
  | true =>
      obtain ⟨r, action⟩ := i
      cases action with
      | takeBatch =>
          -- the packets of a new batch come from the slots
          show (s.takeBatch.inFlight.map Packet.direction).Nodup
          unfold Server.takeBatch
          split
          · split_ifs
            · exact slots_distinct h.registry
            · exact h.distinct
          · exact h.distinct
      | batchDone outcomes =>
          -- later the batch only shrinks
          refine hsub ?_
          show (s.batchDone outcomes).inFlight.Sublist s.inFlight
          unfold Server.batchDone
          split
          · rename_i packets hc
            have hs : s.inFlight = packets := by unfold Server.inFlight; rw [hc]
            rw [hs]
            exact resultsOf_sublist packets outcomes
          · exact List.Sublist.refl _
      | batchRaises counted =>
          refine hsub ?_
          show (s.batchRaises counted).inFlight.Sublist s.inFlight
          unfold Server.batchRaises
          split
          · exact List.nil_sublist _
          · exact List.Sublist.refl _
      | commit =>
          refine hsub ?_
          show (s.commit r).1.inFlight.Sublist s.inFlight
          have hrest : ∀ packet result results,
              s.coordinator = .committing ((packet, result) :: results) →
              s.inFlight = packet :: results.map Prod.fst := by
            intro packet result results hc
            unfold Server.inFlight
            rw [hc]
            rfl
          unfold Server.commit
          split
          · exact List.nil_sublist _
          · rename_i packet result results hc
            dsimp only
            rw [hrest packet result results hc]
            split
            · split_ifs
              · exact List.nil_sublist _
              · exact List.sublist_cons_self _ _
            · split
              · exact List.sublist_cons_self _ _
              · exact List.sublist_cons_self _ _
          · exact List.Sublist.refl _
      | _ => cases hi

theorem oneEach_step (py : Python) (s : Server) (i : Reading × Action) (h : OneEach s)
    (hfresh : FreshToken s i) : OneEach (s.step py i).1 :=
  ⟨registry_step py s i h.registry hfresh, distinct_step h i⟩

theorem oneEach_init {s : Server} (h : Initial s) : OneEach s :=
  ⟨registry_init h, by rw [h.flight]; exact List.nodup_nil⟩

/-! ## The results of a batch, one after another -/

def Action.isCommit : Action → Bool
  | .commit => true
  | _ => false

/-- No other stretch takes a result away, or publishes one. -/
theorem committing_stays (py : Python) {s : Server} {i : Reading × Action}
    {results : List (Packet × FrameResult)} (hs : SoundSessions s)
    (hc : s.coordinator = .committing results) (hi : Action.isCommit i.2 = false) :
    (s.step py i).1.coordinator = .committing results
      ∧ ∀ d q, (s.step py i).2 ≠ some (.committed d q) := by
  cases hcoord : i.2.ofCoordinator with
  | false =>
      obtain ⟨hsame, hout⟩ := intake_coordinator py hs hcoord
      exact ⟨hsame.trans hc, hout⟩
  | true =>
      obtain ⟨r, action⟩ := i
      cases action with
      | takeBatch =>
          refine ⟨?_, fun _ _ h => by cases h⟩
          show s.takeBatch.coordinator = _
          unfold Server.takeBatch
          rw [hc]
          exact hc
      | batchDone outcomes =>
          refine ⟨?_, fun _ _ h => by cases h⟩
          show (s.batchDone outcomes).coordinator = _
          unfold Server.batchDone
          rw [hc]
          exact hc
      | batchRaises counted =>
          refine ⟨?_, fun _ _ h => by cases h⟩
          show (s.batchRaises counted).coordinator = _
          unfold Server.batchRaises
          rw [hc]
          exact hc
      | commit => cases hi
      | _ => cases hcoord

/-- A coordinator that waits does so until it takes a batch. -/
theorem waiting_stays {py : Python} {s : Server} {i : Reading × Action} (hs : SoundSessions s)
    (hc : s.coordinator = .waiting) (hi : i.2 ≠ .takeBatch) :
    (s.step py i).1.coordinator = .waiting := by
  cases hcoord : i.2.ofCoordinator with
  | false => exact (intake_coordinator py hs hcoord).1.trans hc
  | true =>
      obtain ⟨r, action⟩ := i
      cases action with
      | takeBatch => exact absurd rfl hi
      | batchDone outcomes =>
          show (s.batchDone outcomes).coordinator = _
          unfold Server.batchDone
          rw [hc]
          exact hc
      | batchRaises counted =>
          show (s.batchRaises counted).coordinator = _
          unfold Server.batchRaises
          rw [hc]
          exact hc
      | commit =>
          show (s.commit r).1.coordinator = _
          unfold Server.commit
          rw [hc]
          exact hc
      | _ => cases hcoord

/-- **A commit takes the first result away, or gives up the batch over it.** -/
theorem commit_next {s : Server} {packet : Packet} {result : FrameResult}
    {results : List (Packet × FrameResult)} (r : Reading) (hrun : s.systemRunning = true)
    (hc : s.coordinator = .committing ((packet, result) :: results)) :
    (packet.nodeId.hashable = true → (s.commit r).1.coordinator = .committing results)
      ∧ (packet.nodeId.hashable = false → (s.commit r).1.coordinator = .waiting)
      ∧ ∀ d q, (s.commit r).2 = some (.committed d q) → q = packet ∧ packet.direction = .str d := by
  unfold Server.commit
  rw [hc]
  dsimp only
  cases hvalid : s.sessions.validateSession packet.nodeId packet.sessionToken r.time with
  | error e =>
      have hbad := validateSession_error_iff.mp ⟨e, hvalid⟩
      dsimp only
      rw [if_pos hrun]
      exact ⟨fun h => absurd (hbad.symm.trans h) (by simp), fun _ => rfl, fun _ _ h => nomatch h⟩
  | ok valid =>
      have hgood : packet.nodeId.hashable = true := by
        by_contra hbad
        obtain ⟨e, he⟩ := validateSession_error_iff.mpr (Bool.not_eq_true _ |>.mp hbad)
        exact nomatch hvalid.symm.trans he
      dsimp only
      split
      · rename_i d hpass hdir
        refine ⟨fun _ => rfl, fun h => absurd (hgood.symm.trans h) (by simp), fun d' q h => ?_⟩
        obtain ⟨rfl, rfl⟩ := Effect.committed.inj (Option.some.inj h)
        exact ⟨rfl, hdir⟩
      · exact ⟨fun _ => rfl, fun h => absurd (hgood.symm.trans h) (by simp), fun _ _ h => nomatch h⟩

/-- Once the batch is given up, nothing of it is published. -/
theorem waiting_run {py : Python} {s : Server} {run : List (Reading × Action)}
    (hsound : ∀ e ∈ events (Server.step py) s run, SoundSessions e.pre)
    (hc : s.coordinator = .waiting) (hbatch : ∀ i ∈ run, i.2 ≠ .takeBatch) :
    (final (Server.step py) s run).coordinator = .waiting := by
  induction run generalizing s with
  | nil => exact hc
  | cons i run ih =>
      rw [events_cons, List.forall_mem_cons] at hsound
      rw [final_cons]
      exact ih hsound.2 (waiting_stays hsound.1 hc (hbatch i List.mem_cons_self))
        fun j hj => hbatch j (List.mem_cons_of_mem _ hj)

/--
**The results ahead are out of the way after as many commits**, unless one of
them carries an id that cannot be looked up: then the batch is given up.
-/
theorem publication_run {py : Python} {s : Server} {run : List (Reading × Action)}
    {ahead rest : List (Packet × FrameResult)}
    (hsound : ∀ e ∈ events (Server.step py) s run, SoundSessions e.pre)
    (hrun : ∀ e ∈ events (Server.step py) s run, e.pre.systemRunning = true)
    (hc : s.coordinator = .committing (ahead ++ rest))
    (hturns : run.countP (fun i => Action.isCommit i.2) = ahead.length)
    (hbatch : ∀ i ∈ run, i.2 ≠ .takeBatch) :
    ((∀ q ∈ ahead, q.1.nodeId.hashable = true) →
        (final (Server.step py) s run).coordinator = .committing rest
        ∧ ∀ e ∈ events (Server.step py) s run, ∀ d q, e.out = some (.committed d q) →
          q ∈ ahead.map Prod.fst ∧ q.direction = .str d)
      ∧ ((∃ q ∈ ahead, q.1.nodeId.hashable = false) →
        (final (Server.step py) s run).coordinator = .waiting) := by
  induction run generalizing s ahead with
  | nil =>
      -- every result before it has had its turn
      obtain rfl : ahead = [] := List.length_eq_zero_iff.mp hturns.symm
      exact ⟨fun _ => ⟨hc, fun e he => absurd he List.not_mem_nil⟩,
        fun ⟨q, hq, _⟩ => absurd hq List.not_mem_nil⟩
  | cons i run ih =>
      rw [events_cons, List.forall_mem_cons] at hsound hrun
      have hbatch' : ∀ j ∈ run, j.2 ≠ .takeBatch := fun j hj => hbatch j (List.mem_cons_of_mem _ hj)
      rw [List.countP_cons] at hturns
      rw [final_cons, events_cons]
      cases hi : Action.isCommit i.2 with
      | false =>
          -- no turn of the coordinator: the batch stays as it is
          obtain ⟨hstay, hout⟩ := committing_stays py hsound.1 hc hi
          rw [hi] at hturns
          obtain ⟨hgood, hbad⟩ := ih hsound.2 hrun.2 hstay hturns hbatch'
          refine ⟨fun h => ⟨(hgood h).1, ?_⟩, hbad⟩
          rw [List.forall_mem_cons]
          exact ⟨fun d q heff => absurd heff (hout d q), (hgood h).2⟩
      | true =>
          obtain ⟨r, action⟩ := i
          cases action with
          | commit =>
              cases ahead with
              | nil => rw [hi] at hturns; simp at hturns
              | cons head ahead =>
                  obtain ⟨packet, result⟩ := head
                  obtain ⟨hnext, hfail, hout⟩ := commit_next r hrun.1 hc
                  cases hash : packet.nodeId.hashable with
                  | true =>
                      -- the first of the results goes, and the next one is in front
                      have hturns' : run.countP (fun i => Action.isCommit i.2) = ahead.length := by
                        simpa [hi] using hturns
                      obtain ⟨hgood, hbad⟩ := ih hsound.2 hrun.2 (hnext hash) hturns' hbatch'
                      refine ⟨fun h => ?_, fun ⟨q, hq, hno⟩ => hbad ?_⟩
                      · obtain ⟨hend, hall⟩ := hgood fun q hq => h q (List.mem_cons_of_mem _ hq)
                        refine ⟨hend, List.forall_mem_cons.mpr ⟨fun d q heff => ?_,
                          fun e he d q heff => ?_⟩⟩
                        · obtain ⟨rfl, hdir⟩ := hout d q heff
                          exact ⟨List.mem_cons_self, hdir⟩
                        · obtain ⟨hmem, hdir⟩ := hall e he d q heff
                          exact ⟨List.mem_cons_of_mem _ hmem, hdir⟩
                      · rcases List.mem_cons.mp hq with rfl | hq
                        · rw [hash] at hno; nomatch hno
                        · exact ⟨q, hq, hno⟩
                  | false =>
                      -- its id cannot be hashed: the loop ends, and the rest is lost
                      refine ⟨fun h => ?_, fun _ => waiting_run hsound.2 (hfail hash) hbatch'⟩
                      have hgood := h _ List.mem_cons_self
                      rw [hash] at hgood
                      nomatch hgood
          | _ => nomatch hi

/-- A result whose sender is undisturbed and named by `node_id` is published. -/
theorem commit_publishes {s : Server} {r : Reading} {node d : String} {packet : Packet}
    {result : FrameResult} {results : List (Packet × FrameResult)} {session : NodeSession}
    (hrun : s.systemRunning = true)
    (hc : s.coordinator = .committing ((packet, result) :: results))
    (hget : s.sessions.sessions.get? node = some session) (hlive : session.isExpired r.time = false)
    (htoken : packet.sessionToken = .str session.sessionToken)
    (hsocket : s.activeConnections.get? node = some packet.ownerSocket)
    (hdir : packet.direction = .str d) (hnode : packet.nodeId = .str node) :
    s.commit r = ({ s with coordinator := .committing results }.publish r d result,
      some (.committed d packet)) := by
  have hvalid : s.sessions.validateSession packet.nodeId packet.sessionToken r.time = .ok true := by
    unfold SessionManager.validateSession Dict.lookupJson
    rw [hnode, htoken]
    dsimp only
    rw [hget]
    simp [hlive, Json.isStr]
  have hconn : s.connectionOf packet.nodeId = some packet.ownerSocket := by
    rw [hnode]; exact hsocket
  unfold Server.commit
  rw [hc]
  dsimp only
  rw [hvalid]
  simp only [hrun, hconn, decide_true, Bool.and_true, hdir]

theorem publish_frameBuffer (s : Server) (r : Reading) (d : String) (result : FrameResult) :
    (s.publish r d result).frameBuffer.get? d = some result.jpeg := by
  show ((s.frameBuffer.set d result.jpeg).set "active" result.jpeg).get? d = _
  by_cases hd : d = "active"
  · rw [hd, Dict.get?_set_self]
  · rw [Dict.get?_set_of_ne _ _ hd, Dict.get?_set_self]

/-- A result is published only for the node whose token its frame carries. -/
theorem node_of_published {s : Server} (h : Registry s) {r : Reading} {node d : String}
    {packet : Packet} {result : FrameResult} {results : List (Packet × FrameResult)}
    {session : NodeSession} (hc : s.coordinator = .committing ((packet, result) :: results))
    (hget : s.sessions.sessions.get? node = some session)
    (htoken : packet.sessionToken = .str session.sessionToken)
    (hout : (s.commit r).2 = some (.committed d packet)) : packet.nodeId = .str node := by
  unfold Server.commit at hout
  rw [hc] at hout
  dsimp only at hout
  cases hvalid : s.sessions.validateSession packet.nodeId packet.sessionToken r.time with
  | error e =>
      rw [hvalid] at hout
      dsimp only at hout
      split_ifs at hout
  | ok valid =>
      rw [hvalid] at hout
      dsimp only at hout
      split at hout
      · rename_i hpass hdir
        obtain ⟨hboth, -⟩ := Bool.and_eq_true_iff.mp hpass
        obtain ⟨rfl, -⟩ := Bool.and_eq_true_iff.mp hboth
        obtain ⟨node', session', hnode', hget', -, htoken'⟩ := validateSession_ok hvalid
        -- the two sessions have one token, and a token is issued once
        have heq := h.unique _ (h.session node session hget) _ (h.session node' session' hget')
          (Json.str.inj (htoken.symm.trans htoken'))
        have hsame : node = node' := congrArg Issue.nodeId heq
        rw [hnode', hsame]
      · nomatch hout

/-! ## What `process_batch` makes of a frame -/

/-- The first loop gets past the frame: it lets it through, or counts it. -/
def Passable (f : CameraFrame v) : Prop := Skipped f ∨ ∃ decoded, f.decode = .ok decoded

/-- The frame is within the staleness limit at both tests, and decodes. -/
structure Fit (f : CameraFrame v) : Prop where
  tested : f.isDropped = false
  decodes : ∃ decoded, f.decode = .ok decoded
  checked : f.reads.checked * 1000 - f.backendReceiveTimestamp ≤ 2500

/-- **The first loop gets through exactly if it gets past every frame.** -/
theorem decodeLoop_ok_iff (c : StageCounters) (frames : List (CameraFrame v)) :
    (∃ ready, (decodeLoop c frames).2 = .ok ready) ↔ ∀ f ∈ frames, Passable f := by
  induction frames generalizing c with
  | nil => exact iff_of_true ⟨[], rfl⟩ fun f hf => absurd hf List.not_mem_nil
  | cons f frames ih =>
      rw [List.forall_mem_cons, decodeLoop]
      by_cases hdrop : f.isDropped = true
      · have hpass : Passable f := Or.inl (Or.inl hdrop)
        rw [if_pos hdrop, ih, and_iff_right hpass]
      · rw [if_neg hdrop]
        cases hdecode : f.decode with
        | ok decoded =>
            have hpass : Passable f := Or.inr ⟨decoded, hdecode⟩
            dsimp only
            rw [and_iff_right hpass, ← ih c]
            cases (decodeLoop c frames).2 with
            | ok ready => exact iff_of_true ⟨_, rfl⟩ ⟨_, rfl⟩
            | error e => exact iff_of_false (by rintro ⟨_, h⟩; cases h) (by rintro ⟨_, h⟩; cases h)
        | error e =>
            dsimp only
            by_cases hcaught : e.caught = true
            · have hpass : Passable f := Or.inl (Or.inr ⟨e, hdecode, hcaught⟩)
              rw [if_pos hcaught, ih, and_iff_right hpass]
            · rw [if_neg hcaught]
              refine iff_of_false (by rintro ⟨_, h⟩; cases h) fun hall => ?_
              rcases hall.1 with (h | ⟨e', he, hcaught'⟩) | ⟨decoded, hok⟩
              · exact hdrop h
              · obtain rfl := Except.error.inj (hdecode.symm.trans he)
                exact hcaught hcaught'
              · cases hdecode.symm.trans hok

/-- A fit frame is ready after the first loop. -/
theorem ready_of_fit {f : CameraFrame v} (hfit : Fit f) {c : StageCounters}
    {frames : List (CameraFrame v)} {ready : List (Ready v)} (hf : f ∈ frames)
    (h : (decodeLoop c frames).2 = .ok ready) : ∃ r ∈ ready, r.frame = f := by
  induction frames generalizing c ready with
  | nil => exact absurd hf List.not_mem_nil
  | cons g frames ih =>
      unfold decodeLoop at h
      rcases List.mem_cons.mp hf with rfl | hmem
      · obtain ⟨decoded, hdecode⟩ := hfit.decodes
        rw [if_neg (by simp [hfit.tested]), hdecode] at h
        dsimp only at h
        cases hrest : (decodeLoop c frames).2 with
        | error e => rw [hrest] at h; cases h
        | ok rest =>
            rw [hrest] at h
            obtain rfl := Except.ok.inj h
            exact ⟨_, List.mem_cons_self, rfl⟩
      · split_ifs at h
        · exact ih hmem h
        · split at h
          · dsimp only at h
            cases hrest : (decodeLoop c frames).2 with
            | error e => rw [hrest] at h; cases h
            | ok rest =>
                rw [hrest] at h
                obtain rfl := Except.ok.inj h
                obtain ⟨r, hr, hframe⟩ := ih hmem hrest
                exact ⟨r, List.mem_cons_of_mem _ hr, hframe⟩
          · split_ifs at h
            exact ih hmem h

/-- The second loop has a result for every frame that is still fresh at its turn. -/
theorem processReady_mem {computed : List (LaneName × Computed v)} {w : Worker v}
    {ready : List (Ready v)} {results : List (CameraFrame v × BatchResult)}
    (h : (Worker.processReady computed w ready).2 = .ok results) {r : Ready v} (hr : r ∈ ready)
    (hfresh : r.frame.reads.checked * 1000 - r.frame.backendReceiveTimestamp ≤ 2500) :
    ∃ result, (r.frame, result) ∈ results := by
  induction ready generalizing w results with
  | nil => exact absurd hr List.not_mem_nil
  | cons g ready ih =>
      unfold Worker.processReady at h
      cases hframe : w.processFrame g (computed.lookup g.frame.lane) with
      | mk w₁ first =>
          rw [hframe] at h
          cases first with
          | error e => cases h
          | ok result =>
              dsimp only at h
              cases hrest : (Worker.processReady computed w₁ ready).2 with
              | error e => rw [hrest] at h; cases h
              | ok rest =>
                  rw [hrest] at h
                  obtain rfl := Except.ok.inj h
                  rcases List.mem_cons.mp hr with rfl | hmem
                  · unfold Worker.processFrame at hframe
                    rw [if_neg fun hstale => absurd hstale.2 (not_lt.mpr hfresh)] at hframe
                    split at hframe
                    · cases (Prod.mk.inj hframe).2
                    · obtain rfl := Except.ok.inj (Prod.mk.inj hframe).2
                      exact ⟨_, List.mem_append_left _ List.mem_cons_self⟩
                  · obtain ⟨result', hresult⟩ := ih hrest hmem
                    exact ⟨result', List.mem_append_right _ hresult⟩

/-- **A batch that returns has a result for every fit frame.** -/
theorem processBatch_mem {w : Worker v} {frames : List (CameraFrame v)}
    {results : List (CameraFrame v × BatchResult)} (h : (w.processBatch frames).2 = .ok results)
    {f : CameraFrame v} (hf : f ∈ frames) (hfit : Fit f) : ∃ result, (f, result) ∈ results := by
  unfold Worker.processBatch at h
  dsimp only at h
  cases hloop : (decodeLoop w.stageCounters frames).2 with
  | error e => rw [hloop] at h; cases h
  | ok ready =>
      obtain ⟨r, hr, rfl⟩ := ready_of_fit hfit hf hloop
      rw [hloop] at h
      cases ready with
      | nil => exact absurd hr List.not_mem_nil
      | cons first ready =>
          dsimp only [Worker.inferAndProcess] at h
          split at h
          · nomatch h
          · exact processReady_mem h hr hfit.checked

theorem processFrame_error {w : Worker v} {r : Ready v} {computed : Option (Computed v)}
    {e : FrameError} (h : (w.processFrame r computed).2 = .error e) : e = .detectorError := by
  unfold Worker.processFrame at h
  split_ifs at h
  split at h
  · exact (Except.error.inj h).symm
  · nomatch h

theorem processReady_error {computed : List (LaneName × Computed v)} {w : Worker v}
    {ready : List (Ready v)} {e : FrameError}
    (h : (Worker.processReady computed w ready).2 = .error e) : e = .detectorError := by
  induction ready generalizing w with
  | nil => nomatch h
  | cons r ready ih =>
      unfold Worker.processReady at h
      split at h
      · rename_i hframe
        obtain rfl := Except.error.inj h
        exact processFrame_error (congrArg Prod.snd hframe)
      · rename_i w₁ _ _
        dsimp only at h
        cases hrest : (Worker.processReady computed w₁ ready).2 with
        | error e' =>
            rw [hrest] at h
            obtain rfl := Except.error.inj h
            exact ih hrest
        | ok rest => rw [hrest] at h; cases h

/-- **`process_batch` returns exactly if it gets past every frame and the detector answers.** -/
theorem processBatch_ok_iff (w : Worker v) (frames : List (CameraFrame v)) :
    (∃ results, (w.processBatch frames).2 = .ok results)
      ↔ (∀ f ∈ frames, Passable f) ∧ (w.processBatch frames).2 ≠ .error .detectorError := by
  rw [← decodeLoop_ok_iff w.stageCounters frames]
  unfold Worker.processBatch
  dsimp only
  cases (decodeLoop w.stageCounters frames).2 with
  | error e => exact iff_of_false (fun ⟨_, h⟩ => nomatch h) fun ⟨⟨_, h⟩, _⟩ => nomatch h
  | ok ready =>
      rw [and_iff_right ⟨ready, rfl⟩]
      cases ready with
      | nil => exact iff_of_true ⟨[], rfl⟩ fun h => nomatch h
      | cons r ready =>
          dsimp only
          generalize hinfer : Worker.inferAndProcess _ (r :: ready) = answer
          obtain ⟨w', e | results⟩ := answer
          · -- past the first loop, whatever is raised comes from the detector
            refine iff_of_false (fun ⟨_, h⟩ => nomatch h) (not_not.mpr ?_)
            unfold Worker.inferAndProcess at hinfer
            split at hinfer
            · exact (congrArg Prod.snd hinfer).symm
            · exact congrArg Except.error (processReady_error (congrArg Prod.snd hinfer))
          · exact iff_of_true ⟨results, rfl⟩ fun h => nomatch h

/-- The detector raises on nothing. -/
structure DetectorAnswers (v : Platform) : Prop where
  batch : ∀ images, (v.detectBatch images).isSome = true
  single : ∀ image number timestamp, (v.detect image number timestamp).isSome = true

theorem inferGroups_answers (hv : DetectorAnswers v) (frameCount : Nat)
    (groups : List (List (Ready v))) :
    ∃ computed, inferGroups frameCount groups = some computed := by
  induction groups with
  | nil => exact ⟨[], rfl⟩
  | cons group groups ih =>
      obtain ⟨found, hfound⟩ := Option.isSome_iff_exists.mp (hv.batch (group.mapIdx fun i r =>
        (r.upright, frameCount + i + 1, r.frame.backendReceiveMonotonic)))
      obtain ⟨rest, hrest⟩ := ih
      unfold inferGroups
      rw [hfound, hrest]
      exact ⟨_, rfl⟩

theorem processFrame_answers (hv : DetectorAnswers v) (w : Worker v) (r : Ready v)
    (computed : Option (Computed v)) : ∃ result, (w.processFrame r computed).2 = .ok result := by
  have hperceive : ∀ w : Worker v, (w.perceive r computed).2.isSome = true := by
    intro w
    unfold Worker.perceive
    dsimp only
    split_ifs
    · split
      · rename_i hnone
        cases computed with
        | some c => nomatch hnone
        | none =>
            have hsome := hv.single r.upright (w.frameCount + 1) r.frame.timestamp
            rw [show v.detect _ _ _ = none from hnone] at hsome
            nomatch hsome
      · rfl
    · rfl
  unfold Worker.processFrame
  split_ifs
  · exact ⟨none, rfl⟩
  · have hsome := hperceive w.countDecoded
    split
    · rename_i hnone
      rw [hnone] at hsome
      nomatch hsome
    · exact ⟨_, rfl⟩

theorem processReady_answers (hv : DetectorAnswers v) (computed : List (LaneName × Computed v))
    (w : Worker v) (ready : List (Ready v)) :
    ∃ results, (Worker.processReady computed w ready).2 = .ok results := by
  induction ready generalizing w with
  | nil => exact ⟨[], rfl⟩
  | cons r ready ih =>
      obtain ⟨result, hresult⟩ := processFrame_answers hv w r (computed.lookup r.frame.lane)
      unfold Worker.processReady
      cases hframe : w.processFrame r (computed.lookup r.frame.lane) with
      | mk w₁ first =>
          rw [hframe] at hresult
          subst hresult
          obtain ⟨rest, hrest⟩ := ih w₁
          dsimp only
          rw [hrest]
          exact ⟨_, rfl⟩

/-- With a detector that answers, only a frame can make `process_batch` raise. -/
theorem processBatch_answers (hv : DetectorAnswers v) (w : Worker v) {frames : List (CameraFrame v)}
    (h : ∀ f ∈ frames, Passable f) : ∃ results, (w.processBatch frames).2 = .ok results := by
  obtain ⟨ready, hready⟩ := (decodeLoop_ok_iff w.stageCounters frames).mpr h
  unfold Worker.processBatch
  dsimp only
  rw [hready]
  cases ready with
  | nil => exact ⟨[], rfl⟩
  | cons r ready =>
      dsimp only [Worker.inferAndProcess]
      obtain ⟨computed, hcomputed⟩ := inferGroups_answers hv w.frameCount
        ((Worker.due w (r :: ready)).toChunks v.batchSize)
      split
      · rename_i hnone
        nomatch hcomputed.symm.trans hnone
      · exact processReady_answers hv _ _ _

/-! ## The way of a frame -/

/-- The sender still has the session and the socket of the frame, and the system runs. -/
structure Untouched (s : Server) (node d : String) (p : Packet) : Prop where
  running : s.systemRunning = true
  socket : s.activeConnections.get? node = some p.ownerSocket
  session : ∃ session, s.sessions.sessions.get? node = some session
    ∧ p.sessionToken = .str session.sessionToken ∧ session.cameraDirection = d

/-- What the event loop sees of the end of a batch. -/
inductive Ends (packets : List Packet) :
    Except FrameError (List (CameraFrame v × BatchResult)) → Action → Prop
  | returns {results : List (CameraFrame v × BatchResult)} {outcomes : List PacketOutcome} :
      Server.resultsOf packets outcomes = results.map toFrameResult →
      Ends packets (.ok results) (.batchDone outcomes)
  | raises {e : FrameError} {counted : List PacketOutcome} :
      Ends packets (.error e) (.batchRaises counted)

/-- The results that are published before that of the frame. -/
def resultsAhead (returned : Except FrameError (List (CameraFrame v × BatchResult)))
    (frame : CameraFrame v) : List (Packet × FrameResult) :=
  ((returned.toOption.getD []).takeWhile fun item => item.1.lane ≠ frame.lane).map toFrameResult

/--
The way of an accepted frame, from the state in which it stands in its slot to
its turn among the results of its batch, with its sender undisturbed throughout.
-/
structure Passage (v : Platform) (py : Python) (s : Server) (node d : String) (p : Packet) where
  /-- What happens until `process_batch` is done. -/
  inference : List (Reading × Action)
  worker : Worker v
  frames : List (CameraFrame v)
  frame : CameraFrame v
  returned : Reading
  ended : Action
  /-- What happens until the turn of the frame. -/
  publication : List (Reading × Action)
  turn : Reading
  taken : (final (Server.step py) s inference).coordinator
    = .inferring (frames.map (·.toPacket))
  /-- The frame was not superseded: it is in the batch. -/
  mem : frame ∈ frames
  packet : frame.toPacket = p
  fit : Fit frame
  ends : Ends (frames.map (·.toPacket)) (worker.processBatch frames).2 ended
  /-- Its turn comes after those ahead of it, and before another batch is taken. -/
  turns : publication.countP (fun i => Action.isCommit i.2)
    = (resultsAhead (worker.processBatch frames).2 frame).length
  sameBatch : ∀ i ∈ publication, i.2 ≠ .takeBatch
  undisturbed : ∀ e ∈ events (Server.step py) s
    (inference ++ (returned, ended) :: publication ++ [(turn, .commit)]), Untouched e.pre node d p
  live : ∀ session, (final (Server.step py) s
      (inference ++ (returned, ended) :: publication)).sessions.sessions.get? node
    = some session → session.isExpired turn.time = false

namespace Passage

variable {py : Python} {s : Server} {node d : String} {p : Packet}
  (passage : Passage v py s node d p)

/-- What `process_batch` returns. -/
def answer : Except FrameError (List (CameraFrame v × BatchResult)) :=
  (passage.worker.processBatch passage.frames).2

/-- The results that are published before that of the frame. -/
def ahead : List (Packet × FrameResult) := resultsAhead passage.answer passage.frame

/-- What happens until the turn of the frame. -/
def actions : List (Reading × Action) :=
  passage.inference ++ (passage.returned, passage.ended) :: passage.publication

/-- The server when `process_batch` is done. -/
def done : Server :=
  ((final (Server.step py) s passage.inference).step py (passage.returned, passage.ended)).1

/-- The event of its turn. -/
def event : Event Server (Reading × Action) (Option Effect) :=
  eventOf (Server.step py) (final (Server.step py) s passage.actions) (passage.turn, .commit)

/-- The frame is published under its direction, and acknowledged once. -/
structure Delivered : Prop where
  published : passage.event.out = some (.committed d p)
  /-- What stands in the tables is what `process_batch` made of the frame. -/
  shown : ∃ results result, passage.answer = .ok results ∧ (passage.frame, result) ∈ results
    ∧ passage.event.post.frameBuffer.get? d = some result.jpeg
    ∧ ∃ fps, passage.event.post.liveTelemetry.get? d
      = some (result.telemetry.set "fps" (.float (.finite fps)))
  /-- The `FRAME_ACK` goes over the sender's socket and names the frame. -/
  ack : ∃ ack, passage.event.post.frameAck d p = some (p.ownerSocket, ack)
    ∧ ack.frameId = p.payload.getJson "frame_id" ∧ ack.direction = d
  /-- No other frame of the batch is published under the direction. -/
  once : ∀ e ∈ events (Server.step py) (final (Server.step py) s passage.inference)
    ((passage.returned, passage.ended) :: passage.publication), ∀ q, e.out ≠ some (.committed d q)
  cleared : ∀ q ∈ passage.event.post.inFlight, q.direction ≠ .str d

theorem mem_actions {e : Event Server (Reading × Action) (Option Effect)}
    (he : e ∈ events (Server.step py) passage.done passage.publication) :
    e ∈ events (Server.step py) s passage.actions := by
  unfold actions
  rw [events_append, events_cons]
  exact List.mem_append_right _ (List.mem_cons_of_mem _ he)

theorem final_actions : final (Server.step py) s passage.actions
    = final (Server.step py) passage.done passage.publication := by
  unfold actions
  rw [final_append, final_cons]
  rfl

theorem oneEach_done (h : OneEach s)
    (hfresh : ∀ e ∈ events (Server.step py) s passage.actions, FreshToken e.pre e.input) :
    OneEach passage.done := by
  have hmem : eventOf (Server.step py) (final (Server.step py) s passage.inference)
      (passage.returned, passage.ended) ∈ events (Server.step py) s passage.actions := by
    unfold actions
    rw [events_append, events_cons]
    exact List.mem_append_right _ List.mem_cons_self
  exact (events_invariant (oneEach_step py) h hfresh _ hmem).2

theorem undisturbed_actions {e : Event Server (Reading × Action) (Option Effect)}
    (he : e ∈ events (Server.step py) s passage.actions) : Untouched e.pre node d p := by
  refine passage.undisturbed e ?_
  rw [events_append]
  exact List.mem_append_left _ he

theorem untouched_turn : Untouched (final (Server.step py) s passage.actions) node d p := by
  refine passage.undisturbed passage.event ?_
  rw [events_append]
  exact List.mem_append_right _ List.mem_cons_self

/-- When the batch has returned, its results wait for their turns. -/
theorem returned_ok {results : List (CameraFrame v × BatchResult)}
    (h : passage.answer = .ok results) :
    passage.done.coordinator = .committing (results.map toFrameResult)
      ∧ ∀ d q, (eventOf (Server.step py) (final (Server.step py) s passage.inference)
        (passage.returned, passage.ended)).out ≠ some (.committed d q) := by
  obtain ⟨hends, htaken⟩ := And.intro passage.ends passage.taken
  unfold done
  rw [show (passage.worker.processBatch passage.frames).2 = .ok results from h] at hends
  generalize passage.ended = ended at hends
  cases hends with
  | returns hresults =>
      refine ⟨?_, fun d q hout => nomatch hout⟩
      show (Server.batchDone _ _).coordinator = _
      unfold Server.batchDone
      rw [htaken]
      exact congrArg Coordinator.committing hresults

/-- A batch that has raised is given up. -/
theorem returned_error {e : FrameError} (h : passage.answer = .error e) :
    passage.done.coordinator = .waiting := by
  obtain ⟨hends, htaken⟩ := And.intro passage.ends passage.taken
  unfold done
  rw [show (passage.worker.processBatch passage.frames).2 = .error e from h] at hends
  generalize passage.ended = ended at hends
  cases hends with
  | raises =>
      show (Server.batchRaises _ _).coordinator = _
      unfold Server.batchRaises
      rw [htaken]
      rfl

/-- The result of the frame stands behind those ahead of it; no other is for its direction. -/
theorem split_results (h : OneEach passage.done) {results : List (CameraFrame v × BatchResult)}
    (hok : passage.answer = .ok results) :
    ∃ result behind, (passage.frame, result) ∈ results
      ∧ results.map toFrameResult
        = passage.ahead ++ (p, (toFrameResult (passage.frame, result)).2) :: behind
      ∧ p.direction ∉ passage.ahead.map (fun q => q.1.direction)
        ++ behind.map (fun q => q.1.direction) := by
  obtain ⟨result, hmem⟩ := processBatch_mem hok passage.mem passage.fit
  obtain ⟨pre, post, rfl⟩ := List.append_of_mem hmem
  have hdistinct := h.distinct
  unfold Server.inFlight at hdistinct
  rw [(passage.returned_ok hok).1] at hdistinct
  dsimp only at hdistinct
  rw [List.map_map, List.map_map, List.map_append, List.map_cons] at hdistinct
  have hother := (List.nodup_cons.mp (List.nodup_middle.mp hdistinct)).1
  have hahead : passage.ahead = pre.map toFrameResult := by
    unfold ahead resultsAhead
    rw [hok]
    show ((pre ++ (passage.frame, result) :: post).takeWhile _).map _ = _
    rw [List.takeWhile_append_of_pos, List.takeWhile_cons_of_neg (by simp), List.append_nil]
    intro item hitem
    refine decide_eq_true fun hlane => hother (List.mem_append_left _ ?_)
    refine List.mem_map.mpr ⟨item, hitem, ?_⟩
    show item.1.toPacket.direction = passage.frame.toPacket.direction
    rw [item.1.lane_eq, passage.frame.lane_eq, hlane]
  refine ⟨result, post.map toFrameResult, hmem, ?_, ?_⟩
  · rw [hahead, List.map_append, List.map_cons]
    exact congrArg (fun q => pre.map toFrameResult
      ++ (q, (toFrameResult (passage.frame, result)).2) :: post.map toFrameResult) passage.packet
  · rw [hahead, ← passage.packet, List.map_map, List.map_map]
    exact hother

/--
**A frame is delivered exactly if `process_batch` returns, `node_id` names its
sender and nothing ahead of it raises.**
-/
theorem delivered_iff (h : OneEach s) (hdir : p.direction = .str d)
    (hfresh : ∀ e ∈ events (Server.step py) s passage.actions, FreshToken e.pre e.input) :
    passage.Delivered ↔ (∃ results, passage.answer = .ok results)
      ∧ p.nodeId = .str node ∧ ∀ q ∈ passage.ahead, q.1.nodeId.hashable = true := by
  have hinv := events_invariant (oneEach_step py) h hfresh
  have hend : OneEach (final (Server.step py) s passage.actions) :=
    final_invariant (oneEach_step py) h hfresh
  have hsound : ∀ e ∈ events (Server.step py) passage.done passage.publication,
      SoundSessions e.pre := fun e he => (hinv e (passage.mem_actions he)).1.registry.sound
  have hwaits : (final (Server.step py) s passage.actions).coordinator = .waiting →
      ¬passage.Delivered := by
    intro hwait hdelivered
    have hnone : passage.event.out = none := by
      show ((final (Server.step py) s passage.actions).commit passage.turn).2 = none
      unfold Server.commit
      rw [hwait]
    exact nomatch hnone.symm.trans hdelivered.published
  cases hanswer : passage.answer with
  | error e =>
      -- the batch has raised: the coordinator waits again, and nothing is published
      refine iff_of_false (hwaits ?_) fun hall => nomatch hall.1
      rw [passage.final_actions]
      exact waiting_run hsound (passage.returned_error hanswer) passage.sameBatch
  | ok results =>
      obtain ⟨result, behind, hmem, hsplit, hnext⟩ :=
        passage.split_results (passage.oneEach_done h hfresh) hanswer
      obtain ⟨hc, hquiet⟩ := passage.returned_ok hanswer
      rw [hsplit] at hc
      obtain ⟨hgood, hbad⟩ := publication_run hsound
        (fun e he => (passage.undisturbed_actions (passage.mem_actions he)).running) hc
        passage.turns passage.sameBatch
      rw [← passage.final_actions] at hgood hbad
      have hturn := passage.untouched_turn
      obtain ⟨session, hget, htoken, -⟩ := hturn.session
      rw [and_iff_right ⟨results, rfl⟩]
      -- the loop ends early exactly if an id ahead of the frame cannot be hashed
      by_cases hash : ∀ q ∈ passage.ahead, q.1.nodeId.hashable = true
      · obtain ⟨hhead, hahead⟩ := hgood hash
        rw [and_iff_left hash]
        constructor
        · intro hdelivered
          exact node_of_published hend.registry hhead hget htoken hdelivered.published
        · intro hnode
          -- the frame is in front, and its sender is undisturbed
          have hcommit := commit_publishes (r := passage.turn) hturn.running hhead hget
            (passage.live session hget) htoken hturn.socket hdir hnode
          have hpost : passage.event.post = Server.publish
              { final (Server.step py) s passage.actions with coordinator := .committing behind }
              passage.turn d (toFrameResult (passage.frame, result)).2 := congrArg Prod.fst hcommit
          refine ⟨congrArg Prod.snd hcommit, ⟨results, result, hanswer, hmem, ?_, ?_⟩, ?_, ?_, ?_⟩
          · rw [hpost]
            exact publish_frameBuffer _ _ d _
          · rw [hpost]
            exact ⟨_, Dict.get?_set_self _ _ _⟩
          · have hconn : passage.event.post.connectionOf p.nodeId = some p.ownerSocket := by
              rw [hpost, hnode]; exact hturn.socket
            unfold Server.frameAck
            rw [hconn]
            exact ⟨_, rfl, rfl, rfl⟩
          · -- nothing else is published for the approach, neither ahead nor behind
            rw [events_cons, List.forall_mem_cons]
            refine ⟨hquiet d, fun e he q hout => ?_⟩
            obtain ⟨hmem, hq⟩ := hahead e he d q hout
            obtain ⟨q', hq', rfl⟩ := List.mem_map.mp hmem
            refine hnext (List.mem_append_left _ ?_)
            rw [hdir, ← hq]
            exact List.mem_map_of_mem hq'
          · rw [hpost]
            intro q hq hdirection
            obtain ⟨q', hq', rfl⟩ := List.mem_map.mp hq
            refine hnext (List.mem_append_right _ ?_)
            rw [hdir, ← hdirection]
            exact List.mem_map_of_mem hq'
      · obtain ⟨q, hq, hno⟩ := not_forall₂.mp hash
        exact iff_of_false (hwaits (hbad ⟨q, hq, Bool.not_eq_true _ |>.mp hno⟩))
          fun hall => hash hall.2

end Passage

/-! ## The shortest passage -/

/-- Nothing of this is touched when a batch is taken and comes back. -/
theorem undisturbed_of_eq {s s' : Server} {node d : String} {p : Packet}
    (h : Untouched s node d p) (hrun : s'.systemRunning = s.systemRunning)
    (hsocket : s'.activeConnections = s.activeConnections) (hsessions : s'.sessions = s.sessions) :
    Untouched s' node d p :=
  ⟨hrun.trans h.running, by rw [hsocket]; exact h.socket, by rw [hsessions]; exact h.session⟩

/-- What the worker does with a batch is one of its ends. -/
theorem exists_ends (w : Worker v) (frames : List (CameraFrame v)) :
    ∃ ended, Ends (frames.map (·.toPacket)) (w.processBatch frames).2 ended := by
  cases hbatch : w.processBatch frames with
  | mk w' answer =>
      cases answer with
      | error e => exact ⟨.batchRaises [], .raises⟩
      | ok results =>
          obtain ⟨outcomes, haccounts⟩ := processBatch_accounts hbatch
          exact ⟨.batchDone outcomes, .returns haccounts.results⟩

/-- Nothing is published before the result of a frame that is alone in its batch. -/
theorem resultsAhead_alone {frame : CameraFrame v} {ended : Action}
    {answer : Except FrameError (List (CameraFrame v × BatchResult))}
    (h : Ends [frame.toPacket] answer ended) : resultsAhead answer frame = [] := by
  cases h with
  | raises => rfl
  | @returns results outcomes hresults =>
      cases results with
      | nil => rfl
      | cons item results =>
          have hmem : item.1.toPacket ∈ [frame.toPacket] := by
            refine @mem_resultsOf _ outcomes _ ?_
            rw [hresults]
            exact List.mem_cons_self
          have hlane : item.1.lane = frame.lane := by
            have hdir := congrArg Packet.direction (List.mem_singleton.mp hmem)
            rw [item.1.lane_eq, frame.lane_eq] at hdir
            exact key_injective (Json.str.inj hdir)
          show (List.takeWhile _ (item :: results)).map toFrameResult = []
          rw [List.takeWhile_cons_of_neg (by simp [hlane])]
          rfl

/-- **A frame alone in the slots passes at once.** -/
theorem exists_passage {py : Python} {s : Server} {node d : String} (worker : Worker v)
    {frame : CameraFrame v} (hfit : Fit frame) (hslots : s.latestFrames.values = [frame.toPacket])
    (hwait : s.coordinator = .waiting) (hready : s.batchReady = true)
    (h : Untouched s node d frame.toPacket) (r₁ r₂ r₃ : Reading)
    (hlive : ∀ session, s.sessions.sessions.get? node = some session →
      session.isExpired r₃.time = false) :
    ∃ passage : Passage v py s node d frame.toPacket, passage.worker = worker
      ∧ passage.frames = [frame] ∧ passage.ahead = []
      ∧ passage.actions.map (·.1.uuid) = [r₁.uuid, r₂.uuid] := by
  -- the batch is this one frame
  have htake : s.takeBatch = { s with
      latestFrames := ∅, batchReady := false, coordinator := .inferring [frame.toPacket] } := by
    unfold Server.takeBatch
    rw [hwait]
    dsimp only
    rw [if_pos hready, hslots]
  obtain ⟨ended, hends⟩ := exists_ends worker [frame]
  -- the end of the inference leaves the tables alone
  have hdone : ((s.takeBatch.step py (r₂, ended)).1.systemRunning = s.systemRunning)
      ∧ (s.takeBatch.step py (r₂, ended)).1.activeConnections = s.activeConnections
      ∧ (s.takeBatch.step py (r₂, ended)).1.sessions = s.sessions := by
    rw [htake]
    generalize (worker.processBatch [frame]).2 = answer at hends
    cases hends <;> exact ⟨rfl, rfl, rfl⟩
  have hahead := resultsAhead_alone hends
  refine ⟨
    { inference := [(r₁, .takeBatch)]
      worker := worker
      frames := [frame]
      frame := frame
      returned := r₂
      ended := ended
      publication := []
      turn := r₃
      taken := ?_
      mem := List.mem_singleton_self frame
      packet := rfl
      fit := hfit
      ends := hends
      turns := by rw [hahead]; rfl
      sameBatch := fun i hi => absurd hi List.not_mem_nil
      undisturbed := ?_
      live := ?_ }, rfl, rfl, hahead, rfl⟩
  · show s.takeBatch.coordinator = _
    rw [htake]
    rfl
  · -- nothing disturbs the sender on the way
    obtain ⟨hrun, hsocket, hsessions⟩ := hdone
    intro e he
    simp only [List.cons_append, List.nil_append, events_cons, events_nil, List.mem_cons,
      List.not_mem_nil, or_false] at he
    rcases he with rfl | rfl | rfl
    · exact h
    · show Untouched s.takeBatch node d frame.toPacket
      exact undisturbed_of_eq h (by rw [htake]) (by rw [htake]) (by rw [htake])
    · exact undisturbed_of_eq h hrun hsocket hsessions
  · intro session hget
    refine hlive session ?_
    rw [← hdone.2.2]
    exact hget

theorem slots_of_admitted {py : Python} {s : Server} (h : SoundSessions s) {r : Reading}
    {rawJson : Json} {websocket : Socket} {d : String} {p : Packet}
    (heff : (s.step py (r, .message rawJson websocket)).2 = some (.admitted d p)) :
    (s.step py (r, .message rawJson websocket)).1.latestFrames = s.latestFrames.set d p
      ∧ (s.step py (r, .message rawJson websocket)).1.coordinator = s.coordinator := by
  rcases step_intake py h (r, .message rawJson websocket) rfl with
    ⟨-, -, hout⟩ | ⟨d', p', -, hflow, hout⟩ | ⟨d', -, hout, -⟩
  · rw [hout] at heff; nomatch heff
  · obtain ⟨rfl, rfl⟩ := Effect.admitted.inj (Option.some.inj (hout.symm.trans heff))
    simp only [Server.flow, Prod.mk.injEq] at hflow
    exact ⟨hflow.1, hflow.2.1⟩
  · rw [hout] at heff; nomatch heff

/-- An accepted frame that finds every slot empty passes at once. -/
theorem passage_of_accepted {py : Python} {s : Server} (h : Registry s) {r : Reading}
    {rawJson : Json} {websocket : Socket} (hfresh : FreshToken s (r, .message rawJson websocket))
    {node d : String} (worker : Worker v) {frame : CameraFrame v} (hfit : Fit frame)
    (hsends : Sends s r rawJson websocket node d frame.toPacket)
    (heff : (s.step py (r, .message rawJson websocket)).2 = some (.admitted d frame.toPacket))
    (hempty : s.latestFrames.items = []) (hwait : s.coordinator = .waiting)
    (hready : (s.step py (r, .message rawJson websocket)).1.batchReady = true)
    (hrun : (s.step py (r, .message rawJson websocket)).1.systemRunning = true)
    (r₁ r₂ r₃ : Reading) (ht : r₃.time = r.time) :
    ∃ passage : Passage v py (s.step py (r, .message rawJson websocket)).1 node d frame.toPacket,
      passage.worker = worker ∧ passage.frames = [frame] ∧ passage.ahead = []
        ∧ passage.actions.map (·.1.uuid) = [r₁.uuid, r₂.uuid] := by
  obtain ⟨hsocket, session, hget, hlive, htoken, hdir⟩ := sends_owned h hfresh hsends heff
  obtain ⟨hslots, hcoord⟩ := slots_of_admitted h.sound heff
  refine exists_passage worker hfit ?_ (hcoord.trans hwait) hready
    ⟨hrun, hsocket, session, hget, htoken, hdir⟩ r₁ r₂ r₃ fun session' hget' => ?_
  · rw [hslots]
    show (Dict.setItems d frame.toPacket s.latestFrames.items).map Prod.snd = [frame.toPacket]
    rw [hempty]
    rfl
  · obtain rfl := Option.some.inj (hget.symm.trans hget')
    rw [ht]
    exact hlive

/-! ## The law -/

/-- The handler returns `None`. -/
def Outcome.isSilent (o : Outcome) : Bool :=
  match o.answer with
  | .silent => true
  | _ => false

theorem answer_of_isSilent {o : Outcome} (h : Outcome.isSilent o = true) : o.answer = .silent := by
  unfold Outcome.isSilent at h
  split at h
  · assumption
  · nomatch h

/--
**Accepted frames are delivered exactly when their sender is named by `node_id`,
`process_batch` gets through their batch, and no result ahead of them carries an
id that cannot be looked up.**

In every run from the start of the server, for every VIDEO_FRAME that is accepted
without an answer, and every passage of its frame to its turn.
-/
theorem accepted_frame_delivered_iff (v : Platform) (py : Python) (s : Server) (hs : Initial s)
    (before : List (Reading × Action)) (r : Reading) (rawJson : Json) (websocket : Socket)
    (hvideo : rawJson.toDict.any isVideoFrame = true)
    (haccepted : ((final (Server.step py) s before).processMessage py r rawJson websocket).answer
      = .silent) :
    ∃ node d p, Sends (final (Server.step py) s before) r rawJson websocket node d p
      ∧ ((final (Server.step py) s before).step py (r, .message rawJson websocket)).2
        = some (.admitted d p)
      ∧ ∀ passage : Passage v py (final (Server.step py) s
          (before ++ [(r, .message rawJson websocket)])) node d p,
        ((before ++ [(r, Action.message rawJson websocket)] ++ passage.actions).map
          (·.1.uuid)).Nodup →
        (passage.Delivered ↔ p.nodeId = .str node
          ∧ (∀ f ∈ passage.frames, Passable f) ∧ passage.answer ≠ .error .detectorError
          ∧ ∀ q ∈ passage.ahead, q.1.nodeId.hashable = true) := by
  obtain ⟨raw, hraw, hvideo⟩ := (Option.any_eq_true _ _).mp hvideo
  have hsound : SoundTable (final (Server.step py) s before) :=
    final_invariant_of_step (sound_step py) (soundTable_init hs) before
  obtain ⟨node, d, p, hsends, heff⟩ := accepted_sends hsound.sessions hraw hvideo haccepted
  refine ⟨node, d, p, hsends, heff, fun passage hnodup => ?_⟩
  -- the tokens are drawn in the run, so none was issued before it
  have hnew : ∀ a ∈ s.issued, a.token ∉ (before ++ [(r, Action.message rawJson websocket)]
      ++ passage.actions).map (·.1.uuid) := by
    intro a ha
    rw [hs.issued] at ha
    exact absurd ha List.not_mem_nil
  have hfresh := fresh_of_nodup py (registry_init hs) hnew hnodup
  rw [events_append] at hfresh
  have hone : OneEach (final (Server.step py) s (before ++ [(r, .message rawJson websocket)])) :=
    final_invariant (oneEach_step py) (oneEach_init hs)
      fun e he => hfresh e (List.mem_append_left _ he)
  have hiff := passage.delivered_iff hone hsends.direction
    fun e he => hfresh e (List.mem_append_right _ he)
  rw [hiff, show (∃ results, passage.answer = .ok results) ↔ _ from processBatch_ok_iff _ _]
  exact ⟨fun ⟨⟨hpass, hdet⟩, hnode, hahead⟩ => ⟨hnode, hpass, hdet, hahead⟩,
    fun ⟨hnode, hpass, hdet, hahead⟩ => ⟨⟨hpass, hdet⟩, hnode, hahead⟩⟩

/-- OpenCV reads every text as an image, and the detector answers. -/
def seeingPlatform : Platform :=
  { plainPlatform with
    b64decode := fun _ => some []
    imdecode := fun _ => .ok (some ()) }

theorem seeingPlatform_answers : DetectorAnswers seeingPlatform := ⟨fun _ => rfl, fun _ _ _ => rfl⟩

/-- The packet brings an encoded image, to be left as it stands. -/
structure Encoded (p : Packet) : Prop where
  encoded : p.decoded = false
  image : (p.payload.getJson "decoded_image").isNull = true
  rotation : (p.payload.getJson "rotation").isNull = true
  data : Server.frameDataValid p.payload = true

instance (p : Packet) : Decidable (Encoded p) :=
  decidable_of_iff (p.decoded = false ∧ (p.payload.getJson "decoded_image").isNull = true
      ∧ (p.payload.getJson "rotation").isNull = true ∧ Server.frameDataValid p.payload = true)
    ⟨fun ⟨h₁, h₂, h₃, h₄⟩ => ⟨h₁, h₂, h₃, h₄⟩, fun h => ⟨h.1, h.2, h.3, h.4⟩⟩

theorem seeing_decode {f : CameraFrame seeingPlatform} (h : Encoded f.toPacket) :
    ∃ decoded, f.decode = .ok decoded := by
  have hnone : f.image = none := by
    have hsome := f.image_isSome
    rw [h.encoded] at hsome
    exact Option.isSome_eq_false_iff.mp hsome |> Option.isNone_iff_eq_none.mp
  have hnull : f.payload.getJson "rotation" = .null := by
    have hrotation := h.rotation
    cases hj : f.payload.getJson "rotation" with
    | null => rfl
    | _ => rw [hj] at hrotation; nomatch hrotation
  obtain ⟨data, hdata⟩ := frameData_str h.data
  have himage : f.imageOfData = .ok () := by
    unfold CameraFrame.imageOfData
    rw [hdata]
    rfl
  unfold CameraFrame.decode CameraFrame.decodedImage
  rw [hnone, himage, hnull]
  dsimp only
  rw [if_pos h.image]
  exact ⟨_, rfl⟩

/-- The worker gets the packet, and reads its clock at once. -/
def frameAtOnce (p : Packet) (hencoded : p.decoded = false) (lane : LaneName)
    (hlane : p.direction = .str lane.key) : CameraFrame seeingPlatform where
  toPacket := p
  image := none
  image_isSome := hencoded.symm
  lane := lane
  lane_eq := hlane
  reads :=
    { tested := p.backendReceiveTimestamp / 1000, checked := p.backendReceiveTimestamp / 1000 }

theorem fit_frameAtOnce {p : Packet} (h : Encoded p) (lane : LaneName)
    (hlane : p.direction = .str lane.key) : Fit (frameAtOnce p h.encoded lane hlane) := by
  have hage : (p.backendReceiveTimestamp : Rat) / 1000 * 1000 - p.backendReceiveTimestamp = 0 := by
    ring
  refine ⟨?_, seeing_decode h, ?_⟩
  · show (false || decide (2500 < (p.backendReceiveTimestamp : Rat) / 1000 * 1000
      - p.backendReceiveTimestamp)) = false
    rw [hage]
    decide
  · show (p.backendReceiveTimestamp : Rat) / 1000 * 1000 - p.backendReceiveTimestamp ≤ 2500
    rw [hage]
    decide

/-- The sample camera has registered. -/
def sampleServer : Server := final (Server.step plainPython) {} (sampleRun.take 2)

/-- A VIDEO_FRAME of the sample camera that names its sender in the given field. -/
def frameMessage (field : String) : Json :=
  .obj [("type", .str "VIDEO_FRAME"), ("payload", .obj [(field, .str "CAM-1"),
    ("session_token", .str "t1"), ("frame_data", .str "x"), ("frame_id", .str "1")])]

theorem sampleServer_empty : sampleServer.latestFrames.items = [] :=
  List.isEmpty_iff.mp (by decide +kernel)

/-- The coordinator awaits `batch_ready`. -/
def Coordinator.isWaiting : Coordinator → Bool
  | .waiting => true
  | _ => false

theorem sampleServer_waiting : sampleServer.coordinator = .waiting := by
  have hwait : Coordinator.isWaiting sampleServer.coordinator = true := by decide +kernel
  cases hcoord : sampleServer.coordinator with
  | waiting => rfl
  | inferring packets => rw [hcoord] at hwait; cases hwait
  | committing results => rw [hcoord] at hwait; cases hwait

theorem sampleServer_oneEach : OneEach sampleServer :=
  final_invariant (oneEach_step plainPython) (oneEach_init ⟨by decide, rfl, rfl, rfl, rfl⟩)
    (fresh_of_nodup plainPython (registry_init ⟨by decide, rfl, rfl, rfl, rfl⟩)
      (fun _ ha => absurd ha List.not_mem_nil) (by decide))

theorem sampleServer_fresh (field : String) :
    FreshToken sampleServer (readingAt 2 "t2", .message (frameMessage field) 7) := by
  have hissued : ∀ a ∈ sampleServer.issued, a.token ≠ "t2" := by decide +kernel
  exact hissued

/-- What the sample camera's message puts into its slot fits, and passes alone. -/
theorem sample_passage {field d : String} {p : Packet}
    (hencoded : ∀ q ∈ (sampleServer.step plainPython
      (readingAt 2 "t2", .message (frameMessage field) 7)).1.latestFrames.values, Encoded q)
    (hready : (sampleServer.step plainPython
      (readingAt 2 "t2", .message (frameMessage field) 7)).1.batchReady = true)
    (hrun : (sampleServer.step plainPython
      (readingAt 2 "t2", .message (frameMessage field) 7)).1.systemRunning = true)
    (hsends : Sends sampleServer (readingAt 2 "t2") (frameMessage field) 7 "CAM-1" d p)
    (heff : (sampleServer.step plainPython
      (readingAt 2 "t2", .message (frameMessage field) 7)).2 = some (.admitted d p)) :
    ∃ passage : Passage seeingPlatform plainPython (sampleServer.step plainPython
        (readingAt 2 "t2", .message (frameMessage field) 7)).1 "CAM-1" d p,
      (∀ f ∈ passage.frames, Passable f) ∧ passage.answer ≠ .error .detectorError
        ∧ passage.ahead = [] ∧ passage.actions.map (·.1.uuid) = ["t3", "t4"] := by
  have hreg := sampleServer_oneEach.registry
  have hmem : p ∈ (sampleServer.step plainPython
      (readingAt 2 "t2", .message (frameMessage field) 7)).1.latestFrames.values := by
    rw [(slots_of_admitted hreg.sound heff).1]
    exact (Dict.mem_values_iff _).mpr ⟨d, Dict.get?_set_self _ _ _⟩
  obtain ⟨session, hget, -, hdir, -⟩ := hsends.session
  obtain ⟨lane, hlane⟩ := exists_lane_key (hdir ▸ (hreg.sound "CAM-1" session hget).1)
  have hfit := fit_frameAtOnce (hencoded p hmem) lane (hlane ▸ hsends.direction)
  obtain ⟨passage, -, hframes, hahead, huuids⟩ := passage_of_accepted hreg
    (sampleServer_fresh field) { tracking := () } hfit hsends heff sampleServer_empty
    sampleServer_waiting hready hrun (readingAt 2 "t3") (readingAt 2 "t4") (readingAt 2 "t5") rfl
  have hpass : ∀ f ∈ passage.frames, Passable f := by
    rw [hframes]
    exact fun f hf => Or.inr (List.mem_singleton.mp hf ▸ hfit.decodes)
  exact ⟨passage, hpass, ((processBatch_ok_iff _ _).mp
    (processBatch_answers seeingPlatform_answers _ hpass)).2, hahead, huuids⟩

theorem frameMessage_delivered : ∃ d p, ∃ passage : Passage seeingPlatform plainPython
    (final (Server.step plainPython) {}
      (sampleRun.take 2 ++ [(readingAt 2 "t2", .message (frameMessage "node_id") 7)])) "CAM-1" d p,
    passage.Delivered := by
  obtain ⟨node, d, p, hsends, heff, hall⟩ := accepted_frame_delivered_iff seeingPlatform
    plainPython {} ⟨by decide, rfl, rfl, rfl, rfl⟩ (sampleRun.take 2) (readingAt 2 "t2")
    (frameMessage "node_id") 7 (by decide) (answer_of_isSilent (by decide +kernel))
  obtain ⟨payload, hpayload, hnode, hid, -⟩ := hsends.named
  obtain rfl := Option.some.inj hpayload
  obtain rfl : "CAM-1" = node := Json.str.inj hnode
  obtain ⟨passage, hpass, hdetects, hahead, huuids⟩ := sample_passage
    (by decide +kernel) (by decide +kernel) (by decide +kernel) hsends heff
  refine ⟨d, p, passage, (hall passage ?_).mpr ⟨hid, hpass, hdetects, ?_⟩⟩
  · have hnodup : ((sampleRun.take 2 ++ [(readingAt 2 "t2",
        Action.message (frameMessage "node_id") 7)] ++ passage.actions).map (·.1.uuid)).Nodup := by
      rw [List.map_append, huuids]
      decide
    exact hnodup
  · intro q hq
    have hnone : q ∈ passage.ahead := hq
    rw [hahead] at hnone
    exact absurd hnone List.not_mem_nil

/-- A frame whose sender is named by `cameraId` is accepted, passes undisturbed, and is dropped. -/
theorem alias_frame_not_delivered :
    (sampleServer.processMessage plainPython (readingAt 2 "t2") (frameMessage "cameraId") 7).answer
        = .silent
      ∧ ∃ d p, Sends sampleServer (readingAt 2 "t2") (frameMessage "cameraId") 7 "CAM-1" d p
        ∧ ∃ passage : Passage seeingPlatform plainPython (sampleServer.step plainPython
            (readingAt 2 "t2", .message (frameMessage "cameraId") 7)).1 "CAM-1" d p,
          ¬passage.Delivered := by
  have haccepted : (sampleServer.processMessage plainPython (readingAt 2 "t2")
      (frameMessage "cameraId") 7).answer = .silent := answer_of_isSilent (by decide +kernel)
  have hone := sampleServer_oneEach
  obtain ⟨node, d, p, hsends, heff⟩ := accepted_sends hone.registry.sound rfl (by decide) haccepted
  obtain ⟨payload, hpayload, hnode, hid, -⟩ := hsends.named
  obtain rfl := Option.some.inj hpayload
  obtain rfl : "CAM-1" = node := Json.str.inj hnode
  obtain ⟨passage, -, -, -, huuids⟩ := sample_passage
    (by decide +kernel) (by decide +kernel) (by decide +kernel) hsends heff
  refine ⟨haccepted, d, p, hsends, passage, fun hdelivered => ?_⟩
  have hnext := oneEach_step plainPython sampleServer _ hone (sampleServer_fresh "cameraId")
  have hfresh : ∀ e ∈ events (Server.step plainPython) (sampleServer.step plainPython
      (readingAt 2 "t2", .message (frameMessage "cameraId") 7)).1 passage.actions,
      FreshToken e.pre e.input := by
    refine fresh_of_nodup plainPython hnext.registry ?_ (by rw [huuids]; decide)
    rw [huuids]
    decide +kernel
  -- the payload has no `node_id`
  have hnone := ((passage.delivered_iff hnext hsends.direction hfresh).mp hdelivered).2.1
  rw [hid] at hnone
  nomatch hnone

end SmartTraffic.Proof
