import SmartTraffic.Proof.Ownership
import SmartTraffic.Server.Ingest

/-!
# A superseded peer never delivers

Every check of the ingest is made in the stretch that relies on it, which settles
what a single delivery is made for. What holds between the stretches comes from
two sides: the places of the peers are leases, so that a peer which has been
replaced does nothing any more, and the frames of a peer which has its place go
through one sampler in the order of their ids.
-/

namespace SmartTraffic.Proof

open SmartTraffic Lib WebRTCIngest

/-! ## What is delivered and answered -/

/-- The peer has the place of its node, and its token and socket are the node's own. -/
structure Owns (s : WebRTCIngest) (now : Rat) (p : Nat) (nodeId token : String)
    (websocket : Socket) (session : NodeSession) : Prop where
  made : ∃ peer, s.table.made[p]? = some peer ∧ peer.nodeId = nodeId ∧ peer.token = token
    ∧ peer.websocket = websocket
  current : s.table.peers.get? nodeId = some p
  connected : s.server.activeConnections.get? nodeId = some websocket
  held : s.server.sessions.sessions.get? nodeId = some session
  live : session.isExpired now = false
  token : session.sessionToken = token

/-- The call is one that a sampler may make now. -/
def Delivers (s : WebRTCIngest) (now : Rat) (call : SubmitCall) : Prop :=
  ∃ session, Owns s now call.peer call.nodeId call.token call.websocket session
    ∧ session.streaming = true ∧ s.server.systemRunning = true
    ∧ session.cameraDirection = call.direction

theorem owns_of_session {s : WebRTCIngest} {now : Rat} {p : Nat} {peer : Peer}
    {session : NodeSession} (hp : s.table.made[p]? = some peer)
    (h : s.session now p = some session) :
    Owns s now p peer.nodeId peer.token peer.websocket session := by
  obtain ⟨peer', hp', hcur, hconn, hget, hlive, htoken⟩ := session_spec h
  obtain rfl := Option.some.inj (hp.symm.trans hp')
  exact ⟨⟨peer, hp, rfl, rfl, rfl⟩, hcur, hconn, hget, hlive, htoken⟩

/-- What must hold for a stretch to be seen as `effect`. -/
def Warrants (s : WebRTCIngest) (now : Rat) (t : PeerTable) : IngestEffect → Prop
  | .registered _ p => p = s.table.made.length
  | .answered nodeId p => ∃ token websocket session, Owns s now p nodeId token websocket session
  | .raised _ => True
  | .numbered p frameId => ∃ peer peer', s.table.made[p]? = some peer ∧ frameId = peer.frameId + 1
      ∧ t.made[p]? = some peer' ∧ peer'.frameId = frameId
  | .submitted call => ∃ k task peer frame session state, s.table.tasks[k]? = some task
      ∧ task.state = .converting frame ∧ s.table.made[task.peer]? = some peer
      ∧ s.streaming now task.peer = some session
      ∧ call = { peer := task.peer, direction := session.cameraDirection, nodeId := peer.nodeId
                 token := peer.token, websocket := peer.websocket, frameId := frame.frameId
                 receivedMs := frame.receivedMs }
      ∧ (∀ frame, state ≠ .converting frame) ∧ t = s.table.setTask k state

theorem offer_warrants {s : WebRTCIngest} {aiortc : Aiortc} {now : Rat}
    {nodeId token : String} {websocket : Socket} {sdp : Json} {effect : IngestEffect}
    {t : PeerTable} (h : (s.offer aiortc now nodeId token websocket sdp).2 = some effect) :
    Warrants s now t effect := by
  unfold offer at h
  split at h
  · obtain rfl := Option.some.inj h
    trivial
  · obtain rfl := Option.some.inj h
    rfl

theorem offerResumes_warrants {s : WebRTCIngest} {now : Rat} {k : Nat} {effect : IngestEffect}
    {t : PeerTable} (h : (s.offerResumes now k).2 = some effect) : Warrants s now t effect := by
  unfold offerResumes at h
  split at h
  · cases h
  · cases h
  · split at h
    · rename_i peer session hp hsession
      obtain rfl := Option.some.inj h
      exact ⟨peer.token, peer.websocket, session, owns_of_session hp hsession⟩
    · cases h
  · dsimp only at h
    split_ifs at h
    obtain rfl := Option.some.inj h
    trivial
  · cases h

theorem offerInterrupted_warrants {s : WebRTCIngest} {now : Rat} {k : Nat}
    {effect : IngestEffect} {t : PeerTable} (h : (s.offerInterrupted k).2 = some effect) :
    Warrants s now t effect := by
  unfold offerInterrupted at h
  split at h
  · cases h
  · cases h
  · cases h
  · obtain rfl := Option.some.inj h
    trivial
  · cases h

theorem received_warrants {s : WebRTCIngest} {now : Rat} {k : Nat} {effect : IngestEffect}
    (h : (s.received now k).2 = some effect) :
    Warrants s now (s.received now k).1.table effect := by
  unfold received at h ⊢
  split at h
  · rename_i p cancelled peer htask
    obtain ⟨-, hp⟩ := taskOf_spec htask
    dsimp only at hp ⊢
    split at h
    · cases h
    · cases h
    · obtain rfl := Option.some.inj h
      refine ⟨peer, { peer with
        frameId := peer.frameId + 1
        latest := some { frameId := peer.frameId + 1, receivedMs := now * 1000 }
        ready := true }, hp, rfl, ?_, rfl⟩
      have hmade := PeerTable.getElem?_modifyPeer s.table p p fun peer => { peer with
        frameId := peer.frameId + 1
        latest := some { frameId := peer.frameId + 1, receivedMs := now * 1000 }
        ready := true }
      rw [hp, Option.map_some, if_pos rfl] at hmade
      exact hmade
  · cases h

theorem converted_warrants {py : Python} {s : WebRTCIngest} {r : Reading} {k : Nat}
    {effect : IngestEffect} (h : (s.converted py r k).2 = some effect) :
    Warrants s r.time (s.converted py r k).1.table effect := by
  rcases converted_cases py s r k with hc | ⟨task, peer, frame, hk, hstate, hp, hc | hc⟩
  · rw [hc] at h
    cases h
  · rw [hc] at h
    cases h
  · obtain ⟨session, server, hstreaming, hout, hpost⟩ := hc
    obtain rfl := Option.some.inj (hout.symm.trans h)
    rcases hpost with hpost | hpost
    · exact ⟨k, task, peer, frame, session, .waiting, hk, hstate, hp, hstreaming, rfl,
        fun frame h => (by cases h), congrArg WebRTCIngest.table hpost⟩
    · exact ⟨k, task, peer, frame, session, .ended, hk, hstate, hp, hstreaming, rfl,
        fun frame h => (by cases h), congrArg WebRTCIngest.table hpost⟩

/-- **Whatever is seen of a stretch is warranted by the state before it.** -/
theorem step_warrants {py : Python} {aiortc : Aiortc} {s : WebRTCIngest}
    {i : Reading × IngestAction} {effect : IngestEffect}
    (h : (s.step py aiortc i).2 = some effect) :
    Warrants s i.1.time (s.step py aiortc i).1.table effect := by
  obtain ⟨r, action⟩ := i
  cases action with
  | offer nodeId token websocket sdp => exact offer_warrants h
  | offerResumes k => exact offerResumes_warrants h
  | offerInterrupted k => exact offerInterrupted_warrants h
  | received k => exact received_warrants h
  | converted k => exact converted_warrants h
  | _ => cases h

/-! ## Ids -/

/-- What a submission and the numbering of a frame leave behind. -/
def Trace (e : Event WebRTCIngest (Reading × IngestAction) (Option IngestEffect))
    (s : WebRTCIngest) : Prop :=
  (∀ call, e.out = some (.submitted call) → s.table.Beyond call.peer call.frameId)
    ∧ ∀ p frameId, e.out = some (.numbered p frameId) →
      ∃ peer, s.table.made[p]? = some peer ∧ frameId ≤ peer.frameId

/-- The ids that two stretches see for one peer increase. -/
def Increase (e e' : Event WebRTCIngest (Reading × IngestAction) (Option IngestEffect)) : Prop :=
  (∀ call call', e.out = some (.submitted call) → e'.out = some (.submitted call') →
      call'.peer = call.peer → call.frameId < call'.frameId)
    ∧ ∀ p frameId frameId', e.out = some (.numbered p frameId) →
      e'.out = some (.numbered p frameId') → frameId < frameId'

theorem increase_rule (py : Python) (aiortc : Aiortc) :
    SinceRule (step py aiortc) (fun _ => (0 : Nat)) Fits (fun _ _ => True)
      (fun e s _ => Trace e s) Increase where
  inv s i hs _ := (step_follows py aiortc hs i).fits hs
  establish s i hs _ := by
    refine ⟨fun call hout => ?_, fun p frameId hout => ?_⟩
    · obtain ⟨k, task, peer, frame, session, state, hk, hstate, hp, -, rfl, hconv, htable⟩ :=
        step_warrants hout
      rw [htable]
      exact PeerTable.beyond_setTask hs.table hk hstate hp hconv
    · obtain ⟨-, peer', -, -, hp', rfl⟩ := step_warrants hout
      exact ⟨peer', hp', le_rfl⟩
  keep e s _ i hs _ _ htrace := by
    have hprogress := (step_follows py aiortc hs i).table.progress
    refine ⟨fun call hout => (htrace.1 call hout).progress hprogress, fun p frameId hout => ?_⟩
    obtain ⟨peer, hp, hle⟩ := htrace.2 p frameId hout
    obtain ⟨peer', hp', hle'⟩ := hprogress.made p peer hp
    exact ⟨peer', hp', hle.trans hle'⟩
  relate e s _ i hs _ _ htrace := by
    refine ⟨fun call call' hout hout' heq => ?_, fun p frameId frameId' hout hout' => ?_⟩
    · obtain ⟨k, task, peer, frame, session, state, hk, hstate, hp, hstreaming, rfl, -, -⟩ :=
        step_warrants hout'
      obtain ⟨-, -, -, hrest⟩ := htrace.1 call hout
      dsimp only at heq
      rw [← heq] at hrest
      rcases hrest with hret | hpending
      · -- a sampler that submits is one of a peer with a place
        obtain ⟨_, -, hcur, -⟩ := session_spec (streaming_spec hstreaming).1
        exact absurd hcur (hret.2 _)
      · exact hpending frame (.taken hk rfl hstate)
    · obtain ⟨peer, -, hp, rfl, -, -⟩ := step_warrants hout'
      obtain ⟨peer', hp', hle⟩ := htrace.2 p frameId hout
      obtain rfl := Option.some.inj (hp.symm.trans hp')
      exact Nat.lt_succ_of_le hle

/-- What holds of the stretches of a run. -/
structure SoundIngest
    (es : List (Event WebRTCIngest (Reading × IngestAction) (Option IngestEffect))) : Prop where
  /-- What is submitted is submitted for the peer that has the place of its node. -/
  delivers : ∀ e ∈ es, ∀ call, e.out = some (.submitted call) → Delivers e.pre e.input.1.time call
  /-- A peer whose node has a new one delivers nothing any more. -/
  superseded : es.Pairwise fun e e' => ∀ nodeId p call, e.out = some (.registered nodeId p) →
    e'.out = some (.submitted call) → call.nodeId = nodeId → p ≤ call.peer
  increase : es.Pairwise Increase
  /-- An answer is returned for a peer that has the place of its node. -/
  answers : ∀ e ∈ es, ∀ nodeId p, e.out = some (.answered nodeId p) →
    ∃ token websocket session, Owns e.pre e.input.1.time p nodeId token websocket session
  /-- Every offer has a peer of its own. -/
  distinct : es.Pairwise fun e e' => ∀ nodeId nodeId' p q, e.out = some (.registered nodeId p) →
    e'.out = some (.registered nodeId' q) → p < q
  /-- Of two offers for a node that have both begun, one at most returns an answer. -/
  overlap : ∀ before after, es = before ++ after → ∀ nodeId p q,
    (∃ e ∈ before, e.out = some (.registered nodeId p)) →
    (∃ e ∈ before, e.out = some (.registered nodeId q)) →
    (∃ e ∈ after, e.out = some (.answered nodeId p)) →
    (∃ e ∈ after, e.out = some (.answered nodeId q)) → p = q

/--
**A superseded peer never delivers.** In every run of the ingest, with any
interleaving of offers, closings, frames, samplers and whatever else happens on
the event loop:

each call of `submit_decoded_frame` is for the peer that has the place of its node
then, with the token, the socket and the direction of the live session, while it
streams and the system runs; the ids of the frames of one peer increase; and of
two offers for one node that overlap one at most returns an answer, which it does
for a peer that is still registered.
-/
theorem superseded_peer_never_delivers (py : Python) (aiortc : Aiortc) (server : Server)
    (is : List (Reading × IngestAction)) :
    SoundIngest (events (step py aiortc) (beforeOffers server) is) := by
  have hrun := run_beforeOffers py aiortc server is
  have hrespects := List.pairwise_map.mp hrun.respects
  have hlater := List.pairwise_map.mp hrun.later
  -- what is seen of a stretch is warranted by the state before it
  have hwarrants : ∀ e ∈ events (step py aiortc) (beforeOffers server) is, ∀ effect,
      e.out = some effect → Warrants e.pre e.input.1.time e.post.table effect := by
    intro e he effect hout
    obtain ⟨before, i, rest, -, rfl⟩ := (mem_events_iff _).mp he
    exact step_warrants hout
  refine ⟨fun e he call hout => ?_, hrespects.imp ?_, ?_, fun e he nodeId p hout => ?_,
    hlater.imp ?_, ?_⟩
  · obtain ⟨k, task, peer, frame, session, state, -, -, hp, hstreaming, rfl, -, -⟩ :=
      hwarrants e he _ hout
    obtain ⟨hsession, hstream, hrunning⟩ := streaming_spec hstreaming
    exact ⟨session, owns_of_session hp hsession, hstream, hrunning, rfl⟩
  · intro e e' h nodeId p call hout hout' hnode
    refine h nodeId p call.peer (by rw [hout]; rfl) ?_
    rw [hout', ← hnode]
    rfl
  · refine (increase_rule py aiortc).pairwise (fits_beforeOffers server) ?_ fun _ _ => trivial
    exact List.pairwise_map.mpr (List.pairwise_of_forall fun _ _ => le_rfl)
  · exact hwarrants e he _ hout
  · intro e e' h nodeId nodeId' p q hout hout'
    exact h nodeId nodeId' p q (by rw [hout]; rfl) (by rw [hout']; rfl)
  · intro before after heq nodeId p q hp hq hp' hq'
    rw [heq, List.map_append] at hrun
    obtain ⟨ep, hep, houtp⟩ := hp
    obtain ⟨eq, heqm, houtq⟩ := hq
    obtain ⟨ap, hap, hansp⟩ := hp'
    obtain ⟨aq, haq, hansq⟩ := hq'
    exact hrun.exclusive (List.mem_map.mpr ⟨ep, hep, by rw [houtp]; rfl⟩)
      (List.mem_map.mpr ⟨eq, heqm, by rw [houtq]; rfl⟩)
      (List.mem_map.mpr ⟨ap, hap, by rw [hansp]; rfl⟩)
      (List.mem_map.mpr ⟨aq, haq, by rw [hansq]; rfl⟩)

/-- A camera of the north, which streams. -/
def streamingCamera : NodeSession where
  nodeId := "CAM-1"
  sessionToken := "token"
  cameraDirection := "north"
  connectedAt := 0
  lastHeartbeat := 0
  heartbeatTimeoutSec := 10
  streaming := true

def oneCamera : Server where
  sessions := { sessions := (∅ : Dict String NodeSession).set "CAM-1" streamingCamera }
  activeConnections := (∅ : Dict String Socket).set "CAM-1" 7

-- the second offer comes while the sampler of the first peer converts its second frame
example : ((events (step plainPython { parse := fun _ => some [⟨"video", some "sendonly"⟩] })
    (beforeOffers oneCamera)
    ([.offer "CAM-1" "token" 7 (.str "v=0"), .track 0 "video", .received 0, .woken 1, .slept 1,
      .converted 1, .offerResumes 0, .received 0, .woken 1, .slept 1,
      .offer "CAM-1" "token" 7 (.str "v=0"), .converted 1, .cancelled 1, .cancelled 0,
      .offerResumes 1, .offerResumes 1, .offerResumes 1].map
        fun action => ({ time := 1, uuid := "" }, action))).filterMap (·.out))
    = [.registered "CAM-1" 0, .numbered 0 1,
       .submitted { peer := 0, direction := "north", nodeId := "CAM-1", token := "token"
                    websocket := 7, frameId := 1, receivedMs := 1000 },
       .answered "CAM-1" 0, .numbered 0 2, .registered "CAM-1" 1, .answered "CAM-1" 1] := by
  decide +kernel

end SmartTraffic.Proof
