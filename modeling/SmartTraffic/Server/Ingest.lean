import SmartTraffic.Lib.Run
import SmartTraffic.Server.PeerTable

/-!
# The stretches of the ingest

Every stretch keeps the peers and their tasks in order, and the places of the
peers are leases: an offer is a grant, a closing a release, and what is submitted
or answered is done by the holder. What the ingest awaits in between is in the
closings, which have given the place up before they wait for tasks.
-/

namespace SmartTraffic

open Lib

/-- The closing that an offer awaits has dropped its peer if it waits for tasks. -/
def OfferStage.Behind (t : PeerTable) : OfferStage → Prop
  | .replacing closing => t.Behind closing
  | .negotiating => True
  | .failing closing _ => t.Behind closing
  | .done => True

theorem OfferStage.Behind.progress {t t' : PeerTable} (h : t.Progress t') {stage : OfferStage}
    (hb : stage.Behind t) : stage.Behind t' := by
  cases stage with
  | replacing closing => exact PeerTable.Behind.progress h hb
  | failing closing error => exact PeerTable.Behind.progress h hb
  | negotiating | done => trivial

/-- What a stretch does with the places. -/
def leaseOf : Option IngestEffect → Option (Lease String)
  | some (.registered nodeId p) => some (.granted nodeId p)
  | some (.answered nodeId p) => some (.used nodeId p)
  | some (.submitted call) => some (.used call.nodeId call.peer)
  | some (.raised _) => none
  | some (.numbered _ _) => none
  | none => none

namespace WebRTCIngest

/-- The places of the peers, as leases of their nodes. -/
def leases (s : WebRTCIngest) : Leases String :=
  { table := s.table.peers, next := s.table.made.length }

structure Fits (s : WebRTCIngest) : Prop where
  table : s.table.Sound
  closings : ∀ closing ∈ s.closings, s.table.Behind closing
  offers : ∀ o ∈ s.offers, o.stage.Behind s.table

/-- What a stretch makes of an ingest that fits, with what it does to the places. -/
structure Follows (s : WebRTCIngest) (seen : Option (Lease String)) (s' : WebRTCIngest) :
    Prop where
  table : s.table.Evolves s'.table
  lease : Leases.Moves s.leases seen s'.leases
  closings : ∀ closing ∈ s'.closings, closing ∈ s.closings ∨ s'.table.Behind closing
  offers : ∀ o ∈ s'.offers, o ∈ s.offers ∨ o.stage.Behind s'.table

theorem Follows.fits {s s' : WebRTCIngest} {seen : Option (Lease String)}
    (h : Follows s seen s') (hs : s.Fits) : s'.Fits where
  table := h.table.sound
  closings closing hc := by
    rcases h.closings closing hc with hc | hb
    · exact (hs.closings closing hc).progress h.table.progress
    · exact hb
  offers o ho := by
    rcases h.offers o ho with ho | hb
    · exact (hs.offers o ho).progress h.table.progress
    · exact hb

/-! ## The parts of a stretch -/

theorem evolves_refl {s : WebRTCIngest} (hs : s.Fits) : s.table.Evolves s.table :=
  (PeerTable.Calms.refl s.table).evolves hs.table

/-- A stretch that leaves the places alone. -/
theorem follows_keep {s : WebRTCIngest} {t : PeerTable} (he : s.table.Evolves t)
    (hpeers : t.peers = s.table.peers) (hlength : t.made.length = s.table.made.length)
    (server : Server) : Follows s none { s with server := server, table := t } where
  table := he
  lease := by
    have h : ({ s with server := server, table := t } : WebRTCIngest).leases = s.leases := by
      unfold leases
      dsimp only
      rw [hpeers, hlength]
    rw [h]
    exact .rest _
  closings _ hc := Or.inl hc
  offers _ ho := Or.inl ho

theorem follows_refl {s : WebRTCIngest} (hs : s.Fits) : Follows s none s :=
  follows_keep (evolves_refl hs) rfl rfl s.server

/-- A stretch that brings nothing new. -/
theorem follows_calms {s : WebRTCIngest} {t : PeerTable} (hs : s.Fits) (hcalm : s.table.Calms t)
    (hrel : s.table.Releases t) : Follows s none { s with table := t } where
  table := hcalm.evolves hs.table
  lease := by
    obtain ⟨hlength, hpeers | ⟨node, hpeers⟩⟩ := hrel
    · exact (follows_keep (hcalm.evolves hs.table) hpeers hlength s.server).lease
    · have h : ({ s with table := t } : WebRTCIngest).leases
          = { s.leases with table := s.leases.table.erase node } := by
        unfold leases
        dsimp only
        rw [hpeers, hlength]
      rw [h]
      exact .release _ node
  closings _ hc := Or.inl hc
  offers _ ho := Or.inl ho

theorem Follows.addClosing {s s' : WebRTCIngest} {seen : Option (Lease String)}
    (h : Follows s seen s') {closing : Closing} (hb : s'.table.Behind closing) :
    Follows s seen { s' with closings := s'.closings ++ [closing] } where
  table := h.table
  lease := h.lease
  closings closing' hc := by
    rcases List.mem_append.mp hc with hc | hc
    · exact h.closings closing' hc
    · rw [List.mem_singleton.mp hc]
      exact Or.inr hb
  offers := h.offers

theorem Follows.scheduleClose {s s' : WebRTCIngest} {seen : Option (Lease String)}
    (h : Follows s seen s') (p : Nat) : Follows s seen (s'.scheduleClose p) :=
  h.addClosing trivial

theorem Follows.setClosing {s s' : WebRTCIngest} {seen : Option (Lease String)}
    (h : Follows s seen s') (k : Nat) {closing : Closing} (hb : s'.table.Behind closing) :
    Follows s seen { s' with closings := s'.closings.set k closing } where
  table := h.table
  lease := h.lease
  closings closing' hc := by
    rcases List.mem_or_eq_of_mem_set hc with hc | rfl
    · exact h.closings closing' hc
    · exact Or.inr hb
  offers := h.offers

theorem Follows.addOffer {s s' : WebRTCIngest} {seen : Option (Lease String)}
    (h : Follows s seen s') {o : Offer} (hb : o.stage.Behind s'.table) :
    Follows s seen { s' with offers := s'.offers ++ [o] } where
  table := h.table
  lease := h.lease
  closings := h.closings
  offers o' ho := by
    rcases List.mem_append.mp ho with ho | ho
    · exact h.offers o' ho
    · rw [List.mem_singleton.mp ho]
      exact Or.inr hb

theorem Follows.setOffer {s s' : WebRTCIngest} {seen : Option (Lease String)}
    (h : Follows s seen s') (k : Nat) (stage : OfferStage) (hb : stage.Behind s'.table) :
    Follows s seen (s'.setOffer k stage) where
  table := h.table
  lease := h.lease
  closings := h.closings
  offers o ho := by
    obtain ⟨j, hj⟩ := List.mem_iff_getElem?.mp ho
    rw [show (s'.setOffer k stage).offers[j]? = _ from List.getElem?_modify _ _ _ _] at hj
    obtain ⟨o₀, ho₀, rfl⟩ := Option.map_eq_some_iff.mp hj
    split_ifs
    · exact Or.inr hb
    · exact h.offers o₀ (List.mem_of_getElem? ho₀)

theorem setTask_follows {s : WebRTCIngest} (hs : s.Fits) {k : Nat} {task : PeerTask}
    (state : TaskState) (hk : s.table.tasks[k]? = some task)
    (hsamples : state.samples = true → task.state.samples = true)
    (hconv : ∀ frame, state ≠ .converting frame) (server : Server) :
    Follows s none { s with server := server, table := s.table.setTask k state } :=
  follows_keep ((PeerTable.setTask_calms state hk hsamples hconv).evolves hs.table) rfl rfl server

/-! ## Offers -/

theorem failOffer_follows {s : WebRTCIngest} (hs : s.Fits) (k p : Nat) (error : OfferError) :
    Follows s none (s.failOffer k p error) := by
  obtain ⟨hcalm, hrel, hbehind⟩ := PeerTable.closePeer_calms hs.table p
  exact (follows_calms hs hcalm hrel).setOffer k _ hbehind

/-- A stretch that gives a node to a peer it has made. -/
theorem follows_grant {s : WebRTCIngest} {t : PeerTable} {nodeId : String}
    (he : s.table.Evolves t) (hpeers : t.peers = s.table.peers.set nodeId s.table.made.length)
    (hlength : t.made.length = s.table.made.length + 1) :
    Follows s (some (.granted nodeId s.table.made.length)) { s with table := t } where
  table := he
  lease := by
    have h : ({ s with table := t } : WebRTCIngest).leases
        = { table := s.leases.table.set nodeId s.leases.next, next := s.leases.next + 1 } := by
      unfold leases
      dsimp only
      rw [hpeers, hlength]
    rw [h]
    exact .grant s.leases nodeId
  closings _ hc := Or.inl hc
  offers _ ho := Or.inl ho

theorem register_follows {s : WebRTCIngest} (hs : s.Fits) (nodeId token : String)
    (websocket : Socket) : Follows s (some (.granted nodeId s.table.made.length))
      (s.register nodeId token websocket) := by
  have hreg := PeerTable.register_evolves hs.table nodeId token websocket
  have hlength : (s.table.register nodeId token websocket).made.length
      = s.table.made.length + 1 := List.length_append
  unfold register
  cases hold : s.table.peers.get? nodeId with
  | none => exact (follows_grant hreg rfl hlength).addOffer trivial
  | some old =>
      -- the closing of the old peer finds the place taken
      obtain ⟨hcalm, hrel, hbehind⟩ := PeerTable.closePeer_calms hreg.sound old
      have hpeers := PeerTable.closePeer_peers
        (PeerTable.register_retires hs.table token websocket hold)
      exact (follows_grant (hreg.trans (hcalm.evolves hreg.sound)) hpeers
        (hrel.1.trans hlength)).addOffer hbehind

theorem offer_follows {s : WebRTCIngest} (hs : s.Fits) (aiortc : Aiortc) (now : Rat)
    (nodeId token : String) (websocket : Socket) (sdp : Json) :
    Follows s (leaseOf (s.offer aiortc now nodeId token websocket sdp).2)
      (s.offer aiortc now nodeId token websocket sdp).1 := by
  unfold offer
  cases s.checkOffer aiortc now nodeId token websocket sdp with
  | some error => exact follows_refl hs
  | none => exact register_follows hs nodeId token websocket

/-- The session that a peer which passes the test of `_session` has. -/
theorem session_spec {s : WebRTCIngest} {now : Rat} {p : Nat} {session : NodeSession}
    (h : s.session now p = some session) : ∃ peer, s.table.made[p]? = some peer
      ∧ s.table.peers.get? peer.nodeId = some p
      ∧ s.server.activeConnections.get? peer.nodeId = some peer.websocket
      ∧ s.server.sessions.sessions.get? peer.nodeId = some session
      ∧ session.isExpired now = false ∧ session.sessionToken = peer.token := by
  unfold WebRTCIngest.session at h
  cases hp : s.table.made[p]? with
  | none => rw [hp] at h; cases h
  | some peer =>
      rw [hp] at h
      dsimp only at h
      split_ifs at h with hcur hconn
      · split at h <;> cases h
      · split at h
        · rename_i hvalid
          obtain ⟨node, live, hnode, hget, hexp, htoken⟩ := validateSession_ok hvalid
          obtain rfl := Json.str.inj hnode
          obtain rfl := Option.some.inj (h.symm.trans hget)
          exact ⟨peer, rfl, not_not.mp hcur, not_not.mp hconn, h, hexp,
            (Json.str.inj htoken).symm⟩
        · cases h

theorem offerResumes_follows {s : WebRTCIngest} (hs : s.Fits) (now : Rat) (k : Nat) :
    Follows s (leaseOf (s.offerResumes now k).2) (s.offerResumes now k).1 := by
  unfold offerResumes
  split
  · exact follows_refl hs
  · rename_i p closing hk
    have hb : s.table.Behind closing := hs.offers _ (List.mem_of_getElem? hk)
    obtain ⟨hcalm, hrel, hbehind⟩ := PeerTable.resume_calms hs.table hb
    refine (follows_calms hs hcalm hrel).setOffer k _ ?_
    split_ifs
    · trivial
    · exact hbehind
  · rename_i p hk
    split
    · rename_i peer session hp hsession
      obtain ⟨peer', hp', hcur, -⟩ := session_spec hsession
      obtain rfl := Option.some.inj (hp.symm.trans hp')
      have hsame := (follows_refl hs).setOffer k .done trivial
      exact ⟨hsame.table, .use hcur, hsame.closings, hsame.offers⟩
    · exact failOffer_follows hs k p _
  · rename_i p closing error hk
    have hb : s.table.Behind closing := hs.offers _ (List.mem_of_getElem? hk)
    obtain ⟨hcalm, hrel, hbehind⟩ := PeerTable.resume_calms hs.table hb
    dsimp only
    split_ifs
    · exact (follows_calms hs hcalm hrel).setOffer k _ trivial
    · exact (follows_calms hs hcalm hrel).setOffer k _ hbehind
  · exact follows_refl hs

theorem offerInterrupted_follows {s : WebRTCIngest} (hs : s.Fits) (k : Nat) :
    Follows s (leaseOf (s.offerInterrupted k).2) (s.offerInterrupted k).1 := by
  unfold offerInterrupted
  split
  · exact follows_refl hs
  · exact failOffer_follows hs k _ _
  · exact failOffer_follows hs k _ _
  · exact (follows_refl hs).setOffer k _ trivial
  · exact follows_refl hs

/-! ## Receivers and samplers -/

theorem onTrack_follows {s : WebRTCIngest} (hs : s.Fits) (p : Nat) (kind : String) :
    Follows s none (s.onTrack p kind) := by
  unfold onTrack
  cases hp : s.table.made[p]? with
  | none => exact follows_refl hs
  | some peer =>
      dsimp only
      split_ifs with h
      · exact (follows_refl hs).scheduleClose p
      · have hnone : peer.tasks = [] := by
          by_contra hne
          exact h (Or.inr hne)
        exact follows_keep (PeerTable.spawn_evolves hs.table hp hnone) rfl
          (PeerTable.length_modifyPeer _ _ _) s.server

theorem onStateChange_follows {s : WebRTCIngest} (hs : s.Fits) (p : Nat)
    (connectionState : String) : Follows s none (s.onStateChange p connectionState) := by
  unfold onStateChange
  split_ifs
  · exact (follows_refl hs).scheduleClose p
  · exact follows_refl hs

theorem endReceive_follows {s : WebRTCIngest} (hs : s.Fits) {k : Nat} {task : PeerTask} (p : Nat)
    (hk : s.table.tasks[k]? = some task) : Follows s none (s.endReceive k p) := by
  have hended := setTask_follows hs .ended hk (fun h => by cases h)
    (fun frame h => by cases h) s.server
  unfold endReceive
  dsimp only
  split_ifs
  · exact hended.scheduleClose p
  · exact hended

/-- A task that is found, with its peer. -/
theorem taskOf_spec {t : PeerTable} {k : Nat} {task : PeerTask} {peer : Peer}
    (h : t.taskOf k = some (task, peer)) :
    t.tasks[k]? = some task ∧ t.made[task.peer]? = some peer := by
  unfold PeerTable.taskOf at h
  cases hk : t.tasks[k]? with
  | none => rw [hk] at h; cases h
  | some task₀ =>
      rw [hk] at h
      obtain ⟨peer₀, hp, heq⟩ := Option.map_eq_some_iff.mp h
      obtain ⟨rfl, rfl⟩ := Prod.mk.inj heq
      exact ⟨rfl, hp⟩

theorem received_follows {s : WebRTCIngest} (hs : s.Fits) (now : Rat) (k : Nat) :
    Follows s (leaseOf (s.received now k).2) (s.received now k).1 := by
  unfold received
  split
  · rename_i p cancelled peer htask
    obtain ⟨hk, -⟩ := taskOf_spec htask
    split
    · exact endReceive_follows hs p hk
    · have hcalm : s.table.Calms (s.table.modifyPeer p fun peer => { peer with latest := none }) :=
        PeerTable.modifyPeer_calms (fun _ => rfl) (fun _ => rfl) (Or.inl fun _ => rfl) fun _ => rfl
      exact follows_keep (hcalm.evolves hs.table) rfl (PeerTable.length_modifyPeer _ _ _) s.server
    · exact follows_keep (PeerTable.number_evolves hs.table p (now * 1000)) rfl
        (PeerTable.length_modifyPeer _ _ _) s.server
  · exact follows_refl hs

theorem recvRaises_follows {s : WebRTCIngest} (hs : s.Fits) (k : Nat) :
    Follows s none (s.recvRaises k) := by
  unfold recvRaises
  split
  · rename_i hk
    exact endReceive_follows hs _ hk
  · exact follows_refl hs

theorem woken_follows {s : WebRTCIngest} (hs : s.Fits) (k : Nat) :
    Follows s none (s.woken k) := by
  unfold woken
  split
  · rename_i htask
    split_ifs
    · exact setTask_follows hs _ (taskOf_spec htask).1 (fun _ => rfl) (fun frame h => by cases h) _
    · exact follows_refl hs
  · exact follows_refl hs

theorem slept_follows {s : WebRTCIngest} (hs : s.Fits) (now : Rat) (k : Nat) :
    Follows s none (s.slept now k) := by
  unfold slept
  split
  · rename_i p peer htask
    obtain ⟨hk, hp⟩ := taskOf_spec htask
    dsimp only
    split
    · rename_i frame session hlatest hsession
      exact follows_keep (PeerTable.take_evolves hs.table hk rfl hp hlatest) rfl
        (PeerTable.length_modifyPeer _ _ _) s.server
    · have hcalm := (PeerTable.takeLatest_calms s.table p).trans
        (PeerTable.setTask_calms (t := s.table.takeLatest p) .waiting hk
          (fun _ => rfl) fun frame h => by cases h)
      exact follows_keep (hcalm.evolves hs.table) rfl (PeerTable.length_modifyPeer _ _ _) s.server
  · exact follows_refl hs

/-- What a sampler does with an image. -/
theorem converted_cases (py : Python) (s : WebRTCIngest) (r : Reading) (k : Nat) :
    s.converted py r k = (s, none) ∨ ∃ task peer frame, s.table.tasks[k]? = some task
      ∧ task.state = .converting frame ∧ s.table.made[task.peer]? = some peer
      ∧ (s.converted py r k = ({ s with table := s.table.setTask k .waiting }, none)
        ∨ ∃ session server, s.streaming r.time task.peer = some session
          ∧ (s.converted py r k).2 = some (.submitted
              { peer := task.peer, direction := session.cameraDirection, nodeId := peer.nodeId
                token := peer.token, websocket := peer.websocket, frameId := frame.frameId
                receivedMs := frame.receivedMs })
          ∧ ((s.converted py r k).1
                = { s with server := server, table := s.table.setTask k .waiting }
            ∨ (s.converted py r k).1
                = { s with server := server, table := s.table.setTask k .ended }.scheduleClose
                    task.peer)) := by
  unfold converted
  split
  · rename_i p frame peer htask
    obtain ⟨hk, hp⟩ := taskOf_spec htask
    refine Or.inr ⟨_, peer, frame, hk, rfl, hp, ?_⟩
    split
    · exact Or.inl rfl
    · rename_i session hsession
      refine Or.inr ⟨session, (s.server.submitDecodedFrame py r session.cameraDirection peer.nodeId
        peer.token peer.websocket frame.frameId frame.receivedMs).server, hsession, ?_⟩
      dsimp only
      split
      · exact ⟨rfl, Or.inr rfl⟩
      · exact ⟨rfl, Or.inl rfl⟩
  · exact Or.inl rfl

theorem streaming_spec {s : WebRTCIngest} {now : Rat} {p : Nat} {session : NodeSession}
    (h : s.streaming now p = some session) :
    s.session now p = some session ∧ session.streaming = true ∧ s.server.systemRunning = true := by
  obtain ⟨hsession, htest⟩ := Option.filter_eq_some_iff.mp h
  obtain ⟨hstream, hrun⟩ := Bool.and_eq_true_iff.mp htest
  exact ⟨hsession, hstream, hrun⟩

theorem converted_follows {s : WebRTCIngest} (hs : s.Fits) (py : Python) (r : Reading) (k : Nat) :
    Follows s (leaseOf (s.converted py r k).2) (s.converted py r k).1 := by
  rcases converted_cases py s r k with h | ⟨task, peer, frame, hk, hstate, hp, h | h⟩
  · rw [h]
    exact follows_refl hs
  · rw [h]
    exact setTask_follows hs _ hk (fun _ => by rw [hstate]; rfl) (fun frame h => by cases h) _
  · obtain ⟨session, server, hstreaming, hout, hpost⟩ := h
    obtain ⟨peer', hp', hcur, -⟩ := session_spec (streaming_spec hstreaming).1
    obtain rfl := Option.some.inj (hp.symm.trans hp')
    rw [hout]
    -- the places stay, and only their holder gets here
    rcases hpost with hpost | hpost
    · have hset := setTask_follows hs .waiting hk (fun _ => by rw [hstate]; rfl)
        (fun frame h => by cases h) server
      rw [hpost]
      exact ⟨hset.table, .use hcur, hset.closings, hset.offers⟩
    · have hset := (setTask_follows hs .ended hk (fun h => by cases h)
        (fun frame h => by cases h) server).scheduleClose task.peer
      rw [hpost]
      exact ⟨hset.table, .use hcur, hset.closings, hset.offers⟩

theorem conversionRaises_follows {s : WebRTCIngest} (hs : s.Fits) (k : Nat) :
    Follows s none (s.conversionRaises k) := by
  unfold conversionRaises
  split
  · rename_i hk
    exact (setTask_follows hs _ hk (fun h => by cases h) (fun frame h => by cases h)
      s.server).scheduleClose _
  · exact follows_refl hs

theorem cancelled_follows {s : WebRTCIngest} (hs : s.Fits) (k : Nat) :
    Follows s none (s.cancelled k) := by
  unfold cancelled
  split
  · rename_i hk
    exact endReceive_follows hs _ hk
  · rename_i hk
    exact setTask_follows hs _ hk (fun h => by cases h) (fun frame h => by cases h) _
  · exact follows_refl hs

/-! ## Closings -/

theorem closingResumes_follows {s : WebRTCIngest} (hs : s.Fits) (k : Nat) :
    Follows s none (s.closingResumes k) := by
  unfold closingResumes
  split
  · exact follows_refl hs
  · rename_i closing hk
    obtain ⟨hcalm, hrel, hbehind⟩ :=
      PeerTable.resume_calms hs.table (hs.closings closing (List.mem_of_getElem? hk))
    exact (follows_calms hs hcalm hrel).setClosing k hbehind

theorem close_follows {s : WebRTCIngest} (hs : s.Fits) (nodeId : String)
    (websocket : Option Socket) : Follows s none (s.close nodeId websocket) := by
  unfold close
  split
  · exact follows_refl hs
  · rename_i p hp
    split_ifs
    · obtain ⟨hcalm, hrel, hbehind⟩ := PeerTable.closePeer_calms hs.table p
      exact (follows_calms hs hcalm hrel).addClosing hbehind
    · exact follows_refl hs

theorem shutdown_follows {s : WebRTCIngest} (hs : s.Fits) : Follows s none s.shutdown where
  table := evolves_refl hs
  lease := .rest _
  closings closing hc := by
    rcases List.mem_append.mp hc with hc | hc
    · exact Or.inl hc
    · obtain ⟨p, -, rfl⟩ := List.mem_map.mp hc
      exact Or.inr trivial
  offers _ ho := Or.inl ho

/-! ## Runs -/

/-- **Every stretch keeps the tables sound, and moves the leases.** -/
theorem step_follows (py : Python) (aiortc : Aiortc) {s : WebRTCIngest} (hs : s.Fits)
    (i : Reading × IngestAction) :
    Follows s (leaseOf (s.step py aiortc i).2) (s.step py aiortc i).1 := by
  obtain ⟨r, action⟩ := i
  cases action with
  | environment action => exact follows_keep (evolves_refl hs) rfl rfl _
  | offer nodeId token websocket sdp =>
      exact offer_follows hs aiortc r.time nodeId token websocket sdp
  | offerResumes k => exact offerResumes_follows hs r.time k
  | offerInterrupted k => exact offerInterrupted_follows hs k
  | track p kind => exact onTrack_follows hs p kind
  | connectionStateChange p state => exact onStateChange_follows hs p state
  | received k => exact received_follows hs r.time k
  | recvRaises k => exact recvRaises_follows hs k
  | woken k => exact woken_follows hs k
  | slept k => exact slept_follows hs r.time k
  | converted k => exact converted_follows hs py r k
  | conversionRaises k => exact conversionRaises_follows hs k
  | cancelled k => exact cancelled_follows hs k
  | closingResumes k => exact closingResumes_follows hs k
  | closingRaises k => exact (follows_refl hs).setClosing k trivial
  | close nodeId websocket => exact close_follows hs nodeId websocket
  | shutdown => exact shutdown_follows hs

theorem fits_beforeOffers (server : Server) : (beforeOffers server).Fits where
  table :=
    { owner := fun node p h => (by cases h)
      task := fun k task h => (by cases h)
      pending := fun p peer frame h => (by cases h)
      newer := fun k task peer frame latest h => (by cases h)
      started := fun p k peer task hret h => (by cases h)
      single := fun p k k' task task' hret h => (by cases h) }
  closings := fun closing h => (by cases h)
  offers := fun o h => (by cases h)

theorem run_from (py : Python) (aiortc : Aiortc) {s : WebRTCIngest}
    {ls : List (Option (Lease String))} (hs : s.Fits) (h : Leases.Run ls s.leases)
    (is : List (Reading × IngestAction)) :
    Leases.Run (ls ++ (events (step py aiortc) s is).map fun e => leaseOf e.out)
      (final (step py aiortc) s is).leases := by
  induction is generalizing s ls with
  | nil => simpa [final] using h
  | cons i is ih =>
      have hstep := step_follows py aiortc hs i
      have hnext := ih (hstep.fits hs) (h.step hstep.lease)
      rw [List.append_assoc] at hnext
      exact hnext

/-- **Every run of the ingest is a run of the leases.** -/
theorem run_beforeOffers (py : Python) (aiortc : Aiortc) (server : Server)
    (is : List (Reading × IngestAction)) :
    Leases.Run ((events (step py aiortc) (beforeOffers server) is).map fun e => leaseOf e.out)
      (final (step py aiortc) (beforeOffers server) is).leases :=
  run_from py aiortc (fits_beforeOffers server) Leases.Run.start is

end WebRTCIngest

end SmartTraffic
