import SmartTraffic.Server.WebRTC

/-!
# What happens to the peers

A stretch of the ingest brings a new peer, a task, a frame, or nothing new. None
of them gives a peer its place back, and as long as a peer has its place it has
one sampler at most. The ids of the frames that its sampler and its latest frame
still hold are above those it has handed on.
-/

namespace SmartTraffic

open Lib

namespace PeerTable

/-- The peer has been made and has no place. -/
def Retired (t : PeerTable) (p : Nat) : Prop :=
  p < t.made.length ∧ ∀ node, t.peers.get? node ≠ some p

/-- The frame is the latest of the peer, or a sampler of the peer has taken it. -/
inductive Pending (t : PeerTable) (p : Nat) (frame : LatestFrame) : Prop
  | latest {peer : Peer} (hmade : t.made[p]? = some peer) (hlatest : peer.latest = some frame)
  | taken {k : Nat} {task : PeerTask} (htask : t.tasks[k]? = some task) (hpeer : task.peer = p)
      (hstate : task.state = .converting frame)

structure Sound (t : PeerTable) : Prop where
  owner : ∀ node p, t.peers.get? node = some p → ∃ peer, t.made[p]? = some peer ∧ peer.nodeId = node
  task : ∀ (k : Nat) (task : PeerTask), t.tasks[k]? = some task → task.peer < t.made.length
  pending : ∀ (p : Nat) (peer : Peer) (frame : LatestFrame), t.made[p]? = some peer →
    Pending t p frame → frame.frameId ≤ peer.frameId
  /-- What comes in after a frame was taken is newer. -/
  newer : ∀ (k : Nat) (task : PeerTask) (peer : Peer) (frame latest : LatestFrame),
    t.tasks[k]? = some task → task.state = .converting frame → t.made[task.peer]? = some peer →
    peer.latest = some latest → frame.frameId < latest.frameId
  /-- While a peer has its place, its tasks are not forgotten. -/
  started : ∀ (p k : Nat) (peer : Peer) (task : PeerTask), ¬t.Retired p → t.made[p]? = some peer →
    t.tasks[k]? = some task → task.peer = p → peer.tasks ≠ []
  single : ∀ (p k k' : Nat) (task task' : PeerTask), ¬t.Retired p → t.tasks[k]? = some task →
    t.tasks[k']? = some task' → task.peer = p → task'.peer = p → task.state.samples = true →
    task'.state.samples = true → k = k'

/-- What any stretch leaves of the table. -/
structure Progress (t t' : PeerTable) : Prop where
  made : ∀ (p : Nat) (peer : Peer), t.made[p]? = some peer →
    ∃ peer', t'.made[p]? = some peer' ∧ peer.frameId ≤ peer'.frameId
  retired : ∀ p, t.Retired p → t'.Retired p
  /-- A frame that is new in the table has a new id. -/
  pending : ∀ (p : Nat) (peer : Peer) (frame : LatestFrame), t.made[p]? = some peer →
    Pending t' p frame → Pending t p frame ∨ peer.frameId < frame.frameId

theorem Progress.refl (t : PeerTable) : Progress t t :=
  ⟨fun _ peer h => ⟨peer, h, le_rfl⟩, fun _ h => h, fun _ _ _ _ h => Or.inl h⟩

theorem Progress.trans {t t' t'' : PeerTable} (h : Progress t t') (h' : Progress t' t'') :
    Progress t t'' := by
  refine ⟨fun p peer hp => ?_, fun p hp => h'.retired p (h.retired p hp),
    fun p peer frame hp hf => ?_⟩
  · obtain ⟨peer', hp', hle⟩ := h.made p peer hp
    obtain ⟨peer'', hp'', hle'⟩ := h'.made p peer' hp'
    exact ⟨peer'', hp'', hle.trans hle'⟩
  · obtain ⟨peer', hp', hle⟩ := h.made p peer hp
    rcases h'.pending p peer' frame hp' hf with hmid | hlt
    · exact h.pending p peer frame hp hmid
    · exact Or.inr (lt_of_le_of_lt hle hlt)

/-! ## Stretches that bring nothing new -/

/-- No peer, no frame and no sampler is added. -/
structure Calms (t t' : PeerTable) : Prop where
  peers : t.peers.Shrinks t'.peers
  length : t'.made.length = t.made.length
  made : ∀ (p : Nat) (peer' : Peer), t'.made[p]? = some peer' → ∃ peer, t.made[p]? = some peer
    ∧ peer'.nodeId = peer.nodeId ∧ peer'.frameId = peer.frameId
    ∧ (peer'.tasks = peer.tasks ∨ t'.Retired p)
    ∧ ∀ frame, peer'.latest = some frame → peer.latest = some frame
  tasks : ∀ (k : Nat) (task' : PeerTask), t'.tasks[k]? = some task' →
    ∃ task, t.tasks[k]? = some task ∧ task'.peer = task.peer
      ∧ (task'.state.samples = true → task.state.samples = true)
      ∧ ∀ frame, task'.state = .converting frame → task.state = .converting frame

namespace Calms

theorem retired {t t' : PeerTable} (h : Calms t t') {p : Nat} (hp : t.Retired p) :
    t'.Retired p :=
  ⟨by rw [h.length]; exact hp.1, fun node hget => hp.2 node (h.peers node p hget)⟩

theorem refl (t : PeerTable) : Calms t t where
  peers := Dict.shrinks_refl _
  length := rfl
  made _ peer hp := ⟨peer, hp, rfl, rfl, Or.inl rfl, fun _ h => h⟩
  tasks _ task hk := ⟨task, hk, rfl, fun h => h, fun _ h => h⟩

theorem trans {t t' t'' : PeerTable} (h : Calms t t') (h' : Calms t' t'') : Calms t t'' where
  peers := h.peers.trans h'.peers
  length := h'.length.trans h.length
  made p peer'' hp'' := by
    obtain ⟨peer', hp', hnode', hframe', htasks', hlatest'⟩ := h'.made p peer'' hp''
    obtain ⟨peer, hp, hnode, hframe, htasks, hlatest⟩ := h.made p peer' hp'
    refine ⟨peer, hp, hnode'.trans hnode, hframe'.trans hframe, ?_,
      fun frame hf => hlatest frame (hlatest' frame hf)⟩
    rcases htasks' with heq' | hret
    · rcases htasks with heq | hret
      · exact Or.inl (heq'.trans heq)
      · exact Or.inr (h'.retired hret)
    · exact Or.inr hret
  tasks k task'' hk'' := by
    obtain ⟨task', hk', hpeer', hsamples', hconv'⟩ := h'.tasks k task'' hk''
    obtain ⟨task, hk, hpeer, hsamples, hconv⟩ := h.tasks k task' hk'
    exact ⟨task, hk, hpeer'.trans hpeer, fun hs => hsamples (hsamples' hs),
      fun frame hf => hconv frame (hconv' frame hf)⟩

/-- The peers that are made are there afterwards. -/
theorem made_of {t t' : PeerTable} (h : Calms t t') {p : Nat} {peer : Peer}
    (hp : t.made[p]? = some peer) : ∃ peer', t'.made[p]? = some peer'
      ∧ peer'.nodeId = peer.nodeId ∧ peer'.frameId = peer.frameId := by
  have hlt : p < t'.made.length := by rw [h.length]; exact (List.getElem?_eq_some_iff.mp hp).1
  obtain ⟨peer₀, hp₀, hnode, hframe, -, -⟩ := h.made p _ (List.getElem?_eq_getElem hlt)
  obtain rfl := Option.some.inj (hp.symm.trans hp₀)
  exact ⟨_, List.getElem?_eq_getElem hlt, hnode, hframe⟩

theorem pending {t t' : PeerTable} (h : Calms t t') {p : Nat} {frame : LatestFrame}
    (hf : Pending t' p frame) : Pending t p frame := by
  cases hf with
  | latest hmade hlatest =>
      obtain ⟨peer, hp, -, -, -, hback⟩ := h.made p _ hmade
      exact .latest hp (hback frame hlatest)
  | taken htask hpeer hstate =>
      obtain ⟨task, hk, hsame, -, hconv⟩ := h.tasks _ _ htask
      exact .taken hk (hsame.symm.trans hpeer) (hconv frame hstate)

theorem progress {t t' : PeerTable} (h : Calms t t') : Progress t t' where
  made p peer hp := by
    obtain ⟨peer', hp', -, hframe⟩ := h.made_of hp
    exact ⟨peer', hp', hframe.ge⟩
  retired _ hp := h.retired hp
  pending _ _ _ _ hf := Or.inl (h.pending hf)

theorem sound {t t' : PeerTable} (h : Calms t t') (ht : t.Sound) : t'.Sound where
  owner node p hget := by
    obtain ⟨peer, hp, hnode⟩ := ht.owner node p (h.peers node p hget)
    obtain ⟨peer', hp', hnode', -⟩ := h.made_of hp
    exact ⟨peer', hp', hnode'.trans hnode⟩
  task k task' hk' := by
    obtain ⟨task, hk, hpeer, -, -⟩ := h.tasks k task' hk'
    rw [hpeer, h.length]
    exact ht.task k task hk
  pending p peer' frame hp' hf := by
    obtain ⟨peer, hp, -, hframe, -, -⟩ := h.made p peer' hp'
    rw [hframe]
    exact ht.pending p peer frame hp (h.pending hf)
  newer k task' peer' frame latest hk' hstate hp' hlatest := by
    obtain ⟨task, hk, hpeer, -, hconv⟩ := h.tasks k task' hk'
    obtain ⟨peer, hp, -, -, -, hback⟩ := h.made _ peer' hp'
    exact ht.newer k task peer frame latest hk (hconv frame hstate) (hpeer ▸ hp)
      (hback latest hlatest)
  started p k peer' task' hret hp' hk' hpeer' := by
    obtain ⟨peer, hp, -, -, htasks, -⟩ := h.made p peer' hp'
    obtain ⟨task, hk, hpeer, -, -⟩ := h.tasks k task' hk'
    rcases htasks with heq | hret'
    · rw [heq]
      exact ht.started p k peer task (fun hp => hret (h.retired hp)) hp hk (hpeer.symm.trans hpeer')
    · exact absurd hret' hret
  single p k₁ k₂ task₁' task₂' hret hk₁' hk₂' hpeer₁' hpeer₂' hs₁ hs₂ := by
    obtain ⟨task₁, hk₁, hpeer₁, hsamples₁, -⟩ := h.tasks k₁ task₁' hk₁'
    obtain ⟨task₂, hk₂, hpeer₂, hsamples₂, -⟩ := h.tasks k₂ task₂' hk₂'
    exact ht.single p k₁ k₂ task₁ task₂ (fun hp => hret (h.retired hp)) hk₁ hk₂
      (hpeer₁.symm.trans hpeer₁') (hpeer₂.symm.trans hpeer₂') (hsamples₁ hs₁) (hsamples₂ hs₂)

end Calms

theorem getElem?_modifyPeer (t : PeerTable) (p q : Nat) (f : Peer → Peer) :
    (t.modifyPeer p f).made[q]? = (t.made[q]?).map fun peer => if p = q then f peer else peer := by
  show (t.made.modify p f)[q]? = _
  rw [List.getElem?_modify]
  cases t.made[q]? with
  | none => rfl
  | some peer => by_cases h : p = q <;> simp [h]

theorem getElem?_setTask (t : PeerTable) (k j : Nat) (state : TaskState) :
    (t.setTask k state).tasks[j]?
      = (t.tasks[j]?).map fun task => if k = j then { task with state := state } else task := by
  show (t.tasks.modify k _)[j]? = _
  rw [List.getElem?_modify]
  cases t.tasks[j]? with
  | none => rfl
  | some task => by_cases h : k = j <;> simp [h]

@[simp] theorem length_modifyPeer (t : PeerTable) (p : Nat) (f : Peer → Peer) :
    (t.modifyPeer p f).made.length = t.made.length := List.length_modify _ _ _

/-- A change of a peer that takes at most its tasks and its latest frame. -/
theorem modifyPeer_calms {t : PeerTable} {p : Nat} {f : Peer → Peer}
    (hnode : ∀ peer, (f peer).nodeId = peer.nodeId)
    (hframe : ∀ peer, (f peer).frameId = peer.frameId)
    (htasks : (∀ peer, (f peer).tasks = peer.tasks) ∨ t.Retired p)
    (hlatest : ∀ peer, (f peer).latest = none) : Calms t (t.modifyPeer p f) where
  peers := Dict.shrinks_refl _
  length := length_modifyPeer t p f
  made q peer' hq := by
    rw [getElem?_modifyPeer] at hq
    obtain ⟨peer, hpeer, rfl⟩ := Option.map_eq_some_iff.mp hq
    refine ⟨peer, hpeer, ?_⟩
    split_ifs with h
    · subst h
      refine ⟨hnode peer, hframe peer, ?_, fun frame hf => ?_⟩
      · rcases htasks with htasks | hret
        · exact Or.inl (htasks peer)
        · exact Or.inr ⟨by rw [length_modifyPeer]; exact hret.1, hret.2⟩
      · rw [hlatest] at hf
        cases hf
    · exact ⟨rfl, rfl, Or.inl rfl, fun _ hf => hf⟩
  tasks k task hk := ⟨task, hk, rfl, fun h => h, fun _ h => h⟩

theorem clear_calms {t : PeerTable} {p : Nat} (h : t.Retired p) : Calms t (t.clear p) :=
  modifyPeer_calms (fun _ => rfl) (fun _ => rfl) (Or.inr h) fun _ => rfl

theorem takeLatest_calms (t : PeerTable) (p : Nat) : Calms t (t.takeLatest p) :=
  modifyPeer_calms (fun _ => rfl) (fun _ => rfl) (Or.inl fun _ => rfl) fun _ => rfl

theorem setTask_calms {t : PeerTable} {k : Nat} {task : PeerTask} (state : TaskState)
    (hk : t.tasks[k]? = some task) (hsamples : state.samples = true → task.state.samples = true)
    (hconv : ∀ frame, state ≠ .converting frame) : Calms t (t.setTask k state) where
  peers := Dict.shrinks_refl _
  length := rfl
  made p peer hp := ⟨peer, hp, rfl, rfl, Or.inl rfl, fun _ h => h⟩
  tasks j task' hj := by
    rw [getElem?_setTask] at hj
    obtain ⟨task₀, htask₀, rfl⟩ := Option.map_eq_some_iff.mp hj
    refine ⟨task₀, htask₀, ?_⟩
    split_ifs with h
    · subst h
      obtain rfl := Option.some.inj (hk.symm.trans htask₀)
      exact ⟨rfl, hsamples, fun frame hf => absurd hf (hconv frame)⟩
    · exact ⟨rfl, fun h => h, fun _ h => h⟩

theorem cancel_calms (t : PeerTable) (tasks : List Nat) : Calms t (t.cancel tasks) where
  peers := Dict.shrinks_refl _
  length := rfl
  made p peer hp := ⟨peer, hp, rfl, rfl, Or.inl rfl, fun _ h => h⟩
  tasks k task' hk := by
    rw [show (t.cancel tasks).tasks[k]? = _ from List.getElem?_mapIdx] at hk
    obtain ⟨task, htask, rfl⟩ := Option.map_eq_some_iff.mp hk
    refine ⟨task, htask, ?_⟩
    split_ifs
    · exact ⟨rfl, fun h => h, fun _ h => h⟩
    · exact ⟨rfl, fun h => h, fun _ h => h⟩

theorem drop_made (t : PeerTable) (p : Nat) : (t.drop p).made = t.made := by
  unfold drop
  split
  · rfl
  · split_ifs <;> rfl

theorem drop_tasks (t : PeerTable) (p : Nat) : (t.drop p).tasks = t.tasks := by
  unfold drop
  split
  · rfl
  · split_ifs <;> rfl

theorem drop_peers (t : PeerTable) (p : Nat) :
    (t.drop p).peers = t.peers ∨ ∃ node, (t.drop p).peers = t.peers.erase node := by
  unfold drop
  split
  · exact Or.inl rfl
  · split_ifs
    · exact Or.inr ⟨_, rfl⟩
    · exact Or.inl rfl

theorem drop_calms (t : PeerTable) (p : Nat) : Calms t (t.drop p) where
  peers := by
    rcases drop_peers t p with h | ⟨node, h⟩
    · rw [h]; exact Dict.shrinks_refl _
    · rw [h]; exact Dict.shrinks_erase _ node
  length := by rw [drop_made]
  made q peer hq := ⟨peer, by rw [← drop_made t p]; exact hq, rfl, rfl, Or.inl rfl, fun _ h => h⟩
  tasks k task hk := ⟨task, by rw [← drop_tasks t p]; exact hk, rfl, fun h => h, fun _ h => h⟩

/-- A peer that is dropped is nowhere in the table. -/
theorem drop_retired {t : PeerTable} (ht : t.Sound) {p : Nat} {peer : Peer}
    (hp : t.made[p]? = some peer) : (t.drop p).Retired p := by
  refine ⟨by rw [drop_made]; exact (List.getElem?_eq_some_iff.mp hp).1, fun node hget => ?_⟩
  -- its only place is that of its own node
  have hnode : node = peer.nodeId := by
    obtain ⟨peer', hp', hnode⟩ := ht.owner node p ((drop_calms t p).peers node p hget)
    obtain rfl := Option.some.inj (hp.symm.trans hp')
    exact hnode.symm
  subst hnode
  unfold drop at hget
  rw [hp] at hget
  dsimp only at hget
  split_ifs at hget with hcur
  · exact absurd rfl (Dict.get?_of_get?_erase _ hget).1
  · exact hcur hget

/-- The table gives up a place at most. -/
def Releases (t t' : PeerTable) : Prop :=
  t'.made.length = t.made.length ∧ (t'.peers = t.peers ∨ ∃ node, t'.peers = t.peers.erase node)

/-- A closing that waits for the tasks of its peer has dropped the peer. -/
def Behind (t : PeerTable) : Closing → Prop
  | .gathering p _ => t.Retired p
  | .scheduled _ => True
  | .closingPc _ => True
  | .closed => True

theorem closePeer_calms {t : PeerTable} (ht : t.Sound) (p : Nat) :
    Calms t (t.closePeer p).1 ∧ Releases t (t.closePeer p).1
      ∧ Behind (t.closePeer p).1 (t.closePeer p).2 := by
  unfold closePeer
  cases hp : t.made[p]? with
  | none => exact ⟨Calms.refl t, ⟨rfl, Or.inl rfl⟩, trivial⟩
  | some peer =>
      have hcancel := (drop_calms t p).trans (cancel_calms (t.drop p) peer.tasks)
      have hlength : ((t.drop p).cancel peer.tasks).made.length = t.made.length := hcancel.length
      have hret : ((t.drop p).cancel peer.tasks).Retired p := drop_retired ht hp
      dsimp only
      split_ifs
      · refine ⟨hcancel.trans (clear_calms hret), ⟨?_, drop_peers t p⟩, trivial⟩
        exact (length_modifyPeer _ _ _).trans hlength
      · exact ⟨hcancel, ⟨hlength, drop_peers t p⟩, hret⟩

theorem resume_calms {t : PeerTable} (ht : t.Sound) {closing : Closing} (h : Behind t closing) :
    Calms t (t.resume closing).1 ∧ Releases t (t.resume closing).1
      ∧ Behind (t.resume closing).1 (t.resume closing).2 := by
  cases closing with
  | scheduled p => exact closePeer_calms ht p
  | gathering p tasks =>
      unfold resume
      dsimp only
      split_ifs
      · exact ⟨clear_calms h, ⟨length_modifyPeer _ _ _, Or.inl rfl⟩, trivial⟩
      · exact ⟨Calms.refl t, ⟨rfl, Or.inl rfl⟩, h⟩
  | closingPc p => exact ⟨Calms.refl t, ⟨rfl, Or.inl rfl⟩, trivial⟩
  | closed => exact ⟨Calms.refl t, ⟨rfl, Or.inl rfl⟩, trivial⟩

/-! ## Stretches that bring something new -/

/-- What a stretch makes of a sound table. -/
structure Evolves (t t' : PeerTable) : Prop where
  sound : t'.Sound
  progress : Progress t t'

theorem Calms.evolves {t t' : PeerTable} (h : Calms t t') (ht : t.Sound) : Evolves t t' :=
  ⟨h.sound ht, h.progress⟩

theorem Evolves.trans {t t' t'' : PeerTable} (h : Evolves t t') (h' : Evolves t' t'') :
    Evolves t t'' := ⟨h'.sound, h.progress.trans h'.progress⟩

/-- The peers of a table with one more. -/
theorem getElem?_register {t : PeerTable} {nodeId token : String} {websocket : Socket} {p : Nat}
    {peer : Peer} (h : (t.register nodeId token websocket).made[p]? = some peer) :
    t.made[p]? = some peer
      ∨ p = t.made.length
        ∧ peer = { nodeId := nodeId, token := token, websocket := websocket } := by
  have h' : (t.made ++ [({ nodeId := nodeId, token := token, websocket := websocket } : Peer)])[p]?
    = some peer := h
  rcases lt_trichotomy p t.made.length with hlt | rfl | hgt
  · rw [List.getElem?_append_left hlt] at h'
    exact Or.inl h'
  · rw [List.getElem?_concat_length] at h'
    exact Or.inr ⟨rfl, (Option.some.inj h').symm⟩
  · rw [List.getElem?_eq_none (by simp; omega)] at h'
    cases h'

/-- The places of a table with one more peer. -/
theorem get?_register {t : PeerTable} {nodeId token node : String} {websocket : Socket} {p : Nat}
    (h : (t.register nodeId token websocket).peers.get? node = some p) :
    (node = nodeId ∧ p = t.made.length) ∨ (node ≠ nodeId ∧ t.peers.get? node = some p) := by
  have h' : (t.peers.set nodeId t.made.length).get? node = some p := h
  rw [Dict.get?_set] at h'
  split_ifs at h' with hnode
  · exact Or.inl ⟨hnode, (Option.some.inj h').symm⟩
  · exact Or.inr ⟨hnode, h'⟩

theorem register_retired {t : PeerTable} {nodeId token : String} {websocket : Socket} {p : Nat}
    (h : t.Retired p) : (t.register nodeId token websocket).Retired p := by
  refine ⟨?_, fun node hget => ?_⟩
  · show p < (t.made ++ [_]).length
    rw [List.length_append]
    exact Nat.lt_add_right _ h.1
  · rcases get?_register hget with ⟨-, rfl⟩ | ⟨-, hold⟩
    · exact absurd h.1 (lt_irrefl _)
    · exact h.2 node hold

/-- A new peer has no frame and no task. -/
theorem register_pending {t : PeerTable} {nodeId token : String} {websocket : Socket} {p : Nat}
    {frame : LatestFrame} (h : Pending (t.register nodeId token websocket) p frame) :
    Pending t p frame := by
  cases h with
  | latest hmade hlatest =>
      rcases getElem?_register hmade with hold | ⟨-, rfl⟩
      · exact .latest hold hlatest
      · cases hlatest
  | taken htask hpeer hstate => exact .taken htask hpeer hstate

theorem register_evolves {t : PeerTable} (ht : t.Sound) (nodeId token : String)
    (websocket : Socket) : Evolves t (t.register nodeId token websocket) := by
  have hold : ∀ (p : Nat) (peer : Peer), t.made[p]? = some peer →
      (t.register nodeId token websocket).made[p]? = some peer := fun p peer hp => by
    have hlt := (List.getElem?_eq_some_iff.mp hp).1
    exact (List.getElem?_append_left hlt).trans hp
  -- the tasks are those of older peers
  have htask : ∀ (k : Nat) (task : PeerTask) (peer : Peer), t.tasks[k]? = some task →
      (t.register nodeId token websocket).made[task.peer]? = some peer →
      t.made[task.peer]? = some peer := by
    intro k task peer hk hp
    rcases getElem?_register hp with hp | ⟨hp, -⟩
    · exact hp
    · exact absurd hp (ht.task k task hk).ne
  refine ⟨⟨fun node p hget => ?_, fun k task hk => ?_, fun p peer frame hp hf => ?_,
    fun k task peer frame latest hk hstate hp => ?_, fun p k peer task hret hp hk hpeer => ?_,
    fun p k k' task task' hret => ?_⟩,
    ⟨fun p peer hp => ⟨peer, hold p peer hp, le_rfl⟩, fun p => register_retired,
      fun p peer frame hp hf => Or.inl (register_pending hf)⟩⟩
  · rcases get?_register hget with ⟨rfl, rfl⟩ | ⟨-, hget⟩
    · exact ⟨_, List.getElem?_concat_length, rfl⟩
    · obtain ⟨peer, hp, hown⟩ := ht.owner node p hget
      exact ⟨peer, hold p peer hp, hown⟩
  · show task.peer < (t.made ++ [_]).length
    rw [List.length_append]
    exact Nat.lt_add_right _ (ht.task k task hk)
  · rcases getElem?_register hp with hp | ⟨rfl, rfl⟩
    · exact ht.pending p peer frame hp (register_pending hf)
    · cases register_pending hf with
      | latest hmade => exact absurd (List.getElem?_eq_some_iff.mp hmade).1 (lt_irrefl _)
      | taken hk hpeer => exact absurd hpeer (ht.task _ _ hk).ne
  · exact ht.newer k task peer frame latest hk hstate (htask k task peer hk hp)
  · subst hpeer
    exact ht.started _ k peer task (fun h => hret (register_retired h)) (htask k task peer hk hp) hk
      rfl
  · exact ht.single p k k' task task' fun h => hret (register_retired h)

theorem getElem?_spawn {t : PeerTable} {p k : Nat} {task : PeerTask}
    (h : (t.spawn p).tasks[k]? = some task) : t.tasks[k]? = some task
      ∨ task.peer = p ∧ (∀ frame, task.state ≠ .converting frame)
        ∧ (task.state.samples = true → k = t.tasks.length + 1) := by
  have h' : (t.tasks ++ [({ peer := p, state := .receiving } : PeerTask),
    { peer := p, state := .waiting }])[k]? = some task := h
  by_cases hlt : k < t.tasks.length
  · rw [List.getElem?_append_left hlt] at h'
    exact Or.inl h'
  · rw [List.getElem?_append_right (by omega)] at h'
    obtain hk | hk | hk : k - t.tasks.length = 0 ∨ k - t.tasks.length = 1
      ∨ 2 ≤ k - t.tasks.length := by omega
    · rw [hk] at h'
      obtain rfl := Option.some.inj h'
      exact Or.inr ⟨rfl, fun frame hf => (by cases hf), fun hs => (by cases hs)⟩
    · rw [hk] at h'
      obtain rfl := Option.some.inj h'
      exact Or.inr ⟨rfl, fun frame hf => (by cases hf), fun _ => by omega⟩
    · rw [List.getElem?_eq_none (by simpa using hk)] at h'
      cases h'

theorem spawn_evolves {t : PeerTable} (ht : t.Sound) {p : Nat} {peer : Peer}
    (hp : t.made[p]? = some peer) (hnone : peer.tasks = []) : Evolves t (t.spawn p) := by
  have hmade : ∀ q : Nat, (t.spawn p).made[q]? = (t.made[q]?).map fun peer =>
      if p = q then { peer with tasks := [t.tasks.length, t.tasks.length + 1] } else peer :=
    fun q => getElem?_modifyPeer t p q _
  have hretired : ∀ q, t.Retired q ↔ (t.spawn p).Retired q := by
    intro q
    have hlength : (t.spawn p).made.length = t.made.length := length_modifyPeer t p _
    unfold Retired
    rw [hlength]
    rfl
  have hpending : ∀ q frame, Pending (t.spawn p) q frame → Pending t q frame := by
    intro q frame hf
    cases hf with
    | latest hq hlatest =>
        rw [hmade] at hq
        obtain ⟨peer', hq', rfl⟩ := Option.map_eq_some_iff.mp hq
        refine .latest hq' ?_
        split_ifs at hlatest <;> exact hlatest
    | taken hk hpeer hstate =>
        rcases getElem?_spawn hk with hk | ⟨-, hconv, -⟩
        · exact .taken hk hpeer hstate
        · exact absurd hstate (hconv frame)
  refine ⟨⟨fun node q hget => ?_, fun k task hk => ?_, fun q peer' frame hq hf => ?_,
    fun k task peer' frame latest hk hstate hq hlatest => ?_,
    fun q k peer' task hret hq hk hpeer => ?_,
    fun q k k' task task' hret hk hk' hpeer hpeer' hs hs' => ?_⟩,
    ⟨fun q peer' hq => ?_, fun q => (hretired q).mp, fun q peer' frame hq hf =>
      Or.inl (hpending q frame hf)⟩⟩
  · -- the owners are the old ones
    obtain ⟨peer', hq, hown⟩ := ht.owner node q hget
    rw [hmade, hq]
    refine ⟨_, rfl, ?_⟩
    split_ifs <;> exact hown
  · have hlength : (t.spawn p).made.length = t.made.length := length_modifyPeer t p _
    rw [hlength]
    rcases getElem?_spawn hk with hk | ⟨rfl, -, -⟩
    · exact ht.task k task hk
    · exact (List.getElem?_eq_some_iff.mp hp).1
  · -- nothing new is pending
    rw [hmade] at hq
    obtain ⟨peer₀, hq₀, rfl⟩ := Option.map_eq_some_iff.mp hq
    have hle := ht.pending q peer₀ frame hq₀ (hpending q frame hf)
    split_ifs <;> exact hle
  · rw [hmade] at hq
    obtain ⟨peer₀, hq₀, rfl⟩ := Option.map_eq_some_iff.mp hq
    rcases getElem?_spawn hk with hk | ⟨-, hconv, -⟩
    · refine ht.newer k task peer₀ frame latest hk hstate hq₀ ?_
      split_ifs at hlatest <;> exact hlatest
    · exact absurd hstate (hconv frame)
  · rw [hmade] at hq
    obtain ⟨peer₀, hq₀, rfl⟩ := Option.map_eq_some_iff.mp hq
    -- the peer has its two tasks now
    split_ifs with hpq
    · exact List.cons_ne_nil _ _
    · rcases getElem?_spawn hk with hk | ⟨hpeer', -, -⟩
      · exact ht.started q k peer₀ task (fun h => hret ((hretired q).mp h)) hq₀ hk hpeer
      · exact absurd (hpeer'.symm.trans hpeer) hpq
  · have hret' : ¬t.Retired q := fun h => hret ((hretired q).mp h)
    -- a peer without tasks gets its first sampler, another one keeps what it has
    rcases getElem?_spawn hk with hk | ⟨hp₁, -, hlast⟩
    · rcases getElem?_spawn hk' with hk' | ⟨hp₂, -, -⟩
      · exact ht.single q k k' task task' hret' hk hk' hpeer hpeer' hs hs'
      · obtain rfl : p = q := hp₂.symm.trans hpeer'
        exact absurd hnone (ht.started p k peer task hret' hp hk hpeer)
    · obtain rfl : p = q := hp₁.symm.trans hpeer
      rcases getElem?_spawn hk' with hk' | ⟨-, -, hlast'⟩
      · exact absurd hnone (ht.started p k' peer task' hret' hp hk' hpeer')
      · rw [hlast hs, hlast' hs']
  · rw [hmade, hq]
    refine ⟨_, rfl, ?_⟩
    split_ifs <;> exact le_rfl

theorem modifyPeer_retired {t : PeerTable} {p q : Nat} {f : Peer → Peer} :
    (t.modifyPeer p f).Retired q ↔ t.Retired q := by
  unfold Retired
  rw [length_modifyPeer]
  rfl

theorem number_pending {t : PeerTable} {p q : Nat} {receivedMs : Rat} {peer : Peer}
    {frame : LatestFrame} (hq : t.made[q]? = some peer)
    (h : Pending (t.number p receivedMs) q frame) :
    Pending t q frame ∨ p = q ∧ frame.frameId = peer.frameId + 1 := by
  cases h with
  | latest hmade hlatest =>
      rw [show (t.number p receivedMs).made[q]? = _ from getElem?_modifyPeer t p q _, hq] at hmade
      obtain rfl := Option.some.inj hmade
      split_ifs at hlatest with hpq
      · obtain rfl := Option.some.inj hlatest
        exact Or.inr ⟨hpq, rfl⟩
      · exact Or.inl (.latest hq hlatest)
  | taken hk hpeer hstate => exact Or.inl (.taken hk hpeer hstate)

theorem number_evolves {t : PeerTable} (ht : t.Sound) (p : Nat) (receivedMs : Rat) :
    Evolves t (t.number p receivedMs) := by
  have hmade : ∀ (q : Nat) (peer' : Peer), (t.number p receivedMs).made[q]? = some peer' →
      ∃ peer, t.made[q]? = some peer ∧ peer'.tasks = peer.tasks ∧ peer.frameId ≤ peer'.frameId
        ∧ (p = q → peer'.frameId = peer.frameId + 1)
        ∧ ∀ latest, peer'.latest = some latest →
            peer.latest = some latest ∨ latest.frameId = peer.frameId + 1 := by
    intro q peer' hq
    rw [show (t.number p receivedMs).made[q]? = _ from getElem?_modifyPeer t p q _] at hq
    obtain ⟨peer, hpeer, rfl⟩ := Option.map_eq_some_iff.mp hq
    refine ⟨peer, hpeer, ?_⟩
    -- only this peer counts one frame more, and shows it
    split_ifs with hpq
    · refine ⟨rfl, Nat.le_succ _, fun _ => rfl, fun latest hlatest => Or.inr ?_⟩
      obtain rfl := Option.some.inj hlatest
      rfl
    · exact ⟨rfl, le_rfl, fun h => absurd h hpq, fun latest hlatest => Or.inl hlatest⟩
  have hkept : ∀ (q : Nat) (peer : Peer), t.made[q]? = some peer → ∃ peer',
      (t.number p receivedMs).made[q]? = some peer' ∧ peer'.nodeId = peer.nodeId
        ∧ peer.frameId ≤ peer'.frameId := by
    intro q peer hq
    rw [show (t.number p receivedMs).made[q]? = _ from getElem?_modifyPeer t p q _, hq]
    refine ⟨_, rfl, ?_⟩
    split_ifs
    · exact ⟨rfl, Nat.le_succ _⟩
    · exact ⟨rfl, le_rfl⟩
  refine ⟨⟨fun node q hget => ?_, fun k task hk => ?_, fun q peer' frame hq hf => ?_,
    fun k task peer' frame latest hk hstate hq hlatest => ?_,
    fun q k peer' task hret hq hk hpeer => ?_, fun q k k' task task' hret => ?_⟩,
    ⟨fun q peer hq => ?_, fun q => modifyPeer_retired.mpr, fun q peer frame hq hf => ?_⟩⟩
  · obtain ⟨peer, hq, hown⟩ := ht.owner node q hget
    obtain ⟨peer', hq', hnode, -⟩ := hkept q peer hq
    exact ⟨peer', hq', hnode.trans hown⟩
  · rw [show (t.number p receivedMs).made.length = _ from length_modifyPeer t p _]
    exact ht.task k task hk
  · obtain ⟨peer, hpeer, -, hle, hnext, -⟩ := hmade q peer' hq
    -- the new frame has the number the peer has come to
    rcases number_pending hpeer hf with hf | ⟨hpq, hid⟩
    · exact (ht.pending q peer frame hpeer hf).trans hle
    · rw [hid, hnext hpq]
  · obtain ⟨peer, hpeer, -, -, -, hback⟩ := hmade _ peer' hq
    rcases hback latest hlatest with hold | hid
    · exact ht.newer k task peer frame latest hk hstate hpeer hold
    · -- what was taken has an id that was given before
      rw [hid]
      exact Nat.lt_succ_of_le (ht.pending _ peer frame hpeer (.taken hk rfl hstate))
  · obtain ⟨peer, hpeer', htasks, -, -, -⟩ := hmade q peer' hq
    rw [htasks]
    exact ht.started q k peer task (fun h => hret (modifyPeer_retired.mpr h)) hpeer' hk hpeer
  · exact ht.single q k k' task task' fun h => hret (modifyPeer_retired.mpr h)
  · obtain ⟨peer', hq', -, hle⟩ := hkept q peer hq
    exact ⟨peer', hq', hle⟩
  · rcases number_pending hq hf with hf | ⟨-, hid⟩
    · exact Or.inl hf
    · exact Or.inr (hid ▸ Nat.lt_succ_self _)

/-- The latest frame goes from its peer to a sampler of the peer. -/
theorem take_evolves {t : PeerTable} (ht : t.Sound) {k : Nat} {task : PeerTask} {peer : Peer}
    {frame : LatestFrame} (hk : t.tasks[k]? = some task) (hstate : task.state = .sleeping)
    (hp : t.made[task.peer]? = some peer) (hlatest : peer.latest = some frame) :
    Evolves t ((t.takeLatest task.peer).setTask k (.converting frame)) := by
  have hcalm := takeLatest_calms t task.peer
  have ht' := hcalm.sound ht
  have hret : ∀ q, ((t.takeLatest task.peer).setTask k (.converting frame)).Retired q
      ↔ t.Retired q := fun q => modifyPeer_retired
  -- one task has changed: it converts the frame of its own peer
  have htask : ∀ (j : Nat) (task' : PeerTask),
      ((t.takeLatest task.peer).setTask k (.converting frame)).tasks[j]? = some task' →
      t.tasks[j]? = some task'
        ∨ j = k ∧ task'.peer = task.peer ∧ task'.state = .converting frame := by
    intro j task' hj
    rw [getElem?_setTask] at hj
    obtain ⟨task₀, hj₀, rfl⟩ := Option.map_eq_some_iff.mp hj
    split_ifs with hkj
    · subst hkj
      obtain rfl := Option.some.inj (hk.symm.trans hj₀)
      exact Or.inr ⟨rfl, rfl, rfl⟩
    · exact Or.inl hj₀
  have hpending : ∀ q frame', Pending ((t.takeLatest task.peer).setTask k (.converting frame)) q
      frame' → Pending t q frame' := by
    intro q frame' hf
    cases hf with
    | latest hmade hlatest' => exact hcalm.pending (.latest hmade hlatest')
    | taken hj hpeer hstate' =>
        rcases htask _ _ hj with hj | ⟨-, hpeer', hconv⟩
        · exact .taken hj hpeer hstate'
        · -- the frame it converts was the latest one before
          obtain rfl := TaskState.converting.inj (hconv.symm.trans hstate')
          rw [← hpeer, hpeer']
          exact .latest hp hlatest
  -- a sampler that converts was a sampler before
  have hsampler : ∀ (j : Nat) (task' : PeerTask),
      ((t.takeLatest task.peer).setTask k (.converting frame)).tasks[j]? = some task' →
      task'.state.samples = true →
      ∃ task₀, t.tasks[j]? = some task₀ ∧ task₀.peer = task'.peer ∧ task₀.state.samples = true := by
    intro j task' hj hs
    rcases htask j task' hj with hj | ⟨rfl, hpeer, -⟩
    · exact ⟨task', hj, rfl, hs⟩
    · exact ⟨task, hk, hpeer.symm, by rw [hstate]; rfl⟩
  refine ⟨⟨ht'.owner, fun j task' hj => ?_, fun q peer' frame' hq hf => ?_,
    fun j task' peer' frame' latest hj hstate' hq hlatest' => ?_,
    fun q j peer' task' hret' hq hj hpeer => ?_,
    fun q j j' task₁ task₂ hret' hj hj' hpeer hpeer' hs hs' => ?_⟩,
    ⟨fun q peer' hq => hcalm.progress.made q peer' hq, fun q => (hret q).mpr,
      fun q peer' frame' hq hf => Or.inl (hpending q frame' hf)⟩⟩
  · rcases htask j task' hj with hj | ⟨-, hpeer, -⟩
    · exact ht'.task j task' hj
    · rw [hpeer]; exact ht'.task k task hk
  · obtain ⟨peer₀, hq₀, -, hid, -, -⟩ := hcalm.made q peer' hq
    rw [hid]
    exact ht.pending q peer₀ frame' hq₀ (hpending q frame' hf)
  · rcases htask j task' hj with hj | ⟨-, hpeer, -⟩
    · exact ht'.newer j task' peer' frame' latest hj hstate' hq hlatest'
    · -- the peer has nothing newer yet
      have hq' : (t.takeLatest task.peer).made[task.peer]? = some peer' := hpeer ▸ hq
      rw [show (t.takeLatest task.peer).made[task.peer]? = _ from getElem?_modifyPeer t _ _ _, hp,
        Option.map_some, if_pos rfl] at hq'
      obtain rfl := Option.some.inj hq'
      cases hlatest'
  · rcases htask j task' hj with hj | ⟨-, hpeer', -⟩
    · exact ht'.started q j peer' task' hret' hq hj hpeer
    · exact ht'.started q k peer' task hret' hq hk (hpeer'.symm.trans hpeer)
  · -- two samplers of a peer were two before
    obtain ⟨task₁', hj₁, hpeer₁, hs₁⟩ := hsampler j task₁ hj hs
    obtain ⟨task₂', hj₂, hpeer₂, hs₂⟩ := hsampler j' task₂ hj' hs'
    exact ht.single q j j' task₁' task₂' (fun h => hret' ((hret q).mpr h)) hj₁ hj₂
      (hpeer₁.trans hpeer) (hpeer₂.trans hpeer') hs₁ hs₂

/-! ## Places -/

theorem Behind.progress {t t' : PeerTable} (h : Progress t t') {closing : Closing}
    (hb : t.Behind closing) : t'.Behind closing := by
  cases closing with
  | gathering p tasks => exact h.retired p hb
  | scheduled p | closingPc p => trivial
  | closed => trivial

/-- A peer whose node has a new one has no place. -/
theorem register_retires {t : PeerTable} (ht : t.Sound) {nodeId : String} (token : String)
    (websocket : Socket) {old : Nat} (hold : t.peers.get? nodeId = some old) :
    (t.register nodeId token websocket).Retired old := by
  obtain ⟨peer, hp, hown⟩ := ht.owner nodeId old hold
  have hlt : old < t.made.length := (List.getElem?_eq_some_iff.mp hp).1
  refine ⟨?_, fun node hget => ?_⟩
  · show old < (t.made ++ [_]).length
    rw [List.length_append]
    exact Nat.lt_add_right _ hlt
  · rcases get?_register hget with ⟨-, rfl⟩ | ⟨hnode, hget⟩
    · exact absurd hlt (lt_irrefl _)
    · -- it had one place only
      obtain ⟨peer', hp', hown'⟩ := ht.owner node old hget
      obtain rfl := Option.some.inj (hp.symm.trans hp')
      exact hnode (hown'.symm.trans hown)

/-- To close a peer without a place leaves the places alone. -/
theorem closePeer_peers {t : PeerTable} {p : Nat} (h : t.Retired p) :
    (t.closePeer p).1.peers = t.peers := by
  have hdrop : t.drop p = t := by
    unfold drop
    cases t.made[p]? with
    | none => rfl
    | some peer => exact if_neg (h.2 peer.nodeId)
  unfold closePeer
  cases t.made[p]? with
  | none => rfl
  | some peer =>
      dsimp only
      rw [hdrop]
      split_ifs <;> rfl

/-! ## Ids -/

/-- What the peer still hands on, while it has its place, has ids above `n`. -/
def Beyond (t : PeerTable) (p n : Nat) : Prop :=
  ∃ peer, t.made[p]? = some peer ∧ n ≤ peer.frameId
    ∧ (t.Retired p ∨ ∀ frame, Pending t p frame → n < frame.frameId)

theorem Beyond.progress {t t' : PeerTable} {p n : Nat} (h : Progress t t') (hb : t.Beyond p n) :
    t'.Beyond p n := by
  obtain ⟨peer, hp, hle, hrest⟩ := hb
  obtain ⟨peer', hp', hle'⟩ := h.made p peer hp
  refine ⟨peer', hp', hle.trans hle', ?_⟩
  rcases hrest with hret | hpending
  · exact Or.inl (h.retired p hret)
  · refine Or.inr fun frame hf => ?_
    rcases h.pending p peer frame hp hf with hf | hlt
    · exact hpending frame hf
    · exact lt_of_le_of_lt hle hlt

/-- A sampler that lets go of its frame leaves newer ones only. -/
theorem beyond_setTask {t : PeerTable} (ht : t.Sound) {k : Nat} {task : PeerTask} {peer : Peer}
    {frame : LatestFrame} {state : TaskState} (hk : t.tasks[k]? = some task)
    (hstate : task.state = .converting frame) (hp : t.made[task.peer]? = some peer)
    (hconv : ∀ frame, state ≠ .converting frame) :
    (t.setTask k state).Beyond task.peer frame.frameId := by
  refine ⟨peer, hp, ht.pending _ peer frame hp (.taken hk rfl hstate), ?_⟩
  by_cases hret : (t.setTask k state).Retired task.peer
  · exact Or.inl hret
  · refine Or.inr fun frame' hf => ?_
    cases hf with
    | latest hmade hlatest =>
        obtain rfl := Option.some.inj (hp.symm.trans hmade)
        exact ht.newer k task peer frame frame' hk hstate hp hlatest
    | @taken j task' hj hpeer hstate' =>
        rw [getElem?_setTask] at hj
        obtain ⟨task₀, hj₀, rfl⟩ := Option.map_eq_some_iff.mp hj
        split_ifs at hpeer hstate' with hkj
        · exact absurd hstate' (hconv frame')
        · -- there is no other sampler
          exact absurd (ht.single task.peer k j task task₀ hret hk hj₀ rfl hpeer
            (by rw [hstate]; rfl) (by rw [hstate']; rfl)) hkj

end PeerTable

end SmartTraffic
