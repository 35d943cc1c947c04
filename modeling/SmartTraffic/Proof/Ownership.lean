import SmartTraffic.Server.Change
import SmartTraffic.Lib.Run

/-!
# Frame ownership

A frame passes two checks that inference lies between: its sender is validated
when the frame is put into its slot, and again when the result is published. In
the meantime sessions are created, evicted and removed, and sockets replaced.

What carries the argument is the list of issued tokens. A token is issued once,
for one node and one direction (`Registry`), and every frame in a slot or in
flight was sent under an issued token of the direction it is filed under. So the
session that the second check finds is the one that sent the frame.
-/

namespace SmartTraffic.Proof

open SmartTraffic Lib

/-! ## The registry of tokens -/

/-- The packet's token was issued for the node and the direction. -/
def IssuedFor (s : Server) (p : Packet) (node d : String) : Prop :=
  ∃ token, p.sessionToken = .str token ∧ ⟨token, node, d⟩ ∈ s.issued

/-- The packet names the direction, and its token was issued for it. -/
def Traced (s : Server) (d : String) (p : Packet) : Prop :=
  p.direction = .str d ∧ ∃ node, IssuedFor s p node d

/-- The invariant of the server. -/
structure Registry (s : Server) : Prop where
  timeout : 0 ≤ s.sessions.timeoutSec
  /-- A token is issued once. -/
  unique : ∀ a ∈ s.issued, ∀ b ∈ s.issued, a.token = b.token → a = b
  /-- The token of a session was issued for its node and its direction. -/
  session : ∀ node session, s.sessions.sessions.get? node = some session →
    ⟨session.sessionToken, node, session.cameraDirection⟩ ∈ s.issued
  sound : SoundSessions s
  /-- Frames in slots and in flight are traced to an issued token. -/
  slot : ∀ d p, s.latestFrames.get? d = some p → Traced s d p
  flight : ∀ p ∈ s.inFlight, ∃ d, Traced s d p

/-- The token that the stretch draws has not been issued yet. -/
def FreshToken (s : Server) (i : Reading × Action) : Prop := ∀ a ∈ s.issued, a.token ≠ i.1.uuid

theorem issuedFor_unique {s : Server} (h : Registry s) {p : Packet} {node node' d d' : String}
    (hp : IssuedFor s p node d) (hp' : IssuedFor s p node' d') : node = node' ∧ d = d' := by
  obtain ⟨token, htoken, hmem⟩ := hp
  obtain ⟨token', htoken', hmem'⟩ := hp'
  obtain rfl := Json.str.inj (htoken.symm.trans htoken')
  have heq := h.unique _ hmem _ hmem' rfl
  exact ⟨congrArg Issue.nodeId heq, congrArg Issue.direction heq⟩

/-- An owned packet carries a token of its owner. -/
theorem issuedFor_of_owned {s : Server} (h : Registry s) {now : Rat} {node d : String} {p : Packet}
    (howned : Owned s now node d p) : IssuedFor s p node d := by
  obtain ⟨-, session, hget, -, htoken, rfl⟩ := howned
  exact ⟨session.sessionToken, htoken, h.session node session hget⟩

theorem issuedFor_mono {s s' : Server} (h : ∀ a ∈ s.issued, a ∈ s'.issued) {p : Packet}
    {node d : String} (hp : IssuedFor s p node d) : IssuedFor s' p node d := by
  obtain ⟨token, htoken, hmem⟩ := hp
  exact ⟨token, htoken, h _ hmem⟩

theorem traced_mono {s s' : Server} (h : ∀ a ∈ s.issued, a ∈ s'.issued) {d : String} {p : Packet}
    (hp : Traced s d p) : Traced s' d p := by
  obtain ⟨hdir, node, hissued⟩ := hp
  exact ⟨hdir, node, issuedFor_mono h hissued⟩

/-- A session that keeps its identity keeps what the registry says of it. -/
theorem session_of_identity {s : Server} (h : Registry s) {node : String}
    {session session' : NodeSession} (hget : s.sessions.sessions.get? node = some session)
    (hid : session.identity = session'.identity) :
    ⟨session'.sessionToken, node, session'.cameraDirection⟩ ∈ s.issued
      ∧ session'.cameraDirection ∈ directions ∧ 0 ≤ session'.heartbeatTimeoutSec := by
  simp only [NodeSession.identity, Prod.mk.injEq] at hid
  obtain ⟨-, htoken, hdir, htimeout⟩ := hid
  have hold := h.session node session hget
  obtain ⟨hmem, hpos⟩ := h.sound node session hget
  rw [← htoken, ← hdir, ← htimeout]
  exact ⟨hold, hmem, hpos⟩

theorem session_of_retains {s s' : Server} (h : Registry s) (hr : Retains s.sessions s'.sessions)
    {node : String} {session' : NodeSession}
    (hget : s'.sessions.sessions.get? node = some session') :
    ⟨session'.sessionToken, node, session'.cameraDirection⟩ ∈ s.issued
      ∧ session'.cameraDirection ∈ directions ∧ 0 ≤ session'.heartbeatTimeoutSec := by
  obtain ⟨session, hs, hid⟩ := hr node session' hget
  exact session_of_identity h hs hid

/--
The registry is kept where no token is issued, the sessions are retained, and the
frames in slots and in flight are traced to tokens issued before.
-/
theorem registry_of_retains {s s' : Server} (h : Registry s)
    (hr : Retains s.sessions s'.sessions) (ht : s'.sessions.timeoutSec = s.sessions.timeoutSec)
    (hissued : s'.issued = s.issued)
    (hslot : ∀ d p, s'.latestFrames.get? d = some p → Traced s d p)
    (hflight : ∀ p ∈ s'.inFlight, ∃ d, Traced s d p) : Registry s' := by
  have hi : ∀ a ∈ s.issued, a ∈ s'.issued := fun a ha => by rw [hissued]; exact ha
  refine ⟨by rw [ht]; exact h.timeout, by rw [hissued]; exact h.unique,
    fun node session' hget => hi _ (session_of_retains h hr hget).1,
    fun node session' hget => (session_of_retains h hr hget).2,
    fun d p hget => traced_mono hi (hslot d p hget), fun p hp => ?_⟩
  obtain ⟨d, hd⟩ := hflight p hp
  exact ⟨d, traced_mono hi hd⟩

theorem registry_calm {s s' : Server} (h : Registry s) (hc : Calm s s') : Registry s' := by
  refine registry_of_retains h hc.sessions hc.timeout hc.issued (fun d p hslot => ?_)
    fun p hp => h.flight p (hc.flight p hp)
  rw [hc.slots] at hslot
  exact h.slot d p hslot

/-- **A fresh token keeps the registry.** -/
theorem registry_create {s s' : Server} {r : Reading} {node d : String} (h : Registry s)
    (hfresh : ∀ a ∈ s.issued, a.token ≠ r.uuid) (hc : Creates r node d s s') : Registry s' := by
  have hi : ∀ a ∈ s.issued, a ∈ s'.issued := fun a ha => by
    rw [hc.issued]; exact List.mem_cons_of_mem _ ha
  have hsession : ∀ n session', s'.sessions.sessions.get? n = some session' →
      ⟨session'.sessionToken, n, session'.cameraDirection⟩ ∈ s'.issued
        ∧ session'.cameraDirection ∈ directions ∧ 0 ≤ session'.heartbeatTimeoutSec := by
    intro n session' hget
    rcases hc.sessions n session' hget with ⟨rfl, hid⟩ | ⟨session, hs, hid, -⟩
    · simp only [NodeSession.identity, Prod.mk.injEq] at hid
      obtain ⟨-, htoken, hdir, htimeout⟩ := hid
      rw [htoken, hdir, htimeout, hc.issued]
      exact ⟨List.mem_cons_self, hc.direction, h.timeout⟩
    · obtain ⟨hmem, hsound⟩ := session_of_identity h hs hid
      exact ⟨hi _ hmem, hsound⟩
  refine ⟨by rw [hc.timeout]; exact h.timeout, ?_,
    fun n session' hget => (hsession n session' hget).1,
    fun n session' hget => (hsession n session' hget).2, fun d' p hslot => ?_, fun p hp => ?_⟩
  · intro a ha b hb hab
    rw [hc.issued] at ha hb
    rcases List.mem_cons.mp ha with rfl | ha
    · rcases List.mem_cons.mp hb with rfl | hb
      · rfl
      · exact absurd hab.symm (hfresh b hb)
    · rcases List.mem_cons.mp hb with rfl | hb
      · exact absurd hab (hfresh a ha)
      · exact h.unique a ha b hb hab
  · rw [hc.slots] at hslot
    exact traced_mono hi (h.slot d' p hslot)
  · obtain ⟨d', hd⟩ := h.flight p (hc.flight p hp)
    exact ⟨d', traced_mono hi hd⟩

/-- **An admitted frame is traced to its owner.** -/
theorem registry_admit {s s' : Server} {r : Reading} {d : String} {p : Packet} (h : Registry s)
    (ha : Admits r d p s s') : Registry s' := by
  refine registry_of_retains h ha.sessions ha.timeout ha.issued (fun d' p' hslot => ?_)
    fun p hp => h.flight p (ha.flight p hp)
  rw [ha.slots] at hslot
  by_cases hd : d' = d
  · subst hd
    rw [Dict.get?_set_self] at hslot
    obtain rfl := Option.some.inj hslot
    obtain ⟨node, -, session, hget, -, htoken, hdir⟩ := ha.owned
    refine ⟨ha.direction, node, session.sessionToken, htoken, ?_⟩
    rw [← hdir]
    exact (session_of_retains h ha.sessions hget).1
  · rw [Dict.get?_set_of_ne _ _ hd] at hslot
    exact h.slot d' p' hslot

theorem registry_take {s s' : Server} (h : Registry s) (ht : Takes s s') : Registry s' := by
  refine registry_of_retains h (retains_of_sessions_eq (by rw [ht.sessions]))
    (by rw [ht.sessions]) ht.issued (fun d p hslot => ?_) fun p hp => ?_
  · rw [ht.slots] at hslot
    nomatch hslot
  · -- a frame that is taken was traced in its slot
    obtain ⟨d, hd⟩ := (Dict.mem_values_iff _).mp (ht.flight p hp)
    exact ⟨d, h.slot d p hd⟩

theorem registry_commit {s s' : Server} {r : Reading} {d : String} {p : Packet} (h : Registry s)
    (hc : Commits r d p s s') : Registry s' := by
  refine registry_of_retains h (retains_of_sessions_eq (by rw [hc.sessions]))
    (by rw [hc.sessions]) hc.issued (fun d' p' hslot => ?_)
    fun p hp => h.flight p (hc.flight p hp)
  rw [hc.slots] at hslot
  exact h.slot d' p' hslot

/-- **Every stretch keeps the registry.** -/
theorem registry_step (py : Python) (s : Server) (i : Reading × Action) (h : Registry s)
    (hfresh : FreshToken s i) : Registry (s.step py i).1 := by
  rcases step_cases h.sound i with
    ⟨hc, -⟩ | ⟨node, d, hc, -⟩ | ⟨d, p, ha, -⟩ | ⟨ht, -⟩ | ⟨d, p, hc, -⟩
  · exact registry_calm h hc
  · exact registry_create h hfresh hc
  · exact registry_admit h ha
  · exact registry_take h ht
  · exact registry_commit h hc

/-! ## Fresh tokens -/

/-- A server at its start: nobody is registered and no frame has come in. -/
structure Initial (s : Server) : Prop where
  timeout : 0 ≤ s.sessions.timeoutSec
  sessions : s.sessions.sessions = ∅
  slots : s.latestFrames = ∅
  flight : s.inFlight = []
  issued : s.issued = []

theorem registry_init {s : Server} (h : Initial s) : Registry s := by
  refine ⟨h.timeout, fun a ha => ?_, fun node session hget => ?_, fun node session hget => ?_,
    fun d p hslot => ?_, fun p hp => ?_⟩
  · rw [h.issued] at ha; exact absurd ha List.not_mem_nil
  · rw [h.sessions] at hget; nomatch hget
  · rw [h.sessions] at hget; nomatch hget
  · rw [h.slots] at hslot; nomatch hslot
  · rw [h.flight] at hp; exact absurd hp List.not_mem_nil

theorem soundTable_init {s : Server} (h : Initial s) : SoundTable s :=
  ⟨(registry_init h).sound, h.timeout⟩

/-- A stretch issues no token but the one it draws. -/
theorem issued_step {py : Python} {s : Server} (h : Registry s) (i : Reading × Action) :
    (∀ a ∈ s.issued, a ∈ (s.step py i).1.issued)
      ∧ ∀ a ∈ (s.step py i).1.issued, a ∈ s.issued ∨ a.token = i.1.uuid := by
  rcases step_cases h.sound i with
    ⟨hc, -⟩ | ⟨node, d, hc, -⟩ | ⟨d, p, ha, -⟩ | ⟨ht, -⟩ | ⟨d, p, hc, -⟩
  · rw [hc.issued]; exact ⟨fun _ ha => ha, fun _ ha => Or.inl ha⟩
  · rw [hc.issued]
    refine ⟨fun a ha => List.mem_cons_of_mem _ ha, fun a ha => ?_⟩
    rcases List.mem_cons.mp ha with rfl | ha
    · exact Or.inr rfl
    · exact Or.inl ha
  · rw [ha.issued]; exact ⟨fun _ ha => ha, fun _ ha => Or.inl ha⟩
  · rw [ht.issued]; exact ⟨fun _ ha => ha, fun _ ha => Or.inl ha⟩
  · rw [hc.issued]; exact ⟨fun _ ha => ha, fun _ ha => Or.inl ha⟩

/-- **When no token is drawn twice, every stretch draws one that has not been issued.** -/
theorem fresh_of_nodup (py : Python) {s : Server} {run : List (Reading × Action)} (h : Registry s)
    (hnew : ∀ a ∈ s.issued, a.token ∉ run.map (·.1.uuid)) (hnodup : (run.map (·.1.uuid)).Nodup) :
    ∀ e ∈ events (Server.step py) s run, FreshToken e.pre e.input := by
  induction run generalizing s with
  | nil => intro e he; exact absurd he List.not_mem_nil
  | cons i run ih =>
      obtain ⟨hi, hrest⟩ := List.nodup_cons.mp hnodup
      have hfresh : FreshToken s i := by
        intro a ha heq
        exact hnew a ha (heq ▸ List.mem_cons_self)
      intro e he
      rcases List.mem_cons.mp he with rfl | he
      · exact hfresh
      · refine ih (registry_step py s i h hfresh) (fun a ha hmem => ?_) hrest e he
        rcases (issued_step h i).2 a ha with hold | hdrawn
        · exact hnew a hold (List.mem_cons_of_mem _ hmem)
        · rw [hdrawn] at hmem
          exact hi hmem

/-! ## Where a frame comes from -/

/-- **A frame is new in a slot only when it is admitted.** -/
theorem slot_step {py : Python} {s : Server} (h : Registry s) (i : Reading × Action) {d : String}
    {p : Packet} (hslot : (s.step py i).1.latestFrames.get? d = some p) :
    s.latestFrames.get? d = some p ∨ (s.step py i).2 = some (.admitted d p) := by
  rcases step_cases h.sound i with
    ⟨hc, -⟩ | ⟨node, d', hc, -⟩ | ⟨d', p', ha, heff⟩ | ⟨ht, -⟩ | ⟨d', p', hc, -⟩
  · exact Or.inl (hc.slots ▸ hslot)
  · exact Or.inl (hc.slots ▸ hslot)
  · rw [ha.slots] at hslot
    by_cases hd : d = d'
    · subst hd
      rw [Dict.get?_set_self] at hslot
      obtain rfl := Option.some.inj hslot
      exact Or.inr heff
    · rw [Dict.get?_set_of_ne _ _ hd] at hslot
      exact Or.inl hslot
  · rw [ht.slots] at hslot; nomatch hslot
  · exact Or.inl (hc.slots ▸ hslot)

/-- **What is in flight was in flight before, or the coordinator takes it from its slot.** -/
theorem flight_step {py : Python} {s : Server} (h : Registry s) (i : Reading × Action) {d : String}
    {p : Packet} (hflight : p ∈ (s.step py i).1.inFlight) (hdir : p.direction = .str d) :
    p ∈ s.inFlight ∨ s.latestFrames.get? d = some p := by
  rcases step_cases h.sound i with
    ⟨hc, -⟩ | ⟨node, d', hc, -⟩ | ⟨d', p', ha, -⟩ | ⟨ht, -⟩ | ⟨d', p', hc, -⟩
  · exact Or.inl (hc.flight p hflight)
  · exact Or.inl (hc.flight p hflight)
  · exact Or.inl (ha.flight p hflight)
  · -- the slot is the one of the direction the frame names
    obtain ⟨d', hslot⟩ := (Dict.mem_values_iff _).mp (ht.flight p hflight)
    obtain rfl := Json.str.inj ((h.slot d' p hslot).1.symm.trans hdir)
    exact Or.inr hslot
  · exact Or.inl (hc.flight p hflight)

/-- The frame waits in the slot of the direction, or is in flight for it. -/
def Held (s : Server) (d : String) (p : Packet) : Prop :=
  s.latestFrames.get? d = some p ∨ p ∈ s.inFlight ∧ p.direction = .str d

/-- A frame that is held was held before, or is admitted in this stretch. -/
theorem held_step {py : Python} {s : Server} (h : Registry s) (i : Reading × Action) {d : String}
    {p : Packet} (hheld : Held (s.step py i).1 d p) :
    Held s d p ∨ (s.step py i).2 = some (.admitted d p) := by
  rcases hheld with hslot | ⟨hflight, hdir⟩
  · exact (slot_step h i hslot).imp_left Or.inl
  · rcases flight_step h i hflight hdir with hold | hslot
    · exact Or.inl (Or.inr ⟨hold, hdir⟩)
    · exact Or.inl (Or.inl hslot)

theorem admitted_owned {py : Python} {s : Server} (h : Registry s) {i : Reading × Action}
    {d : String} {p : Packet} (heff : (s.step py i).2 = some (.admitted d p)) :
    ∃ node, Owned (s.step py i).1 i.1.time node d p := by
  rcases step_cases h.sound i with
    ⟨-, hnone⟩ | ⟨_, _, -, hnone⟩ | ⟨d', p', ha, hsome⟩ | ⟨-, hnone⟩ | ⟨d', p', -, hsome⟩
  · exact absurd (heff.symm.trans hnone) (by simp)
  · exact absurd (heff.symm.trans hnone) (by simp)
  · obtain ⟨rfl, rfl⟩ := Effect.admitted.inj (Option.some.inj (heff.symm.trans hsome))
    exact ha.owned
  · exact absurd (heff.symm.trans hnone) (by simp)
  · exact absurd (heff.symm.trans hsome) (by simp)

theorem committed_commits {py : Python} {s : Server} (h : Registry s) {i : Reading × Action}
    {d : String} {p : Packet} (heff : (s.step py i).2 = some (.committed d p)) :
    Commits i.1 d p s (s.step py i).1 := by
  rcases step_cases h.sound i with
    ⟨-, hnone⟩ | ⟨_, _, -, hnone⟩ | ⟨d', p', -, hsome⟩ | ⟨-, hnone⟩ | ⟨d', p', hc, hsome⟩
  · exact absurd (heff.symm.trans hnone) (by simp)
  · exact absurd (heff.symm.trans hnone) (by simp)
  · exact absurd (heff.symm.trans hsome) (by simp)
  · exact absurd (heff.symm.trans hnone) (by simp)
  · obtain ⟨rfl, rfl⟩ := Effect.committed.inj (Option.some.inj (heff.symm.trans hsome))
    exact hc

/--
**A published frame belongs to the session and the socket of its direction**, and
its token was issued to that node.
-/
theorem owned_of_commits {s s' : Server} {r : Reading} {d : String} {p : Packet} (h : Registry s)
    (hc : Commits r d p s s') : ∃ node, Owned s r.time node d p ∧ IssuedFor s p node d := by
  obtain ⟨node, session, hget, hlive, htoken, hsocket⟩ := hc.current
  obtain ⟨d', hdir, node', hissued⟩ := h.flight p hc.mem
  obtain rfl := Json.str.inj (hdir.symm.trans hc.direction)
  -- the session that is found has the token of the packet, which was issued once
  have hfound : IssuedFor s p node session.cameraDirection :=
    ⟨session.sessionToken, htoken, h.session node session hget⟩
  obtain ⟨rfl, hd⟩ := issuedFor_unique h hfound hissued
  exact ⟨node, ⟨hsocket, session, hget, hlive, htoken, hd⟩, hissued⟩

/-! ## Where a published frame was admitted -/

/-- The frame is held for the direction under a token issued to the node. -/
def HeldFor (s : Server) (node d : String) (p : Packet) : Prop := Held s d p ∧ IssuedFor s p node d

/-- The event admits the frame, and the node owns it then. -/
def AdmittedFor (e : Event Server (Reading × Action) (Option Effect)) (node d : String)
    (p : Packet) : Prop :=
  e.out = some (.admitted d p) ∧ Owned e.post e.input.1.time node d p

theorem held_traced {s : Server} (h : Registry s) {d : String} {p : Packet} (hheld : Held s d p) :
    Traced s d p := by
  rcases hheld with hslot | ⟨hflight, hdir⟩
  · exact h.slot d p hslot
  · obtain ⟨d', hd', hissued⟩ := h.flight p hflight
    obtain rfl := Json.str.inj (hd'.symm.trans hdir)
    exact ⟨hd', hissued⟩

theorem heldFor_step {py : Python} {s : Server} (h : Registry s) {i : Reading × Action}
    (hfresh : FreshToken s i) {node d : String} {p : Packet}
    (hheld : HeldFor (s.step py i).1 node d p) :
    HeldFor s node d p ∨ AdmittedFor (eventOf (Server.step py) s i) node d p := by
  obtain ⟨hframe, hissued⟩ := hheld
  have hnext := registry_step py s i h hfresh
  rcases held_step h i hframe with hold | heff
  · -- the token was issued before, and only to one node
    obtain ⟨-, node', hissued'⟩ := held_traced h hold
    obtain ⟨rfl, -⟩ := issuedFor_unique hnext hissued (issuedFor_mono (issued_step h i).1 hissued')
    exact Or.inl ⟨hold, hissued'⟩
  · obtain ⟨node', howned⟩ := admitted_owned h heff
    obtain ⟨rfl, -⟩ := issuedFor_unique hnext hissued (issuedFor_of_owned hnext howned)
    exact Or.inr ⟨heff, howned⟩

/-- **A committed frame was admitted before, for the node that owns it now.** -/
theorem committed_origin {py : Python} {s : Server} {before : List (Reading × Action)}
    {i : Reading × Action} (hs : Initial s)
    (hfresh : ∀ e ∈ events (Server.step py) s before, FreshToken e.pre e.input) {d : String}
    {p : Packet}
    (heff : ((final (Server.step py) s before).step py i).2 = some (.committed d p)) :
    (final (Server.step py) s before).systemRunning = true
      ∧ ∃ node, Owned (final (Server.step py) s before) i.1.time node d p
        ∧ ∃ e ∈ events (Server.step py) s before, AdmittedFor e node d p := by
  have hreg : Registry (final (Server.step py) s before) :=
    final_invariant (registry_step py) (registry_init hs) hfresh
  have hc := committed_commits hreg heff
  obtain ⟨node, howned, hissued⟩ := owned_of_commits hreg hc
  have hheld : HeldFor (final (Server.step py) s before) node d p :=
    ⟨Or.inr ⟨hc.mem, hc.direction⟩, hissued⟩
  refine ⟨hc.running, node, howned, ?_⟩
  -- nothing is held at the start, so the frame was admitted on the way
  rcases final_origin (HeldFor · node d p) (AdmittedFor · node d p) (registry_step py)
    (fun _ _ h hf hh => heldFor_step h hf hh) (registry_init hs) hfresh hheld with
    ⟨hstart | ⟨hstart, -⟩, -⟩ | horigin
  · rw [hs.slots] at hstart; nomatch hstart
  · rw [hs.flight] at hstart; exact absurd hstart List.not_mem_nil
  · exact horigin

/-! ## A camera that is replaced or removed -/

/-- The packet's token has been issued. -/
def Known (s : Server) (p : Packet) : Prop := ∃ a ∈ s.issued, p.sessionToken = .str a.token

/-- The session that sent the packet is in the table, and its socket is that node's connection. -/
def Current (s : Server) (p : Packet) : Prop :=
  ∃ node session, s.sessions.sessions.get? node = some session
    ∧ p.sessionToken = .str session.sessionToken
    ∧ s.activeConnections.get? node = some p.ownerSocket

theorem current_of_retains {s s' : Server} (hr : Retains s.sessions s'.sessions)
    (hconn : s.activeConnections.Shrinks s'.activeConnections) {p : Packet} (h : Current s' p) :
    Current s p := by
  obtain ⟨node, session', hget, htoken, hsocket⟩ := h
  obtain ⟨session, hs, hid⟩ := hr node session' hget
  simp only [NodeSession.identity, Prod.mk.injEq] at hid
  exact ⟨node, session, hs, by rw [hid.2.1]; exact htoken, hconn node _ hsocket⟩

/-- **What has stopped being current never is again**: its token is not issued a second time. -/
theorem current_step {py : Python} {s : Server} (h : Registry s) {i : Reading × Action}
    (hfresh : FreshToken s i) {p : Packet} (hknown : Known s p) (hcur : Current (s.step py i).1 p) :
    Current s p := by
  rcases step_cases h.sound i with
    ⟨hc, -⟩ | ⟨node, d, hc, -⟩ | ⟨d, q, ha, -⟩ | ⟨ht, -⟩ | ⟨d, q, hc, -⟩
  · exact current_of_retains hc.sessions hc.connections hcur
  · obtain ⟨n, session', hget, htoken, hsocket⟩ := hcur
    rcases hc.sessions n session' hget with ⟨-, hid⟩ | ⟨session, hs, hid, hn⟩
    · -- the new session has the token just drawn
      simp only [NodeSession.identity, Prod.mk.injEq] at hid
      obtain ⟨a, hmem, hp⟩ := hknown
      have heq : a.token = i.1.uuid := by
        rw [← hid.2.1]
        exact Json.str.inj (hp.symm.trans htoken)
      exact absurd heq (hfresh a hmem)
    · simp only [NodeSession.identity, Prod.mk.injEq] at hid
      exact ⟨n, session, hs, by rw [hid.2.1]; exact htoken, hc.connections n _ hn hsocket⟩
  · exact current_of_retains ha.sessions ha.connections hcur
  · refine current_of_retains (retains_of_sessions_eq (by rw [ht.sessions])) ?_ hcur
    rw [ht.connections]; exact Dict.shrinks_refl _
  · refine current_of_retains (retains_of_sessions_eq (by rw [hc.sessions])) ?_ hcur
    rw [hc.connections]; exact Dict.shrinks_refl _

theorem known_step {py : Python} {s : Server} (h : Registry s) (i : Reading × Action) {p : Packet}
    (hknown : Known s p) : Known (s.step py i).1 p := by
  obtain ⟨a, hmem, htoken⟩ := hknown
  exact ⟨a, (issued_step h i).1 a hmem, htoken⟩

/-- The later event does not publish what the earlier one leaves without session or socket. -/
def NeverAgain (e e' : Event Server (Reading × Action) (Option Effect)) : Prop :=
  ∀ d p, Known e.post p → ¬Current e.post p → e'.out ≠ some (.committed d p)

theorem neverAgain_rule (py : Python) : SinceRule (Server.step py) (fun _ => (0 : Nat)) Registry
    FreshToken (fun e s _ => ∀ p, Known e.post p → ¬Current e.post p → Known s p ∧ ¬Current s p)
    NeverAgain where
  inv s i h hfresh := registry_step py s i h hfresh
  establish _ _ _ _ := fun _ hknown hcur => ⟨hknown, hcur⟩
  keep e s c i h hfresh _ hs := by
    intro p hknown hcur
    obtain ⟨hk, hc⟩ := hs p hknown hcur
    exact ⟨known_step h i hk, fun hcur' => hc (current_step h hfresh hk hcur')⟩
  relate e s c i h _ _ hs := by
    intro d p hknown hcur heff
    obtain ⟨-, hc⟩ := hs p hknown hcur
    obtain ⟨node, session, hget, -, htoken, hsocket⟩ := (committed_commits h heff).current
    exact hc ⟨node, session, hget, htoken, hsocket⟩

/-! ## The law -/

/-- Frame ownership in a run from `s`. -/
structure FrameOwnership (py : Python) (s : Server) (run : List (Reading × Action)) : Prop where
  /-- A frame is new in a slot only when it is admitted. -/
  slots : ∀ e ∈ events (Server.step py) s run, ∀ d p, e.post.latestFrames.get? d = some p →
    e.pre.latestFrames.get? d = some p ∨ e.out = some (.admitted d p)
  /--
  When it is admitted, its socket is the connection of a node whose live session
  has its token and its direction.
  -/
  admitted : ∀ e ∈ events (Server.step py) s run, ∀ d p, e.out = some (.admitted d p) →
    ∃ node, Owned e.post e.input.1.time node d p
  /-- The tables are written by commits only, under the direction of the committed frame. -/
  tables : ∀ e ∈ events (Server.step py) s run, ∀ k,
    (∀ jpeg, e.post.frameBuffer.get? k = some jpeg → e.pre.frameBuffer.get? k = some jpeg
        ∨ ∃ d p, e.out = some (.committed d p) ∧ (k = d ∨ k = "active"))
      ∧ (∀ t, e.post.frameUpdatedAt.get? k = some t → e.pre.frameUpdatedAt.get? k = some t
        ∨ ∃ p, e.out = some (.committed k p))
      ∧ ∀ v, e.post.liveTelemetry.get? k = some v → e.pre.liveTelemetry.get? k = some v
        ∨ ∃ p, e.out = some (.committed k p)
  /--
  When a frame is committed, the system runs, and the session and the socket
  under which it was admitted before are still current.
  -/
  committed : ∀ before i rest, run = before ++ i :: rest → ∀ d p,
    ((final (Server.step py) s before).step py i).2 = some (.committed d p) →
      (final (Server.step py) s before).systemRunning = true
        ∧ ∃ node, Owned (final (Server.step py) s before) i.1.time node d p
          ∧ ∃ e ∈ events (Server.step py) s before, AdmittedFor e node d p
  /-- Once its session is gone or its socket replaced, a frame is never committed again. -/
  neverAgain : (events (Server.step py) s run).Pairwise NeverAgain

theorem tables_step {py : Python} {s : Server} (h : Registry s) (i : Reading × Action)
    (k : String) :
    (∀ jpeg, (s.step py i).1.frameBuffer.get? k = some jpeg → s.frameBuffer.get? k = some jpeg
        ∨ ∃ d p, (s.step py i).2 = some (.committed d p) ∧ (k = d ∨ k = "active"))
      ∧ (∀ t, (s.step py i).1.frameUpdatedAt.get? k = some t → s.frameUpdatedAt.get? k = some t
        ∨ ∃ p, (s.step py i).2 = some (.committed k p))
      ∧ ∀ v, (s.step py i).1.liveTelemetry.get? k = some v → s.liveTelemetry.get? k = some v
        ∨ ∃ p, (s.step py i).2 = some (.committed k p) := by
  have hunpublished : Unpublished s (s.step py i).1 ∨ ∃ d p,
      Commits i.1 d p s (s.step py i).1 ∧ (s.step py i).2 = some (.committed d p) := by
    rcases step_cases h.sound i with
      ⟨hc, -⟩ | ⟨node, d, hc, -⟩ | ⟨d, p, ha, -⟩ | ⟨ht, -⟩ | hc
    · exact Or.inl hc.tables
    · exact Or.inl hc.tables
    · exact Or.inl ha.tables
    · exact Or.inl ht.tables
    · exact Or.inr hc
  rcases hunpublished with hu | ⟨d, p, hc, heff⟩
  · exact ⟨fun v hv => Or.inl (hu.frameBuffer k v hv),
      fun v hv => Or.inl (hu.frameUpdatedAt k v hv), fun v hv => Or.inl (hu.liveTelemetry k v hv)⟩
  · refine ⟨fun v hv => ?_, fun v hv => ?_, fun v hv => ?_⟩
    · by_cases hk : k = d ∨ k = "active"
      · exact Or.inr ⟨d, p, heff, hk⟩
      · obtain ⟨hd, ha⟩ := not_or.mp hk
        exact Or.inl ((hc.frameBuffer k hd ha).symm.trans hv)
    · by_cases hk : k = d
      · exact Or.inr ⟨p, hk ▸ heff⟩
      · exact Or.inl ((hc.frameUpdatedAt k hk).symm.trans hv)
    · by_cases hk : k = d
      · exact Or.inr ⟨p, hk ▸ heff⟩
      · exact Or.inl ((hc.liveTelemetry k hk).symm.trans hv)

/--
**Frames belong to their cameras, from the slot to the published tables.**

In every run of the event loop from its start, over any messages on any sockets,
submitted frames, registrations, expiries, lost sockets, operator commands and
batches, with any clock readings, as long as no token is drawn twice.
-/
theorem frame_ownership (py : Python) (s : Server) (run : List (Reading × Action))
    (hs : Initial s) (hnodup : (run.map (·.1.uuid)).Nodup) : FrameOwnership py s run := by
  have hinit := registry_init hs
  have hnew : ∀ a ∈ s.issued, a.token ∉ run.map (·.1.uuid) := by
    intro a ha
    rw [hs.issued] at ha
    exact absurd ha List.not_mem_nil
  have hfresh := fresh_of_nodup py hinit hnew hnodup
  have hreg : ∀ e ∈ events (Server.step py) s run, Registry e.pre :=
    fun e he => (events_invariant (registry_step py) hinit hfresh e he).1
  refine ⟨fun e he d p hslot => ?_, fun e he d p heff => ?_, fun e he k => ?_, ?_, ?_⟩
  · have hpre := hreg e he
    obtain ⟨before, i, rest, -, rfl⟩ := (mem_events_iff _).mp he
    exact slot_step hpre i hslot
  · have hpre := hreg e he
    obtain ⟨before, i, rest, -, rfl⟩ := (mem_events_iff _).mp he
    exact admitted_owned hpre heff
  · have hpre := hreg e he
    obtain ⟨before, i, rest, -, rfl⟩ := (mem_events_iff _).mp he
    exact tables_step hpre i k
  · rintro before i rest rfl d p heff
    rw [events_append] at hfresh
    exact committed_origin hs (fun e he => hfresh e (List.mem_append_left _ he)) heff
  · exact (neverAgain_rule py).pairwise hinit
      (List.pairwise_map.mpr (List.pairwise_of_forall fun _ _ => le_rfl)) hfresh

/-- Text functions that leave a text as it is, as Python's do with small ASCII letters. -/
def plainPython : Python where
  lower := id
  lower_ascii _ _ := rfl
  upper := id
  capitalize := id
  str _ := ""
  readsFloat _ := true
  validationError _ := ""

/-- A reading at time `t` that draws the token `uuid`. -/
def readingAt (t : Rat) (uuid : String) : Reading := { time := t, monotonic := t, uuid := uuid }

/-- A camera is paired for the north, registers and sends a frame, which is published. -/
def sampleRun : List (Reading × Action) :=
  [(readingAt 0 "t0", .registerPairing "north" ⟨"CAM-1", "secret", 300⟩),
   (readingAt 1 "t1", .message (.obj [("type", .str "REGISTER_CAMERA"), ("token", .str "secret"),
      ("payload", .obj [("node_id", .str "CAM-1"), ("camera_direction", .str "north")])]) 7),
   (readingAt 2 "t2", .message (.obj [("type", .str "VIDEO_FRAME"),
      ("payload", .obj [("node_id", .str "CAM-1"), ("session_token", .str "t1"),
        ("direction", .str "north"), ("frame_data", .str "x"), ("frame_id", .str "1")])]) 7),
   (readingAt 3 "t3", .takeBatch),
   (readingAt 4 "t4", .batchDone [.processed { jpeg := [], telemetry := ∅ }]),
   (readingAt 5 "t5", .commit)]

example : (final (Server.step plainPython) {} sampleRun).liveTelemetry.keys = ["north"] := by
  decide +kernel

theorem frame_ownership_north : FrameOwnership plainPython {} sampleRun :=
  frame_ownership plainPython {} sampleRun ⟨by decide, rfl, rfl, rfl, rfl⟩ (by decide)

end SmartTraffic.Proof
