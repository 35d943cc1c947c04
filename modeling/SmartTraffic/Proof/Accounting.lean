import SmartTraffic.Server.Intake
import SmartTraffic.Proof.Ownership

/-!
# Accounting for frames

Every frame that is received waits in a slot, is in flight, or has been counted
as processed, dropped or undecodable: that is what the counters are for. Four
stretches forget a frame. The worker returns nothing for one that went stale on
the way, `process_batch` raises, the check before a commit raises, and a
timestamp overflows after the frame has been counted.

What is forgotten is never found again, so `deficit` only grows, and the books
balance in every state of a run exactly when none of its stretches forgets a
frame.
-/

namespace SmartTraffic.Proof

open SmartTraffic Lib

/-- The frames that the counters, the slots and the batch in flight account for. -/
def accounted (s : Server) : Nat :=
  s.stageCounters.processed + s.stageCounters.dropped + s.stageCounters.decodeFailed
    + s.latestFrames.size + s.inFlight.length

/-- Every received frame is accounted for. -/
def Balanced (s : Server) : Prop := s.stageCounters.received = accounted s

instance (s : Server) : Decidable (Balanced s) := inferInstanceAs (Decidable (_ = _))

/-- The received frames that nothing accounts for. -/
def deficit (s : Server) : Int := s.stageCounters.received - accounted s

theorem balanced_iff {s : Server} : Balanced s ↔ deficit s = 0 := by
  unfold Balanced deficit
  omega

/-! ## Where frames are forgotten -/

/-- The outcome is counted by the worker. -/
def PacketOutcome.isCounted : PacketOutcome → Bool
  | .dropped => true
  | .decodeFailed => true
  | _ => false

/-- The outcome is counted by the worker, or there is a result to commit. -/
def PacketOutcome.isSettled : PacketOutcome → Bool
  | .noResult => false
  | _ => true

/-- The next result is checked, and the id of its sender cannot be looked up. -/
def CommitRaises (s : Server) : Prop :=
  s.systemRunning = true ∧ ∃ packet result results,
    s.coordinator = .committing ((packet, result) :: results) ∧ packet.nodeId.hashable = false

/-- The stretch forgets a frame. -/
def Forgets (py : Python) (s : Server) (i : Reading × Action) : Prop :=
  match i.2 with
  | .message _ _ =>
      -- a timestamp overflows, and no older frame makes up for it
      ∃ d, FailsAtDoor py s i d ∧ s.latestFrames.contains d = false
  | .batchDone outcomes =>
      -- the worker returned nothing for some packet
      ∃ packets, s.coordinator = .inferring packets
        ∧ (outcomes.take packets.length).countP PacketOutcome.isSettled < packets.length
  | .batchRaises counted =>
      ∃ packets, s.coordinator = .inferring packets
        ∧ (counted.take packets.length).countP PacketOutcome.isCounted < packets.length
  | .commit => CommitRaises s
  | _ => False

/-! ## The worker's counters -/

theorem afterBatch_counts (c : StageCounters) (outcomes : List PacketOutcome) :
    (Server.StageCounters.afterBatch c outcomes).received = c.received
      ∧ (Server.StageCounters.afterBatch c outcomes).processed = c.processed
      ∧ (Server.StageCounters.afterBatch c outcomes).dropped
          + (Server.StageCounters.afterBatch c outcomes).decodeFailed
        = c.dropped + c.decodeFailed + outcomes.countP PacketOutcome.isCounted := by
  unfold Server.StageCounters.afterBatch
  induction outcomes generalizing c with
  | nil => exact ⟨rfl, rfl, rfl⟩
  | cons outcome outcomes ih =>
      rw [List.foldl_cons, List.countP_cons]
      cases outcome with
      | dropped =>
          obtain ⟨hreceived, hprocessed, hsum⟩ := ih { c with dropped := c.dropped + 1 }
          exact ⟨hreceived, hprocessed, by rw [hsum]; simp [PacketOutcome.isCounted]; omega⟩
      | decodeFailed =>
          obtain ⟨hreceived, hprocessed, hsum⟩ := ih { c with decodeFailed := c.decodeFailed + 1 }
          exact ⟨hreceived, hprocessed, by rw [hsum]; simp [PacketOutcome.isCounted]; omega⟩
      | noResult =>
          obtain ⟨hreceived, hprocessed, hsum⟩ := ih c
          exact ⟨hreceived, hprocessed, by rw [hsum]; simp [PacketOutcome.isCounted]⟩
      | processed result =>
          obtain ⟨hreceived, hprocessed, hsum⟩ := ih { c with decoded := c.decoded + 1 }
          exact ⟨hreceived, hprocessed, by rw [hsum]; simp [PacketOutcome.isCounted]⟩

/-- What is settled is counted or has a result. -/
theorem countP_isSettled (packets : List Packet) (outcomes : List PacketOutcome) :
    (outcomes.take packets.length).countP PacketOutcome.isSettled
      = (outcomes.take packets.length).countP PacketOutcome.isCounted
        + (Server.resultsOf packets outcomes).length := by
  induction packets generalizing outcomes with
  | nil => simp [Server.resultsOf]
  | cons packet packets ih =>
      cases outcomes with
      | nil => simp [Server.resultsOf]
      | cons outcome outcomes =>
          have hrest := ih outcomes
          rw [List.length_cons, List.take_succ_cons, List.countP_cons, List.countP_cons,
            resultsOf_cons, List.length_append]
          cases outcome <;> simp [PacketOutcome.isSettled, PacketOutcome.isCounted] <;> omega

/-! ## What a stretch does to the deficit -/

/-- The deficit is a matter of the frames only. -/
theorem deficit_of_flow {s s' : Server} (h : s'.flow = s.flow) : deficit s' = deficit s := by
  simp only [Server.flow, Prod.mk.injEq] at h
  obtain ⟨hslots, hcoord, hcounters⟩ := h
  unfold deficit accounted Server.inFlight
  rw [hslots, hcoord, hcounters]

/-- A frame that comes in is in its slot, or has taken the place of one that is dropped. -/
theorem deficit_admission {s s' : Server} {d : String} {p : Packet}
    (h : s'.flow = (s.latestFrames.set d p, s.coordinator, s.countReceived d)) :
    deficit s' = deficit s := by
  simp only [Server.flow, Prod.mk.injEq] at h
  obtain ⟨hslots, hcoord, hcounters⟩ := h
  unfold deficit accounted Server.inFlight
  rw [hslots, hcoord, hcounters, Dict.size_set]
  unfold Server.countReceived
  cases s.latestFrames.contains d <;> simp <;> omega

theorem deficit_failure {s s' : Server} {d : String}
    (h : s'.flow = (s.latestFrames, s.coordinator, s.countReceived d)) :
    deficit s' = deficit s + if s.latestFrames.contains d then 0 else 1 := by
  simp only [Server.flow, Prod.mk.injEq] at h
  obtain ⟨hslots, hcoord, hcounters⟩ := h
  unfold deficit accounted Server.inFlight
  rw [hslots, hcoord, hcounters]
  unfold Server.countReceived
  cases s.latestFrames.contains d <;> simp <;> omega

theorem deficit_takeBatch (s : Server) : deficit s.takeBatch = deficit s := by
  unfold Server.takeBatch
  cases hc : s.coordinator with
  | inferring packets => rfl
  | committing results => rfl
  | waiting =>
      dsimp only
      split_ifs
      · -- the slots are the batch now
        unfold deficit accounted Server.inFlight
        rw [hc]
        simp [Dict.size, Dict.values, EmptyCollection.emptyCollection, Dict.empty]
      · rfl

theorem deficit_batchDone (s : Server) (outcomes : List PacketOutcome) {packets : List Packet}
    (hc : s.coordinator = .inferring packets) :
    deficit (s.batchDone outcomes) = deficit s
      + (packets.length - (outcomes.take packets.length).countP PacketOutcome.isSettled) := by
  obtain ⟨hreceived, hprocessed, hsum⟩ :=
    afterBatch_counts s.stageCounters (outcomes.take packets.length)
  have hsettled := countP_isSettled packets outcomes
  unfold deficit accounted Server.inFlight Server.batchDone
  rw [hc]
  dsimp only
  rw [hreceived, hprocessed, List.length_map]
  omega

theorem deficit_batchRaises (s : Server) (counted : List PacketOutcome) {packets : List Packet}
    (hc : s.coordinator = .inferring packets) :
    deficit (s.batchRaises counted) = deficit s
      + (packets.length - (counted.take packets.length).countP PacketOutcome.isCounted) := by
  obtain ⟨hreceived, hprocessed, hsum⟩ :=
    afterBatch_counts s.stageCounters (counted.take packets.length)
  unfold deficit accounted Server.inFlight Server.batchRaises
  rw [hc]
  dsimp only [Server.batchFails]
  rw [hreceived, hprocessed, List.length_nil]
  omega

/-- **A commit publishes a frame, drops it, or gives up the rest of the batch.** -/
theorem deficit_commit (s : Server) (r : Reading) :
    (¬CommitRaises s ∧ deficit (s.commit r).1 = deficit s)
      ∨ (CommitRaises s ∧ deficit s < deficit (s.commit r).1) := by
  -- a packet whose session can be looked up does not raise
  have hno : ∀ {packet result results}, s.coordinator = .committing ((packet, result) :: results) →
      (s.systemRunning = true → packet.nodeId.hashable = true) → ¬CommitRaises s := by
    rintro packet result results hc hfine ⟨hrun, packet', result', results', hc', hbad⟩
    obtain ⟨⟨rfl, -⟩, -⟩ := by simpa using hc.symm.trans hc'
    rw [hfine hrun] at hbad
    nomatch hbad
  unfold Server.commit
  cases hc : s.coordinator with
  | waiting => exact Or.inl ⟨fun ⟨_, _, _, _, hc', _⟩ => (nomatch hc.symm.trans hc'), rfl⟩
  | inferring packets =>
      exact Or.inl ⟨fun ⟨_, _, _, _, hc', _⟩ => (nomatch hc.symm.trans hc'), rfl⟩
  | committing results =>
      cases results with
      | nil =>
          refine Or.inl ⟨fun ⟨_, _, _, _, hc', _⟩ => (nomatch hc.symm.trans hc'), ?_⟩
          unfold deficit accounted Server.inFlight
          rw [hc]
          rfl
      | cons head results =>
          obtain ⟨packet, result⟩ := head
          dsimp only
          cases hvalid : s.sessions.validateSession packet.nodeId packet.sessionToken r.time with
          | error e =>
              dsimp only
              split_ifs with hrun
              · -- the error ends the batch, and what is left of it is in no counter
                refine Or.inr ⟨⟨hrun, packet, result, results, hc,
                  validateSession_error_iff.mp ⟨e, hvalid⟩⟩, ?_⟩
                unfold deficit accounted Server.inFlight Server.batchFails
                rw [hc]
                simp
              · -- with the system stopped the frame is dropped, and the batch goes on
                refine Or.inl ⟨hno hc fun h => absurd h hrun, ?_⟩
                unfold deficit accounted Server.inFlight
                rw [hc]
                simp
                omega
          | ok valid =>
              refine Or.inl ⟨hno hc fun _ => ?_, ?_⟩
              · by_contra hbad
                obtain ⟨e, he⟩ := validateSession_error_iff.mpr (by simpa using hbad)
                rw [hvalid] at he
                nomatch he
              · dsimp only
                split
                · -- a published frame is counted as processed
                  unfold deficit accounted Server.inFlight Server.publish
                  rw [hc]
                  simp
                  omega
                · -- a frame that may not be published is counted as dropped
                  unfold deficit accounted Server.inFlight
                  rw [hc]
                  simp
                  omega

/-- What grows by the frames that are left over grows exactly when there are some. -/
theorem grows_iff {a b : Int} {n k : Nat} (h : b = a + (n - k)) (hk : k ≤ n) :
    (¬k < n ∧ b = a) ∨ (k < n ∧ a < b) := by omega

theorem countP_take_le {A : Type} (p : A → Bool) (xs : List A) (n : Nat) :
    (xs.take n).countP p ≤ n := List.countP_le_length.trans (List.length_take_le n xs)

/-- **A batch that ends forgets the packets that its outcomes leave out.** -/
theorem deficit_batch {s s' : Server} {settled : PacketOutcome → Bool}
    {outcomes : List PacketOutcome}
    (hends : ∀ packets, s.coordinator = .inferring packets → deficit s' = deficit s
      + (packets.length - (outcomes.take packets.length).countP settled))
    (hidle : (∀ packets, s.coordinator ≠ .inferring packets) → deficit s' = deficit s) :
    (¬(∃ packets, s.coordinator = .inferring packets
        ∧ (outcomes.take packets.length).countP settled < packets.length)
      ∧ deficit s' = deficit s)
    ∨ (∃ packets, s.coordinator = .inferring packets
        ∧ (outcomes.take packets.length).countP settled < packets.length)
      ∧ deficit s < deficit s' := by
  by_cases hbusy : ∃ packets, s.coordinator = .inferring packets
  · -- the outcomes settle at most as many packets as there are
    obtain ⟨packets, hc⟩ := hbusy
    rcases grows_iff (hends packets hc) (countP_take_le _ _ _) with ⟨hno, h⟩ | ⟨hyes, h⟩
    · refine Or.inl ⟨fun ⟨packets', hc', hlt⟩ => hno ?_, h⟩
      obtain rfl := Coordinator.inferring.inj (hc.symm.trans hc')
      exact hlt
    · exact Or.inr ⟨⟨packets, hc, hyes⟩, h⟩
  · refine Or.inl ⟨fun ⟨packets, hc, _⟩ => hbusy ⟨packets, hc⟩, ?_⟩
    exact hidle fun packets hc => hbusy ⟨packets, hc⟩

theorem failsAtDoor_unique {py : Python} {s : Server} {i : Reading × Action} {d d' : String}
    (h : FailsAtDoor py s i d) (h' : FailsAtDoor py s i d') : d = d' := by
  obtain ⟨rawJson, websocket, frame, hi, hframe, -⟩ := h
  obtain ⟨rawJson', websocket', frame', hi', hframe', -⟩ := h'
  obtain ⟨rfl, rfl⟩ := Action.message.inj (hi.symm.trans hi')
  exact congrArg Prod.fst (Option.some.inj (hframe.symm.trans hframe'))

/-- **A stretch forgets a frame and the deficit grows, or it leaves it alone.** -/
theorem deficit_step (py : Python) {s : Server} (hs : SoundSessions s) (i : Reading × Action) :
    (¬Forgets py s i ∧ deficit (s.step py i).1 = deficit s)
      ∨ (Forgets py s i ∧ deficit s < deficit (s.step py i).1) := by
  cases hi : i.2.ofCoordinator with
  | false =>
      -- only a frame at the door can be forgotten here
      have hforgets : Forgets py s i ↔ ∃ d, FailsAtDoor py s i d
          ∧ s.latestFrames.contains d = false := by
        obtain ⟨r, action⟩ := i
        cases action with
        | message => exact Iff.rfl
        | takeBatch | batchDone | batchRaises | commit => nomatch hi
        | _ => exact iff_of_false id fun ⟨d, ⟨_, _, _, h, _⟩, _⟩ => nomatch h
      rcases step_intake py hs i hi with
        ⟨hno, hflow, -⟩ | ⟨d, p, hno, hflow, -⟩ | ⟨d, hfail, -, hflow⟩
      · exact Or.inl ⟨fun h => (hforgets.mp h).elim fun d h => hno d h.1, deficit_of_flow hflow⟩
      · exact Or.inl ⟨fun h => (hforgets.mp h).elim fun d h => hno d h.1, deficit_admission hflow⟩
      · have hgrow := deficit_failure hflow
        cases hslot : s.latestFrames.contains d with
        | true =>
            -- the frame that stays in the slot has been counted as dropped
            refine Or.inl ⟨fun h => ?_, by rw [hgrow, hslot]; simp⟩
            obtain ⟨d', hfail', hempty⟩ := hforgets.mp h
            rw [failsAtDoor_unique hfail' hfail, hslot] at hempty
            nomatch hempty
        | false =>
            refine Or.inr ⟨hforgets.mpr ⟨d, hfail, hslot⟩, ?_⟩
            rw [hgrow, hslot]
            simp
  | true =>
      obtain ⟨r, action⟩ := i
      cases action with
      | takeBatch => exact Or.inl ⟨id, deficit_takeBatch s⟩
      | commit => exact deficit_commit s r
      | batchDone outcomes =>
          refine deficit_batch (fun packets hc => deficit_batchDone s outcomes hc) fun hno => ?_
          show deficit (s.batchDone outcomes) = _
          unfold Server.batchDone
          split
          · rename_i packets hc; exact absurd hc (hno packets)
          · rfl
      | batchRaises counted =>
          refine deficit_batch (fun packets hc => deficit_batchRaises s counted hc) fun hno => ?_
          show deficit (s.batchRaises counted) = _
          unfold Server.batchRaises
          split
          · rename_i packets hc; exact absurd hc (hno packets)
          · rfl
      | _ => nomatch hi

/-! ## Runs -/

/-- What is forgotten stays forgotten. -/
theorem deficit_run (py : Python) {s : Server} (hs : SoundTable s) (run : List (Reading × Action)) :
    deficit s ≤ deficit (final (Server.step py) s run) := by
  induction run generalizing s with
  | nil => exact le_refl _
  | cons i run ih =>
      rw [final_cons]
      refine le_trans ?_ (ih (sound_step py s i hs))
      rcases deficit_step py hs.sessions i with ⟨-, h⟩ | ⟨-, h⟩
      · exact h.ge
      · exact h.le

/-- **The books balance at the end of a run exactly when no stretch of it forgets a frame.** -/
theorem balanced_final_iff {py : Python} {s : Server} (hs : SoundTable s) (hb : Balanced s)
    (run : List (Reading × Action)) : Balanced (final (Server.step py) s run)
      ↔ ∀ e ∈ events (Server.step py) s run, ¬Forgets py e.pre e.input := by
  induction run generalizing s with
  | nil => exact iff_of_true hb fun e he => absurd he List.not_mem_nil
  | cons i run ih =>
      have hnext := sound_step py s i hs
      rw [final_cons, events_cons, List.forall_mem_cons]
      rcases deficit_step py hs.sessions i with ⟨hno, h⟩ | ⟨hyes, h⟩
      · rw [ih hnext (balanced_iff.mpr (h.trans (balanced_iff.mp hb)))]
        exact (and_iff_right hno).symm
      · have hrun := deficit_run py hnext run
        have hzero := balanced_iff.mp hb
        refine iff_of_false (fun hbal => ?_) fun hall => hall.1 hyes
        have hend := balanced_iff.mp hbal
        omega

/--
**Every received frame is accounted for, in every state, exactly when no stretch
forgets one.** In every run of the event loop from its start, with every counter
at zero.
-/
theorem frames_accounted_iff (py : Python) (s : Server) (hs : Initial s)
    (hcount : s.stageCounters = {}) (run : List (Reading × Action)) :
    (∀ e ∈ events (Server.step py) s run, Balanced e.post)
      ↔ ∀ e ∈ events (Server.step py) s run, ¬Forgets py e.pre e.input := by
  have hsound := soundTable_init hs
  have hb : Balanced s := by
    unfold Balanced accounted
    rw [hcount, hs.slots, hs.flight]
    rfl
  constructor
  · intro hall e he
    obtain ⟨before, i, rest, rfl, rfl⟩ := (mem_events_iff _).mp he
    -- the state after the stretch is the end of a run
    have hbal := hall _ he
    have hend : Balanced (final (Server.step py) s (before ++ [i])) := by
      rw [final_append]; exact hbal
    refine (balanced_final_iff hsound hb _).mp hend _ ?_
    rw [events_append]
    exact List.mem_append_right _ List.mem_cons_self
  · intro hall e he
    obtain ⟨before, i, rest, rfl, rfl⟩ := (mem_events_iff _).mp he
    have hend : Balanced (final (Server.step py) s (before ++ [i])) := by
      refine (balanced_final_iff hsound hb _).mpr fun e' he' => hall e' ?_
      rw [show before ++ i :: rest = (before ++ [i]) ++ rest by simp, events_append]
      exact List.mem_append_left _ he'
    rw [final_append] at hend
    exact hend

theorem sampleRun_forgets_none :
    (∀ e ∈ events (Server.step plainPython) {} sampleRun, Balanced e.post)
      ∧ ∀ e ∈ events (Server.step plainPython) {} sampleRun,
        ¬Forgets plainPython e.pre e.input := by
  have hbalanced : ∀ e ∈ events (Server.step plainPython) {} sampleRun, Balanced e.post := by
    decide +kernel
  exact ⟨hbalanced, (frames_accounted_iff plainPython {} ⟨by decide, rfl, rfl, rfl, rfl⟩ rfl
    sampleRun).mp hbalanced⟩

/-- A frame of the sample run goes stale while the detector works on its batch. -/
def staleRun : List (Reading × Action) :=
  sampleRun.take 4 ++ [(readingAt 4 "t4", .batchDone [.noResult]), (readingAt 5 "t5", .commit)]

/-- The frame has been received, nothing waits or is in flight, and no counter knows of it. -/
theorem stale_frame_unaccounted : ¬Balanced (final (Server.step plainPython) {} staleRun) := by
  decide +kernel

-- nor is a frame accounted for whose timestamp is too large an integer
example : ¬Balanced (final (Server.step plainPython) {} (sampleRun.take 2 ++
    [(readingAt 2 "t2", .message (.obj [("type", .str "VIDEO_FRAME"),
      ("payload", .obj [("node_id", .str "CAM-1"), ("session_token", .str "t1"),
        ("frame_data", .str "x"), ("capture_timestamp", .int (10 ^ 400))])]) 7)])) := by
  decide +kernel

end SmartTraffic.Proof
