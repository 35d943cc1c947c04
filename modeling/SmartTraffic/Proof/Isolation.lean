import SmartTraffic.Server.Batch
import SmartTraffic.Server.Intake
import SmartTraffic.Proof.Ownership

/-!
# A failing source does not block the others

A frame that cannot be decoded is counted in the first loop of `process_batch`
and goes no further. The counters it leaves behind are read once, by the
snapshots of the other frames; nothing else the worker does depends on them. So
the results of a batch with such a frame are those of the batch without it, with
the frame counted in their snapshots.

An infinite rotation is the one way out of the first loop that it does not catch.
-/

namespace SmartTraffic.Proof

open SmartTraffic Lib

variable {v : Platform}

/-! ## Counting a frame that fails -/

/-- The counters with `δ` counted as well. -/
def addCounters (c δ : StageCounters) : StageCounters where
  received := c.received + δ.received
  decoded := c.decoded + δ.decoded
  decodeFailed := c.decodeFailed + δ.decodeFailed
  processed := c.processed + δ.processed
  dropped := c.dropped + δ.dropped

/-- The worker when `δ` has been counted as well. -/
def countWorker (δ : StageCounters) (w : Worker v) : Worker v :=
  { w with stageCounters := addCounters w.stageCounters δ }

/-- A result whose snapshot has `δ` counted as well. -/
def countResult (δ : StageCounters) (item : CameraFrame v × BatchResult) :
    CameraFrame v × BatchResult :=
  (item.1, { item.2 with
    snapshot := { item.2.snapshot with
      stageCounters := addCounters item.2.snapshot.stageCounters δ } })

/-- What the first loop counts for a frame that it does not let through. -/
def countedFor (f : CameraFrame v) : StageCounters :=
  if f.isDropped then { dropped := 1 } else { decodeFailed := 1 }

theorem addCounters_dropped (c δ : StageCounters) :
    addCounters { c with dropped := c.dropped + 1 } δ
      = { addCounters c δ with dropped := (addCounters c δ).dropped + 1 } := by
  simp [addCounters, Nat.add_right_comm]

theorem addCounters_decodeFailed (c δ : StageCounters) :
    addCounters { c with decodeFailed := c.decodeFailed + 1 } δ
      = { addCounters c δ with decodeFailed := (addCounters c δ).decodeFailed + 1 } := by
  simp [addCounters, Nat.add_right_comm]

theorem addCounters_decoded (c δ : StageCounters) :
    addCounters { c with decoded := c.decoded + 1 } δ
      = { addCounters c δ with decoded := (addCounters c δ).decoded + 1 } := by
  simp [addCounters, Nat.add_right_comm]

/-! ## The first loop -/

/-- The first loop does not let the frame through, and does not raise because of it. -/
def Skipped (f : CameraFrame v) : Prop :=
  f.isDropped = true ∨ ∃ e, f.decode = .error e ∧ e.caught = true

/-- The loop counts on from what has been counted before. -/
theorem decodeLoop_counting (c δ : StageCounters) (frames : List (CameraFrame v)) :
    decodeLoop (addCounters c δ) frames
      = (addCounters (decodeLoop c frames).1 δ, (decodeLoop c frames).2) := by
  induction frames generalizing c with
  | nil => rfl
  | cons f frames ih =>
      unfold decodeLoop
      by_cases hdrop : f.isDropped = true
      · rw [if_pos hdrop, if_pos hdrop, ← addCounters_dropped]
        exact ih _
      · rw [if_neg hdrop, if_neg hdrop]
        cases f.decode with
        | ok decoded => dsimp only; rw [ih]
        | error e =>
            dsimp only
            by_cases hcaught : e.caught = true
            · rw [if_pos hcaught, if_pos hcaught, ← addCounters_decodeFailed]
              exact ih _
            · rw [if_neg hcaught, if_neg hcaught]

theorem decodeLoop_skipped {f : CameraFrame v} (h : Skipped f) (c : StageCounters)
    (frames : List (CameraFrame v)) :
    decodeLoop c (f :: frames) = decodeLoop (addCounters c (countedFor f)) frames := by
  unfold countedFor
  rw [decodeLoop]
  by_cases hdrop : f.isDropped = true
  · rw [if_pos hdrop, if_pos hdrop]
    rfl
  · obtain ⟨e, he, hcaught⟩ := h.resolve_left hdrop
    rw [if_neg hdrop, if_neg hdrop, he]
    dsimp only
    rw [if_pos hcaught]
    rfl

/-- **A skipped frame leaves the ready frames alone.** It is counted if the loop gets through. -/
theorem decodeLoop_insert {f : CameraFrame v} (h : Skipped f) (c : StageCounters)
    (pre post : List (CameraFrame v)) :
    (decodeLoop c (pre ++ f :: post)).2 = (decodeLoop c (pre ++ post)).2
      ∧ ∀ ready, (decodeLoop c (pre ++ post)).2 = .ok ready →
        (decodeLoop c (pre ++ f :: post)).1
          = addCounters (decodeLoop c (pre ++ post)).1 (countedFor f) := by
  induction pre generalizing c with
  | nil =>
      rw [List.nil_append, List.nil_append, decodeLoop_skipped h, decodeLoop_counting]
      exact ⟨rfl, fun _ _ => rfl⟩
  | cons g pre ih =>
      rw [List.cons_append, List.cons_append]
      unfold decodeLoop
      by_cases hdrop : g.isDropped = true
      · rw [if_pos hdrop, if_pos hdrop]
        exact ih _
      · rw [if_neg hdrop, if_neg hdrop]
        cases g.decode with
        | ok decoded =>
            obtain ⟨hready, hcounters⟩ := ih c
            dsimp only
            refine ⟨by rw [hready], fun ready hok => ?_⟩
            -- a frame before it is ready only if the rest of the loop gets through
            cases hrest : (decodeLoop c (pre ++ post)).2 with
            | error e => rw [hrest] at hok; nomatch hok
            | ok rest => exact hcounters rest hrest
        | error e =>
            dsimp only
            by_cases hcaught : e.caught = true
            · rw [if_pos hcaught, if_pos hcaught]
              exact ih _
            · rw [if_neg hcaught, if_neg hcaught]
              exact ⟨rfl, fun _ hok => nomatch hok⟩

/-! ## The second loop -/

theorem perceive_counting (δ : StageCounters) (w : Worker v) (r : Ready v)
    (computed : Option (Computed v)) :
    (countWorker δ w).perceive r computed
      = (countWorker δ (w.perceive r computed).1, (w.perceive r computed).2) := by
  unfold Worker.perceive countWorker
  dsimp only
  split_ifs
  · split <;> rfl
  · rfl

theorem countDecoded_counting (δ : StageCounters) (w : Worker v) :
    (countWorker δ w).countDecoded = countWorker δ w.countDecoded := by
  unfold Worker.countDecoded countWorker
  rw [addCounters_decoded]

/-- A frame is processed alike whatever has been counted; its snapshot shows the counters. -/
theorem processFrame_counting (δ : StageCounters) (w : Worker v) (r : Ready v)
    (computed : Option (Computed v)) :
    (countWorker δ w).processFrame r computed
      = (countWorker δ (w.processFrame r computed).1,
        (w.processFrame r computed).2.map fun result =>
          result.map fun result => (countResult δ (r.frame, result)).2) := by
  unfold Worker.processFrame
  split_ifs
  · rfl
  · rw [countDecoded_counting, perceive_counting]
    rcases w.countDecoded.perceive r computed with ⟨perceived, _ | ⟨tracked, inferenceMs⟩⟩
    · rfl
    · rfl

theorem processReady_counting (δ : StageCounters) (computed : List (LaneName × Computed v))
    (w : Worker v) (ready : List (Ready v)) :
    Worker.processReady computed (countWorker δ w) ready
      = (countWorker δ (Worker.processReady computed w ready).1,
        (Worker.processReady computed w ready).2.map (List.map (countResult δ))) := by
  induction ready generalizing w with
  | nil => rfl
  | cons r ready ih =>
      unfold Worker.processReady
      rw [processFrame_counting]
      rcases w.processFrame r (computed.lookup r.frame.lane) with ⟨w', e | result⟩
      · rfl
      · dsimp only [Except.map]
        rw [ih]
        rcases Worker.processReady computed w' ready with ⟨w'', e | rest⟩
        · rfl
        · cases result <;> rfl

/-- Which frames the detector runs on does not depend on the counters either. -/
theorem inferAndProcess_counting (δ : StageCounters) (w : Worker v) (ready : List (Ready v)) :
    (countWorker δ w).inferAndProcess ready
      = (countWorker δ (w.inferAndProcess ready).1,
        (w.inferAndProcess ready).2.map (List.map (countResult δ))) := by
  unfold Worker.inferAndProcess
  rw [show (countWorker δ w).computed ready = w.computed ready from rfl]
  cases w.computed ready with
  | none => rfl
  | some computed => exact processReady_counting δ computed w ready

/-! ## The batch -/

/-- **A skipped frame changes nothing for the others but the counters they show.** -/
theorem processBatch_insert {f : CameraFrame v} (h : Skipped f) (w : Worker v)
    (pre post : List (CameraFrame v)) :
    (w.processBatch (pre ++ f :: post)).2
      = (w.processBatch (pre ++ post)).2.map (List.map (countResult (countedFor f))) := by
  obtain ⟨hready, hcounters⟩ := decodeLoop_insert h w.stageCounters pre post
  unfold Worker.processBatch
  dsimp only
  rw [hready]
  cases hloop : (decodeLoop w.stageCounters (pre ++ post)).2 with
  | error e => rfl
  | ok ready =>
      rw [hcounters ready hloop]
      cases ready with
      | nil => rfl
      | cons r ready =>
          have h := inferAndProcess_counting (countedFor f)
            { w with stageCounters := (decodeLoop w.stageCounters (pre ++ post)).1 } (r :: ready)
          exact congrArg Prod.snd h

/-! ## Which frames are skipped -/

/-- The payload came through `_handle_video_frame`. -/
def WellFormed (p : Packet) : Prop :=
  p.decoded = true ∨ (p.payload.getJson "decoded_image").isNull = false
    ∨ Server.frameDataValid p.payload = true

/-- The rotation is an infinite number. -/
def InfiniteRotation (p : Packet) : Prop :=
  ∃ negative, p.payload.getJson "rotation" = .float (.infinity negative)

theorem checkRotation_error {n : Int} {e : FrameError} (h : checkRotation n = .error e) :
    e = .valueError := by
  unfold checkRotation at h
  split_ifs at h
  exact (Except.error.inj h).symm

/-- `parse_rotation` raises a `ValueError`, but for an infinite number. -/
theorem parseRotation_error {j : Json} {e : FrameError} (h : v.parseRotation j = .error e) :
    e = .valueError
      ∨ e = .overflowError ∧ ∃ negative, j = .float (.infinity negative) := by
  unfold Platform.parseRotation at h
  split at h
  · nomatch h
  · exact Or.inl (Except.error.inj h).symm
  · exact Or.inl (checkRotation_error h)
  · exact Or.inl (checkRotation_error h)
  · exact Or.inl (Except.error.inj h).symm
  · exact Or.inr ⟨(Except.error.inj h).symm, _, rfl⟩
  · split at h
    · exact Or.inl (checkRotation_error h)
    · exact Or.inl (Except.error.inj h).symm
  · exact Or.inl (Except.error.inj h).symm
  · exact Or.inl (Except.error.inj h).symm

/-- Valid frame data is a text. -/
theorem frameData_str {payload : Dict String Json} (h : Server.frameDataValid payload = true) :
    ∃ data, payload.get? "frame_data" = some (.str data) := by
  unfold Server.frameDataValid Dict.getJson at h
  cases hget : payload.get? "frame_data" with
  | none => rw [hget] at h; nomatch h
  | some j =>
      rw [hget] at h
      cases j with
      | str data => exact ⟨data, rfl⟩
      | _ => nomatch h

theorem imageOfData_caught {f : CameraFrame v} {e : FrameError}
    (hdata : Server.frameDataValid f.payload = true) (h : f.imageOfData = .error e) :
    e.caught = true := by
  obtain ⟨data, hget⟩ := frameData_str hdata
  unfold CameraFrame.imageOfData at h
  rw [hget] at h
  dsimp only at h
  split at h
  · obtain rfl := Except.error.inj h; rfl
  · split at h
    · rename_i error _
      obtain rfl := Except.error.inj h
      cases error <;> rfl
    · obtain rfl := Except.error.inj h; rfl
    · nomatch h

/-- **What a well-formed frame raises is caught, but for an infinite rotation.** -/
theorem decode_error {f : CameraFrame v} {e : FrameError} (hf : WellFormed f.toPacket)
    (h : f.decode = .error e) :
    e.caught = true
      ∨ e = .overflowError ∧ InfiniteRotation f.toPacket ∧ ∃ image, f.decodedImage = .ok image := by
  unfold CameraFrame.decode at h
  cases himage : f.decodedImage with
  | error e' =>
      -- the image cannot be read, and what reading checked data raises is caught
      rw [himage] at h
      obtain rfl := Except.error.inj h
      refine Or.inl ?_
      unfold CameraFrame.decodedImage at himage
      have hsome := f.image_isSome
      split at himage
      · nomatch himage
      · rename_i hnone
        rw [hnone] at hsome
        split_ifs at himage with hnull
        have hdata : Server.frameDataValid f.payload = true := by
          rcases hf with hdec | hjson | hdata
          · rw [hdec] at hsome; nomatch hsome
          · rw [hnull] at hjson; nomatch hjson
          · exact hdata
        cases hload : f.imageOfData with
        | error e'' =>
            rw [hload] at himage
            obtain rfl := Except.error.inj himage
            exact imageOfData_caught hdata hload
        | ok image => rw [hload] at himage; nomatch himage
  | ok image =>
      -- the image can be read, so its shape or its rotation is at fault
      rw [himage] at h
      dsimp only at h
      unfold Platform.normalizeFrameOrientation at h
      split at h
      · obtain rfl := Except.error.inj h; exact Or.inl rfl
      · split_ifs at h with hdim
        rotate_left
        · obtain rfl := Except.error.inj h; exact Or.inl rfl
        · split at h
          · rename_i e' hrot
            obtain rfl := Except.error.inj h
            rcases parseRotation_error hrot with rfl | ⟨rfl, negative, hinf⟩
            · exact Or.inl rfl
            · exact Or.inr ⟨rfl, ⟨negative, hinf⟩, _, rfl⟩
          · nomatch h

/-! ## What is not caught -/

/-- **An infinite rotation takes the batch with it**: no other frame has a result. -/
theorem infinite_rotation_raises {f : CameraFrame v} (hdrop : f.isDropped = false)
    {image : v.Image} (himage : f.decodedImage = .ok (some image)) (hdim : v.ndim image ∈ [2, 3])
    (hinf : InfiniteRotation f.toPacket) (w : Worker v) {pre : List (CameraFrame v)}
    (hpre : ∀ g ∈ pre, Skipped g ∨ ∃ decoded, g.decode = .ok decoded)
    (post : List (CameraFrame v)) :
    (w.processBatch (pre ++ f :: post)).2 = .error .overflowError := by
  have hdecode : f.decode = .error .overflowError := by
    obtain ⟨negative, hinf⟩ := hinf
    unfold CameraFrame.decode
    rw [himage]
    dsimp only [Platform.normalizeFrameOrientation]
    rw [if_neg (not_not.mpr hdim), hinf]
    rfl
  have hloop : ∀ c, (decodeLoop c (pre ++ f :: post)).2 = .error .overflowError := by
    induction pre with
    | nil =>
        intro c
        rw [List.nil_append, decodeLoop, if_neg (by simp [hdrop]), hdecode]
        rfl
    | cons g pre ih =>
        intro c
        have ih := ih fun g' hg' => hpre g' (List.mem_cons_of_mem _ hg')
        rcases hpre g List.mem_cons_self with hskip | ⟨decoded, hok⟩
        · rw [List.cons_append, decodeLoop_skipped hskip]
          exact ih _
        · rw [List.cons_append, decodeLoop]
          split_ifs
          · exact ih _
          · rw [hok]
            dsimp only
            rw [ih]
            rfl
  unfold Worker.processBatch
  dsimp only
  rw [hloop]

/-! ## The packets that reach the worker -/

/-- Stamping a frame keeps it well-formed. -/
theorem wellFormed_stamped {r : Reading} {d : String} {frame stamped : Dict String Json}
    {websocket : Socket} (h : Server.stampPayload r d frame = .ok stamped)
    (hframe : (frame.getJson "decoded_image").isNull = false ∨ Server.frameDataValid frame = true) :
    WellFormed (Server.packetOf r stamped false websocket) := by
  have hkeep : ∀ k, k ≠ "capture_timestamp" → k ≠ "upload_timestamp" → k ≠ "frame_id" →
      stamped.getJson k = frame.getJson k := fun k => stampPayload_getJson h
  refine Or.inr ?_
  show (stamped.getJson "decoded_image").isNull = false ∨ Server.frameDataValid stamped = true
  unfold Server.frameDataValid at hframe ⊢
  rw [hkeep "decoded_image" (by decide) (by decide) (by decide),
    hkeep "frame_data" (by decide) (by decide) (by decide)]
  exact hframe

/-- The frame of a message has passed the test of its data. -/
theorem frameOf_valid {py : Python} {s : Server} {r : Reading} {rawJson : Json} {websocket : Socket}
    {d : String} {frame : Dict String Json}
    (h : s.frameOf py r rawJson websocket = some (d, frame)) :
    (frame.getJson "decoded_image").isNull = false ∨ Server.frameDataValid frame = true := by
  unfold Server.frameOf at h
  split at h
  · nomatch h
  · split at h
    · split at h
      · nomatch h
      · obtain ⟨found, hfound, heq⟩ := Option.map_eq_some_iff.mp h
        obtain rfl := (Prod.mk.inj heq).2
        unfold Server.frameFor at hfound
        dsimp only at hfound
        split at hfound
        · split_ifs at hfound with hcond
          obtain rfl := Option.some.inj hfound
          rw [Dict.getJson_set_of_ne _ _ (by decide), Dict.getJson_set_of_ne _ _ (by decide),
            frameDataValid_set (by decide), frameDataValid_set (by decide)]
          simp only [Bool.and_eq_true, Bool.or_eq_true, Bool.not_eq_true'] at hcond
          exact hcond.1.2
        · nomatch hfound
    · nomatch h

/-- What is admitted for a decoded image is marked as decoded. -/
theorem handleVideoFrame_decoded {py : Python} {s : Server} {r : Reading}
    {payload : Dict String Json} {owner : Socket} {d : String} {p : Packet}
    (h : (s.handleVideoFrame py r payload true owner).effect = some (.admitted d p)) :
    p.decoded = true := by
  unfold Server.handleVideoFrame at h
  split_ifs at h
  · nomatch h
  · split at h
    · unfold Server.enqueueFrame at h
      by_cases hrun : s.systemRunning = false
      · rw [if_pos hrun] at h
        nomatch h
      · rw [if_neg hrun] at h
        dsimp only at h
        split at h
        · nomatch h
        · obtain ⟨-, rfl⟩ := Effect.admitted.inj (Option.some.inj h)
          rfl
    · nomatch h

/-- **Every admitted frame is well-formed.** -/
theorem admitted_wellFormed {py : Python} {s : Server} (hs : SoundSessions s)
    {i : Reading × Action} {d : String} {p : Packet}
    (heff : (s.step py i).2 = some (.admitted d p)) : WellFormed p := by
  obtain ⟨r, action⟩ := i
  cases action with
  | message rawJson websocket =>
      change (s.processMessage py r rawJson websocket).effect = _ at heff
      rcases processMessage_frame py hs r rawJson websocket with
        ⟨-, h⟩ | ⟨d', frame, hframe, h⟩
      · exact absurd (h.effect.symm.trans heff) (by simp)
      · unfold Counts at h
        split at h
        · rename_i stamped hstamped
          obtain ⟨-, rfl⟩ := Effect.admitted.inj (Option.some.inj (heff.symm.trans h.effect))
          exact wellFormed_stamped hstamped (frameOf_valid hframe)
        · exact absurd (h.effect.symm.trans heff) (by simp)
  | submitDecodedFrame d' node token websocket frameId receivedMs =>
      change (s.submitDecodedFrame py r d' node token websocket frameId receivedMs).effect = _
        at heff
      unfold Server.submitDecodedFrame at heff
      dsimp only at heff
      split at heff
      · split_ifs at heff
        exact Or.inl (handleVideoFrame_decoded heff)
      · cases heff
  | registered k =>
      unfold Server.step at heff
      dsimp only at heff
      split at heff
      · cases heff
      · exact absurd ((completeRegistration_ignores py _ r _).effect.symm.trans heff) (by simp)
  | disconnected k =>
      unfold Server.step at heff
      dsimp only at heff
      split at heff <;> cases heff
  | commit =>
      rcases commit_cases s r with ⟨-, h⟩ | ⟨_, _, -, h⟩
      · exact absurd (h.symm.trans heff) (by simp)
      · exact absurd (h.symm.trans heff) (by simp)
  | _ => cases heff

/-- The packet can be handed to the worker: it is well-formed and names a direction. -/
def Presentable (p : Packet) : Prop := WellFormed p ∧ ∃ lane : LaneName, p.direction = .str lane.key

theorem exists_lane_key {d : String} (h : d ∈ directions) : ∃ lane : LaneName, d = lane.key := by
  simp only [directions, List.mem_cons, List.not_mem_nil, or_false] at h
  rcases h with rfl | rfl | rfl | rfl
  · exact ⟨.north, rfl⟩
  · exact ⟨.south, rfl⟩
  · exact ⟨.east, rfl⟩
  · exact ⟨.west, rfl⟩

/-- The frames in slots and in flight are presentable. -/
structure Deliverable (s : Server) : Prop where
  table : SoundTable s
  slots : ∀ d p, s.latestFrames.get? d = some p → Presentable p
  flight : ∀ p ∈ s.inFlight, Presentable p

theorem deliverable_step (py : Python) (s : Server) (i : Reading × Action) (h : Deliverable s) :
    Deliverable (s.step py i).1 := by
  refine ⟨sound_step py s i h.table, ?_, ?_⟩
  all_goals
    rcases step_cases h.table.sessions i with
      ⟨hc, -⟩ | ⟨node, d, hc, -⟩ | ⟨d, p, ha, heff⟩ | ⟨ht, -⟩ | ⟨d, p, hc, -⟩
  · rw [hc.slots]; exact h.slots
  · rw [hc.slots]; exact h.slots
  · intro d' p' hslot
    rw [ha.slots] at hslot
    by_cases hd : d' = d
    · subst hd
      rw [Dict.get?_set_self] at hslot
      obtain rfl := Option.some.inj hslot
      obtain ⟨node, -, session, hget, -, -, rfl⟩ := ha.owned
      obtain ⟨lane, hlane⟩ := exists_lane_key
        ((sound_step py s i h.table).sessions node session hget).1
      exact ⟨admitted_wellFormed h.table.sessions heff, lane, by rw [ha.direction, hlane]⟩
    · rw [Dict.get?_set_of_ne _ _ hd] at hslot
      exact h.slots d' p' hslot
  · rw [ht.slots]; intro d p hslot; nomatch hslot
  · rw [hc.slots]; exact h.slots
  · exact fun p hp => h.flight p (hc.flight p hp)
  · exact fun p hp => h.flight p (hc.flight p hp)
  · exact fun p hp => h.flight p (ha.flight p hp)
  · intro p hp
    obtain ⟨d, hslot⟩ := (Dict.mem_values_iff _).mp (ht.flight p hp)
    exact h.slots d p hslot
  · exact fun p hp => h.flight p (hc.flight p hp)

/-- **In every run, the packets of a batch are presentable.** -/
theorem batch_presentable (py : Python) {s : Server} (hs : Initial s)
    (run : List (Reading × Action)) :
    ∀ p ∈ (final (Server.step py) s run).inFlight, Presentable p := by
  have hinit : Deliverable s := by
    refine ⟨soundTable_init hs, fun d p hslot => ?_, fun p hp => ?_⟩
    · rw [hs.slots] at hslot; nomatch hslot
    · rw [hs.flight] at hp; exact absurd hp List.not_mem_nil
  exact (final_invariant_of_step (fun s i h => deliverable_step py s i h) hinit run).flight

/-! ## What the worker hands back -/

/-- A result as far as the coordinator publishes it. -/
def toFrameResult (item : CameraFrame v × BatchResult) : Packet × FrameResult :=
  (item.1.toPacket, { jpeg := item.2.jpeg, telemetry := item.2.telemetry })

/-- What the event loop sees of a worker's results is what these outcomes stand for. -/
structure Accounts (packets : List Packet) (outcomes : List PacketOutcome)
    (results : List (Packet × FrameResult)) (c c' : StageCounters) : Prop where
  length : outcomes.length = packets.length
  counters : Server.StageCounters.afterBatch c outcomes = c'
  results : Server.resultsOf packets outcomes = results

theorem afterBatch_add (c δ : StageCounters) (outcomes : List PacketOutcome) :
    Server.StageCounters.afterBatch (addCounters c δ) outcomes
      = addCounters (Server.StageCounters.afterBatch c outcomes) δ := by
  induction outcomes generalizing c with
  | nil => rfl
  | cons outcome outcomes ih =>
      unfold Server.StageCounters.afterBatch at ih ⊢
      rw [List.foldl_cons, List.foldl_cons, ← ih]
      congr 1
      cases outcome with
      | dropped => exact (addCounters_dropped c δ).symm
      | decodeFailed => exact (addCounters_decodeFailed c δ).symm
      | noResult => rfl
      | processed result => exact (addCounters_decoded c δ).symm

/-- What an outcome counts as. -/
def counterOf : PacketOutcome → StageCounters
  | .dropped => { dropped := 1 }
  | .decodeFailed => { decodeFailed := 1 }
  | .noResult => {}
  | .processed _ => { decoded := 1 }

/-- It does not matter when an outcome is counted. -/
theorem afterBatch_cons (c : StageCounters) (outcome : PacketOutcome)
    (outcomes : List PacketOutcome) :
    Server.StageCounters.afterBatch c (outcome :: outcomes)
      = addCounters (Server.StageCounters.afterBatch c outcomes) (counterOf outcome) := by
  rw [← afterBatch_add]
  cases outcome <;> rfl

/-- A frame without a result has not been counted as decoded, one with a result has. -/
theorem processFrame_counters {w w' : Worker v} {r : Ready v} {computed : Option (Computed v)}
    {result : Option BatchResult} (h : w.processFrame r computed = (w', .ok result)) :
    w'.stageCounters = match result with
      | none => w.stageCounters
      | some _ => { w.stageCounters with decoded := w.stageCounters.decoded + 1 } := by
  have hperceive : ∀ w : Worker v, (w.perceive r computed).1.stageCounters = w.stageCounters := by
    intro w
    unfold Worker.perceive
    dsimp only
    split_ifs
    · split <;> rfl
    · rfl
  unfold Worker.processFrame at h
  split_ifs at h
  · obtain ⟨rfl, hresult⟩ := Prod.mk.inj h
    obtain rfl := Except.ok.inj hresult
    rfl
  · have hcounters := hperceive w.countDecoded
    cases hp : w.countDecoded.perceive r computed with
    | mk perceived seen =>
        rw [hp] at h hcounters
        cases seen with
        | none => nomatch h
        | some seen =>
            obtain ⟨rfl, hresult⟩ := Prod.mk.inj h
            obtain rfl := Except.ok.inj hresult
            exact hcounters

/-- The second loop: a frame has a result, or has become stale. -/
theorem processReady_accounts {computed : List (LaneName × Computed v)} {w w' : Worker v}
    {ready : List (Ready v)} {results : List (CameraFrame v × BatchResult)}
    (h : Worker.processReady computed w ready = (w', .ok results)) :
    ∃ outcomes, Accounts (ready.map fun r => r.frame.toPacket) outcomes (results.map toFrameResult)
      w.stageCounters w'.stageCounters := by
  induction ready generalizing w results with
  | nil =>
      obtain ⟨rfl, hresults⟩ := Prod.mk.inj h
      obtain rfl := Except.ok.inj hresults
      exact ⟨[], rfl, rfl, rfl⟩
  | cons r ready ih =>
      unfold Worker.processReady at h
      cases hframe : w.processFrame r (computed.lookup r.frame.lane) with
      | mk w₁ first =>
          rw [hframe] at h
          cases first with
          -- the frame raised, and so did the loop
          | error e => nomatch h
          | ok result =>
              dsimp only at h
              cases hrest : Worker.processReady computed w₁ ready with
              | mk w₂ rest =>
                  rw [hrest] at h
                  cases rest with
                  | error e => nomatch h
                  | ok rest =>
                      obtain ⟨rfl, hresults⟩ := Prod.mk.inj h
                      obtain rfl := Except.ok.inj hresults
                      obtain ⟨outcomes, hlength, hcounters, hout⟩ := ih hrest
                      have hfirst := processFrame_counters hframe
                      cases result with
                      | none =>
                          -- the detector was not due or the frame has become stale
                          rw [hfirst] at hcounters
                          exact ⟨.noResult :: outcomes, congrArg (· + 1) hlength, hcounters,
                            by rw [List.map_cons, resultsOf_cons, hout]; rfl⟩
                      | some result =>
                          rw [hfirst] at hcounters
                          exact ⟨.processed (toFrameResult (r.frame, result)).2 :: outcomes,
                            congrArg (· + 1) hlength, hcounters,
                            by rw [List.map_cons, resultsOf_cons, hout]; rfl⟩

/-- The first loop: what it does not let through is dropped or cannot be decoded. -/
theorem decodeLoop_accounts {c c' : StageCounters} {frames : List (CameraFrame v)}
    {ready : List (Ready v)} (h : decodeLoop c frames = (c', .ok ready))
    {rest : List PacketOutcome} {results : List (Packet × FrameResult)} {c'' : StageCounters}
    (hrest : Accounts (ready.map fun r => r.frame.toPacket) rest results c' c'') :
    ∃ outcomes, Accounts (frames.map (·.toPacket)) outcomes results c c'' := by
  induction frames generalizing c c' c'' ready rest results with
  | nil =>
      obtain ⟨rfl, hready⟩ := Prod.mk.inj h
      obtain rfl := Except.ok.inj hready
      exact ⟨rest, hrest⟩
  | cons f frames ih =>
      unfold decodeLoop at h
      split_ifs at h with hdrop
      · obtain ⟨outcomes, hlength, hcounters, hout⟩ := ih h hrest
        exact ⟨.dropped :: outcomes, congrArg (· + 1) hlength, hcounters,
          by rw [List.map_cons, resultsOf_cons, hout]; rfl⟩
      · split at h
        · -- a ready frame: its outcome is the first of those of the second loop
          dsimp only at h
          cases hloop : decodeLoop c frames with
          | mk c₁ tail =>
              rw [hloop] at h
              cases tail with
              | error e => nomatch h
              | ok tail =>
                  obtain ⟨rfl, hready⟩ := Prod.mk.inj h
                  obtain rfl := Except.ok.inj hready
                  obtain ⟨hlength, hcounters, hout⟩ := hrest
                  cases rest with
                  | nil => nomatch hlength
                  | cons outcome rest =>
                      obtain ⟨outcomes, hlength', hcounters', hout'⟩ :=
                        ih hloop ⟨Nat.succ.inj hlength, rfl, rfl⟩
                      refine ⟨outcome :: outcomes, congrArg (· + 1) hlength', ?_, ?_⟩
                      · rw [afterBatch_cons, hcounters', ← afterBatch_cons]
                        exact hcounters
                      · rw [List.map_cons, resultsOf_cons] at hout ⊢
                        rw [hout']
                        exact hout
        · -- the frame cannot be decoded, and the error is caught
          split_ifs at h
          · obtain ⟨outcomes, hlength, hcounters, hout⟩ := ih h hrest
            exact ⟨.decodeFailed :: outcomes, congrArg (· + 1) hlength, hcounters,
              by rw [List.map_cons, resultsOf_cons, hout]; rfl⟩
          · nomatch h

/-- **A batch that returns is one of the batches the event loop allows for.** -/
theorem processBatch_accounts {w w' : Worker v} {frames : List (CameraFrame v)}
    {results : List (CameraFrame v × BatchResult)}
    (h : w.processBatch frames = (w', .ok results)) :
    ∃ outcomes, Accounts (frames.map (·.toPacket)) outcomes (results.map toFrameResult)
      w.stageCounters w'.stageCounters := by
  unfold Worker.processBatch at h
  cases hloop : decodeLoop w.stageCounters frames with
  | mk c ready =>
      rw [hloop] at h
      dsimp only at h
      split at h
      · nomatch h
      · obtain ⟨rfl, hresults⟩ := Prod.mk.inj h
        obtain rfl := Except.ok.inj hresults
        have hnothing : Accounts [] [] [] c c := ⟨rfl, rfl, rfl⟩
        exact decodeLoop_accounts hloop hnothing
      · rename_i ready _
        unfold Worker.inferAndProcess at h
        split at h
        · nomatch h
        · obtain ⟨rest, hrest⟩ := processReady_accounts h
          exact decodeLoop_accounts hloop hrest

/-! ## The law -/

/-- The frame does not get through the first loop. -/
def Fails (f : CameraFrame v) : Prop := f.isDropped = true ∨ ∃ e, f.decode = .error e

/-- There is an image, and it is to be turned by an infinite number of degrees. -/
def TurnsInfinitely (f : CameraFrame v) : Prop :=
  InfiniteRotation f.toPacket ∧ ∃ image, f.decodedImage = .ok image

theorem skipped_of_fails {f : CameraFrame v} (hf : WellFormed f.toPacket) (hfail : Fails f)
    (hturn : ¬TurnsInfinitely f) : Skipped f := by
  rcases hfail with hdrop | ⟨e, he⟩
  · exact Or.inl hdrop
  · rcases decode_error hf he with hcaught | ⟨-, hinf, himage⟩
    · exact Or.inr ⟨e, he, hcaught⟩
    · exact absurd ⟨hinf, himage⟩ hturn

/--
**A failing source does not block the others.** A batch with a frame that cannot
be decoded yields, for the other frames, the results of the batch without it; only
the counters in their snapshots have counted the frame. In particular the batch
raises only if it would raise without the frame.
-/
theorem failing_source_isolated (w : Worker v) (pre post : List (CameraFrame v))
    (bad : CameraFrame v) (hf : WellFormed bad.toPacket) (hfail : Fails bad)
    (hturn : ¬TurnsInfinitely bad) :
    (w.processBatch (pre ++ bad :: post)).2
      = (w.processBatch (pre ++ post)).2.map (List.map (countResult (countedFor bad))) :=
  processBatch_insert (skipped_of_fails hf hfail hturn) w pre post

/-- OpenCV and the detector on frames of one size. -/
def plainPlatform : Platform where
  Image := Unit
  Detections := Unit
  Tracking := Unit
  intOfStr _ := none
  b64decode _ := none
  imdecode _ := .ok none
  ndim _ := 3
  height _ := 720
  width _ := 1280
  rotate _ image := image
  imencode _ := some []
  batchSize := 4
  detectBatch images := some (images.map fun _ => (), 10)
  detect _ _ _ := some ((), 10)
  track tracking lane _ _ _ _ _ :=
    ({ observation := { laneName := lane.key }, detections := 0, annotated := (), trackingMs := 1 },
     tracking)

/-- A text that is no base64, for the north. -/
def garbledFrame : CameraFrame plainPlatform where
  payload := dictOf [("direction", .str "north"), ("frame_data", .str "?"),
    ("capture_timestamp", .int 1000), ("upload_timestamp", .int 1000), ("frame_id", .str "1")]
  decoded := false
  ownerSocket := 7
  backendReceiveTimestamp := 1000
  backendReceiveMonotonic := 1
  image := none
  image_isSome := rfl
  lane := .north
  lane_eq := rfl
  reads := { tested := 1 }

/-- An image that was submitted decoded, for the south. -/
def decodedFrame : CameraFrame plainPlatform where
  payload := dictOf [("direction", .str "south"), ("capture_timestamp", .int 1000),
    ("upload_timestamp", .int 1000), ("frame_id", .str "2")]
  decoded := true
  ownerSocket := 8
  backendReceiveTimestamp := 1000
  backendReceiveMonotonic := 1
  image := some ()
  image_isSome := rfl
  lane := .south
  lane_eq := rfl
  reads := { tested := 1, work := { nowMono := 1, currentMonoTime := 1 } }

theorem garbledFrame_wellFormed : WellFormed garbledFrame.toPacket :=
  Or.inr (Or.inr (by decide +kernel))

theorem garbledFrame_isolated :
    (({ tracking := () } : Worker plainPlatform).processBatch [garbledFrame, decodedFrame]).2
      = (({ tracking := () } : Worker plainPlatform).processBatch [decodedFrame]).2.map
          (List.map (countResult (countedFor garbledFrame))) := by
  refine failing_source_isolated _ [] [decodedFrame] garbledFrame garbledFrame_wellFormed
    (Or.inr ⟨.valueError, rfl⟩) ?_
  rintro ⟨⟨negative, hinf⟩, -⟩
  have hnull : (garbledFrame.payload.getJson "rotation").isNull = true := by decide +kernel
  rw [hinf] at hnull
  nomatch hnull

/-- The snapshots of the other frames show that a frame has failed. -/
theorem failure_shows_in_counters : ¬∀ (w : Worker plainPlatform)
    (pre post : List (CameraFrame plainPlatform)) (bad : CameraFrame plainPlatform),
    WellFormed bad.toPacket → Fails bad →
      (w.processBatch (pre ++ bad :: post)).2 = (w.processBatch (pre ++ post)).2 := by
  intro h
  have heq := congrArg
    (fun results => results.toOption.map (List.map fun item => item.2.snapshot.stageCounters))
    (h { tracking := () } [] [decodedFrame] garbledFrame garbledFrame_wellFormed
      (Or.inr ⟨.valueError, rfl⟩))
  revert heq
  decide +kernel

end SmartTraffic.Proof
