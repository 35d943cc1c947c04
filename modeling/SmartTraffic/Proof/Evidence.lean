import SmartTraffic.Pipeline.Lanes
import SmartTraffic.Proof.Clearance

/-!
# Green on fresh evidence

A phase starts only for a lane somebody was just seen on. What the selection
reads is spread over four tables, so the invariant says for each lane which step
of the run its entries come from: the newest step with a payload for the lane,
and the newest step whose detector ran on it.
-/

namespace SmartTraffic.Proof

open SmartTraffic Lib PipelineWorld

/-- A step of a run. -/
abbrev StepEvent := Event PipelineWorld StepInput PipelineResult

/-- The step has a payload for the lane. -/
def HasPayload (lane : LaneName) (e : StepEvent) : Prop := e.input.frames.contains lane = true

/-- The detector runs on the lane's payload. -/
def Detects (lane : LaneName) (e : StepEvent) : Prop :=
  (e.pre.pipeline.detected e.input.frames lane).isSome = true

/--
The statistics that the payload `f` of the step `e` carries count somebody: its
own observation does, or the detector was not due and the last observation of
the lane does, which is less than a detector period older in frame time.
-/
def CountsSomebody (fps : Rat) (es : List StepEvent) (lane : LaneName) (e : StepEvent)
    (f : FramePayload) : Prop :=
  (Detects lane e ∧ 0 < f.observation.liveCount)
    ∨ (¬Detects lane e ∧ ∃ e' g, LastWith (Detects lane) es e'
      ∧ e'.input.frames.get? lane = some g ∧ g.timestamp ≤ f.timestamp
      ∧ f.timestamp - g.timestamp < 1 / fps ∧ 0 < g.observation.liveCount)

/--
The newest payload of the lane is less than three seconds old, came from a
connected camera with a frame, and counts somebody.
-/
def FreshEvidence (fps : Rat) (es : List StepEvent) (lane : LaneName) (now : Rat) : Prop :=
  ∃ e f, LastWith (HasPayload lane) es e ∧ e.input.frames.get? lane = some f
    ∧ e.input.nowMono ≤ now ∧ now - e.input.nowMono < 3
    ∧ f.connected = true ∧ f.hasFrame = true ∧ CountsSomebody fps es lane e f

/-- A pipeline and lane tables that have not seen any lane. -/
structure Unseen (w : PipelineWorld) : Prop where
  history : ∀ lane, w.ctx.laneStatsHistory lane = none
  lastSeen : ∀ lane, w.ctx.laneLastSeen lane = none
  detection : ∀ lane, w.pipeline.lastDetectionTs lane = none
  authoritative : ∀ lane, w.pipeline.lastAuthoritativeStats lane = none

/-! ## Where the tables come from -/

/-- The lane's history and its last-seen time come from its newest payload. -/
def SeenFrom (fps : Rat) (es : List StepEvent) (w : PipelineWorld) (lane : LaneName) : Prop :=
  (w.ctx.laneLastSeen lane = none ∧ w.ctx.laneStatsHistory lane = none)
    ∨ ∃ e f, LastWith (HasPayload lane) es e ∧ e.input.frames.get? lane = some f
      ∧ w.ctx.laneLastSeen lane = some e.input.nowMono
      ∧ ∀ st, w.ctx.laneStatsHistory lane = some st → 0 < st.rawCount →
          f.isLive = true ∧ CountsSomebody fps es lane e f

/-- The lane's detector tables come from its newest detection. -/
def DetectedFrom (es : List StepEvent) (w : PipelineWorld) (lane : LaneName) : Prop :=
  (w.pipeline.lastDetectionTs lane = none ∧ w.pipeline.lastAuthoritativeStats lane = none)
    ∨ ∃ e f st, LastWith (Detects lane) es e ∧ e.input.frames.get? lane = some f
      ∧ w.pipeline.lastDetectionTs lane = some f.timestamp
      ∧ w.pipeline.lastAuthoritativeStats lane = some st
      ∧ st.rawCount = f.observation.liveCount

/-- Every entry of the tables comes from the steps `es`. -/
structure Sourced (fps : Rat) (es : List StepEvent) (w : PipelineWorld) : Prop where
  detectorFps : w.pipeline.detectorFps = fps
  seen : ∀ lane, SeenFrom fps es w lane
  detected : ∀ lane, DetectedFrom es w lane

theorem sourced_init {w : PipelineWorld} (h : Unseen w) : Sourced w.pipeline.detectorFps [] w :=
  ⟨rfl, fun lane => Or.inl ⟨h.lastSeen lane, h.history lane⟩,
    fun lane => Or.inl ⟨h.detection lane, h.authoritative lane⟩⟩

theorem detected_eq_some {p : TrafficPipeline} {frames : Dict LaneName FramePayload}
    {lane : LaneName} {f : FramePayload} (h : p.detected frames lane = some f) :
    frames.get? lane = some f := (Option.filter_eq_some_iff.mp h).1

theorem not_detects_of_no_payload {lane : LaneName} {e : StepEvent} (h : ¬HasPayload lane e) :
    ¬Detects lane e := by
  intro hd
  obtain ⟨f, hf⟩ := Option.isSome_iff_exists.mp hd
  refine h ?_
  unfold HasPayload Dict.contains
  rw [detected_eq_some hf]; rfl

/-- The evidence of an earlier payload outlives a step without one. -/
theorem countsSomebody_append {fps : Rat} {es : List StepEvent} {lane : LaneName} {e e' : StepEvent}
    {f : FramePayload} (h : CountsSomebody fps es lane e f) (hno : ¬Detects lane e') :
    CountsSomebody fps (es ++ [e']) lane e f := by
  rcases h with h | ⟨hnot, ed, g, hlast, hg⟩
  · exact Or.inl h
  · exact Or.inr ⟨hnot, ed, g, hlast.append hno, hg⟩

theorem seenFrom_append {fps : Rat} {es : List StepEvent} {w w' : PipelineWorld} {lane : LaneName}
    {e : StepEvent} (h : SeenFrom fps es w lane) (hno : ¬HasPayload lane e)
    (hseen : w'.ctx.laneLastSeen lane = w.ctx.laneLastSeen lane)
    (hnone : w.ctx.laneStatsHistory lane = none → w'.ctx.laneStatsHistory lane = none)
    (hhist : ∀ st, w'.ctx.laneStatsHistory lane = some st → 0 < st.rawCount →
      w.ctx.laneStatsHistory lane = some st) : SeenFrom fps (es ++ [e]) w' lane := by
  rcases h with ⟨hls, hh⟩ | ⟨e₀, f, hlast, hf, hls, hcount⟩
  · exact Or.inl ⟨hseen.trans hls, hnone hh⟩
  · refine Or.inr ⟨e₀, f, hlast.append hno, hf, hseen.trans hls, fun st hst hraw => ?_⟩
    obtain ⟨hlive, hc⟩ := hcount st (hhist st hst hraw) hraw
    exact ⟨hlive, countsSomebody_append hc (not_detects_of_no_payload hno)⟩

theorem detectedFrom_append {es : List StepEvent} {w w' : PipelineWorld} {lane : LaneName}
    {e : StepEvent} (h : DetectedFrom es w lane) (hno : ¬Detects lane e)
    (hts : w'.pipeline.lastDetectionTs lane = w.pipeline.lastDetectionTs lane)
    (hauth : w'.pipeline.lastAuthoritativeStats lane = w.pipeline.lastAuthoritativeStats lane) :
    DetectedFrom (es ++ [e]) w' lane := by
  rcases h with ⟨h1, h2⟩ | ⟨e₀, f, st, hlast, hf, h1, h2, h3⟩
  · exact Or.inl ⟨hts.trans h1, hauth.trans h2⟩
  · exact Or.inr ⟨e₀, f, st, hlast.append hno, hf, hts.trans h1, hauth.trans h2, h3⟩

/-- A lane the step has a payload for. -/
theorem seenFrom_step {fps : Rat} {es : List StepEvent} {w : PipelineWorld} {i : StepInput}
    {lane : LaneName} {f : FramePayload} (h : Sourced fps es w) (hf : i.frames.get? lane = some f)
    (hctx : (w.processStep i).1.ctx = w.mergeContext i) :
    SeenFrom fps (es ++ [eventOf processStep w i]) (w.processStep i).1 lane := by
  have hpayload : HasPayload lane (eventOf processStep w i) := by
    show i.frames.contains lane = true
    unfold Dict.contains
    rw [hf]; rfl
  refine Or.inr ⟨_, f, lastWith_append_self es hpayload, hf, ?_, fun st hst hraw => ?_⟩
  · rw [hctx]
    exact if_pos hpayload
  · rw [hctx] at hst
    have hstats : w.pipeline.stepStats i.frames lane = some st := by
      cases hs : w.pipeline.stepStats i.frames lane with
      | none => exact absurd hs (by unfold TrafficPipeline.stepStats; rw [hf]; simp)
      | some st' =>
          unfold mergeContext at hst
          dsimp only at hst
          rw [hs] at hst
          exact hst
    obtain ⟨hlive, ⟨hdet, hraw'⟩ | ⟨hdet, hauth, hdue⟩⟩ :=
      w.pipeline.stepStats_rawCount i.frames lane hf hstats hraw
    · -- its own observation
      refine ⟨hlive, Or.inl ⟨?_, hraw' ▸ hraw⟩⟩
      show (w.pipeline.detected i.frames lane).isSome = true
      rw [hdet]; rfl
    · have hnot : ¬Detects lane (eventOf processStep w i) := by
        show ¬(w.pipeline.detected i.frames lane).isSome = true
        rw [hdet]; exact Bool.false_ne_true
      refine ⟨hlive, Or.inr ⟨hnot, ?_⟩⟩
      -- the last observation, which the detector would have replaced after a period
      rcases h.detected lane with ⟨-, hnone⟩ | ⟨e', g, st', hlast, hg, hts, hauth', hcount⟩
      · rw [hnone] at hauth; nomatch hauth
      · obtain rfl := Option.some.inj (hauth.symm.trans hauth')
        unfold detectorIsDue at hdue
        rw [hts, h.detectorFps] at hdue
        dsimp only at hdue
        obtain ⟨hle, hlt⟩ := Bool.or_eq_false_iff.mp hdue
        exact ⟨e', g, hlast.append hnot, hg, not_lt.mp (of_decide_eq_false hle),
          not_le.mp (of_decide_eq_false hlt), hcount ▸ hraw⟩

/-- **A step keeps the origin of every entry.** -/
theorem sourced_step {fps : Rat} {es : List StepEvent} {w : PipelineWorld} (i : StepInput)
    (h : Sourced fps es w) :
    Sourced fps (es ++ [eventOf processStep w i]) (w.processStep i).1 := by
  rcases processStep_lanes w i with ⟨hempty, hw⟩ | ⟨hctx, hts, hauth, hfps⟩
  · -- nothing to do, and no payload
    have hno : ∀ lane, ¬HasPayload lane (eventOf processStep w i) := by
      intro lane
      show ¬(i.frames.items.lookup lane).isSome = true
      rw [hempty]
      exact Bool.false_ne_true
    rw [hw]
    exact ⟨h.detectorFps,
      fun lane => seenFrom_append (h.seen lane) (hno lane) rfl (fun hn => hn) fun _ hst _ => hst,
      fun lane => detectedFrom_append (h.detected lane) (not_detects_of_no_payload (hno lane)) rfl
        rfl⟩
  · refine ⟨hfps.trans h.detectorFps, fun lane => ?_, fun lane => ?_⟩
    · cases hf : i.frames.get? lane with
      | some f => exact seenFrom_step h hf hctx
      | none =>
          have hno : ¬HasPayload lane (eventOf processStep w i) := by
            show ¬(i.frames.get? lane).isSome = true
            rw [hf]; exact Bool.false_ne_true
          have hstats : w.pipeline.stepStats i.frames lane = none := by
            unfold TrafficPipeline.stepStats; rw [hf]; rfl
          have hhist : (w.processStep i).1.ctx.laneStatsHistory lane
              = w.agedStats i.nowMono lane := by
            rw [hctx]
            unfold mergeContext
            dsimp only
            rw [hstats]
          refine seenFrom_append (h.seen lane) hno ?_ (fun hn => ?_) fun st hst hraw => ?_
          · rw [hctx]
            exact if_neg hno
          · rw [hhist]
            unfold agedStats
            rw [hn]; rfl
          · rw [hhist] at hst
            exact agedStats_rawCount w hst hraw
    · obtain ⟨e, he⟩ := w.pipeline.perceive_lastAuthoritativeStats i.frames lane
      have hlast := w.pipeline.perceive_lastDetectionTs i.frames lane
      rw [← hts] at hlast
      rw [← hauth] at he
      cases hdet : w.pipeline.detected i.frames lane with
      | some f =>
          rw [hdet, Option.map_some, Option.getD_some] at hlast he
          have hd : Detects lane (eventOf processStep w i) := by
            show (w.pipeline.detected i.frames lane).isSome = true
            rw [hdet]; rfl
          exact Or.inr ⟨_, f, _, lastWith_append_self es hd, detected_eq_some hdet, hlast, he, rfl⟩
      | none =>
          rw [hdet, Option.map_none, Option.getD_none] at hlast he
          have hd : ¬Detects lane (eventOf processStep w i) := by
            show ¬(w.pipeline.detected i.frames lane).isSome = true
            rw [hdet]; exact Bool.false_ne_true
          exact detectedFrom_append (h.detected lane) hd hlast he

/-- The tables after a run come from its steps. -/
theorem sourced_final {w : PipelineWorld} (h : Unseen w) (run : List StepInput) :
    Sourced w.pipeline.detectorFps (events processStep w run) (final processStep w run) := by
  induction run using List.reverseRecOn with
  | nil => exact sourced_init h
  | append_singleton run i ih =>
      rw [events_append, final_append]
      exact sourced_step i ih

/-! ## The start of a phase -/

theorem started_of_startsPhase {w : PipelineWorld} {i : StepInput} {d : SignalDecision LaneName}
    (h : StartsPhase (w.processStep i).2 d) :
    w.Started i d ∧ (w.processStep i).1.ctx = w.mergeContext i := by
  obtain ⟨hchange, hdec⟩ := h
  rcases processStep_outcome w i with ⟨-, hw⟩ | ⟨-, -, -, -, hw⟩ | ⟨-, -, hw⟩ | ⟨-, r, d₀, hs, hw⟩
  · rw [hw] at hchange; exact absurd hchange Bool.false_ne_true
  · rw [hw] at hchange; exact absurd hchange Bool.false_ne_true
  · rw [hw] at hchange; exact absurd hchange Bool.false_ne_true
  · rw [hw] at hdec ⊢
    obtain rfl : d₀ = d := Option.some.inj hdec
    exact ⟨hs, rfl⟩

/-- Somebody counted in the merged statistics is in the lane's history. -/
theorem history_of_mergedStats {w : PipelineWorld} {i : StepInput} {lane : LaneName}
    (h : 0 < (w.mergedStats i lane).rawCount) :
    (w.mergeContext i).laneStatsHistory lane = some (w.mergedStats i lane) := by
  unfold mergedStats at h ⊢
  unfold mergeContext
  dsimp only
  cases hs : w.pipeline.stepStats i.frames lane with
  | some st => rfl
  | none =>
      rw [hs] at h
      dsimp only at h ⊢
      cases ha : w.agedStats i.nowMono lane with
      | some st => rfl
      | none => rw [ha] at h; exact absurd h (lt_irrefl 0)

theorem input_mem_of_mem_events {w : PipelineWorld} {run : List StepInput} {e : StepEvent}
    (h : e ∈ events processStep w run) : e.input ∈ run := by
  obtain ⟨before, i, rest, rfl, rfl⟩ := (mem_events_iff _).mp h
  exact List.mem_append_right _ List.mem_cons_self

/--
**Green is only granted on fresh evidence.**

In every run of `process_step` from a pipeline that has seen nothing, with any
frames and readings that never decrease: if the last step starts a phase, then the
newest payload of its lane is less than three seconds old, came from a connected
camera, and its statistics count somebody: by its own observation, or by the last
one of the lane, less than a detector period older in frame time.
-/
theorem green_needs_fresh_evidence (w : PipelineWorld) (hw : Unseen w) (before : List StepInput)
    (i : StepInput) (hclock : ((before ++ [i]).map (·.nowMono)).Pairwise (· ≤ ·))
    (d : SignalDecision LaneName)
    (hstart : StartsPhase ((final processStep w before).processStep i).2 d) :
    FreshEvidence w.pipeline.detectorFps (events processStep w (before ++ [i])) d.greenLane
      i.nowMono := by
  obtain ⟨hs, hctx⟩ := started_of_startsPhase hstart
  have hsourced := sourced_final hw (before ++ [i])
  have hfinal : (final processStep w (before ++ [i])).ctx
      = (final processStep w before).mergeContext i := by
    rw [final_append]; exact hctx
  have hhist := history_of_mergedStats hs.occupied
  rcases hsourced.seen d.greenLane with ⟨-, hnone⟩ | ⟨e, f, hlast, hf, hseen, hcount⟩
  · rw [hfinal, hhist] at hnone; nomatch hnone
  · rw [hfinal] at hseen hcount
    obtain ⟨hlive, hsomebody⟩ := hcount _ hhist hs.occupied
    obtain ⟨hconn, hframe⟩ := Bool.and_eq_true_iff.mp hlive
    have hfresh := of_decide_eq_true (List.mem_filter.mp hs.fresh).2
    rw [hseen, Option.getD_some] at hfresh
    refine ⟨e, f, hlast, hf, ?_, hfresh, hconn, hframe, hsomebody⟩
    -- the step of the newest payload is this one or an earlier one
    rw [List.map_append, List.pairwise_append] at hclock
    rcases List.mem_append.mp (input_mem_of_mem_events hlast.mem) with hmem | hmem
    · exact hclock.2.2 _ (List.mem_map_of_mem hmem) _ List.mem_cons_self
    · rw [List.mem_singleton.mp hmem]

theorem green_needs_fresh_evidence_north :
    FreshEvidence 2 (events processStep {} [sampleStep .north false 10]) .north 10 := by
  have hstart : (({} : PipelineWorld).processStep (sampleStep .north false 10)).2.signalDecision.map
      (·.greenLane) = some .north := by decide +kernel
  obtain ⟨d, hd, hlane⟩ := Option.map_eq_some_iff.mp hstart
  have h := green_needs_fresh_evidence {} ⟨fun _ => rfl, fun _ => rfl, fun _ => rfl, fun _ => rfl⟩
    [] (sampleStep .north false 10) (by decide +kernel) d ⟨by decide +kernel, hd⟩
  rw [hlane] at h
  exact h

end SmartTraffic.Proof
