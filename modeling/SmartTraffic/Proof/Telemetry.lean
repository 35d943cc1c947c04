import SmartTraffic.Server.Publication
import SmartTraffic.Proof.Steps
import SmartTraffic.Proof.Ownership

/-!
# Published telemetry and the signal

What the latest snapshot shows is the signal of some result: the one it was built
from, or the one the ticker applied to it last. `Board` keeps that along any run.
Whether it is the signal of the most recent result is another matter. Results of
a batch are committed after later ones have been produced, and a result without a
decision is not applied at all. A publication tells the truth as long as the last
step has left a phase, and no step since the one on display has moved it on.
-/

namespace SmartTraffic.Proof

open SmartTraffic Lib

/-! ## Results and what shows them -/

/-- A lit result has a decision, and its intersection state names the same approach. -/
def Coherent (r : PipelineResult) : Prop :=
  r.signalState ≠ .allRed → ∃ d, r.signalDecision = some d
    ∧ (r.intersectionState.bind (·.greenLane)) = some d.greenLane

/-- The green or yellow of a result. -/
def light (r : PipelineResult) : Option (LaneName × SignalState) :=
  r.signalDecision.bind fun d =>
    if r.signalState = .allRed then none else some (d.greenLane, r.signalState)

/-- The fields show the signal of the result. -/
structure Displays (f : SignalFields) (r : PipelineResult) : Prop where
  phase : ∃ lane : LaneName, f.activePhase = lane.value
  state : f.signalState = r.signalState
  lit : r.signalState ≠ .allRed → ∃ d, r.signalDecision = some d ∧ f.activePhase = d.greenLane.value

theorem value_injective {lane lane' : LaneName} (h : lane.value = lane'.value) : lane = lane' := by
  cases lane <;> cases lane' <;> first | rfl | exact absurd h (by decide)

theorem light_eq_some {r : PipelineResult} {lane : LaneName} {state : SignalState} :
    light r = some (lane, state) ↔ r.signalState = state ∧ state ≠ .allRed
      ∧ ∃ d, r.signalDecision = some d ∧ d.greenLane = lane := by
  unfold light
  constructor
  · intro h
    obtain ⟨d, hd, hlight⟩ := Option.bind_eq_some_iff.mp h
    split_ifs at hlight with hred
    obtain ⟨rfl, rfl⟩ := Prod.mk.inj (Option.some.inj hlight)
    exact ⟨rfl, hred, d, hd, rfl⟩
  · rintro ⟨rfl, hlit, d, hd, rfl⟩
    rw [hd]
    exact if_neg hlit

theorem processStep_coherent (w : PipelineWorld) (i : StepInput) :
    Coherent (w.processStep i).2 := by
  have hreport : ∀ p b, Coherent (w.report i p b) := by
    intro p b hlit
    have hstate : p.signalState i.currentMonoTime ≠ .allRed := hlit
    unfold TrafficPipeline.signalState at hstate
    show ∃ d, p.activeDecision = some d ∧ p.activeDecision.map (·.greenLane) = some d.greenLane
    cases hd : p.activeDecision with
    | none => rw [hd] at hstate; exact absurd rfl hstate
    | some d => exact ⟨d, rfl, rfl⟩
  unfold PipelineWorld.processStep
  split_ifs
  · exact fun hlit => absurd rfl hlit
  · split
    · exact fun hlit => absurd rfl hlit
    · exact hreport _ _
  · exact hreport _ _

theorem processed_coherent {s : Publisher} {result : PipelineResult} (h : Coherent result)
    (i : WorkInput) : Coherent (s.processed result i) := by
  unfold Publisher.processed
  rcases processResult_result s.runtime.systemRunning s.runtime.esp32 result i.reply with heq | heq
  · rw [heq]; exact h
  · rw [heq]; exact fun hlit => absurd rfl hlit

theorem frameSignal_displays {r : PipelineResult} (h : Coherent r) (direction : LaneName) :
    Displays (r.frameSignal direction) r := by
  refine ⟨⟨_, rfl⟩, rfl, fun hlit => ?_⟩
  obtain ⟨d, hd, hlane⟩ := h hlit
  refine ⟨d, hd, ?_⟩
  show ((r.intersectionState.bind (·.greenLane)).getD direction).value = _
  rw [hlane]
  rfl

theorem applySignal_displays {r : PipelineResult} {d : SignalDecision LaneName}
    (hd : r.signalDecision = some d) (f : SignalFields) : Displays (applySignal f r) r := by
  unfold applySignal
  rw [hd]
  exact ⟨⟨_, rfl⟩, rfl, fun _ => ⟨d, hd, rfl⟩⟩

/-! ## The invariant -/

/-- Nothing is shown: no approach is named. -/
def Blank (f : SignalFields) : Prop := f.activePhase = "None" ∧ f.signalState = .allRed

/-- What waits to be published shows its result, and so does the latest snapshot. -/
structure Board (s : Publisher) : Prop where
  /-- A result of a frame that waits for `process_result`. -/
  jobs : ∀ result ready computed, Job.control result ready computed ∈ s.runtime.executor →
    Coherent result
  results : ∀ c ∈ s.results, Displays c.signal c.result
  committing : ∀ cs, s.committing = some cs → ∀ c ∈ cs, Displays c.signal c.result
  shown : ∀ r, s.shown = some r → ∃ f, s.latestSnapshot = some f ∧ Displays f r
  blank : s.shown = none → ∀ f, s.latestSnapshot = some f → Blank f

/-- A result handed to `process_result` is one of a `process_step`. -/
theorem work_control {s : Runtime} {i : WorkInput} {result : PipelineResult}
    {ready : List CameraPacket} {computed : List LaneName}
    (h : Job.control result ready computed ∈ (s.work i).1.executor) :
    Job.control result ready computed ∈ s.executor
      ∨ ∃ (w : PipelineWorld) (j : StepInput), result = (w.processStep j).2 := by
  have hkeep : ∀ {job jobs}, s.executor = job :: jobs → Job.control result ready computed ∈ jobs →
      Job.control result ready computed ∈ s.executor := by
    intro job jobs hexec hmem
    rw [hexec]
    exact List.mem_cons_of_mem _ hmem
  unfold Runtime.work at h
  split at h
  · exact Or.inl h
  · rename_i hexec
    exact Or.inl (hkeep hexec ((List.mem_cons.mp h).resolve_left (by simp)))
  · rename_i hexec
    exact Or.inl (hkeep hexec ((List.mem_cons.mp h).resolve_left (by simp)))
  · rename_i hexec
    exact Or.inl (hkeep hexec h)
  · rename_i hexec
    split_ifs at h
    · exact Or.inl (hkeep hexec ((List.mem_cons.mp h).resolve_left (by simp)))
    · rcases List.mem_cons.mp h with heq | hmem
      · exact Or.inr ⟨_, _, (Job.control.inj heq).1⟩
      · exact Or.inl (hkeep hexec hmem)
  · rename_i hexec
    exact Or.inl (hkeep hexec ((List.mem_cons.mp h).resolve_left (by simp)))
  · rename_i hexec
    exact Or.inl (hkeep hexec h)
  · rename_i hexec
    exact Or.inl (hkeep hexec h)

/-- Elsewhere a job is only appended to the executor, and never one of a frame. -/
theorem step_control {s : Runtime} {l : Label} (hl : ∀ i, l ≠ .work i) {result : PipelineResult}
    {ready : List CameraPacket} {computed : List LaneName}
    (h : Job.control result ready computed ∈ (s.step l).1.executor) :
    Job.control result ready computed ∈ s.executor := by
  -- the executor only gains a job at its end
  have happend : ∀ {job : Job}, (∀ r q c, job ≠ .control r q c) →
      Job.control result ready computed ∈ s.executor ++ [job] →
      Job.control result ready computed ∈ s.executor := by
    intro job hjob hmem
    rcases List.mem_append.mp hmem with hmem | hmem
    · exact hmem
    · exact absurd (List.mem_singleton.mp hmem).symm (hjob _ _ _)
  cases l with
  | work i => exact absurd rfl (hl i)
  | coordinate packets =>
      unfold Runtime.step at h
      dsimp only at h
      split_ifs at h
      · exact h
      · exact happend (by simp) h
  | tick =>
      change _ ∈ s.tick.executor at h
      unfold Runtime.tick at h
      split at h
      · split_ifs at h
        · exact happend (by simp) h
        · exact h
      · exact h
      · exact happend (by simp) h
  | tickFails =>
      change _ ∈ s.tickFails.executor at h
      unfold Runtime.tickFails at h
      split_ifs at h
      · exact h
      · exact h
  | command c =>
      change _ ∈ (s.command c).executor at h
      unfold Runtime.command at h
      split_ifs at h
      · exact h
      · exact h
      · exact h
  | reset c =>
      change _ ∈ (s.reset c).executor at h
      unfold Runtime.reset at h
      split_ifs at h
      · exact h
      · exact h
  | configure minimum maximum => exact h

/-- Nothing is being processed and nothing has been published. -/
structure Starting (s : Publisher) : Prop where
  executor : s.runtime.executor = []
  results : s.results = []
  committing : s.committing = none
  latestSnapshot : s.latestSnapshot = none
  newest : s.newest = none
  shown : s.shown = none

/-- Besides, no step has run yet. -/
structure AtStart (s : Publisher) : Prop extends Starting s where
  steps : s.steps = []
  finishing : s.finishing = none
  inHand : s.inHand = none
  ticker : s.runtime.ticker = .sleeping

theorem AtStart.logged {s : Publisher} (h : AtStart s) : Logged s := by
  have hcontrols : ∀ result, ¬Controls s.runtime result := by
    rintro result ⟨ready, computed, jobs, heq⟩
    nomatch h.executor.symm.trans heq
  refine ⟨⟨?_, ?_, ?_⟩, fun r hr => absurd hr (hcontrols r), fun hs => ?_, fun r hr => ?_,
    fun _ => h.ticker, fun step hl => ?_, fun _ => h.newest, fun k r hk => ?_, fun step hl => ?_,
    fun k step next hstep _ => ?_⟩
  · rw [h.executor]; exact fun j hj => absurd hj List.not_mem_nil
  · rw [h.executor]; exact fun j hj => absurd hj List.not_mem_nil
  · rw [h.executor]; exact Nat.zero_le 1
  · rw [h.inHand] at hs; nomatch hs
  · rcases hr with hstepped | hmem
    · nomatch h.ticker.symm.trans hstepped
    · rw [h.executor] at hmem; exact absurd hmem List.not_mem_nil
  · rw [h.steps] at hl; nomatch hl
  · cases hk with
    | result hc => rw [h.results] at hc; exact absurd hc List.not_mem_nil
    | commit hcs _ => nomatch h.committing.symm.trans hcs
    | finishing hr => nomatch h.finishing.symm.trans hr
    | shown hr => nomatch h.shown.symm.trans hr
  · rw [h.steps] at hl; nomatch hl
  · rw [h.steps] at hstep; nomatch hstep

theorem Starting.board {s : Publisher} (h : Starting s) : Board s := by
  refine ⟨fun result ready computed hmem => ?_, fun c hc => ?_, fun cs hcs => ?_, fun r hr => ?_,
    fun _ f hf => ?_⟩
  · rw [h.executor] at hmem
    exact absurd hmem List.not_mem_nil
  · rw [h.results] at hc
    exact absurd hc List.not_mem_nil
  · rw [h.committing] at hcs
    nomatch hcs
  · rw [h.shown] at hr
    nomatch hr
  · rw [h.latestSnapshot] at hf
    nomatch hf

/-! ## Every stretch keeps the board -/

/-- The parts of a publisher that the invariant speaks of. -/
def posted (s : Publisher) := (s.results, s.committing, s.latestSnapshot, s.shown)

/-- A stretch that posts nothing keeps the board. -/
theorem board_of_posted_eq {s s' : Publisher} (h : Board s) (heq : posted s' = posted s)
    (hjobs : ∀ result ready computed, Job.control result ready computed ∈ s'.runtime.executor →
      Coherent result) : Board s' := by
  simp only [posted, Prod.mk.injEq] at heq
  obtain ⟨hresults, hcommitting, hlatest, hshown⟩ := heq
  refine ⟨hjobs, ?_, ?_, ?_, ?_⟩
  · rw [hresults]; exact h.results
  · rw [hcommitting]; exact h.committing
  · rw [hshown, hlatest]; exact h.shown
  · rw [hshown, hlatest]; exact h.blank

theorem board_work {s : Publisher} (h : Board s) (i : WorkInput) : Board (s.work i) := by
  have hjobs : ∀ result ready computed,
      Job.control result ready computed ∈ (s.runtime.work i).1.executor → Coherent result := by
    intro result ready computed hmem
    rcases work_control hmem with hold | ⟨w, j, rfl⟩
    · exact h.jobs _ _ _ hold
    · exact processStep_coherent w j
  unfold Publisher.work
  dsimp only
  split
  · -- the batch returns
    refine ⟨hjobs, fun c hc => absurd hc List.not_mem_nil, fun cs hcs => ?_, h.shown, h.blank⟩
    obtain rfl := Option.some.inj hcs
    exact h.results
  · split_ifs
    · exact board_of_posted_eq h rfl hjobs
    · exact board_of_posted_eq h rfl hjobs
  · -- the snapshot of a frame is built
    rename_i result ready computed jobs hexec
    have hresult : Coherent (s.processed result i) :=
      processed_coherent (h.jobs result ready computed (by rw [hexec]; exact List.mem_cons_self)) i
    refine ⟨hjobs, fun c hc => ?_, h.committing, h.shown, h.blank⟩
    rcases List.mem_append.mp hc with hold | hnew
    · exact h.results c hold
    · obtain ⟨direction, -, rfl⟩ := Option.map_eq_some_iff.mp (Option.mem_toList.mp hnew)
      exact frameSignal_displays hresult direction
  · exact board_of_posted_eq h rfl hjobs
  · exact board_of_posted_eq h rfl hjobs
  · exact board_of_posted_eq h rfl hjobs

/-! ## Blanked snapshots -/

theorem blank_noSignal (reason : String) : Blank (Publisher.noSignal reason) := ⟨rfl, rfl⟩

/-- No approach goes by the name that a blank snapshot gives. -/
theorem value_ne_none (lane : LaneName) : lane.value ≠ "None" := by cases lane <;> decide

theorem toLower_value {lane lane' : LaneName} : lane.value.toLower = lane'.key ↔ lane = lane' := by
  cases lane <;> cases lane' <;> decide +kernel

theorem none_toLower (lane : LaneName) : "None".toLower ≠ lane.key := by
  cases lane <;> decide +kernel

theorem publishTicker_of_hides {py : Python} {s : Publisher} {r : Reading}
    (h : s.hides py r = true) : (s.publishTicker py r).shown = none
      ∧ ∃ f, (s.publishTicker py r).latestSnapshot = some f ∧ Blank f := by
  unfold Publisher.publishTicker
  dsimp only
  rw [if_pos h]
  refine ⟨rfl, _, rfl, ?_⟩
  unfold Publisher.runtimeSnapshot
  unfold Publisher.hides at h
  split_ifs with hrun hlive hmissing
  · exact blank_noSignal _
  · exact blank_noSignal _
  · exact blank_noSignal _
  · simp [hrun, hlive, hmissing] at h

/-- **A snapshot that is not blanked is published as it is.** -/
theorem publishTicker_of_not_hides {py : Python} {s : Publisher} {r : Reading}
    (h : s.hides py r = false) : s.publishTicker py r = s
      ∧ ∃ f, s.latestSnapshot = some f
          ∧ ∃ lane, s.isLive py r lane = true ∧ f.activePhase.toLower = lane.key := by
  have hparts := h
  unfold Publisher.hides at hparts
  simp only [Bool.or_eq_false_iff, Bool.not_eq_false'] at hparts
  obtain ⟨⟨hrun, hlive⟩, hmissing⟩ := hparts
  have hnamed := hmissing
  unfold Publisher.activeMissing at hnamed
  rw [Bool.not_eq_false', List.any_eq_true] at hnamed
  obtain ⟨lane, -, hlane⟩ := hnamed
  obtain ⟨hl, hany⟩ := Bool.and_eq_true_iff.mp hlane
  obtain ⟨f, hf, hname⟩ := (Option.any_eq_true _ _).mp hany
  refine ⟨?_, f, hf, lane, hl, of_decide_eq_true hname⟩
  unfold Publisher.publishTicker Publisher.runtimeSnapshot
  rw [if_neg (by rw [hrun]; simp), if_neg (by rw [hlive]; simp), if_neg (by rw [hmissing]; simp),
    if_neg (by rw [h]; simp), hf]
  show { s with latestSnapshot := some f } = s
  rw [← hf]

/-- A snapshot that shows a result is blanked exactly when the approach it names is not live. -/
theorem hides_iff {py : Python} {s : Publisher} {r : Reading} {f : SignalFields} {lane : LaneName}
    (hf : s.latestSnapshot = some f) (hlane : f.activePhase = lane.value) :
    s.hides py r = true ↔ s.isLive py r lane = false := by
  constructor
  · intro hhides
    by_contra hlive
    have hlive : s.isLive py r lane = true := by simpa using hlive
    have hmem : lane ∈ approachNames := by cases lane <;> decide
    have hrun : s.runtime.systemRunning = true := by
      unfold Publisher.isLive at hlive
      simp only [Bool.and_eq_true] at hlive
      exact hlive.1.1
    have hany : (approachNames.any fun lane => s.isLive py r lane) = true :=
      List.any_eq_true.mpr ⟨lane, hmem, hlive⟩
    have hnamed : s.activeMissing py r = false := by
      unfold Publisher.activeMissing
      rw [Bool.not_eq_false', List.any_eq_true]
      refine ⟨lane, hmem, Bool.and_eq_true_iff.mpr ⟨hlive, ?_⟩⟩
      rw [hf]
      exact decide_eq_true (hlane ▸ toLower_value.mpr rfl)
    unfold Publisher.hides at hhides
    rw [hrun, hany, hnamed] at hhides
    cases hhides
  · intro hdead
    by_contra hno
    obtain ⟨-, f', hf', lane', hlive, hname⟩ := publishTicker_of_not_hides (by simpa using hno)
    obtain rfl := Option.some.inj (hf.symm.trans hf')
    rw [hlane] at hname
    obtain rfl := toLower_value.mp hname
    exact absurd (hdead.symm.trans hlive) Bool.false_ne_true

theorem board_publishTicker {s : Publisher} (h : Board s) (py : Python) (r : Reading) :
    Board (s.publishTicker py r) := by
  cases hhides : s.hides py r with
  | false => rw [(publishTicker_of_not_hides hhides).1]; exact h
  | true =>
      obtain ⟨hshown, f, hf, hblank⟩ := publishTicker_of_hides hhides
      refine ⟨h.jobs, h.results, h.committing, fun r' hr' => ?_, fun _ f' hf' => ?_⟩
      · rw [hshown] at hr'; nomatch hr'
      · obtain rfl := Option.some.inj (hf.symm.trans hf')
        exact hblank

theorem board_apply {s : Publisher} (h : Board s) (result : PipelineResult) :
    Board (s.apply result) := by
  unfold Publisher.apply
  cases hlatest : s.latestSnapshot with
  | none => exact h
  | some fields =>
      dsimp only
      cases hd : result.signalDecision with
      | none =>
          refine ⟨h.jobs, h.results, h.committing, fun r hr => ?_, fun hnone f hf => ?_⟩
          · obtain ⟨f, hf, hdisplays⟩ := h.shown r hr
            obtain rfl := Option.some.inj (hlatest.symm.trans hf)
            refine ⟨_, rfl, ?_⟩
            unfold applySignal
            rw [hd]
            exact hdisplays
          · unfold applySignal at hf
            rw [hd] at hf
            obtain rfl := Option.some.inj hf
            exact h.blank hnone _ hlatest
      | some d =>
          refine ⟨h.jobs, h.results, h.committing, fun r hr => ?_, fun hnone => nomatch hnone⟩
          obtain rfl := Option.some.inj hr
          exact ⟨_, rfl, applySignal_displays hd fields⟩

theorem board_commit {s : Publisher} (h : Board s) (r : Reading) (accepted : Bool) :
    Board (s.commit r accepted).1 := by
  unfold Publisher.commit
  split
  · exact h
  · refine ⟨h.jobs, h.results, fun cs hcs => (nomatch hcs), h.shown, h.blank⟩
  · rename_i c rest hcommitting
    have hall := h.committing _ hcommitting
    have hrest : ∀ cs, some rest = some cs → ∀ c ∈ cs, Displays c.signal c.result := by
      intro cs hcs c' hc'
      obtain rfl := Option.some.inj hcs
      exact hall c' (List.mem_cons_of_mem _ hc')
    split_ifs
    · refine ⟨h.jobs, h.results, hrest, fun r' hr' => ?_, fun hnone => nomatch hnone⟩
      obtain rfl := Option.some.inj hr'
      exact ⟨_, rfl, hall c List.mem_cons_self⟩
    · exact ⟨h.jobs, h.results, hrest, h.shown, h.blank⟩

/-- **Every stretch keeps the board.** -/
theorem board_step (py : Python) (s : Publisher) (t : Turn) (h : Board s) :
    Board (s.step py t).1 := by
  cases t with
  | work i => exact board_work h i
  | coordinate packets =>
      unfold Publisher.step
      dsimp only
      split_ifs
      · exact h
      · exact board_of_posted_eq h rfl fun result ready computed hmem =>
          h.jobs _ _ _ (step_control (by simp) hmem)
  | tick r =>
      show Board (s.tick py r).1
      -- taking a step posts nothing
      have htick : Board { s with runtime := s.runtime.tick } := board_of_posted_eq h rfl
        fun result ready computed hmem => h.jobs _ _ _ (step_control (l := .tick) (by simp) hmem)
      unfold Publisher.tick
      split
      · exact h
      · split
        · split
          · exact htick
          · exact board_publishTicker h py r
        · exact htick
  | tickFails =>
      exact board_of_posted_eq h rfl fun result ready computed hmem =>
        h.jobs _ _ _ (step_control (l := .tickFails) (by simp) hmem)
  | command c =>
      exact board_of_posted_eq h rfl fun result ready computed hmem =>
        h.jobs _ _ _ (step_control (l := .command c) (by simp) hmem)
  | reset c =>
      exact board_of_posted_eq h rfl fun result ready computed hmem =>
        h.jobs _ _ _ (step_control (l := .reset c) (by simp) hmem)
  | configure minimum maximum =>
      exact board_of_posted_eq h rfl fun result ready computed hmem =>
        h.jobs _ _ _ (step_control (l := .configure minimum maximum) (by simp) hmem)
  | finish r =>
      show Board (s.finish py r).1
      unfold Publisher.finish
      split
      · exact h
      · refine board_publishTicker (board_apply ?_ _) py r
        exact board_of_posted_eq h rfl h.jobs
  | commit r accepted => exact board_commit h r accepted
  | setSessions m => exact board_of_posted_eq h rfl h.jobs
  | forget direction => exact board_of_posted_eq h rfl h.jobs
  | forgetAll => exact board_of_posted_eq h rfl h.jobs

/-! ## What is published -/

/-- The three ways of publishing, and what they leave behind. -/
inductive Publishes (py : Python) (s : Publisher) : Turn → Publication → Publisher → Prop
  /-- An iteration of the ticker without a step. -/
  | tick (r : Reading) : Publishes py s (.tick r) (.ticker r) (s.publishTicker py r)
  /-- The end of an iteration with a step. -/
  | finish (r : Reading) {result : PipelineResult} (hfinishing : s.finishing = some result) :
      Publishes py s (.finish r) (.ticker r)
        (({ s with finishing := none }.apply result).publishTicker py r)
  | commit (r : Reading) (accepted : Bool) {c : FrameCommit} {s' : Publisher}
      (hcommitting : c ∈ s.committing.bind List.head?)
      (hok : (s.runtime.systemRunning && accepted) = true)
      (hlatest : s'.latestSnapshot = some c.signal) (hnewest : s'.newest = s.newest) :
      Publishes py s (.commit r accepted) (.frame c) s'

/-- **Nothing else publishes.** -/
theorem step_publishes {py : Python} {s : Publisher} {t : Turn} {p : Publication}
    (h : (s.step py t).2 = some p) : Publishes py s t p (s.step py t).1 := by
  cases t with
  | tick r =>
      change (s.tick py r).2 = some p at h
      show Publishes py s (.tick r) p (s.tick py r).1
      unfold Publisher.tick at h ⊢
      split at h
      · cases h
      · rename_i hfin
        rw [if_neg hfin]
        split at h
        · split at h
          · cases h
          · rename_i hidle
            rw [if_neg hidle]
            obtain rfl := Option.some.inj h
            exact .tick r
        · cases h
  | finish r =>
      change (s.finish py r).2 = some p at h
      show Publishes py s (.finish r) p (s.finish py r).1
      unfold Publisher.finish at h ⊢
      cases hfin : s.finishing with
      | none => rw [hfin] at h; cases h
      | some result =>
          rw [hfin] at h
          obtain rfl := Option.some.inj h
          exact .finish r hfin
  | commit r accepted =>
      change (s.commit r accepted).2 = some p at h
      show Publishes py s (.commit r accepted) p (s.commit r accepted).1
      unfold Publisher.commit at h ⊢
      split at h
      · cases h
      · cases h
      · rename_i c rest hcommitting
        split at h
        · rename_i hok
          obtain rfl := Option.some.inj h
          -- the commit publishes the signal of its batch
          refine .commit r accepted ?_ hok ?_ ?_
          · rw [hcommitting]; rfl
          · rw [if_pos hok]
          · rw [if_pos hok]
        · cases h
  | coordinate packets =>
      unfold Publisher.step at h
      dsimp only at h
      split_ifs at h
  | _ => cases h

/-! ## Telling the truth -/

/-- The latest snapshot tells the truth about the most recent result. -/
structure Truthful (s : Publisher) : Prop where
  /-- A green or yellow is that of the most recent result. -/
  lit : ∀ f, s.latestSnapshot = some f → f.signalState ≠ .allRed → ∃ r d, s.newest = some r
    ∧ r.signalDecision = some d ∧ f.activePhase = d.greenLane.value ∧ r.signalState = f.signalState
  /-- Without a decision no approach is named, and all is red. -/
  undecided : ∀ f r, s.latestSnapshot = some f → s.newest = some r → r.signalDecision = none →
    (∀ lane : LaneName, f.activePhase ≠ lane.value) ∧ f.signalState = .allRed

/-- No newer result contradicts the one on display. -/
structure StillHolds (newest : Option PipelineResult) (displayed : PipelineResult) : Prop where
  /-- The most recent result has a decision. -/
  decided : ∀ r, newest = some r → r.signalDecision.isSome = true
  /-- A green or yellow on display is the most recent result's as well. -/
  agrees : ∀ lit, light displayed = some lit → newest.bind light = some lit

theorem truthful_of_blank {s : Publisher} {f : SignalFields} (hf : s.latestSnapshot = some f)
    (hblank : Blank f) : Truthful s := by
  refine ⟨fun f' hf' hlit => ?_, fun f' r hf' _ _ => ?_⟩
  · obtain rfl := Option.some.inj (hf.symm.trans hf')
    exact absurd hblank.2 hlit
  · obtain rfl := Option.some.inj (hf.symm.trans hf')
    exact ⟨fun lane hlane => value_ne_none lane (hlane.symm.trans hblank.1), hblank.2⟩

/-- **A snapshot that shows a result tells the truth exactly if the result is current.** -/
theorem truthful_of_displays {s : Publisher} {f : SignalFields} {r : PipelineResult}
    (hf : s.latestSnapshot = some f) (hdisplays : Displays f r) :
    Truthful s ↔ StillHolds s.newest r := by
  constructor
  · intro h
    refine ⟨fun r' hr' => ?_, fun lit hlit => ?_⟩
    · -- the snapshot names an approach
      by_contra hno
      obtain ⟨lane, hlane⟩ := hdisplays.phase
      exact (h.undecided f r' hf hr' (by simpa using hno)).1 lane hlane
    · obtain ⟨lane, state⟩ := lit
      obtain ⟨hstate, hne, d, hd, rfl⟩ := light_eq_some.mp hlit
      obtain ⟨d', hd', hphase⟩ := hdisplays.lit (by rw [hstate]; exact hne)
      obtain rfl := Option.some.inj (hd.symm.trans hd')
      have hsame := hdisplays.state.trans hstate
      obtain ⟨r', d', hr', hdec, hphase', hstate'⟩ := h.lit f hf (by rw [hsame]; exact hne)
      rw [hr']
      refine light_eq_some.mpr ⟨hstate'.trans hsame, hne, d', hdec, ?_⟩
      exact value_injective (hphase'.symm.trans hphase)
  · intro h
    refine ⟨fun f' hf' hne => ?_, fun f' r' hf' hr' hnone => ?_⟩
    · obtain rfl := Option.some.inj (hf.symm.trans hf')
      rw [hdisplays.state] at hne ⊢
      obtain ⟨d, hd, hphase⟩ := hdisplays.lit hne
      have hlight : light r = some (d.greenLane, r.signalState) :=
        light_eq_some.mpr ⟨rfl, hne, d, hd, rfl⟩
      obtain ⟨r', hr', hnew⟩ := Option.bind_eq_some_iff.mp (h.agrees _ hlight)
      obtain ⟨hstate', -, d', hd', hlane⟩ := light_eq_some.mp hnew
      exact ⟨r', d', hr', hd', by rw [hphase, hlane], hstate'⟩
    · have := h.decided r' hr'
      rw [hnone] at this
      nomatch this

theorem publishTicker_truthful {s : Publisher} (h : Board s) (py : Python) (r : Reading) :
    Truthful (s.publishTicker py r)
      ↔ ∀ r', (if s.hides py r then none else s.shown) = some r' → StillHolds s.newest r' := by
  cases hhides : s.hides py r with
  | true =>
      obtain ⟨-, f, hf, hblank⟩ := publishTicker_of_hides hhides
      exact iff_of_true (truthful_of_blank hf hblank) fun r' hr' => nomatch hr'
  | false =>
      obtain ⟨hsame, f, hf, lane, -, hname⟩ := publishTicker_of_not_hides hhides
      rw [hsame]
      cases hshown : s.shown with
      | none =>
          -- a blank snapshot would have been hidden
          rw [(h.blank hshown f hf).1] at hname
          exact absurd hname (none_toLower lane)
      | some shown =>
          obtain ⟨f', hf', hdisplays⟩ := h.shown shown hshown
          rw [truthful_of_displays hf' hdisplays]
          exact ⟨fun hc r' hr' => Option.some.inj hr' ▸ hc, fun hall => hall shown rfl⟩

/-! ## What runs between a step and its publication -/

/-- The step leaves a phase: it has something to do, and finds an approach if it needs one. -/
def leavesPhase (step : StepRun) : Bool :=
  !(step.input.frames.items.isEmpty && step.world.pipeline.activeDecision.isNone)
    && (!step.world.changesPhase step.input || (step.world.startedPhase step.input).isSome)

/-- The step keeps the running phase, and finds it in the given part. -/
def keepsPart (state : SignalState) (step : StepRun) : Bool :=
  !step.world.changesPhase step.input
    && decide ((step.world.observed step.input).signalState step.input.currentMonoTime = state)

/-- A step keeps a phase only if one is active, and goes on with its approach. -/
theorem observed_of_kept {w : PipelineWorld} {i : StepInput} (h : w.changesPhase i = false) :
    ∃ d d', w.pipeline.activeDecision = some d ∧ (w.observed i).activeDecision = some d'
      ∧ d'.greenLane = d.greenLane := by
  have hexp := (Bool.or_eq_false_iff.mp h).1
  have hobs := PipelineWorld.observed_activeDecision w i
  cases hd : w.pipeline.activeDecision with
  | none =>
      unfold TrafficPipeline.isPhaseExpired at hexp
      rw [hobs, hd] at hexp
      simp at hexp
  | some d =>
      rw [hd] at hobs
      split_ifs at hobs
      · exact ⟨d, _, rfl, hobs, rfl⟩
      · exact ⟨d, d, rfl, hobs, rfl⟩

theorem leavesPhase_decides {step : StepRun} (h : leavesPhase step = true) :
    step.result.signalDecision.isSome = true := by
  unfold leavesPhase at h
  obtain ⟨hbusy, hphase⟩ := Bool.and_eq_true_iff.mp h
  have hidle : ¬(step.input.frames.items = [] ∧ step.world.pipeline.activeDecision = none) := by
    rintro ⟨hframes, hnone⟩
    rw [hframes, hnone] at hbusy
    nomatch hbusy
  unfold StepRun.result
  cases hc : step.world.changesPhase step.input with
  | false =>
      obtain ⟨d, d', -, hd', -⟩ := observed_of_kept hc
      rw [PipelineWorld.processStep_hold hidle hc]
      show (step.world.observed step.input).activeDecision.isSome = true
      rw [hd']
      rfl
  | true =>
      rw [hc] at hphase
      obtain ⟨⟨r, d⟩, hstart⟩ := Option.isSome_iff_exists.mp hphase
      rw [PipelineWorld.processStep_start hidle hc hstart]
      rfl

/-- **A step that keeps the phase in its part reports the light of the step before.** -/
theorem keepsPart_light {step : StepRun} {state : SignalState} (h : keepsPart state step = true)
    {lane : LaneName} (hlane : ∀ d, step.world.pipeline.activeDecision = some d →
      d.greenLane = lane) :
    (∃ d, step.result.signalDecision = some d ∧ d.greenLane = lane)
      ∧ step.result.signalState = state ∧ step.result.command = none := by
  unfold keepsPart at h
  obtain ⟨hc, hstate⟩ := Bool.and_eq_true_iff.mp h
  have hc : step.world.changesPhase step.input = false := by simpa using hc
  obtain ⟨d, d', hd, hd', hsame⟩ := observed_of_kept hc
  have hidle : ¬(step.input.frames.items = [] ∧ step.world.pipeline.activeDecision = none) := by
    rw [hd]; simp
  unfold StepRun.result
  rw [PipelineWorld.processStep_hold hidle hc]
  exact ⟨⟨d', hd', hsame.trans (hlane d hd)⟩, of_decide_eq_true hstate,
    command_of_no_phaseChange rfl⟩

/--
Since the step at the place `k`, whose signal is to be displayed, no step has
moved the phase on, and the last one has left a phase.
-/
structure StillOn (s : Publisher) (k : Nat) (state : SignalState) : Prop where
  decided : ∀ step, s.steps.getLast? = some step → leavesPhase step = true
  /-- Nothing can contradict an all-red signal. -/
  kept : state ≠ .allRed → ∀ step ∈ s.steps.drop (k + 1), keepsPart state step = true

/-- The publication puts on display a signal that comes from the step at this place. -/
inductive Puts (py : Python) (s : Publisher) : Turn → Nat → SignalState → Prop
  | commit {r : Reading} {accepted : Bool} {c : FrameCommit} {rest : List FrameCommit} :
      (s.runtime.systemRunning && accepted) = true → s.committing = some (c :: rest) →
      Puts py s (.commit r accepted) c.step c.signal.signalState
  /-- The ticker's own result, if it has a decision and its approach is live. -/
  | applied {r : Reading} {result : PipelineResult} {d : SignalDecision LaneName} :
      s.finishing = some result → result.signalDecision = some d →
      s.isLive py r d.greenLane = true → Puts py s (.finish r) s.tickerStep result.signalState
  /-- Otherwise what the snapshot shows already. -/
  | left {r : Reading} {result : PipelineResult} {f : SignalFields} {lane : LaneName} :
      s.finishing = some result → result.signalDecision = none → s.latestSnapshot = some f →
      f.activePhase.toLower = lane.key → s.isLive py r lane = true →
      Puts py s (.finish r) s.shownStep f.signalState
  | shown {r : Reading} {f : SignalFields} {lane : LaneName} : s.latestSnapshot = some f →
      f.activePhase.toLower = lane.key → s.isLive py r lane = true →
      Puts py s (.tick r) s.shownStep f.signalState

/-- No step has moved on what the publication displays. -/
def NotMovedOn (py : Python) (s : Publisher) (t : Turn) : Prop :=
  ∀ k state, Puts py s t k state → StillOn s k state

/-- **Along steps that keep the phase in its part, the light stays.** -/
theorem light_kept {s : Publisher} (h : Logged s) {k : Nat} {r : PipelineResult} (hran : Ran s k r)
    {lane : LaneName} {state : SignalState} (hlight : light r = some (lane, state))
    (hkept : ∀ step ∈ s.steps.drop (k + 1), keepsPart state step = true) (n : Nat) :
    ∀ step, s.steps[k + n]? = some step →
      (∃ d, step.result.signalDecision = some d ∧ d.greenLane = lane)
        ∧ (n ≠ 0 → step.result.signalState = state ∧ step.result.command = none) := by
  induction n with
  | zero =>
      intro step hstep
      obtain ⟨first, hfirst, hyields⟩ := hran
      obtain rfl := Option.some.inj (hfirst.symm.trans hstep)
      obtain ⟨-, -, d, hd, hlane⟩ := light_eq_some.mp hlight
      exact ⟨⟨d, (yields_signalDecision hyields).symm.trans hd, hlane⟩, fun hne => absurd rfl hne⟩
  | succ n ih =>
      intro step hstep
      have hlt : k + (n + 1) < s.steps.length := (List.getElem?_eq_some_iff.mp hstep).1
      obtain ⟨prev, hprev⟩ : ∃ prev, s.steps[k + n]? = some prev :=
        ⟨_, List.getElem?_eq_getElem (by omega)⟩
      obtain ⟨⟨d, hd, hlane⟩, -⟩ := ih prev hprev
      have hmem : step ∈ s.steps.drop (k + 1) := by
        have hplace : (s.steps.drop (k + 1))[n]? = some step := by
          rw [List.getElem?_drop, ← hstep]
          congr 1
          omega
        exact List.mem_of_getElem? hplace
      have hfound : ∀ d', step.world.pipeline.activeDecision = some d' → d'.greenLane = lane := by
        intro d' hd'
        -- the decision it found is the one the step before left
        rcases h.linked (k + n) prev step hprev hstep with hnone | hsame
        · nomatch hnone.symm.trans hd'
        · obtain rfl := Option.some.inj (hd.symm.trans (hsame.symm.trans hd'))
          exact hlane
      obtain ⟨hdec, hstate, hcmd⟩ := keepsPart_light (hkept step hmem) hfound
      exact ⟨hdec, fun _ => ⟨hstate, hcmd⟩⟩

/-- **What waits still holds if no step has moved the phase on.** -/
theorem stillHolds_of_stillOn {s : Publisher} (h : Logged s) {k : Nat} {r : PipelineResult}
    (hpending : OnItsWay s k r) (hon : StillOn s k r.signalState) : StillHolds s.newest r := by
  obtain ⟨hran, hnewest⟩ := h.pending k r hpending
  obtain ⟨first, hfirst, -⟩ := id hran
  have hlt : k < s.steps.length := (List.getElem?_eq_some_iff.mp hfirst).1
  obtain ⟨last, hlast⟩ : ∃ last, s.steps.getLast? = some last := by
    cases hl : s.steps.getLast? with
    | none => rw [List.getLast?_eq_none_iff.mp hl] at hlt; nomatch hlt
    | some last => exact ⟨last, rfl⟩
  obtain ⟨r', hr', hyields⟩ := h.newest last hlast
  refine ⟨fun r'' hr'' => ?_, fun lit hlit => ?_⟩
  · obtain rfl := Option.some.inj (hr'.symm.trans hr'')
    rw [yields_signalDecision hyields]
    exact leavesPhase_decides (hon.decided last hlast)
  · obtain ⟨lane, state⟩ := lit
    obtain ⟨rfl, hne, -⟩ := light_eq_some.mp hlit
    rcases Nat.lt_or_ge (k + 1) s.steps.length with hlater | hnone
    · obtain ⟨hget, hlen⟩ := getElem?_of_getLast? hlast
      obtain ⟨⟨d, hd, hlane⟩, hstate⟩ := light_kept h hran hlit (hon.kept hne)
        (s.steps.length - 1 - k) last (by rw [← hget]; congr 1; omega)
      obtain ⟨hstate, hcmd⟩ := hstate (by omega)
      -- a step that keeps the phase sends nothing, so its result stays as it is
      obtain rfl : r' = last.result := hyields.resolve_right fun hno => hno.1 hcmd
      rw [hr']
      exact light_eq_some.mpr ⟨hstate, hne, d, hd, hlane⟩
    · rw [(hnewest (by omega)).2]
      exact hlit

theorem isLive_apply (py : Python) (s : Publisher) (r : Reading) (result : PipelineResult)
    (lane : LaneName) :
    ({ s with finishing := none }.apply result).isLive py r lane = s.isLive py r lane := by
  unfold Publisher.apply
  split <;> rfl

/-- **An iteration of the ticker** displays its own result, or what was there before. -/
theorem finish_puts {s : Publisher} (h : Board s) {py : Python} {r : Reading}
    {result displayed : PipelineResult} (hfinishing : s.finishing = some result)
    (hhides : ({ s with finishing := none }.apply result).hides py r = false)
    (hshown : ({ s with finishing := none }.apply result).shown = some displayed) :
    ∃ k, OnItsWay s k displayed ∧ Puts py s (.finish r) k displayed.signalState := by
  obtain ⟨-, f, hf, lane, hlive, hname⟩ := publishTicker_of_not_hides hhides
  rw [isLive_apply] at hlive
  have hdisplay := congrArg Prod.fst (apply_display { s with finishing := none } result)
  rw [hshown] at hdisplay
  unfold Publisher.apply at hf
  cases hlatest : s.latestSnapshot with
  | none =>
      rw [show ({ s with finishing := none } : Publisher).latestSnapshot = none from hlatest] at hf
      nomatch hf
  | some fields =>
      rw [show ({ s with finishing := none } : Publisher).latestSnapshot = some fields
        from hlatest] at hf hdisplay
      obtain rfl := Option.some.inj hf
      cases hd : result.signalDecision with
      | some d =>
          rw [hd] at hdisplay
          obtain rfl := Option.some.inj hdisplay
          have hlane : d.greenLane = lane := by
            unfold applySignal at hname
            rw [hd] at hname
            exact toLower_value.mp hname
          exact ⟨_, .finishing hfinishing, .applied hfinishing hd (hlane ▸ hlive)⟩
      | none =>
          rw [hd] at hdisplay
          have hold : s.shown = some displayed := hdisplay.symm
          obtain ⟨f', hf', hdisplays⟩ := h.shown displayed hold
          obtain rfl := Option.some.inj (hlatest.symm.trans hf')
          unfold applySignal at hname
          rw [hd] at hname
          exact ⟨_, .shown hold, hdisplays.state ▸ .left hfinishing hd hlatest hname hlive⟩

/-- **A publication tells the truth if no step has moved on what it displays.** -/
theorem publication_truthful {py : Python} {s : Publisher} (h : Board s) (hlog : Logged s)
    {t : Turn} {p : Publication} (hpublishes : (s.step py t).2 = some p)
    (hcond : NotMovedOn py s t) : Truthful (s.step py t).1 := by
  have hcases := step_publishes hpublishes
  generalize (s.step py t).1 = s' at hcases ⊢
  cases hcases with
  | tick r =>
      refine (publishTicker_truthful h py r).mpr fun displayed hshown => ?_
      cases hhides : s.hides py r with
      | true => rw [hhides] at hshown; nomatch hshown
      | false =>
          rw [hhides] at hshown
          obtain ⟨-, f, hf, lane, hlive, hname⟩ := publishTicker_of_not_hides hhides
          obtain ⟨f', hf', hdisplays⟩ := h.shown displayed hshown
          obtain rfl := Option.some.inj (hf.symm.trans hf')
          exact stillHolds_of_stillOn hlog (.shown hshown)
            (hdisplays.state ▸ hcond _ _ (.shown hf hname hlive))
  | @finish r result hfinishing =>
      have hidle : Board { s with finishing := none } := board_of_posted_eq h rfl h.jobs
      refine (publishTicker_truthful (board_apply hidle result) py r).mpr fun displayed hshown => ?_
      have hnewest : ({ s with finishing := none }.apply result).newest = s.newest := by
        unfold Publisher.apply
        split <;> rfl
      rw [hnewest]
      cases hhides : ({ s with finishing := none }.apply result).hides py r with
      | true => rw [hhides] at hshown; nomatch hshown
      | false =>
          rw [hhides] at hshown
          obtain ⟨k, hpending, hputs⟩ := finish_puts h hfinishing hhides hshown
          exact stillHolds_of_stillOn hlog hpending (hcond k _ hputs)
  | @commit r accepted c s' hcommitting hok hlatest hnewest =>
      obtain ⟨cs, hcs, hhead⟩ := Option.bind_eq_some_iff.mp hcommitting
      obtain ⟨rest, rfl⟩ : ∃ rest, cs = c :: rest := by
        cases cs with
        | nil => nomatch hhead
        | cons c' rest => exact ⟨rest, by rw [Option.some.inj hhead]⟩
      have hdisplays := h.committing _ hcs c List.mem_cons_self
      rw [truthful_of_displays hlatest hdisplays, hnewest]
      exact stillHolds_of_stillOn hlog (.commit hcs List.mem_cons_self)
        (hdisplays.state ▸ hcond _ _ (.commit hok hcs))

/--
**In every run a publication tells the truth if, since the step whose signal it
displays, no step has moved the phase on, and the last step has left a phase.**
-/
theorem telemetry_truthful (py : Python) {s : Publisher} (hs : AtStart s) (run : List Turn) :
    ∀ e ∈ events (Publisher.step py) s run, e.out.isSome = true →
      NotMovedOn py e.pre e.input → Truthful e.post := by
  intro e he hpublishes hcond
  obtain ⟨before, t, rest, -, rfl⟩ := (mem_events_iff _).mp he
  have hboard : Board (final (Publisher.step py) s before) :=
    final_invariant_of_step (board_step py) hs.board before
  have hlog : Logged (final (Publisher.step py) s before) :=
    final_invariant_of_step (fun s t (h : Logged s) => logged_turn h py t) hs.logged before
  obtain ⟨p, hpublishes⟩ := Option.isSome_iff_exists.mp hpublishes
  exact publication_truthful hboard hlog hpublishes hcond

/-! ## A frame, and a phase that lapses -/

/-- A frame of an empty road. -/
def emptyPacket (lane : LaneName) (t : Rat) : CameraPacket :=
  { samplePacket lane t with observation := { laneName := lane.value } }

/-- The worker at time `t`. -/
def workTurn (t : Rat) : Turn := .work { wallTime := t, nowMono := t, currentMonoTime := t }

/-- A batch of one packet is processed. -/
def batchTurns (p : CameraPacket) (t : Rat) : List Turn :=
  [.coordinate [p], workTurn t, workTurn t, workTurn t, workTurn t, workTurn t]

/-- A camera of the north is there at time `t`. -/
def northSession (t : Rat) : SessionManager :=
  SessionManager.createSession plainPython {} "CAM-1" "north" "t0" t true

/-- The frame of a waiting vehicle is processed. -/
def frameRun : List Turn :=
  .setSessions (northSession 100) :: batchTurns (samplePacket .north 100) 100

theorem atStart_init : AtStart {} := ⟨⟨rfl, rfl, rfl, rfl, rfl, rfl⟩, rfl, rfl, rfl, rfl⟩

theorem telemetry_truthful_north : Truthful (Publisher.step plainPython
    (final (Publisher.step plainPython) {} frameRun) (.commit (readingAt 100 "") true)).1 := by
  let commit : Turn := .commit (readingAt 100 "") true
  let s := final (Publisher.step plainPython) {} frameRun
  have hplace : (s.committing.getD []).map (·.step) = [0] := by decide +kernel
  have hsteps : s.steps.length = 1 := by decide +kernel
  have hleaves : s.steps.all leavesPhase = true := by decide +kernel
  refine telemetry_truthful plainPython atStart_init (frameRun ++ [commit])
    (eventOf (Publisher.step plainPython) s commit) ((mem_events_iff _).mpr ⟨_, _, [], rfl, rfl⟩)
    (by decide +kernel) fun k state hputs => ?_
  cases hputs with
  | @commit _ _ c rest _ hcommitting =>
      have hcommitting : s.committing = some (c :: rest) := hcommitting
      rw [hcommitting] at hplace
      have hfirst : c.step = 0 := (List.cons.inj hplace).1
      refine ⟨fun step hlast => List.all_eq_true.mp hleaves step (List.mem_of_getLast? hlast),
        fun _ step hstep => ?_⟩
      -- no step has run since
      have hnone : s.steps.drop (c.step + 1) = [] := by
        rw [hfirst]
        exact List.drop_eq_nil_of_le (by rw [hsteps])
      have hstep : step ∈ s.steps.drop (c.step + 1) := hstep
      rw [hnone] at hstep
      exact absurd hstep List.not_mem_nil

/-- The road of a running phase is empty, and the ticker's step comes after its clearance. -/
def lapseRun : List Turn :=
  frameRun ++ [.commit (readingAt 100 "") true, .commit (readingAt 100 "") true]
    ++ .setSessions (northSession 114) :: batchTurns (emptyPacket .north (1149 / 10)) (1149 / 10)
    ++ [.commit (readingAt (1149 / 10) "") true, .tick (readingAt (1149 / 10) ""),
      workTurn (1171 / 10), .tick (readingAt (1171 / 10) ""), workTurn (1171 / 10)]

/-- The result has no decision, is not applied, and the yellow stays on display. -/
theorem lapsed_phase_displayed : ¬∀ (py : Python) (s : Publisher), AtStart s →
    ∀ run : List Turn, ∀ e ∈ events (Publisher.step py) s run, e.out.isSome = true →
      Truthful e.post := by
  intro h
  let finish : Turn := .finish (readingAt (1172 / 10) "")
  have htrue := h plainPython {} atStart_init (lapseRun ++ [finish])
    (eventOf (Publisher.step plainPython) (final (Publisher.step plainPython) {} lapseRun) finish)
    ((mem_events_iff _).mpr ⟨_, _, [], rfl, rfl⟩) (by decide +kernel)
  have hshown : ((Publisher.step plainPython (final (Publisher.step plainPython) {} lapseRun)
      finish).1.latestSnapshot.map (·.signalState)) = some .yellow := by decide +kernel
  have hnewest : ((Publisher.step plainPython (final (Publisher.step plainPython) {} lapseRun)
      finish).1.newest.map (·.signalDecision)) = some none := by decide +kernel
  obtain ⟨f, hf, hyellow⟩ := Option.map_eq_some_iff.mp hshown
  obtain ⟨r, hr, hnone⟩ := Option.map_eq_some_iff.mp hnewest
  have hred := (htrue.undecided f r hf hr hnone).2
  rw [hyellow] at hred
  nomatch hred

end SmartTraffic.Proof
