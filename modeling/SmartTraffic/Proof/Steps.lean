import SmartTraffic.Server.Publication
import SmartTraffic.Pipeline.Phase
import SmartTraffic.Proof.Halt

/-!
# The steps behind the telemetry

A result is on its way for a while: a frame's waits for `process_result` and then
for its commit, the ticker's waits for its turn on the executor twice. Meanwhile
other steps may run. `Logged` keeps, along any run of the publisher, from which
`process_step` each result comes that waits or is on display, and that the active
decision is the one the last step left, until a `reset_phase` clears it.

Results cannot be mixed up on the executor. A frame is in `_process_frame_locked`
only on the worker itself, and the ticker awaits its one job (`OneByOne`).
-/

namespace SmartTraffic.Proof

open SmartTraffic Lib

/-! ## The jobs of the executor -/

/-- The job is a frame between its `process_step` and its `process_result`. -/
def Job.isControl : Job → Bool
  | .control _ _ _ => true
  | _ => false

/-- Who has a job on the executor. -/
structure OneByOne (s : Runtime) : Prop where
  /-- Only the job that runs has a frame in hand. -/
  tail : ∀ job ∈ s.executor.tail, Job.isControl job = false
  /-- The ticker awaits its job. -/
  waits : ∀ job ∈ s.executor, job.isBatch = false → s.ticker = .waiting
  single : s.executor.countP (fun job => !job.isBatch) ≤ 1

theorem mem_tail_concat {α : Type} {l : List α} {a x : α} (h : x ∈ (l ++ [a]).tail) :
    x ∈ l.tail ∨ x = a := by
  cases l with
  | nil => exact absurd h List.not_mem_nil
  | cons y l => exact (List.mem_append.mp h).imp_right List.mem_singleton.mp

/-- The job that runs is replaced by one of the same kind. -/
theorem oneByOne_replace {s s' : Runtime} {job job' : Job} {jobs : List Job} (h : OneByOne s)
    (hexec : s.executor = job :: jobs) (hexec' : s'.executor = job' :: jobs)
    (hkind : job'.isBatch = job.isBatch) (hticker : s'.ticker = s.ticker) : OneByOne s' := by
  obtain ⟨htail, hwaits, hsingle⟩ := h
  rw [hexec] at htail hwaits hsingle
  refine ⟨by rw [hexec']; exact htail, ?_, ?_⟩
  · rw [hexec', hticker]
    intro j hj hbatch
    rcases List.mem_cons.mp hj with rfl | hj
    · exact hwaits job List.mem_cons_self (hkind.symm.trans hbatch)
    · exact hwaits j (List.mem_cons_of_mem _ hj) hbatch
  · rw [hexec', List.countP_cons, hkind, ← List.countP_cons]
    exact hsingle

/-- A batch job is done. -/
theorem oneByOne_pop {s s' : Runtime} {job : Job} {jobs : List Job} (h : OneByOne s)
    (hexec : s.executor = job :: jobs) (hexec' : s'.executor = jobs)
    (hticker : s'.ticker = s.ticker) : OneByOne s' := by
  obtain ⟨htail, hwaits, hsingle⟩ := h
  rw [hexec] at htail hwaits hsingle
  refine ⟨fun j hj => htail j ?_, fun j hj hbatch => ?_, ?_⟩
  · rw [hexec'] at hj; exact List.mem_of_mem_tail hj
  · rw [hexec'] at hj
    rw [hticker]
    exact hwaits j (List.mem_cons_of_mem _ hj) hbatch
  · rw [hexec']
    rw [List.countP_cons] at hsingle
    omega

/-- **A job of the ticker is the only one.** -/
theorem batches_of_ticker {s : Runtime} {job : Job} {jobs : List Job} (h : OneByOne s)
    (hexec : s.executor = job :: jobs) (hjob : job.isBatch = false) :
    ∀ j ∈ jobs, j.isBatch = true := by
  intro j hj
  have hsingle := h.single
  rw [hexec, List.countP_cons, hjob] at hsingle
  have hnone : jobs.countP (fun job => !job.isBatch) = 0 := by simp at hsingle ⊢; exact hsingle
  simpa using List.countP_eq_zero.mp hnone j hj

/-- The job of the ticker is done. -/
theorem oneByOne_popTicker {s s' : Runtime} {job : Job} {jobs : List Job} (h : OneByOne s)
    (hexec : s.executor = job :: jobs) (hjob : job.isBatch = false) (hexec' : s'.executor = jobs) :
    OneByOne s' := by
  have hbatch := batches_of_ticker h hexec hjob
  refine ⟨fun j hj => h.tail j ?_, fun j hj hno => ?_, ?_⟩
  · rw [hexec'] at hj
    rw [hexec]
    exact List.mem_of_mem_tail hj
  · rw [hexec'] at hj
    rw [hbatch j hj] at hno
    nomatch hno
  · rw [hexec', List.countP_eq_zero.mpr fun j hj => by simp [hbatch j hj]]
    exact Nat.zero_le 1

/-- While the ticker awaits nothing, only batches are on the executor. -/
theorem batches_of_not_waiting {s : Runtime} (h : OneByOne s) (hticker : s.ticker ≠ .waiting) :
    ∀ job ∈ s.executor, job.isBatch = true := by
  intro job hjob
  by_contra hno
  exact hticker (h.waits job hjob (by simpa using hno))

/-- The ticker hands over its job. -/
theorem oneByOne_hand {s s' : Runtime} {job : Job} (h : OneByOne s) (hticker : s.ticker ≠ .waiting)
    (hjob : Job.isControl job = false) (hexec : s'.executor = s.executor ++ [job])
    (hwait : s'.ticker = .waiting) : OneByOne s' := by
  have hbatch := batches_of_not_waiting h hticker
  refine ⟨fun j hj => ?_, fun _ _ _ => hwait, ?_⟩
  · rw [hexec] at hj
    rcases mem_tail_concat hj with hj | rfl
    · exact h.tail j hj
    · exact hjob
  · rw [hexec, List.countP_append, List.countP_eq_zero.mpr fun j hj => by simp [hbatch j hj]]
    exact (Nat.zero_add _).trans_le List.countP_le_length

/-- A stretch that leaves the executor and the ticker alone. -/
theorem oneByOne_same {s s' : Runtime} (h : OneByOne s) (hexec : s'.executor = s.executor)
    (hticker : s'.ticker = s.ticker) : OneByOne s' := by
  refine ⟨?_, ?_, ?_⟩
  · rw [hexec]; exact h.tail
  · rw [hexec, hticker]; exact h.waits
  · rw [hexec]; exact h.single

theorem oneByOne_work {s : Runtime} (h : OneByOne s) (i : WorkInput) : OneByOne (s.work i).1 := by
  unfold Runtime.work
  split
  · exact h
  · rename_i hexec; exact oneByOne_replace h hexec rfl rfl rfl
  · rename_i hexec; exact oneByOne_replace h hexec rfl rfl rfl
  · rename_i hexec; exact oneByOne_pop h hexec rfl rfl
  · rename_i hexec
    split_ifs
    · exact oneByOne_replace h hexec rfl rfl rfl
    · exact oneByOne_replace h hexec rfl rfl rfl
  · rename_i hexec; exact oneByOne_replace h hexec rfl rfl rfl
  · rename_i hexec; exact oneByOne_popTicker h hexec rfl rfl
  · rename_i hexec; exact oneByOne_popTicker h hexec rfl rfl

theorem oneByOne_tick {s : Runtime} (h : OneByOne s) : OneByOne s.tick := by
  unfold Runtime.tick
  split
  · rename_i hticker
    split_ifs
    · exact oneByOne_hand h (by rw [hticker]; simp) rfl rfl rfl
    · exact h
  · exact h
  · rename_i hticker
    exact oneByOne_hand h (by rw [hticker]; simp) rfl rfl rfl

theorem oneByOne_tickFails {s : Runtime} (h : OneByOne s) : OneByOne s.tickFails := by
  unfold Runtime.tickFails
  split_ifs with hwait
  · exact h
  · refine ⟨h.tail, fun job hjob hno => ?_, h.single⟩
    rw [batches_of_not_waiting h hwait job hjob] at hno
    nomatch hno

theorem oneByOne_coordinate {s : Runtime} (h : OneByOne s) (packets : List CameraPacket) :
    OneByOne (s.step (.coordinate packets)).1 := by
  unfold Runtime.step
  dsimp only
  split_ifs
  · exact h
  · refine ⟨fun j hj => ?_, fun j hj hno => ?_, ?_⟩
    · rcases mem_tail_concat hj with hj | rfl
      · exact h.tail j hj
      · rfl
    · rcases List.mem_append.mp hj with hj | hj
      · exact h.waits j hj hno
      · rw [List.mem_singleton.mp hj] at hno; nomatch hno
    · show (s.executor ++ [Job.decode packets []]).countP _ ≤ 1
      rw [List.countP_append]
      exact h.single

theorem oneByOne_command {s : Runtime} (h : OneByOne s) (c : OperatorCommand) :
    OneByOne (s.command c) := by
  unfold Runtime.command
  split_ifs <;> exact oneByOne_same h rfl rfl

theorem oneByOne_reset {s : Runtime} (h : OneByOne s) (c : OperatorCommand) :
    OneByOne (s.reset c) := by
  unfold Runtime.reset
  split_ifs
  · exact oneByOne_same h rfl rfl
  · exact h

/-! ## Steps and their results -/

/-- A step leaves the decision it reports. -/
theorem processStep_decision (w : PipelineWorld) (i : StepInput) :
    (w.processStep i).1.pipeline.activeDecision = (w.processStep i).2.signalDecision := by
  rcases PipelineWorld.processStep_outcome w i with
    ⟨hnone, hw⟩ | ⟨d, -, -, -, hw⟩ | ⟨-, -, hw⟩ | ⟨-, r, d, -, hw⟩
  · rw [hw]; exact hnone
  · rw [hw]; rfl
  · rw [hw]; rfl
  · rw [hw]; rfl

/-- `process_result` can only turn a result all red. -/
theorem processResult_result (running : Bool) (esp32 : ESP32Interface) (result : PipelineResult)
    (reply : SerialReply) : (processResult running esp32 result reply).result = result
      ∨ (processResult running esp32 result reply).result
        = { result with signalState := .allRed } := by
  unfold processResult
  split_ifs
  · split
    · exact Or.inl rfl
    · dsimp only
      split_ifs
      · exact Or.inl rfl
      · exact Or.inr rfl
  · exact Or.inl rfl

/-- What there can be of the result of a step: it turns all red if its command is not sent. -/
def Yields (step : StepRun) (r : PipelineResult) : Prop :=
  r = step.result
    ∨ step.result.command ≠ none ∧ r = { step.result with signalState := .allRed }

theorem yields_signalDecision {step : StepRun} {r : PipelineResult} (h : Yields step r) :
    r.signalDecision = step.result.signalDecision := by
  rcases h with rfl | ⟨-, rfl⟩
  · rfl
  · rfl

theorem processed_yields (s : Publisher) (step : StepRun) (i : WorkInput) :
    Yields step (s.processed step.result i) := by
  unfold Publisher.processed
  by_cases hcmd : step.result.command = none
  · exact Or.inl (processResult_unsent hcmd)
  · exact (processResult_result _ _ _ _).imp_right fun h => ⟨hcmd, h⟩

/-! ## The log -/

/-- The result comes from the step at the place `k`. -/
def Ran (s : Publisher) (k : Nat) (r : PipelineResult) : Prop :=
  ∃ step, s.steps[k]? = some step ∧ Yields step r

/-- The result of the step at the place `k` waits to be published, or is on display. -/
inductive OnItsWay (s : Publisher) : Nat → PipelineResult → Prop
  | result {c : FrameCommit} : c ∈ s.results → OnItsWay s c.step c.result
  | commit {cs : List FrameCommit} {c : FrameCommit} : s.committing = some cs → c ∈ cs →
      OnItsWay s c.step c.result
  | finishing {r : PipelineResult} : s.finishing = some r → OnItsWay s s.tickerStep r
  | shown {r : PipelineResult} : s.shown = some r → OnItsWay s s.shownStep r

/-- The ticker has, or has handed over, the result of its step. -/
def TickerHolds (s : Publisher) (result : PipelineResult) : Prop :=
  s.runtime.ticker = .stepped result ∨ Job.tickResult result ∈ s.runtime.executor

/-- `process_result` has seen the most recent result. -/
structure Settled (s : Publisher) : Prop where
  hand : s.inHand = none
  ticker : s.newestIsTicker = false

/-- The worker has a frame in hand, with this result. -/
def Controls (s : Runtime) (result : PipelineResult) : Prop :=
  ∃ ready computed jobs, s.executor = .control result ready computed :: jobs

/-- Where every result on its way comes from. -/
structure Logged (s : Publisher) : Prop where
  orderly : OneByOne s.runtime
  /-- The frame in hand has the result of the last step. -/
  hand : ∀ result, Controls s.runtime result →
    s.inHand.isSome = true ∧ ∃ step, s.steps.getLast? = some step ∧ step.result = result
  free : s.inHand.isSome = true → s.newestIsTicker = false ∧ ∃ result, Controls s.runtime result
  ticker : ∀ result, TickerHolds s result →
    (∃ step, s.steps[s.tickerStep]? = some step ∧ step.result = result)
      ∧ (s.newestIsTicker = true ↔ s.tickerStep + 1 = s.steps.length)
  rests : s.finishing.isSome = true → s.runtime.ticker = .sleeping
  newest : ∀ step, s.steps.getLast? = some step → ∃ r, s.newest = some r ∧ Yields step r
  started : s.steps = [] → s.newest = none
  /-- What waits comes from its step, and is the newest result if no step has run since. -/
  pending : ∀ k r, OnItsWay s k r → Ran s k r
    ∧ (k + 1 = s.steps.length → Settled s ∧ s.newest = some r)
  /-- The active decision is the one the last step left, unless it has been cleared. -/
  active : ∀ step, s.steps.getLast? = some step → s.runtime.world.pipeline.activeDecision
    = if s.resetSince then none else step.result.signalDecision
  linked : ∀ k step next, s.steps[k]? = some step → s.steps[k + 1]? = some next →
    next.world.pipeline.activeDecision = none
      ∨ next.world.pipeline.activeDecision = step.result.signalDecision

/-- The parts of a publisher that say which steps have run. -/
def logOf (s : Publisher) := (s.steps, s.tickerStep, s.newest, s.newestIsTicker, s.inHand)

/-- **A stretch in which no step runs** and nothing new is displayed keeps the log. -/
theorem logged_quiet {s s' : Publisher} (h : Logged s) (hlog : logOf s' = logOf s)
    (horderly : OneByOne s'.runtime)
    (hcontrols : ∀ result, Controls s'.runtime result ↔ Controls s.runtime result)
    (hticker : ∀ result, TickerHolds s' result → TickerHolds s result)
    (hrests : s'.finishing.isSome = true → s'.runtime.ticker = .sleeping)
    (hpending : ∀ k r, OnItsWay s' k r → OnItsWay s k r)
    (hactive : ∀ step, s.steps.getLast? = some step → s'.runtime.world.pipeline.activeDecision
      = if s'.resetSince then none else step.result.signalDecision) : Logged s' := by
  simp only [logOf, Prod.mk.injEq] at hlog
  obtain ⟨hsteps, hplace, hnewest, hof, hhand⟩ := hlog
  refine ⟨horderly, ?_, ?_, ?_, hrests, ?_, ?_, ?_, ?_, ?_⟩
  · intro result hc
    rw [hhand, hsteps]
    exact h.hand result ((hcontrols result).mp hc)
  · intro hsome
    rw [hhand] at hsome
    obtain ⟨hno, result, hc⟩ := h.free hsome
    exact ⟨hof.trans hno, result, (hcontrols result).mpr hc⟩
  · intro result hholds
    rw [hsteps, hplace, hof]
    exact h.ticker result (hticker result hholds)
  · rw [hsteps, hnewest]; exact h.newest
  · rw [hsteps, hnewest]; exact h.started
  · intro k r hk
    obtain ⟨hran, hlast⟩ := h.pending k r (hpending k r hk)
    refine ⟨?_, fun heq => ?_⟩
    · unfold Ran; rw [hsteps]; exact hran
    · rw [hsteps] at heq
      obtain ⟨⟨hidle, hno⟩, hnew⟩ := hlast heq
      exact ⟨⟨hhand.trans hidle, hof.trans hno⟩, hnewest.trans hnew⟩
  · rw [hsteps]; exact hactive
  · rw [hsteps]; exact h.linked

/-- A `process_step` of the worker, in a stretch that ends in the given runtime. -/
theorem logged_record {s : Publisher} (h : Logged s) (input : StepInput) (ofTicker : Bool)
    {runtime : Runtime} {inHand : Option LaneName} (horderly : OneByOne runtime)
    (hworld : runtime.world = (s.runtime.world.processStep input).1)
    (hhand : ∀ result, Controls runtime result →
      inHand.isSome = true ∧ (s.runtime.world.processStep input).2 = result)
    (hfree : inHand.isSome = true → ofTicker = false ∧ ∃ result, Controls runtime result)
    (hticker : ∀ result,
      (runtime.ticker = .stepped result ∨ Job.tickResult result ∈ runtime.executor) →
      if ofTicker then (s.runtime.world.processStep input).2 = result else TickerHolds s result)
    (hrests : s.finishing.isSome = true → runtime.ticker = .sleeping)
    (hfinishing : ofTicker = true → s.finishing = none) :
    Logged { s.record input ofTicker with runtime := runtime, inHand := inHand } := by
  refine ⟨horderly, ?_, hfree, ?_, hrests, ?_, ?_, ?_, ?_, ?_⟩
  · -- who holds a step in hand holds the one just recorded
    intro result hc
    exact ⟨(hhand result hc).1, _, List.getLast?_concat, (hhand result hc).2⟩
  · intro result hholds
    have hcases := hticker result hholds
    cases ofTicker with
    | true =>
        refine ⟨⟨_, List.getElem?_concat_length, hcases⟩, fun _ => ?_, fun _ => rfl⟩
        show s.steps.length + 1 = (s.steps ++ [_]).length
        rw [List.length_append, List.length_singleton]
    | false =>
        -- the step of the ticker is an older one, and stays where it was
        obtain ⟨⟨step, hstep, hresult⟩, -⟩ := h.ticker result hcases
        have hlt : s.tickerStep < s.steps.length := (List.getElem?_eq_some_iff.mp hstep).1
        refine ⟨⟨step, (List.getElem?_append_left hlt).trans hstep, hresult⟩, nofun, fun heq => ?_⟩
        have hlen : s.tickerStep + 1 = (s.steps ++ [_]).length := heq
        rw [List.length_append, List.length_singleton] at hlen
        omega
  · intro step hlast
    have hlast : (s.steps ++ [_]).getLast? = some step := hlast
    rw [List.getLast?_concat] at hlast
    obtain rfl := Option.some.inj hlast
    exact ⟨_, rfl, Or.inl rfl⟩
  · exact fun hnil => absurd hnil (List.append_ne_nil_of_right_ne_nil _ (List.cons_ne_nil _ _))
  · intro k r hk
    -- what waits is older than the step
    have hold : OnItsWay s k r := by
      cases hk with
      | result hc => exact .result hc
      | commit hcs hc => exact .commit hcs hc
      | finishing hr =>
          cases ofTicker with
          | true => exact absurd (hr.symm.trans (hfinishing rfl)) (by simp)
          | false => exact .finishing hr
      | shown hr => exact .shown hr
    obtain ⟨step, hstep, hyields⟩ := (h.pending k r hold).1
    have hlt : k < s.steps.length := (List.getElem?_eq_some_iff.mp hstep).1
    refine ⟨⟨step, (List.getElem?_append_left hlt).trans hstep, hyields⟩, fun heq => ?_⟩
    have hlen : k + 1 = (s.steps ++ [_]).length := heq
    rw [List.length_append, List.length_singleton] at hlen
    omega
  · intro step hlast
    have hlast : (s.steps ++ [_]).getLast? = some step := hlast
    rw [List.getLast?_concat] at hlast
    obtain rfl := Option.some.inj hlast
    show runtime.world.pipeline.activeDecision = _
    rw [hworld]
    exact processStep_decision _ _
  · intro k step next hstep hnext
    -- two neighbours are old, or the last of the old ones and the new one
    have hnext : (s.steps ++ [_])[k + 1]? = some next := hnext
    have hlt : k + 1 < (s.steps ++ [_]).length := (List.getElem?_eq_some_iff.mp hnext).1
    rw [List.length_append, List.length_singleton] at hlt
    have hstep : (s.steps ++ [_])[k]? = some step := hstep
    rw [List.getElem?_append_left (by omega)] at hstep
    rcases Nat.lt_or_ge (k + 1) s.steps.length with hin | hout
    · rw [List.getElem?_append_left hin] at hnext
      exact h.linked k step next hstep hnext
    · obtain heq : k + 1 = s.steps.length := by omega
      rw [heq, List.getElem?_concat_length] at hnext
      obtain rfl := Option.some.inj hnext
      -- the new step began with what the last one, or a reset, had left
      have hlast : s.steps.getLast? = some step := by
        rw [List.getLast?_eq_getElem?, ← heq]; exact hstep
      have hactive := h.active step hlast
      show s.runtime.world.pipeline.activeDecision = none
        ∨ s.runtime.world.pipeline.activeDecision = step.result.signalDecision
      rw [hactive]
      cases s.resetSince with
      | true => exact Or.inl rfl
      | false => exact Or.inr rfl

/-- The last step is the one at the last place. -/
theorem getElem?_of_getLast? {steps : List StepRun} {step : StepRun}
    (h : steps.getLast? = some step) :
    steps[steps.length - 1]? = some step ∧ steps.length - 1 + 1 = steps.length := by
  refine ⟨by rw [← List.getLast?_eq_getElem?]; exact h, Nat.sub_add_cancel ?_⟩
  cases steps with
  | nil => nomatch h
  | cons => exact Nat.succ_pos _

/-- **`process_result` of a frame**: its snapshot is that of the last step. -/
theorem logged_control {s s' : Publisher} (h : Logged s) {i : WorkInput} {result : PipelineResult}
    {step : StepRun} (hlast : s.steps.getLast? = some step) (hresult : step.result = result)
    (hsome : s.inHand.isSome = true) (horderly : OneByOne s'.runtime)
    (hno : ∀ r, ¬Controls s'.runtime r) (hticker : ∀ r, TickerHolds s' r → TickerHolds s r)
    (hrests : s'.finishing.isSome = true → s'.runtime.ticker = .sleeping)
    (hpending : ∀ k r, OnItsWay s' k r → OnItsWay s k r
      ∨ k = s.steps.length - 1 ∧ r = s.processed result i)
    (hactive : s'.runtime.world.pipeline.activeDecision = s.runtime.world.pipeline.activeDecision)
    (hlog : logOf s' = (s.steps, s.tickerStep, some (s.processed result i), s.newestIsTicker, none))
    (hreset : s'.resetSince = s.resetSince) : Logged s' := by
  obtain ⟨hsteps, hplace, hnewest, hof, hhand⟩ := by
    simpa only [logOf, Prod.mk.injEq] using hlog
  obtain ⟨hget, hlen⟩ := getElem?_of_getLast? hlast
  have hyields : Yields step (s.processed result i) := hresult ▸ processed_yields s step i
  refine ⟨horderly, fun r hc => absurd hc (hno r), ?_, ?_, hrests, ?_, ?_, ?_, ?_, ?_⟩
  · intro hs; rw [hhand] at hs; nomatch hs
  · intro r hholds
    rw [hsteps, hplace, hof]
    exact h.ticker r (hticker r hholds)
  · intro last hl
    rw [hsteps, hlast] at hl
    obtain rfl := Option.some.inj hl
    exact ⟨_, hnewest, hyields⟩
  · intro hnil
    rw [hsteps] at hnil
    rw [hnil] at hlast
    nomatch hlast
  · intro k r hk
    unfold Ran
    rw [hsteps]
    rcases hpending k r hk with hold | ⟨rfl, rfl⟩
    · obtain ⟨hran, hplace⟩ := h.pending k r hold
      refine ⟨hran, fun heq => ?_⟩
      -- while the frame was in hand, nothing of the last step could wait
      have hidle := (hplace heq).1.hand
      rw [hidle] at hsome
      nomatch hsome
    · exact ⟨⟨step, hget, hyields⟩, fun _ => ⟨⟨hhand, hof.trans (h.free hsome).1⟩, hnewest⟩⟩
  · rw [hsteps, hreset, hactive]; exact h.active
  · rw [hsteps]; exact h.linked

/-- **`process_result` of the ticker**: what it holds is the most recent result, or an older one. -/
theorem logged_tickResult {s s' : Publisher} (h : Logged s) {i : WorkInput}
    {result : PipelineResult} (hholds : TickerHolds s result)
    (horderly : OneByOne s'.runtime) (hno : ∀ r, ¬Controls s'.runtime r)
    (hticker : ∀ r, ¬TickerHolds s' r) (hsleeps : s'.runtime.ticker = .sleeping)
    (hpending : ∀ k r, OnItsWay s' k r → OnItsWay s k r
      ∨ k = s.tickerStep ∧ r = s.processed result i)
    (hactive : s'.runtime.world.pipeline.activeDecision = s.runtime.world.pipeline.activeDecision)
    (hlog : logOf s' = (s.steps, s.tickerStep,
      if s.newestIsTicker then some (s.processed result i) else s.newest, false, none))
    (hreset : s'.resetSince = s.resetSince) : Logged s' := by
  obtain ⟨hsteps, hplace, hnewest, hof, hhand⟩ := by
    simpa only [logOf, Prod.mk.injEq] using hlog
  obtain ⟨⟨step, hstep, hresult⟩, hnew⟩ := h.ticker result hholds
  -- what is posted comes from the step the ticker holds
  have hyields : Yields step (s.processed result i) := hresult ▸ processed_yields s step i
  refine ⟨horderly, fun r hc => absurd hc (hno r), ?_, fun r hr => absurd hr (hticker r),
    fun _ => hsleeps, ?_, ?_, ?_, ?_, ?_⟩
  · intro hs; rw [hhand] at hs; nomatch hs
  · intro last hl
    rw [hsteps] at hl
    rw [hnewest]
    split_ifs with hof'
    · -- the ticker took the last step, so its result is the newest
      have hlast : s.steps.getLast? = some step := by
        rw [List.getLast?_eq_getElem?, ← hnew.mp hof']; exact hstep
      obtain rfl := Option.some.inj (hlast.symm.trans hl)
      exact ⟨_, rfl, hyields⟩
    · exact h.newest last hl
  · intro hnil
    rw [hsteps] at hnil
    rw [hnil] at hstep
    nomatch hstep
  · intro k r hk
    unfold Ran
    rw [hsteps]
    -- what waits was waiting before, or is the result just built
    rcases hpending k r hk with hold | ⟨rfl, rfl⟩
    · obtain ⟨hran, hlast⟩ := h.pending k r hold
      refine ⟨hran, fun heq => ⟨⟨hhand, hof⟩, ?_⟩⟩
      obtain ⟨hsettled, hr⟩ := hlast heq
      rw [hnewest, hsettled.ticker]
      exact hr
    · refine ⟨⟨step, hstep, hyields⟩, fun heq => ⟨⟨hhand, hof⟩, ?_⟩⟩
      rw [hnewest, if_pos (hnew.mpr heq)]
  · rw [hsteps, hreset, hactive]; exact h.active
  · rw [hsteps]; exact h.linked

/-- Nobody is in hand once the job that runs has gone, or is another one. -/
theorem not_controls_of_tail {s s' : Runtime} {job : Job} {jobs : List Job} (h : OneByOne s)
    (hexec : s.executor = job :: jobs) (hexec' : s'.executor = jobs) :
    ∀ result, ¬Controls s' result := by
  rintro result ⟨ready, computed, rest, hrest⟩
  have hno := h.tail (.control result ready computed) (by
    rw [hexec, List.tail_cons, ← hexec', hrest]
    exact List.mem_cons_self)
  nomatch hno

theorem not_controls_of_head {s : Runtime} {job : Job} {jobs : List Job}
    (hexec : s.executor = job :: jobs) (hjob : Job.isControl job = false) :
    ∀ result, ¬Controls s result := by
  rintro result ⟨ready, computed, rest, hrest⟩
  rw [hexec] at hrest
  rw [(List.cons.inj hrest).1] at hjob
  nomatch hjob

/-- What the ticker has handed over stays, if only another job has gone. -/
theorem tickerHolds_of_tail {s s' : Publisher} {result : PipelineResult}
    (h : TickerHolds s' result) {job : Job} {jobs : List Job}
    (hexec : s.runtime.executor = job :: jobs)
    (hexec' : ∀ j ∈ s'.runtime.executor, j ∈ jobs ∨ j.isBatch = true)
    (hticker : s'.runtime.ticker = s.runtime.ticker) : TickerHolds s result := by
  rcases h with hstepped | hmem
  · exact Or.inl (hticker.symm.trans hstepped)
  · rcases hexec' _ hmem with hmem | hno
    · exact Or.inr (by rw [hexec]; exact List.mem_cons_of_mem _ hmem)
    · nomatch hno

/-- One more job on the executor, which has no frame in hand, leaves the worker alone. -/
theorem controls_append {s : Publisher} {runtime : Runtime} {job : Job}
    (hjob : Job.isControl job = false)
    (hexec : runtime.executor = s.runtime.executor ++ [job]) (result : PipelineResult) :
    Controls runtime result ↔ Controls s.runtime result := by
  unfold Controls
  rw [hexec]
  cases s.runtime.executor with
  | nil =>
      refine iff_of_false ?_ fun ⟨_, _, _, heq⟩ => nomatch heq
      rintro ⟨ready, computed, jobs, heq⟩
      rw [(List.cons.inj heq).1] at hjob
      nomatch hjob
  | cons first rest =>
      exact ⟨fun ⟨_, _, _, heq⟩ => ⟨_, _, rest, by rw [(List.cons.inj heq).1]⟩,
        fun ⟨_, _, _, heq⟩ => ⟨_, _, rest ++ [job], by rw [(List.cons.inj heq).1]; rfl⟩⟩

/-- Applying a result puts it on display if it has a decision, and there is a snapshot. -/
theorem apply_display (s : Publisher) (result : PipelineResult) :
    ((s.apply result).shown, (s.apply result).shownStep)
      = if s.latestSnapshot.isSome && result.signalDecision.isSome then (some result, s.tickerStep)
        else (s.shown, s.shownStep) := by
  unfold Publisher.apply
  cases s.latestSnapshot with
  | none => rfl
  | some fields => cases result.signalDecision <;> rfl

/-- What has been posted, and by which step. -/
def pendingOf (s : Publisher) :=
  (s.results, s.committing, s.finishing, s.shown, s.tickerStep, s.shownStep)

/-- Nothing else decides what is on its way. -/
theorem OnItsWay.congr {s s' : Publisher} {k : Nat} {r : PipelineResult} (h : OnItsWay s' k r)
    (hsame : pendingOf s' = pendingOf s) : OnItsWay s k r := by
  simp only [pendingOf, Prod.mk.injEq] at hsame
  obtain ⟨hresults, hcommitting, hfinishing, hshown, hticker, hplace⟩ := hsame
  cases h with
  | result hc => exact .result (hresults ▸ hc)
  | commit hcs hc => exact .commit (hcommitting ▸ hcs) hc
  | finishing hr => exact hticker ▸ .finishing (hfinishing ▸ hr)
  | shown hr => exact hplace ▸ .shown (hshown ▸ hr)

section

variable {s : Publisher} (h : Logged s) (i : WorkInput)

include h

/-- A stretch that leaves the pipeline alone. -/
theorem active_same {runtime : Runtime} (hworld : runtime.world = s.runtime.world)
    (step : StepRun) (hlast : s.steps.getLast? = some step) :
    runtime.world.pipeline.activeDecision
      = if s.resetSince then none else step.result.signalDecision := by
  rw [hworld]
  exact h.active step hlast

/-- Nobody is in hand while another job runs. -/
theorem inHand_of_head {job : Job} {jobs : List Job} (hexec : s.runtime.executor = job :: jobs)
    (hjob : Job.isControl job = false) : s.inHand = none := by
  by_contra hs
  obtain ⟨-, r, hc⟩ := h.free (Option.isSome_iff_ne_none.mpr hs)
  exact not_controls_of_head hexec hjob r hc

/-- The first loop of a batch. -/
theorem logged_work_decode {packets ready : List CameraPacket} {jobs : List Job}
    (hexec : s.runtime.executor = .decode packets ready :: jobs) : Logged (s.work i) := by
  have horderly := oneByOne_work h.orderly i
  have hruntime : ∃ job', job'.isBatch = true ∧ Job.isControl job' = false
      ∧ (s.runtime.work i).1 = { s.runtime with executor := job' :: jobs } := by
    unfold Runtime.work
    rw [hexec]
    cases packets with
    | nil => exact ⟨_, rfl, rfl, rfl⟩
    | cons p packets => exact ⟨_, rfl, rfl, rfl⟩
  obtain ⟨job', hbatch, hcontrol, hruntime⟩ := hruntime
  unfold Publisher.work
  dsimp only
  rw [hruntime] at horderly ⊢
  rw [hexec]
  refine logged_quiet h rfl horderly (fun r => ?_) (fun r hr => ?_) h.rests
    (fun _ _ hk => hk.congr rfl) (active_same h rfl)
  · exact iff_of_false (not_controls_of_head rfl hcontrol r) (not_controls_of_head hexec rfl r)
  · refine tickerHolds_of_tail hr hexec (fun j hj => ?_) rfl
    exact (List.mem_cons.mp hj).symm.imp_right fun heq => by rw [heq]; exact hbatch

/-- A batch returns. -/
theorem logged_work_return {computed : List LaneName} {jobs : List Job}
    (hexec : s.runtime.executor = .process [] computed :: jobs) : Logged (s.work i) := by
  have horderly := oneByOne_work h.orderly i
  have hruntime : (s.runtime.work i).1 = { s.runtime with executor := jobs } := by
    unfold Runtime.work; rw [hexec]
  unfold Publisher.work
  dsimp only
  rw [hruntime] at horderly ⊢
  rw [hexec]
  refine logged_quiet h rfl horderly (fun r => ?_) (fun r hr => ?_) h.rests (fun k r hk => ?_)
    (active_same h rfl)
  · exact iff_of_false (not_controls_of_tail h.orderly hexec rfl r)
      (not_controls_of_head hexec rfl r)
  · exact tickerHolds_of_tail hr hexec (fun j hj => Or.inl hj) rfl
  · cases hk with
    | result hc => exact absurd hc List.not_mem_nil
    | commit hcs hc =>
        obtain rfl := Option.some.inj hcs
        exact .result hc
    | finishing hr => exact .finishing hr
    | shown hr => exact .shown hr

/-- A frame goes through `process_step`, or has become stale. -/
theorem logged_work_process {p : CameraPacket} {ready : List CameraPacket}
    {computed : List LaneName} {jobs : List Job}
    (hexec : s.runtime.executor = .process (p :: ready) computed :: jobs) :
    Logged (s.work i) := by
  have horderly := oneByOne_work h.orderly i
  unfold Publisher.work
  dsimp only
  rw [hexec]
  dsimp only
  split_ifs with hskip
  · -- a stale frame is let go, and no step runs
    have hruntime : (s.runtime.work i).1
        = { s.runtime with executor := .process ready computed :: jobs } := by
      unfold Runtime.work; rw [hexec]; dsimp only; rw [if_pos hskip]
    rw [hruntime] at horderly ⊢
    refine logged_quiet h rfl horderly (fun r => ?_) (fun r hr => ?_) h.rests
      (fun _ _ hk => hk.congr rfl) (active_same h rfl)
    · exact iff_of_false (not_controls_of_head rfl rfl r) (not_controls_of_head hexec rfl r)
    · refine tickerHolds_of_tail hr hexec (fun j hj => ?_) rfl
      exact (List.mem_cons.mp hj).symm.imp_right fun heq => by rw [heq]; rfl
  · -- the frame is processed, and the worker now has its step in hand
    have hruntime : (s.runtime.work i).1 = { s.runtime with
        world := (s.runtime.world.processStep (i.stepInput (p.framesData i.wallTime))).1
        executor := .control
          (s.runtime.world.processStep (i.stepInput (p.framesData i.wallTime))).2 ready computed
            :: jobs } := by
      unfold Runtime.work; rw [hexec]; dsimp only; rw [if_neg hskip]
    rw [hruntime] at horderly ⊢
    refine logged_record h _ false horderly rfl ?_ ?_ (fun r hr => ?_) h.rests nofun
    · rintro r ⟨ready', computed', rest, hrest⟩
      exact ⟨rfl, (Job.control.inj (List.cons.inj hrest).1).1⟩
    · exact fun _ => ⟨rfl, _, _, _, _, rfl⟩
    · rcases hr with hstepped | hmem
      · exact Or.inl hstepped
      · refine Or.inr ?_
        rw [hexec]
        exact List.mem_cons_of_mem _ ((List.mem_cons.mp hmem).resolve_left nofun)

/-- The snapshot of a frame is built. -/
theorem logged_work_control {result : PipelineResult} {ready : List CameraPacket}
    {computed : List LaneName} {jobs : List Job}
    (hexec : s.runtime.executor = .control result ready computed :: jobs) :
    Logged (s.work i) := by
  have horderly := oneByOne_work h.orderly i
  have hruntime : (s.runtime.work i).1.executor = .process ready computed :: jobs
      ∧ (s.runtime.work i).1.ticker = s.runtime.ticker
      ∧ (s.runtime.work i).1.world = s.runtime.world := by
    unfold Runtime.work; rw [hexec]; exact ⟨rfl, rfl, rfl⟩
  obtain ⟨hexec', hticker, hworld⟩ := hruntime
  obtain ⟨hsome, step, hlast, hresult⟩ := h.hand result ⟨_, _, _, hexec⟩
  unfold Publisher.work
  dsimp only
  rw [hexec]
  refine logged_control h hlast hresult hsome horderly (not_controls_of_head hexec' rfl)
    (fun r hr => ?_) (fun hfin => hticker.trans (h.rests hfin)) (fun k r hk => ?_)
    (congrArg (fun w => w.pipeline.activeDecision) hworld) rfl rfl
  · refine tickerHolds_of_tail hr hexec (fun j hj => ?_) hticker
    have hj : j ∈ (s.runtime.work i).1.executor := hj
    rw [hexec'] at hj
    exact (List.mem_cons.mp hj).symm.imp_right fun heq => by rw [heq]; rfl
  · cases hk with
    | result hc =>
        rcases List.mem_append.mp hc with hold | hnew
        · exact Or.inl (.result hold)
        · obtain ⟨direction, -, rfl⟩ := Option.map_eq_some_iff.mp (Option.mem_toList.mp hnew)
          exact Or.inr ⟨rfl, rfl⟩
    | commit hcs hc => exact Or.inl (.commit hcs hc)
    | finishing hr => exact Or.inl (.finishing hr)
    | shown hr => exact Or.inl (.shown hr)

/-- The ticker's `process_step`. -/
theorem logged_work_tickStep {jobs : List Job} (hexec : s.runtime.executor = .tickStep :: jobs) :
    Logged (s.work i) := by
  have horderly := oneByOne_work h.orderly i
  have hbatch := batches_of_ticker h.orderly hexec rfl
  have hidle := inHand_of_head h hexec rfl
  have hruntime : (s.runtime.work i).1 = { s.runtime with
      world := (s.runtime.world.processStep (i.stepInput ∅)).1
      executor := jobs
      ticker := .stepped (s.runtime.world.processStep (i.stepInput ∅)).2 } := by
    unfold Runtime.work; rw [hexec]
  -- the ticker awaits the step, so the iteration before is over
  have hfin : ¬s.finishing.isSome = true := by
    intro hs
    have hwaits := h.orderly.waits .tickStep (by rw [hexec]; exact List.mem_cons_self) rfl
    nomatch hwaits.symm.trans (h.rests hs)
  unfold Publisher.work
  dsimp only
  rw [hruntime] at horderly ⊢
  rw [hexec]
  refine logged_record h _ true horderly rfl (fun r hr => ?_)
    (fun hs => nomatch hs.symm.trans (congrArg Option.isSome hidle)) (fun r hr => ?_)
    (fun hs => absurd hs hfin) fun _ => by simpa using hfin
  · exact absurd hr (not_controls_of_tail h.orderly hexec rfl r)
  · rcases hr with hstepped | hmem
    · exact Ticker.stepped.inj hstepped
    · nomatch hbatch _ hmem

/-- The ticker's `process_result`. -/
theorem logged_work_tickResult {result : PipelineResult} {jobs : List Job}
    (hexec : s.runtime.executor = .tickResult result :: jobs) : Logged (s.work i) := by
  have horderly := oneByOne_work h.orderly i
  have hbatch := batches_of_ticker h.orderly hexec rfl
  have hidle := inHand_of_head h hexec rfl
  have hruntime : (s.runtime.work i).1.executor = jobs
      ∧ (s.runtime.work i).1.ticker = .sleeping
      ∧ (s.runtime.work i).1.world = s.runtime.world := by
    unfold Runtime.work; rw [hexec]; exact ⟨rfl, rfl, rfl⟩
  obtain ⟨hexec', hticker, hworld⟩ := hruntime
  have hholds : TickerHolds s result := Or.inr (by rw [hexec]; exact List.mem_cons_self)
  unfold Publisher.work
  dsimp only
  rw [hexec]
  refine logged_tickResult h (i := i) hholds horderly
    (not_controls_of_tail h.orderly hexec hexec') (fun r hr => ?_) hticker (fun k r hk => ?_)
    (congrArg (fun w => w.pipeline.activeDecision) hworld) ?_ rfl
  · rcases hr with hstepped | hmem
    · have hstepped : (s.runtime.work i).1.ticker = .stepped r := hstepped
      rw [hticker] at hstepped
      nomatch hstepped
    · have hmem : Job.tickResult r ∈ (s.runtime.work i).1.executor := hmem
      rw [hexec'] at hmem
      nomatch hbatch _ hmem
  · cases hk with
    | result hc => exact Or.inl (.result hc)
    | commit hcs hc => exact Or.inl (.commit hcs hc)
    | finishing hr => exact Or.inr ⟨rfl, (Option.some.inj hr).symm⟩
    | shown hr => exact Or.inl (.shown hr)
  · simp only [logOf, hidle]

/-- **Whatever the worker does keeps the log.** -/
theorem logged_work : Logged (s.work i) := by
  cases hexec : s.runtime.executor with
  | nil =>
      have hruntime : (s.runtime.work i).1 = s.runtime := by unfold Runtime.work; rw [hexec]
      unfold Publisher.work
      dsimp only
      rw [hruntime, hexec]
      exact h
  | cons job jobs =>
      cases job with
      | decode packets ready => exact logged_work_decode h i hexec
      | process ready computed =>
          cases ready with
          | nil => exact logged_work_return h i hexec
          | cons p ready => exact logged_work_process h i hexec
      | control result ready computed => exact logged_work_control h i hexec
      | tickStep => exact logged_work_tickStep h i hexec
      | tickResult result => exact logged_work_tickResult h i hexec

/-- A stretch that only adds a job, or none, to the executor. -/
theorem logged_runtime {runtime : Runtime} (horderly : OneByOne runtime)
    (hworld : runtime.world = s.runtime.world)
    (hcontrols : ∀ result, Controls runtime result ↔ Controls s.runtime result)
    (hticker : ∀ result, TickerHolds { s with runtime := runtime } result → TickerHolds s result)
    (hrests : s.finishing.isSome = true → runtime.ticker = .sleeping) :
    Logged { s with runtime := runtime } :=
  logged_quiet h rfl horderly hcontrols hticker hrests (fun _ _ hk => hk.congr rfl)
    (active_same h hworld)

theorem logged_coordinate (packets : List CameraPacket) :
    Logged { s with runtime := (s.runtime.step (.coordinate packets)).1 } := by
  have horderly := oneByOne_coordinate h.orderly packets
  unfold Runtime.step at horderly ⊢
  dsimp only at horderly ⊢
  split_ifs at horderly ⊢
  · exact h
  · refine logged_runtime h horderly rfl (controls_append rfl rfl) (fun r hr => ?_) h.rests
    refine hr.imp_right fun hmem => ?_
    exact (List.mem_append.mp hmem).resolve_right (by simp)

theorem logged_tick (hfin : ¬s.finishing.isSome = true) :
    Logged { s with runtime := s.runtime.tick } := by
  have horderly := oneByOne_tick h.orderly
  unfold Runtime.tick at horderly ⊢
  cases hticker : s.runtime.ticker with
  | sleeping =>
      rw [hticker] at horderly
      dsimp only at horderly ⊢
      split_ifs at horderly ⊢
      · refine logged_runtime h horderly rfl (controls_append rfl rfl) (fun r hr => ?_)
          fun hs => absurd hs hfin
        rcases hr with hstepped | hmem
        · nomatch hstepped
        · exact Or.inr ((List.mem_append.mp hmem).resolve_right (by simp))
      · exact h
  | waiting => exact h
  | stepped result =>
      rw [hticker] at horderly
      refine logged_runtime h horderly rfl (controls_append rfl rfl) (fun r hr => ?_)
        fun hs => absurd hs hfin
      rcases hr with hnone | hmem
      · nomatch hnone
      · rcases List.mem_append.mp hmem with hmem | hmem
        · exact Or.inr hmem
        · -- what the ticker hands over is what it held
          obtain rfl := Job.tickResult.inj (List.mem_singleton.mp hmem)
          exact Or.inl hticker

theorem logged_tickFails :
    Logged { s with runtime := s.runtime.tickFails, finishing := none } := by
  have horderly := oneByOne_tickFails h.orderly
  have hpending : ∀ {runtime : Runtime} k r,
      OnItsWay { s with runtime := runtime, finishing := none } k r → OnItsWay s k r := by
    intro runtime k r hk
    cases hk with
    | result hc => exact .result hc
    | commit hcs hc => exact .commit hcs hc
    | finishing hr => nomatch hr
    | shown hr => exact .shown hr
  unfold Runtime.tickFails at horderly ⊢
  split_ifs at horderly ⊢
  · exact logged_quiet h rfl horderly (fun _ => Iff.rfl) (fun _ hr => hr) nofun hpending
      (active_same h rfl)
  · refine logged_quiet h rfl horderly (fun _ => Iff.rfl) (fun r hr => ?_) nofun hpending
      (active_same h rfl)
    rcases hr with hstepped | hmem
    · nomatch hstepped
    · exact Or.inr hmem

theorem logged_command (c : OperatorCommand) :
    Logged { s with runtime := s.runtime.command c } := by
  have horderly := oneByOne_command h.orderly c
  unfold Runtime.command at horderly ⊢
  split_ifs at horderly ⊢ <;>
  · exact logged_runtime h horderly rfl (fun _ => Iff.rfl) (fun _ hr => hr) h.rests

theorem logged_configure (minimum maximum : Int) :
    Logged { s with runtime := (s.runtime.step (.configure minimum maximum)).1 } := by
  refine logged_quiet h rfl (oneByOne_same h.orderly rfl rfl) (fun _ => Iff.rfl)
    (fun _ hr => hr) h.rests (fun _ _ hk => hk.congr rfl) fun step hlast => ?_
  show (s.runtime.world.configure minimum maximum).pipeline.activeDecision = _
  rw [configure_activeDecision]
  exact h.active step hlast

/-- **`reset_phase` clears the decision**, and the log says so. -/
theorem logged_reset (c : OperatorCommand) : Logged { s with
    runtime := s.runtime.reset c
    resetSince := s.resetSince || (c.resets && decide (c ∈ s.runtime.resets)) } := by
  refine logged_quiet h rfl (oneByOne_reset h.orderly c) ?_ ?_ ?_ (fun _ _ hk => hk.congr rfl) ?_
  · intro result
    unfold Controls Runtime.reset
    split_ifs <;> rfl
  · intro result hr
    unfold TickerHolds Runtime.reset at hr
    split_ifs at hr <;> exact hr
  · intro hfin
    show (s.runtime.reset c).ticker = .sleeping
    unfold Runtime.reset
    split_ifs <;> exact h.rests hfin
  · intro step hlast
    have hactive := h.active step hlast
    show (s.runtime.reset c).world.pipeline.activeDecision = _
    unfold Runtime.reset
    -- a reset that was not waited for does nothing
    by_cases hmem : c ∈ s.runtime.resets
    · rw [if_pos hmem, decide_eq_true hmem, Bool.and_true]
      show (s.runtime.world.command c).pipeline.activeDecision = _
      unfold PipelineWorld.command
      cases hc : c.resets with
      | true => rw [if_pos rfl, Bool.or_true]; rfl
      | false => rw [if_neg Bool.false_ne_true, Bool.or_false]; exact hactive
    · rw [if_neg hmem, decide_eq_false hmem, Bool.and_false, Bool.or_false]
      exact hactive

/-! ## Every stretch -/

/-- A stretch on the event loop that leaves the runtime alone. -/
theorem logged_display {s' : Publisher} (hruntime : s'.runtime = s.runtime)
    (hlog : logOf s' = logOf s) (hreset : s'.resetSince = s.resetSince)
    (hrests : s'.finishing.isSome = true → s.finishing.isSome = true)
    (hpending : ∀ k r, OnItsWay s' k r → OnItsWay s k r) : Logged s' := by
  refine logged_quiet h hlog (hruntime ▸ h.orderly) (fun r => by rw [hruntime]) (fun r hr => ?_)
    (fun hs => by rw [hruntime]; exact h.rests (hrests hs)) hpending fun step hlast => ?_
  · unfold TickerHolds at hr
    rw [hruntime] at hr
    exact hr
  · rw [hruntime, hreset]
    exact h.active step hlast

theorem logged_publishTicker (py : Python) (r : Reading) : Logged (s.publishTicker py r) := by
  refine logged_display h rfl rfl rfl id fun k result hk => ?_
  cases hk with
  | result hc => exact .result hc
  | commit hcs hc => exact .commit hcs hc
  | finishing hr => exact .finishing hr
  | @shown result hr =>
      have hr : (if s.hides py r then none else s.shown) = some result := hr
      split_ifs at hr
      exact .shown hr

/-- The end of an iteration takes its result off the ticker. -/
theorem logged_apply {result : PipelineResult} (hfin : s.finishing = some result) :
    Logged ({ s with finishing := none }.apply result) := by
  have hdisplay := apply_display { s with finishing := none } result
  have hsame : ({ s with finishing := none }.apply result).results = s.results
      ∧ ({ s with finishing := none }.apply result).committing = s.committing
      ∧ ({ s with finishing := none }.apply result).finishing = none := by
    unfold Publisher.apply
    split <;> exact ⟨rfl, rfl, rfl⟩
  have hlog : ({ s with finishing := none }.apply result).runtime = s.runtime
      ∧ logOf ({ s with finishing := none }.apply result) = logOf s
      ∧ ({ s with finishing := none }.apply result).resetSince = s.resetSince := by
    unfold Publisher.apply
    split <;> exact ⟨rfl, rfl, rfl⟩
  generalize { s with finishing := none }.apply result = s' at hdisplay hsame hlog ⊢
  obtain ⟨hresults, hcommitting, hnone⟩ := hsame
  refine logged_display h hlog.1 hlog.2.1 hlog.2.2 (fun hs => by rw [hnone] at hs; nomatch hs)
    fun k r hk => ?_
  cases hk with
  | result hc => exact .result (hresults ▸ hc)
  | commit hcs hc => exact .commit (hcommitting ▸ hcs) hc
  | finishing hr => rw [hnone] at hr; nomatch hr
  | shown hr =>
      split_ifs at hdisplay
      · obtain ⟨hshown, hplace⟩ := Prod.mk.inj hdisplay
        obtain rfl := Option.some.inj (hshown.symm.trans hr)
        rw [hplace]
        exact .finishing hfin
      · obtain ⟨hshown, hplace⟩ := Prod.mk.inj hdisplay
        rw [hplace]
        exact .shown (hshown.symm.trans hr)

theorem logged_commit (r : Reading) (accepted : Bool) : Logged (s.commit r accepted).1 := by
  unfold Publisher.commit
  split
  · exact h
  · refine logged_display h rfl rfl rfl id fun k result hk => ?_
    cases hk with
    | result hc => exact .result hc
    | commit hcs hc => nomatch hcs
    | finishing hr => exact .finishing hr
    | shown hr => exact .shown hr
  · rename_i c rest hcommitting
    split_ifs
    · refine logged_display h rfl rfl rfl id fun k result hk => ?_
      cases hk with
      | result hc => exact .result hc
      | commit hcs hc =>
          obtain rfl := Option.some.inj hcs
          exact .commit hcommitting (List.mem_cons_of_mem _ hc)
      | finishing hr => exact .finishing hr
      | shown hr =>
          obtain rfl := Option.some.inj hr
          exact .commit hcommitting List.mem_cons_self
    · refine logged_display h rfl rfl rfl id fun k result hk => ?_
      cases hk with
      | result hc => exact .result hc
      | commit hcs hc =>
          obtain rfl := Option.some.inj hcs
          exact .commit hcommitting (List.mem_cons_of_mem _ hc)
      | finishing hr => exact .finishing hr
      | shown hr => exact .shown hr

/-- **Every stretch keeps the log.** -/
theorem logged_turn (py : Python) (t : Turn) : Logged (s.step py t).1 := by
  -- what changes neither the runtime nor anything posted
  have hkeep : ∀ {s' : Publisher}, s'.runtime = s.runtime → logOf s' = logOf s →
      s'.resetSince = s.resetSince → pendingOf s' = pendingOf s → Logged s' := by
    intro s' hruntime hlog hreset hsame
    have hfin : s'.finishing = s.finishing := congrArg (fun p => p.2.2.1) hsame
    exact logged_display h hruntime hlog hreset (fun hs => hfin ▸ hs)
      fun _ _ hk => hk.congr hsame
  cases t with
  | work i => exact logged_work h i
  | coordinate packets =>
      unfold Publisher.step
      dsimp only
      split_ifs
      · exact h
      · exact logged_coordinate h packets
  | tick r =>
      show Logged (s.tick py r).1
      unfold Publisher.tick
      -- an iteration that has not ended holds the next one up
      by_cases hfin : s.finishing.isSome = true
      · rw [if_pos hfin]
        exact h
      · rw [if_neg hfin]
        split
        · split
          · exact logged_tick h hfin
          · exact logged_publishTicker h py r
        · exact logged_tick h hfin
  | tickFails => exact logged_tickFails h
  | command c => exact logged_command h c
  | reset c => exact logged_reset h c
  | configure minimum maximum => exact logged_configure h minimum maximum
  | finish r =>
      show Logged (s.finish py r).1
      unfold Publisher.finish
      cases hfin : s.finishing with
      | none => exact h
      | some result => exact logged_publishTicker (logged_apply h hfin) py r
  | commit r accepted => exact logged_commit h r accepted
  | setSessions m => exact hkeep rfl rfl rfl rfl
  | forget direction => exact hkeep rfl rfl rfl rfl
  | forgetAll => exact hkeep rfl rfl rfl rfl

end

end SmartTraffic.Proof
