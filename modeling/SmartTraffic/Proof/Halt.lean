import SmartTraffic.Server.Runtime
import SmartTraffic.Lib.Run

/-!
# Nothing is actuated while the system is stopped

After a STOP has cleared the active decision, or a transmission has failed,
nothing may start a phase or send a command before the next START or RESTART.

`process_batch` tests `system_running` for all packets of a batch before it
processes the first one, and the ticker tests it before it hands its step over.
What has passed the test goes on after the halt. The law therefore holds in
every run in which each halt finds the executor and the ticker `Drained` of such
work, and a STOP is not overtaken by a START before its `reset_phase` runs.
-/

namespace SmartTraffic.Proof

open SmartTraffic Lib

/-! ## Drained activities -/

/-- Nothing that was admitted while the system ran is on its way to the signal. -/
structure Drained (jobs : List Job) (ticker : Ticker) : Prop where
  /-- No ready packet waits in a batch. -/
  ready : ∀ job ∈ jobs, job.ready = []
  /-- No result with a command waits for `process_result`. -/
  result : ∀ job ∈ jobs, job.result.bind PipelineResult.command = none
  /-- Nor does the ticker hold one. -/
  ticker : ticker.result.bind PipelineResult.command = none

theorem drained_cons {job : Job} {jobs : List Job} {ticker : Ticker} : Drained (job :: jobs) ticker
    ↔ job.ready = [] ∧ job.result.bind PipelineResult.command = none ∧ Drained jobs ticker := by
  constructor
  · intro h
    exact ⟨h.ready job List.mem_cons_self, h.result job List.mem_cons_self,
      fun j hj => h.ready j (List.mem_cons_of_mem _ hj),
      fun j hj => h.result j (List.mem_cons_of_mem _ hj), h.ticker⟩
  · rintro ⟨hready, hresult, h⟩
    refine ⟨fun j hj => ?_, fun j hj => ?_, h.ticker⟩
    · rcases List.mem_cons.mp hj with rfl | hj
      · exact hready
      · exact h.ready j hj
    · rcases List.mem_cons.mp hj with rfl | hj
      · exact hresult
      · exact h.result j hj

theorem drained_append {jobs : List Job} {ticker : Ticker} {job : Job} (h : Drained jobs ticker)
    (hready : job.ready = []) (hresult : job.result.bind PipelineResult.command = none) :
    Drained (jobs ++ [job]) ticker := by
  refine ⟨fun j hj => ?_, fun j hj => ?_, h.ticker⟩
  · rcases List.mem_append.mp hj with hj | hj
    · exact h.ready j hj
    · exact List.mem_singleton.mp hj ▸ hready
  · rcases List.mem_append.mp hj with hj | hj
    · exact h.result j hj
    · exact List.mem_singleton.mp hj ▸ hresult

/-- The ticker may move on to a point where it holds no command. -/
theorem Drained.setTicker {jobs : List Job} {ticker ticker' : Ticker} (h : Drained jobs ticker)
    (ht : ticker'.result.bind PipelineResult.command = none) : Drained jobs ticker' :=
  ⟨h.ready, h.result, ht⟩

instance (jobs : List Job) (ticker : Ticker) : Decidable (Drained jobs ticker) :=
  decidable_of_iff
    ((∀ job ∈ jobs, job.ready = []) ∧ (∀ job ∈ jobs, job.result.bind PipelineResult.command = none)
      ∧ ticker.result.bind PipelineResult.command = none)
    ⟨fun ⟨h₁, h₂, h₃⟩ => ⟨h₁, h₂, h₃⟩, fun h => ⟨h.ready, h.result, h.ticker⟩⟩

/-- The halted system: stopped, drained, and with no phase for a ticker step to replace. -/
structure Quiet (s : Runtime) : Prop where
  /-- No packet is admitted, and the ticker hands nothing over. -/
  stopped : s.systemRunning = false
  /-- Nothing admitted earlier is left. -/
  drained : Drained s.executor s.ticker
  /-- A `process_step` without frames that still waits finds no phase and returns at once. -/
  steps : Job.tickStep ∈ s.executor → s.world.pipeline.activeDecision = none

/-! ## The condition on a halt -/

/-- The job whose `process_result` throws its command at a port that does not take it. -/
def jobFails (s : Runtime) (job : Job) (i : WorkInput) : Bool :=
  job.result.any fun r => s.transmissionFails r i

/--
A halt finds nothing on its way to the signal. A STOP clears the decision of a
system that is still stopped and drained; a transmission fails when the rest of
its batch, the other jobs and the ticker are drained and no ticker step waits.
-/
def CleanHalt (s : Runtime) : Label → Prop
  | .reset .stop => .stop ∈ s.resets → s.systemRunning = false ∧ Drained s.executor s.ticker
  | .work i => ∀ job ∈ s.executor.head?, jobFails s job i = true →
      job.ready = [] ∧ Drained s.executor.tail s.ticker ∧ Job.tickStep ∉ s.executor.tail
  | _ => True

instance (s : Runtime) (l : Label) : Decidable (CleanHalt s l) :=
  match l with
  | .work _ => inferInstanceAs (Decidable (∀ job ∈ s.executor.head?, _ → _))
  | .reset .stop => inferInstanceAs (Decidable (_ → _ ∧ _))
  | .reset .start => inferInstanceAs (Decidable True)
  | .reset .restart => inferInstanceAs (Decidable True)
  | .coordinate _ => inferInstanceAs (Decidable True)
  | .tick => inferInstanceAs (Decidable True)
  | .tickFails => inferInstanceAs (Decidable True)
  | .command _ => inferInstanceAs (Decidable True)
  | .configure _ _ => inferInstanceAs (Decidable True)

/-! ## What a stretch does -/

theorem control_snd (s : Runtime) (r : PipelineResult) (i : WorkInput) :
    (s.control r i).2 = r.command.map .commandSent := by
  show (processResult s.systemRunning s.esp32 r i.reply).sent.map Actuation.commandSent = _
  rw [processResult_sent]

/-- A result without a command changes nothing that matters to a halt. -/
theorem control_of_no_command {s : Runtime} {r : PipelineResult} {i : WorkInput}
    (h : r.command = none) : (s.control r i).2 = none ∧ (s.control r i).1.halted = s.halted := by
  refine ⟨by rw [control_snd, h]; rfl, ?_⟩
  show (s.halted || s.transmissionFails r i) = s.halted
  unfold Runtime.transmissionFails
  rw [h]
  exact Bool.or_false _

theorem control_stopped {s : Runtime} {r : PipelineResult} {i : WorkInput}
    (h : s.systemRunning = false) : (s.control r i).1.systemRunning = false := by
  cases hrun : (s.control r i).1.systemRunning with
  | false => rfl
  | true => exact absurd (h.symm.trans (processResult_running hrun)) Bool.false_ne_true

theorem control_stops {s : Runtime} {r : PipelineResult} {i : WorkInput}
    (h : s.transmissionFails r i = true) : (s.control r i).1.systemRunning = false := by
  unfold Runtime.transmissionFails at h
  cases hcmd : r.command with
  | none => rw [hcmd] at h; exact absurd h Bool.false_ne_true
  | some cmd =>
      rw [hcmd] at h
      exact processResult_stops hcmd (Bool.not_eq_true' _ |>.mp h)

/-! ## The steps of a halted system -/

/-- A step of the ticker that finds no phase returns at once. -/
theorem tickStep_idle {w : PipelineWorld} (h : w.pipeline.activeDecision = none) (i : WorkInput) :
    w.processStep (i.stepInput ∅) = (w, { hasFrame := false }) :=
  PipelineWorld.processStep_idle ⟨rfl, h⟩

/-- A finished `process_result` hands its job back without a command. -/
theorem quiet_control {s : Runtime} {r : PipelineResult} {i : WorkInput}
    (hstop : (s.control r i).1.systemRunning = false) (hdrained : Drained s.executor s.ticker)
    (hsteps : Job.tickStep ∈ s.executor → s.world.pipeline.activeDecision = none) :
    Quiet (s.control r i).1 :=
  ⟨hstop, hdrained, hsteps⟩

/-- **The worker does nothing to the signal while the system is halted**, and keeps it so. -/
theorem quiet_work {s : Runtime} {i : WorkInput} (h : Quiet s) :
    (s.work i).2 = none ∧ Quiet (s.work i).1 := by
  obtain ⟨hstop, hdrained, hsteps⟩ := h
  unfold Runtime.work
  cases hex : s.executor with
  | nil => exact ⟨rfl, hstop, hdrained, hsteps⟩
  | cons job jobs =>
      rw [hex, drained_cons] at hdrained
      obtain ⟨hready, hresult, hrest⟩ := hdrained
      rw [hex] at hsteps
      -- what the jobs behind this one need stays true
      have hlater : Job.tickStep ∈ jobs → s.world.pipeline.activeDecision = none :=
        fun hmem => hsteps (List.mem_cons_of_mem _ hmem)
      cases job with
      | decode packets ready =>
          obtain rfl : ready = [] := hready
          cases packets with
          | nil =>
              refine ⟨rfl, hstop, drained_cons.mpr ⟨rfl, rfl, hrest⟩, fun hmem => ?_⟩
              exact hlater (by simpa using hmem)
          | cons p packets =>
              -- the packet is dropped, for the system is stopped
              have hno : s.admits p i = false := by
                unfold Runtime.admits; rw [hstop, Bool.false_and, Bool.false_and]
              refine ⟨rfl, hstop, drained_cons.mpr ⟨?_, rfl, hrest⟩, fun hmem => ?_⟩
              · show (if s.admits p i then [] ++ [p] else []) = []
                rw [hno]; rfl
              · exact hlater (by simpa using hmem)
      | process ready computed =>
          obtain rfl : ready = [] := hready
          exact ⟨rfl, hstop, hrest, hlater⟩
      | control r ready computed =>
          obtain rfl : ready = [] := hready
          refine ⟨(control_of_no_command hresult).1, quiet_control (control_stopped hstop) ?_ ?_⟩
          · exact drained_cons.mpr ⟨rfl, rfl, hrest⟩
          · intro hmem; exact hlater (by simpa using hmem)
      | tickStep =>
          -- a queued step of the ticker finds no phase to move on
          have hnone := hsteps List.mem_cons_self
          show (s.world.processStep (i.stepInput ∅)).2.started = none ∧ _
          dsimp only
          rw [tickStep_idle hnone]
          exact ⟨rfl, hstop, hrest.setTicker rfl, fun _ => hnone⟩
      | tickResult r =>
          exact ⟨(control_of_no_command hresult).1,
            quiet_control (control_stopped hstop) (hrest.setTicker rfl) hlater⟩

/-- A job of the worker that does not end in a failed transmission halts nothing. -/
theorem work_halted {s : Runtime} {i : WorkInput} (h : (s.work i).1.halted = true) :
    s.halted = true ∨ ∃ job ∈ s.executor.head?, jobFails s job i = true := by
  unfold Runtime.work at h
  cases hex : s.executor with
  | nil => rw [hex] at h; exact Or.inl h
  | cons job jobs =>
      rw [hex] at h
      cases job with
      | decode packets ready =>
          cases packets with
          | nil => exact Or.inl h
          | cons p packets => exact Or.inl h
      | process ready computed =>
          cases ready with
          | nil => exact Or.inl h
          | cons p ready =>
              dsimp only at h
              split_ifs at h
              · exact Or.inl h
              · exact Or.inl h
      | control r ready computed =>
          rcases Bool.or_eq_true_iff.mp h with h | h
          · exact Or.inl h
          · exact Or.inr ⟨_, rfl, h⟩
      | tickStep => exact Or.inl h
      | tickResult r =>
          rcases Bool.or_eq_true_iff.mp h with h | h
          · exact Or.inl h
          · exact Or.inr ⟨_, rfl, h⟩

/-- **A failed transmission that finds the rest drained leaves a quiet system.** -/
theorem quiet_of_jobFails {s : Runtime} {i : WorkInput} {job : Job}
    (hjob : job ∈ s.executor.head?) (hfail : jobFails s job i = true)
    (hclean : CleanHalt s (.work i)) : Quiet (s.work i).1 := by
  obtain ⟨hready, hdrained, hno⟩ := hclean job hjob hfail
  unfold Runtime.work
  cases hex : s.executor with
  | nil => rw [hex] at hjob; exact absurd hjob (by simp)
  | cons job' jobs =>
      rw [hex] at hjob hdrained hno
      obtain rfl : job' = job := Option.some.inj hjob
      cases job' with
      | decode packets ready => exact absurd hfail Bool.false_ne_true
      | process ready computed => exact absurd hfail Bool.false_ne_true
      | control r ready computed =>
          obtain rfl : ready = [] := hready
          refine quiet_control (control_stops hfail) (drained_cons.mpr ⟨rfl, rfl, hdrained⟩) ?_
          intro hmem
          exact absurd (by simpa using hmem) hno
      | tickStep => exact absurd hfail Bool.false_ne_true
      | tickResult r =>
          exact quiet_control (control_stops hfail) (hdrained.setTicker rfl)
            fun hmem => absurd hmem hno

theorem quiet_tick {s : Runtime} (h : Quiet s) : Quiet s.tick := by
  obtain ⟨hstop, hdrained, hsteps⟩ := h
  unfold Runtime.tick
  cases ht : s.ticker with
  | sleeping =>
      dsimp only
      rw [hstop, Bool.false_and]
      exact ⟨hstop, hdrained, hsteps⟩
  | waiting => exact ⟨hstop, hdrained, hsteps⟩
  | stepped r =>
      have hr : r.command = none := by
        have := hdrained.ticker
        rw [ht] at this
        exact this
      have happend : Drained (s.executor ++ [.tickResult r]) s.ticker :=
        drained_append hdrained rfl hr
      exact ⟨hstop, happend.setTicker rfl, fun hmem => hsteps (by simpa using hmem)⟩

theorem quiet_tickFails {s : Runtime} (h : Quiet s) : Quiet s.tickFails := by
  obtain ⟨hstop, hdrained, hsteps⟩ := h
  unfold Runtime.tickFails
  split_ifs
  · exact ⟨hstop, hdrained, hsteps⟩
  · refine ⟨?_, hdrained.setTicker rfl, hsteps⟩
    show (s.systemRunning && _) = false
    rw [hstop, Bool.false_and]

theorem quiet_coordinate {s : Runtime} (h : Quiet s) (packets : List CameraPacket) :
    Quiet (s.step (.coordinate packets)).1 := by
  obtain ⟨hstop, hdrained, hsteps⟩ := h
  unfold Runtime.step
  dsimp only
  split_ifs
  · exact ⟨hstop, hdrained, hsteps⟩
  · refine ⟨hstop, drained_append hdrained rfl rfl, fun hmem => hsteps ?_⟩
    simpa using hmem

theorem command_halted {s : Runtime} {c : OperatorCommand} (h : (s.command c).halted = true) :
    s.halted = true := by
  unfold Runtime.command at h
  by_cases hrefuses : s.refuses c = true
  · rw [if_pos hrefuses] at h; exact h
  · rw [if_neg hrefuses] at h
    exact (Bool.and_eq_true_iff.mp h).1

/-- A command after which the system is still halted was a STOP, or was turned down. -/
theorem quiet_command {s : Runtime} {c : OperatorCommand} (h : Quiet s)
    (hhalted : (s.command c).halted = true) : Quiet (s.command c) := by
  obtain ⟨hstop, hdrained, hsteps⟩ := h
  unfold Runtime.command at hhalted ⊢
  by_cases hrefuses : s.refuses c = true
  · rw [if_pos hrefuses]
    exact ⟨rfl, hdrained, hsteps⟩
  · rw [if_neg hrefuses] at hhalted ⊢
    have hc : c = .stop := of_decide_eq_true (Bool.and_eq_true_iff.mp hhalted).2
    subst hc
    exact ⟨rfl, hdrained, hsteps⟩

/-- A command keeps the absence of an active decision. -/
theorem command_activeDecision {w : PipelineWorld} (c : OperatorCommand)
    (h : w.pipeline.activeDecision = none) : (w.command c).pipeline.activeDecision = none := by
  unfold PipelineWorld.command
  split_ifs
  · rfl
  · exact h

theorem quiet_reset {s : Runtime} (h : Quiet s) (c : OperatorCommand) : Quiet (s.reset c) := by
  obtain ⟨hstop, hdrained, hsteps⟩ := h
  unfold Runtime.reset
  split_ifs
  · exact ⟨hstop, hdrained, fun hmem => command_activeDecision c (hsteps hmem)⟩
  · exact ⟨hstop, hdrained, hsteps⟩

/-- **A STOP that finds the system stopped and drained leaves it quiet.** -/
theorem quiet_of_stop {s : Runtime} (hmem : .stop ∈ s.resets)
    (hclean : CleanHalt s (.reset .stop)) : Quiet (s.reset .stop) := by
  obtain ⟨hstop, hdrained⟩ := hclean hmem
  unfold Runtime.reset
  rw [if_pos hmem]
  exact ⟨hstop, hdrained, fun _ => rfl⟩

theorem reset_halted {s : Runtime} {c : OperatorCommand} (h : (s.reset c).halted = true) :
    s.halted = true ∨ c = .stop ∧ .stop ∈ s.resets := by
  unfold Runtime.reset at h
  by_cases hmem : c ∈ s.resets
  · rw [if_pos hmem] at h
    rcases Bool.or_eq_true_iff.mp h with h | h
    · exact Or.inl h
    · obtain rfl := of_decide_eq_true h
      exact Or.inr ⟨rfl, hmem⟩
  · rw [if_neg hmem] at h
    exact Or.inl h

theorem configure_activeDecision (w : PipelineWorld) (minimum maximum : Int) :
    (w.configure minimum maximum).pipeline.activeDecision = w.pipeline.activeDecision := by
  unfold PipelineWorld.configure
  split_ifs
  · rfl
  · rfl

/-! ## The law -/

/-- **Every halt that finds nothing on its way leaves a quiet system, and it stays quiet.** -/
theorem quiet_step (s : Runtime) (l : Label) (h : s.halted = true → Quiet s)
    (hclean : CleanHalt s l) : (s.step l).1.halted = true → Quiet (s.step l).1 := by
  intro hhalted
  cases l with
  | work i =>
      rcases work_halted hhalted with hbefore | ⟨job, hjob, hfail⟩
      · exact (quiet_work (h hbefore)).2
      · exact quiet_of_jobFails hjob hfail hclean
  | coordinate packets =>
      have hsame : (s.step (.coordinate packets)).1.halted = s.halted := by
        unfold Runtime.step
        dsimp only
        split_ifs <;> rfl
      exact quiet_coordinate (h (hsame.symm.trans hhalted)) packets
  | tick =>
      have hsame : s.tick.halted = s.halted := by
        unfold Runtime.tick
        cases s.ticker with
        | sleeping => dsimp only; split_ifs <;> rfl
        | waiting => rfl
        | stepped r => rfl
      exact quiet_tick (h (hsame.symm.trans hhalted))
  | tickFails =>
      have hsame : s.tickFails.halted = s.halted := by
        unfold Runtime.tickFails
        split_ifs <;> rfl
      exact quiet_tickFails (h (hsame.symm.trans hhalted))
  | command c => exact quiet_command (h (command_halted hhalted)) hhalted
  | reset c =>
      rcases reset_halted hhalted with hbefore | ⟨rfl, hmem⟩
      · exact quiet_reset (h hbefore) c
      · exact quiet_of_stop hmem hclean
  | configure minimum maximum =>
      obtain ⟨hstop, hdrained, hsteps⟩ := h hhalted
      exact ⟨hstop, hdrained,
        fun hmem => (configure_activeDecision s.world minimum maximum).trans (hsteps hmem)⟩

/--
**While the system is halted nothing is actuated, if every halt is clean.**

In every run of the three activities, from any state that is not halted and with
any labels, packets, readings and port behaviour: if each STOP that clears the
decision finds the system stopped and drained, and each failed transmission the
rest of the executor and the ticker drained, then from such a halt to the next
accepted START or RESTART no step starts a phase and no command is sent.
-/
theorem nothing_actuated_while_halted (s : Runtime) (run : List Label) (hs : s.halted = false)
    (hclean : ∀ e ∈ events Runtime.step s run, CleanHalt e.pre e.input) :
    ∀ e ∈ events Runtime.step s run, e.pre.halted = true → e.out = none := by
  have hinit : s.halted = true → Quiet s := fun h => absurd (hs.symm.trans h) Bool.false_ne_true
  intro e he hhalted
  have hquiet := (events_invariant quiet_step hinit hclean e he).1 hhalted
  obtain ⟨before, l, rest, -, rfl⟩ := (mem_events_iff Runtime.step).mp he
  -- only the worker reaches the signal
  cases l with
  | work i => exact (quiet_work hquiet).1
  | coordinate packets =>
      show ((final Runtime.step s before).step (.coordinate packets)).2 = none
      unfold Runtime.step
      dsimp only
      split_ifs <;> rfl
  | tick => rfl
  | tickFails => rfl
  | command c => rfl
  | reset c => rfl
  | configure minimum maximum => rfl

/-- A packet of a lane with one vehicle, received at time `t`. -/
def samplePacket (lane : LaneName) (t : Rat) : CameraPacket where
  direction := lane
  backendReceiveTimestamp := t * 1000
  backendReceiveMonotonic := t
  observation :=
    { laneName := lane.value, liveCount := 1, pceScore := 1, congestionIndex := 1, rawCount := 1 }

/-- The worker at time `t`. -/
def workAt (t : Rat) : Label := .work { wallTime := t, nowMono := t, currentMonoTime := t }

/-- A batch is processed and sent, a STOP finds the executor empty, a second batch is dropped. -/
def sampleRuntimeRun : List Label :=
  [.coordinate [samplePacket .north 10], workAt 10, workAt 10, workAt 10, workAt 10, workAt 10,
    .command .stop, .reset .stop,
    .coordinate [samplePacket .east 11], workAt 11, workAt 11, workAt 11]

theorem nothing_actuated_while_halted_north :
    (∀ e ∈ events Runtime.step {} sampleRuntimeRun, CleanHalt e.pre e.input)
      ∧ ∀ e ∈ events Runtime.step {} sampleRuntimeRun, e.pre.halted = true → e.out = none := by
  have hclean : ∀ e ∈ events Runtime.step {} sampleRuntimeRun, CleanHalt e.pre e.input := by
    decide +kernel
  exact ⟨hclean, nothing_actuated_while_halted {} _ rfl hclean⟩

/-- Two packets are decoded, a STOP clears the decision of the first, and the second turns green. -/
theorem batch_outlives_stop : ¬∀ (s : Runtime) (run : List Label), s.halted = false →
    ∀ e ∈ events Runtime.step s run, e.pre.halted = true → e.out = none := by
  intro h
  have hrun := h {} [.coordinate [samplePacket .north 10, samplePacket .east 10], workAt 10,
    workAt 10, workAt 10, workAt 10, workAt 10, .command .stop, .reset .stop, workAt 10, workAt 10]
    rfl
  exact absurd hrun (by decide +kernel)

end SmartTraffic.Proof
