import SmartTraffic.Pipeline.Phase
import SmartTraffic.Server.Command
import SmartTraffic.Simulator.Live

/-!
# The numbers of the phases

`TrafficPipeline` counts phases, and so does its `SignalController`. The decision
carries the number of the one, the command that of the other, and the live
snapshot derives its cycle count from the first.

The controller counts the phases that are started. The pipeline counts a phase
before it knows whether one starts: a step that finds nobody waiting moves its
counter alone, and from then on the two disagree. So the numbers are right in
exactly the runs without such a step.
-/

namespace SmartTraffic.Proof

open SmartTraffic Lib PipelineWorld

/-! ## Operations -/

/-- What happens to a pipeline. -/
inductive PipelineOp
  | step (i : StepInput)
  /-- START, STOP or RESTART. -/
  | command (c : OperatorCommand)
  | configure (minimum maximum : Int)

/-- One operation; only a step has a result. -/
def pipelineStep (w : PipelineWorld) : PipelineOp → PipelineWorld × Option PipelineResult
  | .step i => ((w.processStep i).1, some (w.processStep i).2)
  | .command c => (w.command c, none)
  | .configure minimum maximum => (w.configure minimum maximum, none)

/-- A pipeline that has not counted anything. -/
structure Uncounted (w : PipelineWorld) : Prop where
  noDecision : w.pipeline.activeDecision = none
  noCommand : w.pipeline.activeHardwareCmd = none
  pipeline : w.pipeline.phaseCounter = 0
  controller : w.pipeline.signalController.phaseCounter = 0

/-- The phase that was started when this came out. -/
def startedBy (out : Option PipelineResult) : Option (SignalDecision LaneName) :=
  out.bind fun r => if r.isPhaseChange then r.signalDecision else none

/-- The phases started in a run. -/
def startedPhases (w : PipelineWorld) (run : List PipelineOp) : List (SignalDecision LaneName) :=
  (events pipelineStep w run).filterMap fun e => startedBy e.out

/-- A step that looks for a new phase finds every fresh approach empty. -/
def FindsNobody (w : PipelineWorld) : PipelineOp → Prop
  | .step i => ¬(i.frames.items = [] ∧ w.pipeline.activeDecision = none) ∧ w.changesPhase i = true
      ∧ ∀ lane ∈ w.freshLanes i, (w.mergedStats i lane).rawCount ≤ 0
  | _ => False

instance (w : PipelineWorld) (op : PipelineOp) : Decidable (FindsNobody w op) :=
  match op with
  | .step _ => inferInstanceAs (Decidable (_ ∧ _ ∧ _))
  | .command _ => inferInstanceAs (Decidable False)
  | .configure _ _ => inferInstanceAs (Decidable False)

/-! ## What an operation does to the numbers -/

/-- The decision and the command name the same phase, or there is neither. -/
def Linked (d : Option (SignalDecision LaneName)) (cmd : Option HardwareCommand) : Prop :=
  d.map (·.phaseId) = cmd.map (·.phaseId)

/-- The operation starts the phase of `d`. -/
structure StartsNumbered (w : PipelineWorld) (out : Option PipelineResult) (w' : PipelineWorld)
    (d : SignalDecision LaneName) : Prop where
  started : startedBy out = some d
  phaseId : d.phaseId = w.pipeline.phaseCounter + 1
  pipeline : w'.pipeline.phaseCounter = w.pipeline.phaseCounter + 1
  controller : w'.pipeline.signalController.phaseCounter
    = w.pipeline.signalController.phaseCounter + 1
  decision : w'.pipeline.activeDecision = some d
  command : w'.pipeline.activeHardwareCmd.map (·.phaseId)
    = some (w.pipeline.signalController.phaseCounter + 1)

/-- The operation starts no phase and leaves the controller's count alone. -/
structure StartsNothing (w : PipelineWorld) (out : Option PipelineResult) (w' : PipelineWorld) :
    Prop where
  started : startedBy out = none
  controller : w'.pipeline.signalController.phaseCounter = w.pipeline.signalController.phaseCounter
  /-- The phase goes on, or there is none. -/
  active : (w'.pipeline.activeDecision.map (·.phaseId) = w.pipeline.activeDecision.map (·.phaseId)
      ∧ w'.pipeline.activeHardwareCmd = w.pipeline.activeHardwareCmd)
    ∨ (w'.pipeline.activeDecision = none ∧ w'.pipeline.activeHardwareCmd = none)

/-- A result shows the active pair, or nothing. -/
def ShowsPair (out : Option PipelineResult) (w' : PipelineWorld) : Prop :=
  ∀ r ∈ out, (r.signalDecision = w'.pipeline.activeDecision
      ∧ r.hardwareCommand = w'.pipeline.activeHardwareCmd)
    ∨ (r.signalDecision = none ∧ r.hardwareCommand = none)

theorem observed_phaseId (w : PipelineWorld) (i : StepInput) :
    (w.observed i).activeDecision.map (·.phaseId) = w.pipeline.activeDecision.map (·.phaseId) := by
  rw [observed_activeDecision]
  split_ifs
  · rw [Option.map_map]; rfl
  · rfl

theorem observed_signalController (w : PipelineWorld) (i : StepInput) :
    (w.observed i).signalController = w.pipeline.signalController := by
  obtain ⟨d, since, h⟩ := w.observed_spec i
  rw [h]; rfl

/-- A step that starts no phase and keeps the one it has. -/
theorem startsNothing_of_kept {w : PipelineWorld} {out : Option PipelineResult}
    {w' : PipelineWorld} (hout : ∀ r ∈ out, r.isPhaseChange = false)
    (hd : w'.pipeline.activeDecision.map (·.phaseId) = w.pipeline.activeDecision.map (·.phaseId))
    (hcmd : w'.pipeline.activeHardwareCmd = w.pipeline.activeHardwareCmd)
    (hcontroller : w'.pipeline.signalController = w.pipeline.signalController) :
    StartsNothing w out w' := by
  refine ⟨?_, by rw [hcontroller], Or.inl ⟨hd, hcmd⟩⟩
  cases out with
  | none => rfl
  | some r =>
      show (if r.isPhaseChange then r.signalDecision else none) = none
      rw [hout r rfl]; rfl

/--
**What a step counts.** It starts a phase, and both counters move; or it starts
none, and the pipeline's counter moves exactly when the step finds nobody.
-/
theorem step_counts (w : PipelineWorld) (i : StepInput) :
    ShowsPair (some (w.processStep i).2) (w.processStep i).1
      ∧ ((¬FindsNobody w (.step i)
          ∧ ∃ d, StartsNumbered w (some (w.processStep i).2) (w.processStep i).1 d)
        ∨ (StartsNothing w (some (w.processStep i).2) (w.processStep i).1
          ∧ (w.processStep i).1.pipeline.phaseCounter
            = w.pipeline.phaseCounter + if FindsNobody w (.step i) then 1 else 0)) := by
  by_cases hidle : i.frames.items = [] ∧ w.pipeline.activeDecision = none
  · -- nothing to do
    rw [processStep_idle hidle, if_neg fun h => h.1 hidle]
    refine ⟨?_, Or.inr ⟨startsNothing_of_kept ?_ rfl rfl rfl, rfl⟩⟩
    · rintro r ⟨⟩; exact Or.inr ⟨rfl, rfl⟩
    · rintro r ⟨⟩; rfl
  · cases hc : w.changesPhase i with
    | false =>
        -- the phase goes on
        rw [processStep_hold hidle hc, if_neg fun h => Bool.false_ne_true (hc.symm.trans h.2.1)]
        refine ⟨?_, Or.inr ⟨startsNothing_of_kept ?_ (observed_phaseId w i)
          (observed_activeHardwareCmd w i) (observed_signalController w i),
          observed_phaseCounter w i⟩⟩
        · rintro r ⟨⟩; exact Or.inl ⟨rfl, rfl⟩
        · rintro r ⟨⟩; rfl
    | true =>
        have hcount : (w.selecting i).phaseCounter = w.pipeline.phaseCounter + 1 := by
          rw [← observed_phaseCounter w i]; rfl
        have hcontroller : (w.selecting i).signalController = w.pipeline.signalController :=
          observed_signalController w i
        rcases startedPhase_cases w i with
          ⟨hsel, hno⟩ | ⟨win, hwin, r, d, hst, hsel, -, -, -, hid, -⟩
        · -- the counter moves before the selection comes back empty
          rw [processStep_lapse hidle hc hno,
            if_pos ⟨hidle, hc, selectedLane_eq_none_iff_unoccupied.mp hsel⟩]
          refine ⟨?_, Or.inr ⟨⟨rfl, ?_, Or.inr ⟨rfl, rfl⟩⟩, hcount⟩⟩
          · rintro r ⟨⟩; exact Or.inr ⟨rfl, rfl⟩
          · show (w.selecting i).signalController.phaseCounter = _
            rw [hcontroller]
        · -- the selected lane starts a phase, and both counters have moved
          rw [processStep_start hidle hc hst]
          refine ⟨?_, Or.inl ⟨fun h => ?_, d, ⟨rfl, hid, hcount, ?_, rfl, ?_⟩⟩⟩
          · rintro r ⟨⟩; exact Or.inl ⟨rfl, rfl⟩
          · rw [selectedLane_eq_none_iff_unoccupied.mpr h.2.2] at hsel
            nomatch hsel
          · show (w.selecting i).signalController.phaseCounter + 1 = _
            rw [hcontroller]
          · show some ((w.selecting i).signalController.phaseCounter + 1) = _
            rw [hcontroller]

/-- The same for every operation. -/
theorem pipelineStep_counts (w : PipelineWorld) (op : PipelineOp) :
    ShowsPair (pipelineStep w op).2 (pipelineStep w op).1
      ∧ ((¬FindsNobody w op
          ∧ ∃ d, StartsNumbered w (pipelineStep w op).2 (pipelineStep w op).1 d)
        ∨ (StartsNothing w (pipelineStep w op).2 (pipelineStep w op).1
          ∧ (pipelineStep w op).1.pipeline.phaseCounter
            = w.pipeline.phaseCounter + if FindsNobody w op then 1 else 0)) := by
  cases op with
  | step i => exact step_counts w i
  | command c =>
      refine ⟨fun r hr => absurd hr (Option.not_mem_none r), Or.inr ?_⟩
      rw [if_neg (show ¬FindsNobody w (.command c) from fun h => h)]
      show StartsNothing w none (w.command c)
        ∧ (w.command c).pipeline.phaseCounter = w.pipeline.phaseCounter
      unfold PipelineWorld.command
      split_ifs
      · exact ⟨⟨rfl, rfl, Or.inr ⟨rfl, rfl⟩⟩, rfl⟩
      · exact ⟨⟨rfl, rfl, Or.inl ⟨rfl, rfl⟩⟩, rfl⟩
  | configure minimum maximum =>
      refine ⟨fun r hr => absurd hr (Option.not_mem_none r), Or.inr ?_⟩
      rw [if_neg (show ¬FindsNobody w (.configure minimum maximum) from fun h => h)]
      show StartsNothing w none (w.configure minimum maximum)
        ∧ (w.configure minimum maximum).pipeline.phaseCounter = w.pipeline.phaseCounter
      unfold PipelineWorld.configure
      split_ifs
      · exact ⟨⟨rfl, rfl, Or.inl ⟨rfl, rfl⟩⟩, rfl⟩
      · exact ⟨⟨rfl, rfl, Or.inl ⟨rfl, rfl⟩⟩, rfl⟩

/-! ## The numbers of a run -/

/-- The number of steps of a run that found nobody. -/
def foundNobody (w : PipelineWorld) (run : List PipelineOp) : Nat :=
  (events pipelineStep w run).countP fun e => FindsNobody e.pre e.input

theorem startedPhases_cons (w : PipelineWorld) (op : PipelineOp) (run : List PipelineOp) :
    startedPhases w (op :: run) = (startedBy (pipelineStep w op).2).toList
      ++ startedPhases (pipelineStep w op).1 run := by
  unfold startedPhases
  have hout : startedBy (eventOf pipelineStep w op).out = startedBy (pipelineStep w op).2 := rfl
  rw [events_cons, List.filterMap_cons, hout]
  cases startedBy (pipelineStep w op).2 with
  | none => rfl
  | some d => rfl

theorem foundNobody_cons (w : PipelineWorld) (op : PipelineOp) (run : List PipelineOp) :
    foundNobody w (op :: run)
      = foundNobody (pipelineStep w op).1 run + if FindsNobody w op then 1 else 0 := by
  unfold foundNobody
  rw [events_cons, List.countP_cons]
  simp only [decide_eq_true_eq]
  rfl

/-- **The pipeline's counter counts the started phases and the steps that found nobody.** -/
theorem phaseCounter_final (w : PipelineWorld) (run : List PipelineOp) :
    (final pipelineStep w run).pipeline.phaseCounter
      = w.pipeline.phaseCounter + (startedPhases w run).length + foundNobody w run := by
  induction run generalizing w with
  | nil => rfl
  | cons op run ih =>
      rw [final_cons, ih, startedPhases_cons, foundNobody_cons, List.length_append]
      obtain ⟨-, ⟨hno, d, h⟩ | ⟨h, hcount⟩⟩ := pipelineStep_counts w op
      · rw [h.pipeline, h.started, if_neg hno]
        simp only [Option.toList_some, List.length_singleton]
        omega
      · rw [hcount, h.started]
        simp only [Option.toList_none, List.length_nil]
        omega

theorem foundNobody_eq_zero_iff {w : PipelineWorld} {run : List PipelineOp} :
    foundNobody w run = 0 ↔ ∀ e ∈ events pipelineStep w run, ¬FindsNobody e.pre e.input := by
  unfold foundNobody
  rw [List.countP_eq_zero]
  simp only [decide_eq_true_eq]

/-- The two counters agree, and so do the decision and the command. -/
structure Numbered (w : PipelineWorld) : Prop where
  counters : w.pipeline.signalController.phaseCounter = w.pipeline.phaseCounter
  linked : Linked w.pipeline.activeDecision w.pipeline.activeHardwareCmd

theorem numbered_of_uncounted {w : PipelineWorld} (h : Uncounted w) : Numbered w :=
  ⟨h.controller.trans h.pipeline.symm, by rw [h.noDecision, h.noCommand]; rfl⟩

/-- **An operation that does not find nobody keeps the numbers in step.** -/
theorem numbered_step (w : PipelineWorld) (op : PipelineOp) (h : Numbered w)
    (hok : ¬FindsNobody w op) : Numbered (pipelineStep w op).1 := by
  obtain ⟨-, ⟨-, d, hs⟩ | ⟨hn, hcount⟩⟩ := pipelineStep_counts w op
  · refine ⟨by rw [hs.controller, hs.pipeline, h.counters], ?_⟩
    unfold Linked
    rw [hs.decision, hs.command, h.counters, Option.map_some, hs.phaseId]
  · rw [if_neg hok] at hcount
    refine ⟨hn.controller.trans (h.counters.trans hcount.symm), ?_⟩
    unfold Linked
    rcases hn.active with ⟨hd, hcmd⟩ | ⟨hd, hcmd⟩
    · rw [hd, hcmd]; exact h.linked
    · rw [hd, hcmd]; rfl

/-- Started phases are numbered one after another. -/
theorem startedPhases_numbered {w : PipelineWorld} {run : List PipelineOp}
    (hok : ∀ e ∈ events pipelineStep w run, ¬FindsNobody e.pre e.input) :
    (startedPhases w run).map (·.phaseId)
      = List.range' (w.pipeline.phaseCounter + 1) (startedPhases w run).length := by
  induction run generalizing w with
  | nil => rfl
  | cons op run ih =>
      have hrest := ih fun e he => hok e (List.mem_cons_of_mem _ he)
      rw [startedPhases_cons]
      obtain ⟨-, ⟨-, d, hs⟩ | ⟨hn, hcount⟩⟩ := pipelineStep_counts w op
      · rw [hs.pipeline] at hrest
        rw [hs.started, Option.toList_some, List.singleton_append, List.map_cons, List.length_cons,
          List.range'_succ, hs.phaseId, hrest]
      · have hno : ¬FindsNobody w op := hok _ List.mem_cons_self
        rw [if_neg hno] at hcount
        rw [hcount, add_zero] at hrest
        rw [hn.started, Option.toList_none, List.nil_append]
        exact hrest

/-! ## Phase identity -/

/-- The live intersection view of a pipeline in a context, at some reading. -/
def cycleCount (view : DigitalIntersection) (ctx : LiveContext) (p : TrafficPipeline) (now : Rat) :
    Nat :=
  (view.getSnapshot false { ctx with pipeline := some p, systemRunning := true } now).cycleCount

/-- After a run, every number says how many phases have been started. -/
structure PhaseIdentity (w : PipelineWorld) (run : List PipelineOp) : Prop where
  /-- The pipeline's counter is that number. -/
  counter : (final pipelineStep w run).pipeline.phaseCounter = (startedPhases w run).length
  /-- The phases have been numbered one after another. -/
  numbered : (startedPhases w run).map (·.phaseId) = List.range' 1 (startedPhases w run).length
  /-- The active decision and the active command name the same phase. -/
  active : Linked (final pipelineStep w run).pipeline.activeDecision
    (final pipelineStep w run).pipeline.activeHardwareCmd
  /-- So do the decision that is logged and the command that is sent for any result. -/
  reported : ∀ e ∈ events pipelineStep w run, ∀ r ∈ e.out, Linked r.signalDecision r.hardwareCommand
  /-- The live cycle count is a fourth of the number, rounded down. -/
  cycles : ∀ view ctx now, cycleCount view ctx (final pipelineStep w run).pipeline now
    = (startedPhases w run).length / 4

theorem reported_linked {w : PipelineWorld} {run : List PipelineOp} (h : Numbered w)
    (hok : ∀ e ∈ events pipelineStep w run, ¬FindsNobody e.pre e.input) :
    ∀ e ∈ events pipelineStep w run, ∀ r ∈ e.out, Linked r.signalDecision r.hardwareCommand := by
  intro e he r hr
  have hpost := (events_invariant numbered_step h hok e he).2
  obtain ⟨before, op, rest, -, rfl⟩ := (mem_events_iff _).mp he
  obtain ⟨hshows, -⟩ := pipelineStep_counts (final pipelineStep w before) op
  rcases hshows r hr with ⟨hd, hcmd⟩ | ⟨hd, hcmd⟩
  · rw [hd, hcmd]; exact hpost.linked
  · rw [hd, hcmd]; rfl

/--
**The phases are numbered right exactly as long as no step finds nobody.**

From a new pipeline, after any run of steps and commands: the phase counter is
the number of started phases, they have consecutive ids, decisions and commands
name the same phase, and the cycle count is a fourth of their number, if and only
if no step of the run looked for a new phase while every fresh approach was empty.
-/
theorem phase_identity_iff (w : PipelineWorld) (hw : Uncounted w) (run : List PipelineOp) :
    PhaseIdentity w run ↔ ∀ e ∈ events pipelineStep w run, ¬FindsNobody e.pre e.input := by
  have hcount := phaseCounter_final w run
  rw [hw.pipeline, zero_add] at hcount
  rw [← foundNobody_eq_zero_iff]
  constructor
  · intro h
    rw [h.counter] at hcount
    omega
  · intro hzero
    have hok := foundNobody_eq_zero_iff.mp hzero
    have hnumbered := startedPhases_numbered hok
    rw [hw.pipeline] at hnumbered
    rw [hzero, add_zero] at hcount
    have hstart := numbered_of_uncounted hw
    refine ⟨hcount, hnumbered, (final_invariant numbered_step hstart hok).linked,
      reported_linked hstart hok, fun view ctx now => ?_⟩
    show (final pipelineStep w run).pipeline.phaseCounter / 4 = _
    rw [hcount]

/-- A step that sees `n` vehicles on one approach. -/
def countedStep (lane : LaneName) (n : Int) (t : Rat) : PipelineOp :=
  .step
    { frames :=
        { items := [(lane,
            { timestamp := t
              observation := { laneName := lane.key, rawCount := n, liveCount := n } })]
          nodup := List.nodup_singleton lane }
      nowMono := t, currentMonoTime := t }

theorem phase_identity_iff_north_east : Uncounted {}
    ∧ PhaseIdentity {} [countedStep .north 2 10, countedStep .east 1 60] :=
  have hw : Uncounted {} := ⟨rfl, rfl, rfl, rfl⟩
  ⟨hw, (phase_identity_iff {} hw _).mpr (by decide +kernel)⟩

/-- One step sees an empty approach, the next one a vehicle: the first phase is number 2. -/
theorem idle_step_skips_number : ¬∀ (w : PipelineWorld), Uncounted w →
    ∀ run, PhaseIdentity w run := by
  intro h
  have hid := h {} ⟨rfl, rfl, rfl, rfl⟩ [countedStep .north 0 10, countedStep .north 2 12]
  exact absurd hid.counter (by decide +kernel)

end SmartTraffic.Proof
