import SmartTraffic.Control.Manager
import SmartTraffic.Pipeline.Phase

/-!
# The controller's programme and the active phase

A phase is sent to the controller once, when it starts, and a start always sends.
So the last command mirrors the active decision as long as nothing rewrites the
decision within its phase, and its lamp is the one the result reports.

The empty-lane rule rewrites the decision. A release gives the active decision a
shorter green and builds no command, so the controller stays green while the
software reports yellow, unless the step that releases also replaces the phase.
And a command that cannot be transmitted turns the result of its step all red,
with the phase still active.
-/

namespace SmartTraffic.Proof

open SmartTraffic Lib PipelineWorld

/-- The last command, the active command and the active decision are one programme. -/
structure Mirrors (s : ControlledPipeline) (d : SignalDecision LaneName) (cmd : HardwareCommand) :
    Prop where
  /-- The command was the last one sent, and it is the active one. -/
  sent : s.lastSent = some cmd
  active : s.world.pipeline.activeHardwareCmd = some cmd
  /-- It shows the decision's lane for the decision's times. -/
  lane : cmd.greenLane = d.greenLane
  green : cmd.greenDurationSec = d.greenDurationSec
  yellow : cmd.yellowDurationSec = d.yellowDurationSec

/-- The hardware programme mirrors the software phase. -/
def Mirrored (s : ControlledPipeline) : Prop :=
  ∀ d, s.world.pipeline.activeDecision = some d → ∃ cmd, Mirrors s d cmd

/-- A step with its result, as `process_result` leaves it. -/
abbrev ControlEvent := Event ControlledPipeline (StepInput × SerialReply) PipelineResult

/-- How long the phase has run when the step reports. -/
def sinceStart (e : ControlEvent) : Rat :=
  e.input.1.currentMonoTime - e.post.world.pipeline.phaseStartTime

/--
After the step the programme mirrors the phase, shows the lamp that the step reports,
and at any instant of the phase the lamp that a report would have then.
-/
def ReportsLamp (e : ControlEvent) : Prop :=
  ∀ d, e.post.world.pipeline.activeDecision = some d →
    ∃ cmd, Mirrors e.post d cmd ∧ cmd.lampAt (sinceStart e) = e.out.signalState
      ∧ ∀ elapsed, cmd.lampAt elapsed = TrafficPipeline.signalStateAt d elapsed

/-- The step releases an empty approach and keeps the phase it shortened. -/
def shortensPhase (w : PipelineWorld) (i : StepInput) : Bool :=
  w.releasesEmpty i && !w.changesPhase i

/-- The step starts a phase whose command cannot be transmitted. -/
def failsToSend (s : ControlledPipeline) (i : StepInput × SerialReply) : Bool :=
  (s.world.processStep i.1).2.command.any fun cmd => !(s.esp32.sendCommand cmd i.2).1

/-- Equal times give equal lamps. -/
theorem lampAt_eq {d : SignalDecision LaneName} {cmd : HardwareCommand}
    (hg : cmd.greenDurationSec = d.greenDurationSec)
    (hy : cmd.yellowDurationSec = d.yellowDurationSec) (elapsed : Rat) :
    cmd.lampAt elapsed = TrafficPipeline.signalStateAt d elapsed := by
  unfold HardwareCommand.lampAt TrafficPipeline.signalStateAt
  rw [hg, hy]

/-- The active command's green is at least the scheduler's minimum. -/
structure Sound (s : ControlledPipeline) : Prop where
  minGreen : 2 ≤ s.world.pipeline.signalScheduler.minGreenSec
  cmdGreen : ∀ cmd, s.world.pipeline.activeHardwareCmd = some cmd → 2 ≤ cmd.greenDurationSec

theorem sound_controlled {s : ControlledPipeline} {i : StepInput × SerialReply} (h : Sound s) :
    Sound (s.step i).1 := by
  obtain ⟨-, hm⟩ := processStep_timing s.world i.1
  refine ⟨?_, ?_⟩
  · rw [step_world, hm]; exact h.minGreen
  · intro cmd hcmd
    rw [step_world] at hcmd
    rcases processStep_outcome s.world i.1 with
      ⟨-, hw⟩ | ⟨d, -, -, -, hw⟩ | ⟨-, -, hw⟩ | ⟨-, r, d, hst, hw⟩
    · rw [hw] at hcmd; exact h.cmdGreen cmd hcmd
    · rw [hw] at hcmd
      exact h.cmdGreen cmd ((observed_activeHardwareCmd s.world i.1).symm.trans hcmd)
    · rw [hw] at hcmd; exact absurd hcmd (by simp [lapsed])
    · rw [hw] at hcmd
      obtain rfl := Option.some.inj hcmd
      exact h.minGreen.trans hst.minGreen

/-- Nothing is sent unless the step starts a phase. -/
theorem step_lastSent_of_no_start {s : ControlledPipeline} {i : StepInput × SerialReply}
    (h : (s.world.processStep i.1).2.isPhaseChange = false) :
    (s.step i).1.lastSent = s.lastSent := by
  rw [step_lastSent, processResult_sent, command_of_no_phaseChange h]
  rfl

/-- **A step that does not shorten the running phase keeps the mirror.** -/
theorem mirrored_step {s : ControlledPipeline} {i : StepInput × SerialReply} (h : Mirrored s)
    (hno : shortensPhase s.world i.1 = false) : Mirrored (s.step i).1 := by
  intro d hd
  rw [step_world] at hd
  rcases processStep_outcome s.world i.1 with
    ⟨hnone, hw⟩ | ⟨d₀, hd₀, hexp, hcut, hw⟩ | ⟨-, -, hw⟩ | ⟨-, r, d₀, hst, hw⟩
  · rw [hw] at hd
    exact absurd (hnone.symm.trans hd) (by simp)
  · -- the phase is held: neither the decision nor the command has changed
    have hch : s.world.changesPhase i.1 = false := by
      unfold cutsShort at hcut
      unfold changesPhase
      rw [hexp] at hcut ⊢
      exact hcut
    have hrel : s.world.releasesEmpty i.1 = false := by
      unfold shortensPhase at hno
      rw [hch, Bool.not_false, Bool.and_true] at hno
      exact hno
    have hact := observed_activeDecision_of_not_released hrel
    rw [hw] at hd
    obtain ⟨cmd, hm⟩ := h d (hact.symm.trans hd)
    refine ⟨cmd, ?_, ?_, hm.lane, hm.green, hm.yellow⟩
    · rw [step_lastSent_of_no_start (by rw [hw]; rfl)]
      exact hm.sent
    · rw [step_world, hw]
      exact (observed_activeHardwareCmd s.world i.1).trans hm.active
  · rw [hw] at hd; exact absurd hd (by simp [lapsed])
  · -- the started phase is sent as it is
    rw [hw] at hd
    obtain rfl : d₀ = d := Option.some.inj hd
    refine ⟨((s.world.selecting i.1).signalController.generateCommand d₀).1, ?_, ?_, rfl, rfl, rfl⟩
    · rw [step_lastSent, processResult_sent, hw]
      rfl
    · rw [step_world, hw]; rfl

/-- A release happens while the phase is green, so the new green is another one. -/
theorem releasedGreen_ne {w : PipelineWorld} {i : StepInput} {d : SignalDecision LaneName}
    (hd : w.pipeline.activeDecision = some d) (hrel : w.releasesEmpty i = true)
    (htwo : 2 ≤ d.greenDurationSec) :
    w.pipeline.releasedGreen i.currentMonoTime ≠ d.greenDurationSec := by
  unfold PipelineWorld.releasesEmpty TrafficPipeline.releasesEmpty at hrel
  rw [hd, Bool.and_eq_true] at hrel
  have hlt : w.pipeline.elapsedSec i.currentMonoTime < d.greenDurationSec :=
    of_decide_eq_true hrel.2
  have hfloor : ⌊w.pipeline.elapsedSec i.currentMonoTime⌋ < d.greenDurationSec :=
    Int.floor_lt.mpr hlt
  unfold TrafficPipeline.releasedGreen
  omega

/-- **A step that shortens the running phase breaks the mirror.** -/
theorem not_mirrored_of_shortens {s : ControlledPipeline} {i : StepInput × SerialReply}
    (hs : Sound s) (h : Mirrored s) (hsh : shortensPhase s.world i.1 = true) :
    ¬Mirrored (s.step i).1 := by
  intro hnext
  unfold shortensPhase at hsh
  obtain ⟨hrel, hch⟩ := Bool.and_eq_true_iff.mp hsh
  have hch : s.world.changesPhase i.1 = false := by simpa using hch
  have hobs := observed_activeDecision s.world i.1
  rw [if_pos hrel] at hobs
  -- the released phase is the one that was active before
  cases hd : s.world.pipeline.activeDecision with
  | none =>
      unfold PipelineWorld.releasesEmpty TrafficPipeline.releasesEmpty at hrel
      rw [hd] at hrel
      simp at hrel
  | some d =>
      rw [hd] at hobs
      have hidle : ¬(i.1.frames.items = [] ∧ s.world.pipeline.activeDecision = none) := by
        rw [hd]; simp
      have hw := processStep_hold hidle hch
      obtain ⟨cmd, hm⟩ := h d hd
      obtain ⟨cmd', hm'⟩ := hnext _ (by rw [step_world, hw]; exact hobs)
      have hsame : cmd' = cmd := by
        have hact := hm'.active
        rw [step_world, hw] at hact
        have := (observed_activeHardwareCmd s.world i.1).symm.trans hact
        exact Option.some.inj (this.symm.trans hm.active)
      have htwo : 2 ≤ d.greenDurationSec := by
        rw [← hm.green]; exact hs.cmdGreen cmd hm.active
      refine releasedGreen_ne hd hrel htwo ?_
      rw [← hm.green, ← hsame]
      exact hm'.green.symm

/-! ## The reported lamp -/

theorem step_out (s : ControlledPipeline) (i : StepInput × SerialReply) :
    (s.step i).2 = (processResult s.systemRunning s.esp32 (s.world.processStep i.1).2 i.2).result :=
  rfl

/-- A step that leaves a phase running reports the state of that phase at its own instant. -/
theorem report_signalState {w : PipelineWorld} {i : StepInput} {d : SignalDecision LaneName}
    (hd : (w.processStep i).1.pipeline.activeDecision = some d) :
    (w.processStep i).2.signalState = TrafficPipeline.signalStateAt d
      (i.currentMonoTime - (w.processStep i).1.pipeline.phaseStartTime)
      ∨ (w.pipeline.activeDecision = none ∧ w.processStep i = (w, { hasFrame := false })) := by
  rcases processStep_outcome w i with
    ⟨hnone, hw⟩ | ⟨d₀, hd₀, -, -, hw⟩ | ⟨-, -, hw⟩ | ⟨-, r, d₀, -, hw⟩
  · exact Or.inr ⟨hnone, hw⟩
  · rw [hw] at hd ⊢
    refine Or.inl ?_
    show (w.observed i).signalState i.currentMonoTime = _
    unfold TrafficPipeline.signalState
    rw [show (w.observed i).activeDecision = some d from hd]
  · rw [hw] at hd; exact absurd hd (by simp [lapsed])
  · rw [hw] at hd ⊢
    obtain rfl : d₀ = d := Option.some.inj hd
    exact Or.inl rfl

/-- **A step that does not shorten the phase, and sends what it starts, reports the lamp.** -/
theorem reportsLamp_of_mirrored {s : ControlledPipeline} {i : StepInput × SerialReply}
    (hm : Mirrored (s.step i).1) (hsend : failsToSend s i = false) :
    ReportsLamp (eventOf ControlledPipeline.step s i) := by
  intro d hd
  obtain ⟨cmd, hcmd⟩ := hm d hd
  refine ⟨cmd, hcmd, ?_, lampAt_eq hcmd.green hcmd.yellow⟩
  have hd' : (s.world.processStep i.1).1.pipeline.activeDecision = some d := hd
  rcases report_signalState hd' with hstate | ⟨hnone, hw⟩
  · have hkept : (s.step i).2.signalState = (s.world.processStep i.1).2.signalState := by
      rw [step_out]
      cases hc : (s.world.processStep i.1).2.command with
      | none => rw [processResult_unsent hc]
      | some sent =>
          unfold failsToSend at hsend
          rw [hc] at hsend
          have hok : (s.esp32.sendCommand sent i.2).1 = true := by simpa using hsend
          rw [processResult_signalState hc, if_pos hok]
    show cmd.lampAt (sinceStart (eventOf ControlledPipeline.step s i)) = (s.step i).2.signalState
    rw [hkept, hstate, lampAt_eq hcmd.green hcmd.yellow]
    rfl
  · -- an idle step leaves no phase running
    rw [hw] at hd'
    exact absurd (hnone.symm.trans hd') (by simp)

/-- **A step whose command cannot be transmitted reports red over a command that starts green.** -/
theorem not_reportsLamp_of_fails {s : ControlledPipeline} {i : StepInput × SerialReply}
    (hs : Sound s) (h : failsToSend s i = true) :
    ¬ReportsLamp (eventOf ControlledPipeline.step s i) := by
  intro hlamp
  obtain ⟨sent, hc, hfail⟩ := (Option.any_eq_true _ _).mp h
  have hfail : (s.esp32.sendCommand sent i.2).1 = false := by simpa using hfail
  have hnext := sound_controlled (i := i) hs
  rcases processStep_outcome s.world i.1 with
    ⟨-, hw⟩ | ⟨d, -, -, -, hw⟩ | ⟨-, -, hw⟩ | ⟨-, r, d, -, hw⟩
  · rw [hw] at hc; nomatch hc
  · rw [hw, command_of_no_phaseChange rfl] at hc; nomatch hc
  · rw [hw, command_of_no_phaseChange rfl] at hc; nomatch hc
  · obtain ⟨cmd, hcmd, hreport, -⟩ := hlamp d (by
      show (s.step i).1.world.pipeline.activeDecision = some d
      rw [step_world, hw]
      rfl)
    have htwo : 2 ≤ cmd.greenDurationSec := hnext.cmdGreen cmd hcmd.active
    have hred : (s.step i).2.signalState = .allRed := by
      rw [step_out, processResult_signalState hc, hfail]
      rfl
    have hstart : sinceStart (eventOf ControlledPipeline.step s i) = 0 := by
      show i.1.currentMonoTime - (s.step i).1.world.pipeline.phaseStartTime = 0
      rw [step_world, hw]
      exact sub_self _
    rw [show (eventOf ControlledPipeline.step s i).out.signalState = .allRed from hred, hstart]
      at hreport
    unfold HardwareCommand.lampAt at hreport
    rw [if_pos (by exact_mod_cast (by omega : (0 : Int) < cmd.greenDurationSec))] at hreport
    nomatch hreport

/-- The state after a step that reports its lamp is mirrored. -/
theorem mirrored_of_reportsLamp {s : ControlledPipeline} {i : StepInput × SerialReply}
    (h : ReportsLamp (eventOf ControlledPipeline.step s i)) : Mirrored (s.step i).1 := by
  intro d hd
  obtain ⟨cmd, hcmd, -⟩ := h d hd
  exact ⟨cmd, hcmd⟩

/-- A pipeline that has not started a phase yet. -/
structure Fresh (s : ControlledPipeline) : Prop where
  noDecision : s.world.pipeline.activeDecision = none
  noCommand : s.world.pipeline.activeHardwareCmd = none
  /-- The shortest green is at least two seconds. -/
  minGreen : 2 ≤ s.world.pipeline.signalScheduler.minGreenSec

theorem sound_of_fresh {s : ControlledPipeline} (h : Fresh s) : Sound s :=
  ⟨h.minGreen, fun cmd hcmd => absurd (h.noCommand.symm.trans hcmd) (by simp)⟩

theorem mirrored_of_fresh {s : ControlledPipeline} (h : Fresh s) : Mirrored s :=
  fun d hd => absurd (h.noDecision.symm.trans hd) (by simp)

/-- The iff from any state that mirrors. -/
theorem reportsLamp_iff_of_sound {s : ControlledPipeline} {run : List (StepInput × SerialReply)}
    (hs : Sound s) (hm : Mirrored s) :
    (∀ e ∈ events ControlledPipeline.step s run, ReportsLamp e)
      ↔ ∀ e ∈ events ControlledPipeline.step s run,
        shortensPhase e.pre.world e.input.1 = false ∧ failsToSend e.pre e.input = false := by
  induction run generalizing s with
  | nil =>
      constructor
      · intro _ e he; exact absurd he List.not_mem_nil
      · intro _ e he; exact absurd he List.not_mem_nil
  | cons i run ih =>
      rw [events_cons, List.forall_mem_cons, List.forall_mem_cons]
      -- a step that shortens the phase or fails to send it breaks the mirror, any other keeps it
      cases hsh : shortensPhase s.world i.1 with
      | true =>
          constructor
          · intro h
            exact absurd (mirrored_of_reportsLamp h.1) (not_mirrored_of_shortens hs hm hsh)
          · intro h; exact absurd (hsh.symm.trans h.1.1) (by simp)
      | false =>
          cases hsend : failsToSend s i with
          | true =>
              constructor
              · intro h; exact absurd h.1 (not_reportsLamp_of_fails hs hsend)
              · intro h; exact absurd (hsend.symm.trans h.1.2) (by simp)
          | false =>
              have hnext := mirrored_step hm hsh
              rw [ih (sound_controlled hs) hnext]
              exact and_congr_left fun _ =>
                ⟨fun _ => ⟨hsh, hsend⟩, fun _ => reportsLamp_of_mirrored hnext hsend⟩

/--
**The mirror holds exactly while no phase is shortened and every command is sent.**

In every run of `process_step` followed by `process_result` from a fresh
pipeline, with any frames, clock readings and serial port: in every state of the
run the last command sent and the active command mirror the active decision, and
the command's lamp is the signal state that the result reports at that instant,
if and only if no step fires the empty-lane release on a phase that it keeps and
no step starts a phase whose command cannot be transmitted.
-/
theorem command_mirrors_phase_iff (s : ControlledPipeline) (hs : Fresh s)
    (run : List (StepInput × SerialReply)) :
    (∀ e ∈ events ControlledPipeline.step s run, ReportsLamp e)
      ↔ ∀ e ∈ events ControlledPipeline.step s run,
        shortensPhase e.pre.world e.input.1 = false ∧ failsToSend e.pre e.input = false :=
  reportsLamp_iff_of_sound (sound_of_fresh hs) (mirrored_of_fresh hs)

/-- A step at time `t` with a frame of the north approach, on which `n` cars are seen. -/
def northStep (n : Int) (t : Rat) : StepInput × SerialReply :=
  ({ frames :=
       { items := [(.north, { timestamp := t, observation :=
           { laneName := "North", liveCount := n, pceScore := n, congestionIndex := n,
             rawCount := n } })]
         nodup := List.nodup_singleton _ }
     nowMono := t
     currentMonoTime := t }, {})

theorem fresh_init : Fresh {} := ⟨rfl, rfl, by decide⟩

theorem command_mirrors_phase_iff_north : Fresh {} ∧ ∀ e ∈ events ControlledPipeline.step {}
    [northStep 1 10, northStep 0 12, northStep 1 13, northStep 0 14], ReportsLamp e :=
  ⟨fresh_init, (command_mirrors_phase_iff {} fresh_init _).mpr (by decide +kernel)⟩

/-- North empties during its green: the decision is cut to three seconds, the command has twelve. -/
theorem release_breaks_mirror : ¬∀ (s : ControlledPipeline), Fresh s →
    ∀ (run : List (StepInput × SerialReply)),
      ∀ e ∈ events ControlledPipeline.step s run, ReportsLamp e := by
  intro h
  have hall := (reportsLamp_iff_of_sound (sound_of_fresh fresh_init)
    (mirrored_of_fresh fresh_init)).mp
    (h {} fresh_init [northStep 1 10, northStep 0 12, northStep 0 (27 / 2)])
  exact absurd hall (by decide +kernel)

end SmartTraffic.Proof
