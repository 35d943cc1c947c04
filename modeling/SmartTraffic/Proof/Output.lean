import SmartTraffic.Lib.Run
import SmartTraffic.Server.Output

/-!
# A system that runs has a safe output

Every operation that may make the status of the output unsafe also clears the
running flag, and the only one that sets it looks at the status first.
-/

namespace SmartTraffic

open Lib

/-- The state SIMULATION is that of an interface in simulation mode, and of no other. -/
def HardwareStatus.Truthful (s : HardwareStatus) : Prop :=
  s.simulationMode = true ↔ s.connectionState = .simulation

/-- What a transmission that returns `True` leaves is as safe as what it found. -/
structure KeepsSafe (s s' : HardwareStatus) : Prop where
  truthful : s.Truthful → s'.Truthful
  safe : hardwareIsSafeToRun s = true → hardwareIsSafeToRun s' = true

theorem keepsSafe_of_eq {s s' : HardwareStatus} (hmode : s'.simulationMode = s.simulationMode)
    (hstate : s'.connectionState = s.connectionState) : KeepsSafe s s' where
  truthful h := by unfold HardwareStatus.Truthful; rw [hmode, hstate]; exact h
  safe h := by unfold hardwareIsSafeToRun; rw [hstate]; exact h

theorem truthful_of_requested {s : HardwareStatus} (hmode : s.simulationMode = false)
    (hstate : s.connectionState ≠ .simulation) : s.Truthful := by
  refine iff_of_false (fun h => ?_) hstate
  rw [hmode] at h
  cases h

theorem safe_of_connected {s : HardwareStatus} (h : s.connectionState = .connected) :
    hardwareIsSafeToRun s = true := by
  unfold hardwareIsSafeToRun
  rw [h]
  rfl

/-! ## The interface -/

theorem connect_truthful (e : ESP32Interface) (port : Option String) (opening : SerialOpening)
    (hmode : e.status.simulationMode = false) : (e.connect port opening).status.Truthful := by
  have hcase : (e.connect port opening).status.simulationMode = false
      ∧ (e.connect port opening).status.connectionState ≠ .simulation := by
    unfold ESP32Interface.connect
    by_cases hmissing : opening = .unavailable ∨ port.getD "" = ""
    · rw [if_pos hmissing]
      exact ⟨hmode, by simp⟩
    · rw [if_neg hmissing]
      cases opening with
      | unavailable => exact ⟨hmode, by simp⟩
      | raises hasConn error => exact ⟨rfl, by simp⟩
      | opened isOpen =>
          cases isOpen with
          | true => exact ⟨rfl, by simp⟩
          | false => exact ⟨hmode, by simp⟩
  exact truthful_of_requested hcase.1 hcase.2

/-- A new interface is truthful, whatever the port does. -/
theorem create_truthful (port : Option String) (baudrate : Nat) (simulationMode : Bool)
    (opening : SerialOpening) :
    (ESP32Interface.create port baudrate simulationMode opening).status.Truthful := by
  unfold ESP32Interface.create
  cases simulationMode with
  | true => exact iff_of_true rfl rfl
  | false => exact connect_truthful _ port opening rfl

/--
**What `send_command` does to the output.** A command is taken unacknowledged, in
simulation or on an open port that answers nothing, and changes neither field; or it is
acknowledged, and the output is connected; or it is lost, and the output is not.
-/
theorem sendCommand_cases (e : ESP32Interface) (cmd : HardwareCommand) (reply : SerialReply) :
    let sent := (e.sendCommand cmd reply).1
    let status := (e.sendCommand cmd reply).2.status
    let unacknowledged := e.status.simulationMode = true
      ∨ (e.hasSerialConn = true ∧ reply.isOpen = true ∧ reply.transmit.toOption = some "")
    status.simulationMode = e.status.simulationMode
      ∧ (unacknowledged ∧ sent = true ∧ status.connected = e.status.connected
          ∧ status.connectionState = e.status.connectionState
        ∨ ¬unacknowledged ∧ sent = true ∧ status.connected = true
          ∧ status.connectionState = .connected
        ∨ ¬unacknowledged ∧ sent = false ∧ status.connected = false
          ∧ (status.connectionState = .error ∨ status.connectionState = .disconnected)) := by
  intro sent status unacknowledged
  cases hsim : e.status.simulationMode with
  | true =>
      have hsend : e.sendCommand cmd reply = (true, { e with
          status.totalCommandsSent := e.status.totalCommandsSent + 1 }) := if_pos hsim
      simp [sent, status, unacknowledged, hsend, hsim]
  | false =>
      by_cases hopen : e.hasSerialConn = true ∧ reply.isOpen = true
      · -- the port is open, and the acknowledgement decides
        cases htransmit : reply.transmit with
        | error text =>
            simp [sent, status, unacknowledged, ESP32Interface.sendCommand,
              HardwareStatus.afterTransmit, hsim, hopen, htransmit, Except.toOption]
        | ok ack =>
            by_cases hack : ack = "" <;>
              simp [sent, status, unacknowledged, ESP32Interface.sendCommand,
                HardwareStatus.afterTransmit, hsim, hopen, htransmit, hack, Except.toOption]
      · -- without an open port nothing is sent
        have hsend : e.sendCommand cmd reply = (false, { e with status :=
            { e.status with
              totalCommandsSent := e.status.totalCommandsSent + 1 }.afterReject }) := by
          unfold ESP32Interface.sendCommand
          dsimp only
          rw [if_neg (by simp [hsim]), if_neg (by simpa using hopen)]
        have hnot : ¬unacknowledged := by
          rintro (h | ⟨hconn, hport, -⟩)
          · rw [hsim] at h
            cases h
          · exact hopen ⟨hconn, hport⟩
        refine ⟨by simp [status, hsend, HardwareStatus.afterReject, hsim],
          Or.inr (Or.inr ⟨hnot, by simp [sent, hsend],
            by simp [status, hsend, HardwareStatus.afterReject], ?_⟩)⟩
        simp only [status, hsend, HardwareStatus.afterReject]
        split_ifs <;> simp

theorem sendCommand_truthful {e : ESP32Interface} (h : e.status.Truthful) (cmd : HardwareCommand)
    (reply : SerialReply) : (e.sendCommand cmd reply).2.status.Truthful := by
  obtain ⟨hmode, ⟨-, -, -, hstate⟩ | ⟨hack, -, -, hstate⟩ | ⟨hack, -, -, hstate⟩⟩ :=
    sendCommand_cases e cmd reply
  · exact (keepsSafe_of_eq hmode hstate).truthful h
  · rw [not_or, Bool.not_eq_true] at hack
    exact truthful_of_requested (hmode.trans hack.1) (by rw [hstate]; simp)
  · rw [not_or, Bool.not_eq_true] at hack
    refine truthful_of_requested (hmode.trans hack.1) fun hsim => ?_
    rw [hsim] at hstate
    simp at hstate

/-- A transmission that succeeds does not make a safe output unsafe. -/
theorem sendCommand_safe {e : ESP32Interface} {cmd : HardwareCommand} {reply : SerialReply}
    (hsent : (e.sendCommand cmd reply).1 = true) (hsafe : hardwareIsSafeToRun e.status = true) :
    hardwareIsSafeToRun (e.sendCommand cmd reply).2.status = true := by
  obtain ⟨hmode, ⟨-, -, -, hstate⟩ | ⟨-, -, -, hstate⟩ | ⟨-, hlost, -⟩⟩ :=
    sendCommand_cases e cmd reply
  · exact (keepsSafe_of_eq hmode hstate).safe hsafe
  · exact safe_of_connected hstate
  · rw [hlost] at hsent
    cases hsent

/-! ## Results -/

/-- The running flag and the status after an operation on the manager. -/
structure Guarded (running : Bool) (e : ESP32Interface) (running' : Bool) (e' : ESP32Interface) :
    Prop where
  truthful : e.status.Truthful → e'.status.Truthful
  /-- The flag is not raised, and where it stays the output stays safe. -/
  stays : running' = true → running = true
    ∧ (hardwareIsSafeToRun e.status = true → hardwareIsSafeToRun e'.status = true)

theorem guarded_refl (running : Bool) (e : ESP32Interface) : Guarded running e running e :=
  ⟨id, fun h => ⟨h, id⟩⟩

theorem processResult_guarded (running : Bool) (e : ESP32Interface) (result : PipelineResult)
    (reply : SerialReply) :
    Guarded running e (processResult running e result reply).systemRunning
      (processResult running e result reply).esp32 := by
  unfold processResult
  split_ifs with hphase
  · cases result.hardwareCommand with
    | none => exact guarded_refl running e
    | some cmd =>
        dsimp only
        split_ifs with hsent
        · exact ⟨fun h => sendCommand_truthful h cmd reply,
            fun h => ⟨h, fun hsafe => sendCommand_safe hsent hsafe⟩⟩
        · exact ⟨fun h => sendCommand_truthful h cmd reply, fun h => by cases h⟩
  · exact guarded_refl running e

/-- **`process_result` guards the flag**, however it ends. -/
theorem callProcessResult_guarded (running : Bool) (e : ESP32Interface) (result : PipelineResult)
    (t : Transmission) :
    Guarded running e (callProcessResult running e result t).systemRunning
      (callProcessResult running e result t).esp32 := by
  unfold callProcessResult
  cases t with
  | runs reply => exact processResult_guarded running e result reply
  | renderRaises reply => exact processResult_guarded running e result reply
  | logRaises => exact guarded_refl running e
  | portRaises =>
      dsimp only
      split_ifs
      · exact guarded_refl running e
      · exact ⟨id, fun h => ⟨h, id⟩⟩

/-! ## Operations -/

/-- The status of every control manager is truthful, and a system that runs has a safe one. -/
structure OutputInvariant (s : SignalOutput) : Prop where
  truthful : ∀ e, s.controlManager = some e → e.status.Truthful
  safe : ∀ e, s.controlManager = some e → s.systemRunning = true →
    hardwareIsSafeToRun e.status = true

namespace SignalOutput

/-- The invariant does not look at the pipeline, and a lower flag keeps it. -/
theorem invariant_of_lower {s s' : SignalOutput} (h : OutputInvariant s)
    (hmanager : s'.controlManager = s.controlManager)
    (hrunning : s'.systemRunning = true → s.systemRunning = true) : OutputInvariant s' where
  truthful e he := h.truthful e (hmanager ▸ he)
  safe e he hr := h.safe e (hmanager ▸ he) (hrunning hr)

theorem invariant_of_guarded {s s' : SignalOutput} {e e' : ESP32Interface} (h : OutputInvariant s)
    (he : s.controlManager = some e) (he' : s'.controlManager = some e')
    (hguard : Guarded s.systemRunning e s'.systemRunning e') : OutputInvariant s' where
  truthful x hx := by
    obtain rfl := Option.some.inj (he'.symm.trans hx)
    exact hguard.truthful (h.truthful e he)
  safe x hx hr := by
    obtain rfl := Option.some.inj (he'.symm.trans hx)
    obtain ⟨hbefore, hsafe⟩ := hguard.stays hr
    exact hsafe (h.safe e he hbefore)

theorem initialize_invariant (s : SignalOutput) (profile : DeploymentProfile)
    (opening : SerialOpening) : OutputInvariant (s.initializeControlManager profile opening) where
  truthful e he := by
    obtain rfl := Option.some.inj he
    exact create_truthful _ _ _ opening
  safe e he hr := by
    obtain rfl := Option.some.inj he
    unfold initializeControlManager at hr
    dsimp only at hr
    split_ifs at hr with hsafe
    exact hsafe

theorem handleCommand_invariant {s : SignalOutput} (h : OutputInvariant s) (c : OperatorCommand) :
    OutputInvariant (s.handleCommand c).1 := by
  unfold handleCommand
  cases href : s.refusedBy c with
  | some status => exact invariant_of_lower h rfl fun hr => by cases hr
  | none =>
      refine ⟨fun e he => h.truthful e he, fun e he hr => ?_⟩
      -- a START or RESTART that goes through has seen a safe status
      by_contra hunsafe
      have hc : c ≠ .stop := by simpa using hr
      have he' : s.controlManager = some e := he
      unfold refusedBy at href
      rw [he'] at href
      dsimp only at href
      rw [if_pos ⟨hc, by simpa using hunsafe⟩] at href
      cases href

theorem processResult_invariant {s : SignalOutput} (h : OutputInvariant s)
    (result : PipelineResult) (t : Transmission) : OutputInvariant (s.processResult result t) := by
  unfold processResult
  cases he : s.controlManager with
  | none => exact h
  | some e =>
      exact invariant_of_guarded h he rfl (callProcessResult_guarded s.systemRunning e result t)

theorem iterationFails_invariant {s : SignalOutput} (h : OutputInvariant s) :
    OutputInvariant s.iterationFails := by
  unfold iterationFails
  cases he : s.controlManager with
  | none => exact h
  | some e =>
      refine invariant_of_lower h he.symm fun hr => ?_
      dsimp only at hr
      split_ifs at hr
      exact hr

theorem schedule_invariant {s : SignalOutput} (h : OutputInvariant s) (i : Iteration) :
    OutputInvariant (s.schedule i).1 := by
  unfold schedule
  split_ifs
  · cases i.step with
    | error world => exact invariant_of_lower h rfl id
    | ok input =>
        cases he : s.controlManager with
        | none => exact invariant_of_lower h he.symm id
        | some e =>
            exact invariant_of_guarded h he rfl
              (callProcessResult_guarded s.systemRunning e _ i.transmission)
  · exact h

theorem runIteration_invariant {s : SignalOutput} (h : OutputInvariant s) (i : Iteration) :
    OutputInvariant (s.runIteration i) := by
  have hschedule := schedule_invariant h i
  unfold runIteration
  dsimp only
  split_ifs
  · exact iterationFails_invariant h
  · exact iterationFails_invariant hschedule
  · exact hschedule

/-- **Every operation keeps the invariant.** -/
theorem step_invariant (s : SignalOutput) (op : Operation) (h : OutputInvariant s) :
    OutputInvariant (s.step op).1 := by
  cases op with
  | initializeControlManager profile opening => exact initialize_invariant s profile opening
  | command c => exact handleCommand_invariant h c
  | processResult result t => exact processResult_invariant h result t
  | processElsewhere e result t =>
      exact invariant_of_lower h rfl fun hr =>
        ((callProcessResult_guarded s.systemRunning e result t).stays hr).1
  | iteration i => exact runIteration_invariant h i
  | pipeline world => exact invariant_of_lower h rfl id

end SignalOutput

namespace Proof

/-- A system that runs has a safe output, and one whose hardware is not there is paused. -/
structure SafeOutput (s : SignalOutput) : Prop where
  safe : ∀ e, s.controlManager = some e → s.systemRunning = true →
    hardwareIsSafeToRun e.status = true
  /-- An ESP32 that was requested keeps the system paused until it is CONNECTED. -/
  paused : ∀ e, s.controlManager = some e → e.status.simulationMode = false →
    e.status.connectionState ≠ .connected → s.systemRunning = false

/-- **Running implies a safe output**, after any operations from the state at startup. -/
theorem running_implies_safe (ops : List Operation) :
    SafeOutput (final SignalOutput.step {} ops) := by
  have hstart : OutputInvariant {} := ⟨fun e he => (by cases he), fun e he => (by cases he)⟩
  have h := final_invariant_of_step SignalOutput.step_invariant hstart ops
  refine ⟨h.safe, fun e he hmode hstate => ?_⟩
  by_contra hrun
  have hsafe := h.safe e he (by simpa using hrun)
  unfold hardwareIsSafeToRun at hsafe
  simp only [Bool.or_eq_true, decide_eq_true_eq] at hsafe
  rcases hsafe with hsim | hconn
  · -- a truthful status is not that of a simulation
    rw [(h.truthful e he).mpr hsim] at hmode
    cases hmode
  · exact hstate hconn

end Proof

end SmartTraffic
