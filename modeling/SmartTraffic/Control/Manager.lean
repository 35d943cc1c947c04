import SmartTraffic.Control.Esp32
import SmartTraffic.Pipeline.Step

/-!
# The control manager

`ControlManager.process_result`: a result that carries a new phase is sent to the
controller as a command. A transmission that fails stops the system and turns
the result's signal state to all red. Logging and the dashboard are left out.

`ControlledPipeline` is the pipeline with its control manager, and remembers the
last command passed to `send_command`. The controller itself executes a command
as its packet reads: green, then yellow, then red.
-/

namespace SmartTraffic

open Lib

/-- The command of a result that carries a new phase. -/
def PipelineResult.command (r : PipelineResult) : Option HardwareCommand :=
  if r.hasFrame && r.isPhaseChange && r.signalDecision.isSome then r.hardwareCommand else none

/-- What `process_result` leaves behind. -/
structure Processed where
  result : PipelineResult
  systemRunning : Bool
  esp32 : ESP32Interface
  /-- The command passed to `send_command`, if any. -/
  sent : Option HardwareCommand

def processResult (systemRunning : Bool) (esp32 : ESP32Interface) (result : PipelineResult)
    (reply : SerialReply) : Processed :=
  if result.hasFrame && result.isPhaseChange && result.signalDecision.isSome then
    match result.hardwareCommand with
    | none => { result := result, systemRunning := systemRunning, esp32 := esp32, sent := none }
    | some cmd =>
        let (transmitted, esp32') := esp32.sendCommand cmd reply
        if transmitted then
          { result := result, systemRunning := systemRunning, esp32 := esp32', sent := some cmd }
        else
          { result := { result with signalState := .allRed }, systemRunning := false,
            esp32 := esp32', sent := some cmd }
  else { result := result, systemRunning := systemRunning, esp32 := esp32, sent := none }

/-- The packet fields the controller acts on: green `g` seconds, then yellow `y` seconds. -/
def HardwareCommand.lampAt (cmd : HardwareCommand) (elapsed : Rat) : SignalState :=
  if elapsed < cmd.greenDurationSec then .green
  else if elapsed < (cmd.greenDurationSec + cmd.yellowDurationSec : Int) then .yellow
  else .allRed

/-- The pipeline and the control layer it feeds. -/
structure ControlledPipeline where
  world : PipelineWorld := {}
  systemRunning : Bool := true
  esp32 : ESP32Interface := {}
  /-- The last command passed to `send_command`. -/
  lastSent : Option HardwareCommand := none

/-- `process_step` followed by `process_result` on its result. -/
def ControlledPipeline.step (s : ControlledPipeline) (i : StepInput × SerialReply) :
    ControlledPipeline × PipelineResult :=
  let (world, result) := s.world.processStep i.1
  let p := processResult s.systemRunning s.esp32 result i.2
  ({ world := world, systemRunning := p.systemRunning, esp32 := p.esp32,
     lastSent := p.sent.or s.lastSent },
   p.result)

/-! ## What is sent -/

/-- Only a new phase has a command to send. -/
theorem command_of_no_phaseChange {r : PipelineResult} (h : r.isPhaseChange = false) :
    r.command = none := by
  unfold PipelineResult.command
  rw [h, Bool.and_false, Bool.false_and]
  rfl

/-- **A result with a new phase and its command is sent; no other is.** -/
theorem processResult_sent (running : Bool) (esp32 : ESP32Interface) (result : PipelineResult)
    (reply : SerialReply) : (processResult running esp32 result reply).sent = result.command := by
  unfold processResult PipelineResult.command
  by_cases h : (result.hasFrame && result.isPhaseChange && result.signalDecision.isSome) = true
  · rw [if_pos h, if_pos h]
    cases result.hardwareCommand with
    | none => rfl
    | some cmd =>
        dsimp only
        split_ifs <;> rfl
  · rw [if_neg h, if_neg h]

/-- Processing a result never starts a system that is not running. -/
theorem processResult_running {running : Bool} {esp32 : ESP32Interface} {result : PipelineResult}
    {reply : SerialReply} (h : (processResult running esp32 result reply).systemRunning = true) :
    running = true := by
  unfold processResult at h
  split_ifs at h with hc
  · cases hcmd : result.hardwareCommand with
    | none => rw [hcmd] at h; exact h
    | some cmd =>
        rw [hcmd] at h
        dsimp only at h
        split_ifs at h
        exact h
  · exact h

/-- A transmission that fails leaves the system stopped. -/
theorem processResult_stops {running : Bool} {esp32 : ESP32Interface} {result : PipelineResult}
    {reply : SerialReply} {cmd : HardwareCommand} (hcmd : result.command = some cmd)
    (hfail : (esp32.sendCommand cmd reply).1 = false) :
    (processResult running esp32 result reply).systemRunning = false := by
  unfold PipelineResult.command at hcmd
  split_ifs at hcmd with hc
  unfold processResult
  rw [if_pos hc, hcmd]
  dsimp only
  rw [hfail]
  rfl

/-- A result with nothing to send is left as it is. -/
theorem processResult_unsent {running : Bool} {esp32 : ESP32Interface} {result : PipelineResult}
    {reply : SerialReply} (hcmd : result.command = none) :
    (processResult running esp32 result reply).result = result := by
  unfold PipelineResult.command at hcmd
  unfold processResult
  split_ifs at hcmd with hc
  · rw [if_pos hc, hcmd]
  · rw [if_neg hc]

/-- A transmission that succeeds leaves the result as it is, one that fails turns it all red. -/
theorem processResult_signalState {running : Bool} {esp32 : ESP32Interface}
    {result : PipelineResult} {reply : SerialReply} {cmd : HardwareCommand}
    (hcmd : result.command = some cmd) :
    (processResult running esp32 result reply).result.signalState
      = if (esp32.sendCommand cmd reply).1 then result.signalState else .allRed := by
  unfold PipelineResult.command at hcmd
  split_ifs at hcmd with hc
  unfold processResult
  rw [if_pos hc, hcmd]
  dsimp only
  split_ifs <;> rfl

@[simp] theorem step_world (s : ControlledPipeline) (i : StepInput × SerialReply) :
    (s.step i).1.world = (s.world.processStep i.1).1 := rfl

theorem step_lastSent (s : ControlledPipeline) (i : StepInput × SerialReply) :
    (s.step i).1.lastSent
      = (processResult s.systemRunning s.esp32 (s.world.processStep i.1).2 i.2).sent.or
          s.lastSent := rfl

end SmartTraffic
