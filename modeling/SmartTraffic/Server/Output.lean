import SmartTraffic.Control.Manager
import SmartTraffic.Control.Serial
import SmartTraffic.Server.Command

/-!
# The signal output and the running flag

The state that the control manager, the operator and the ticker share when each
of their operations is one step: whether the system runs, the control manager,
and the pipeline. What the serial port does is an input of every operation that
touches it, and so is whether something else in the operation raises.

The rest of the server may leave the pipeline in any state (`Operation.pipeline`).
-/

namespace SmartTraffic

open Lib

/-- The value of a connection state. -/
def HardwareConnectionState.value : HardwareConnectionState → String
  | .simulation => "SIMULATION"
  | .connecting => "CONNECTING"
  | .connected => "CONNECTED"
  | .disconnected => "DISCONNECTED"
  | .error => "ERROR"

/-- The fields of a `DeploymentProfile` that concern the output. -/
structure DeploymentProfile where
  hardwareMode : String := "simulation"
  serialPort : Option String := none
  serialBaudrate : Nat := 115200
  deriving DecidableEq, Repr

/-! ## Results -/

/-- What happens in a call of `process_result`. -/
inductive Transmission
  | runs (reply : SerialReply)
  /-- Logging the decision or encoding the command raises. -/
  | logRaises
  /-- Asking the port whether it is open raises, outside the `try`. -/
  | portRaises
  /-- Rendering the dashboard raises, when all else is done. -/
  | renderRaises (reply : SerialReply)

/-- What a call of `process_result` leaves behind. -/
structure ResultCall where
  systemRunning : Bool
  esp32 : ESP32Interface
  raised : Bool

/-- `ControlManager.process_result` on a manager with this interface. -/
def callProcessResult (systemRunning : Bool) (esp32 : ESP32Interface) (result : PipelineResult)
    (t : Transmission) : ResultCall :=
  let untouched (raised : Bool) : ResultCall := ⟨systemRunning, esp32, raised⟩
  match t with
  | .runs reply =>
      let p := processResult systemRunning esp32 result reply
      ⟨p.systemRunning, p.esp32, false⟩
  | .renderRaises reply =>
      let p := processResult systemRunning esp32 result reply
      ⟨p.systemRunning, p.esp32, true⟩
  | .logRaises => untouched result.command.isSome
  | .portRaises =>
      if result.command.isNone || esp32.status.simulationMode || !esp32.hasSerialConn then
        untouched false
      else
        -- the command is counted by then
        ⟨systemRunning,
          { esp32 with
            status := { esp32.status with
              totalCommandsSent := esp32.status.totalCommandsSent + 1 } },
          true⟩

/-! ## The operations -/

/-- What the operations share. -/
structure SignalOutput where
  systemRunning : Bool := true
  /-- The interface of `ctx.control_manager`, if there is one. -/
  controlManager : Option ESP32Interface := none
  world : PipelineWorld := {}

/-- What happens in one iteration of the ticker. -/
structure Iteration where
  /-- Expiring the sessions raises. -/
  expiryRaises : Bool := false
  /-- What `process_step` reads, or the pipeline it leaves when it raises. -/
  step : Except PipelineWorld StepInput
  transmission : Transmission := .runs {}
  /-- Building or publishing the snapshot raises. -/
  publishRaises : Bool := false

inductive Operation
  /-- `initialize_control_manager`. -/
  | initializeControlManager (profile : DeploymentProfile) (opening : SerialOpening)
  /-- `handle_command` with START, STOP or RESTART. -/
  | command (c : OperatorCommand)
  /-- `process_result` of the present control manager. -/
  | processResult (result : PipelineResult) (t : Transmission)
  /-- `process_result` of a control manager that is not the present one. -/
  | processElsewhere (esp32 : ESP32Interface) (result : PipelineResult) (t : Transmission)
  /-- `run_runtime_iteration`. -/
  | iteration (i : Iteration)
  /-- Something else leaves the pipeline in this state. -/
  | pipeline (world : PipelineWorld)

namespace SignalOutput

def initializeControlManager (s : SignalOutput) (profile : DeploymentProfile)
    (opening : SerialOpening) : SignalOutput :=
  let control := ESP32Interface.create profile.serialPort profile.serialBaudrate
    (profile.hardwareMode = "simulation") opening
  { s with
    controlManager := some control
    systemRunning := if hardwareIsSafeToRun control.status then s.systemRunning else false }

/-- The text of the error with which `handle_command` turns a command down. -/
def refusal (status : HardwareStatus) : String :=
  s!"Cannot start while requested ESP32 hardware is {status.connectionState.value}: "
    ++ (if status.lastError.getD "" = "" then "serial connection unavailable"
      else status.lastError.getD "")

/-- The status that speaks against a START or RESTART. -/
def refusedBy (s : SignalOutput) (c : OperatorCommand) : Option HardwareStatus :=
  match s.controlManager with
  | some esp32 =>
      if c ≠ .stop ∧ hardwareIsSafeToRun esp32.status = false then some esp32.status else none
  | none => none

def handleCommand (s : SignalOutput) (c : OperatorCommand) : SignalOutput × Option String :=
  match s.refusedBy c with
  | some status => ({ s with systemRunning := false }, some (refusal status))
  | none => ({ s with systemRunning := c ≠ .stop, world := s.world.command c }, none)

/-- `process_result` of the present manager. -/
def processResult (s : SignalOutput) (result : PipelineResult) (t : Transmission) : SignalOutput :=
  match s.controlManager with
  | none => s
  | some esp32 =>
      let call := callProcessResult s.systemRunning esp32 result t
      { s with systemRunning := call.systemRunning, controlManager := some call.esp32 }

/-- The handler of what an iteration raises. -/
def iterationFails (s : SignalOutput) : SignalOutput :=
  match s.controlManager with
  | none => s
  | some esp32 =>
      { s with
        systemRunning := if hardwareIsSafeToRun esp32.status then s.systemRunning else false }

/-- The scheduler part of an iteration, and whether it raises. -/
def schedule (s : SignalOutput) (i : Iteration) : SignalOutput × Bool :=
  if s.systemRunning && s.world.pipeline.activeDecision.isSome then
    match i.step with
    | .error world => ({ s with world := world }, true)
    | .ok input =>
        let (world, result) := s.world.processStep { input with frames := ∅ }
        match s.controlManager with
        -- `None` has no `process_result`
        | none => ({ s with world := world }, true)
        | some esp32 =>
            let call := callProcessResult s.systemRunning esp32 result i.transmission
            ({ systemRunning := call.systemRunning, controlManager := some call.esp32,
               world := world }, call.raised)
  else (s, false)

/-- `run_runtime_iteration`, from the sessions on. -/
def runIteration (s : SignalOutput) (i : Iteration) : SignalOutput :=
  if i.expiryRaises then s.iterationFails
  else
    let (s, raised) := s.schedule i
    if raised || i.publishRaises then s.iterationFails else s

/-- One operation, and the error it answers an operator with. -/
def step (s : SignalOutput) : Operation → SignalOutput × Option String
  | .initializeControlManager profile opening => (s.initializeControlManager profile opening, none)
  | .command c => s.handleCommand c
  | .processResult result t => (s.processResult result t, none)
  | .processElsewhere esp32 result t =>
      ({ s with systemRunning := (callProcessResult s.systemRunning esp32 result t).systemRunning },
       none)
  | .iteration i => (s.runIteration i, none)
  | .pipeline world => ({ s with world := world }, none)

end SignalOutput

end SmartTraffic
