import SmartTraffic.Signal.Types

/-!
# The ESP32 interface

`ESP32Interface.send_command` and `hardware_is_safe_to_run`. What the serial
port does during a transmission is an input: whether it is open, and whether the
write, the flush and the read of the acknowledgement raise.
-/

namespace SmartTraffic

inductive HardwareConnectionState
  | simulation
  | connecting
  | connected
  | disconnected
  | error
  deriving DecidableEq, Repr

structure HardwareStatus where
  connected : Bool := false
  simulationMode : Bool := true
  port : String := "SIMULATION"
  baudrate : Nat := 115200
  connectionState : HardwareConnectionState := .simulation
  lastAckTime : Option Rat := none
  lastAck : Option String := none
  lastError : Option String := none
  totalCommandsSent : Nat := 0
  deriving DecidableEq, Repr

/-- `ESP32Interface`. Of the serial connection only its presence is kept. -/
structure ESP32Interface where
  hasSerialConn : Bool := false
  status : HardwareStatus := {}
  deriving DecidableEq, Repr

/-- What the serial port does during one transmission. -/
structure SerialReply where
  isOpen : Bool := true
  /-- The acknowledgement read back, possibly empty, or the text of what was raised. -/
  transmit : Except String String := .ok ""
  /-- `time.time()`. -/
  now : Rat := 0

def hardwareIsSafeToRun (s : HardwareStatus) : Bool :=
  s.connectionState = .simulation || s.connectionState = .connected

/-- The status after a transmission on an open port. -/
def HardwareStatus.afterTransmit (s : HardwareStatus) (reply : SerialReply) : HardwareStatus :=
  match reply.transmit with
  | .ok ack =>
      if ack = "" then s
      else { s with lastAckTime := some reply.now, lastAck := some ack, connected := true,
                    connectionState := .connected }
  | .error e => { s with lastError := some e, connected := false, connectionState := .error }

/-- The status after a command was rejected for want of an open port. -/
def HardwareStatus.afterReject (s : HardwareStatus) : HardwareStatus :=
  { s with
    connected := false
    connectionState := if s.connectionState = .error then .error else .disconnected
    lastError :=
      match s.lastError with
      | some e => if e = "" then some "ESP32 serial connection is unavailable" else some e
      | none => some "ESP32 serial connection is unavailable" }

/-- `send_command`, for its result and its status; the packet goes to the port. -/
def ESP32Interface.sendCommand (e : ESP32Interface) (_cmd : HardwareCommand) (reply : SerialReply) :
    Bool × ESP32Interface :=
  let counted := { e.status with totalCommandsSent := e.status.totalCommandsSent + 1 }
  if counted.simulationMode then (true, { e with status := counted })
  else if e.hasSerialConn && reply.isOpen then
    match reply.transmit with
    | .ok _ => (true, { e with status := counted.afterTransmit reply })
    | .error _ => (false, { e with status := counted.afterTransmit reply })
  else (false, { e with status := counted.afterReject })

end SmartTraffic
