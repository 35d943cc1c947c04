import SmartTraffic.Control.Esp32

/-!
# The life of the serial connection

The rest of `ESP32Interface`: the constructor, `connect`, `reconnect` and `close`. As
for a transmission, what the port does is an input of each call: whether it opens,
whether it is open once opened, and whether closing it raises.
-/

namespace SmartTraffic

/-- What `connect` meets. -/
inductive SerialOpening
  /-- PySerial could not be imported. -/
  | unavailable
  | opened (isOpen : Bool)
  /-- Opening the port raises, or looking at it once it is open. -/
  | raises (hasConn : Bool) (error : String)
  deriving DecidableEq, Repr

/-- `connect` of an interface that is not simulated. -/
def ESP32Interface.connect (e : ESP32Interface) (port : Option String) (opening : SerialOpening) :
    ESP32Interface :=
  let status := { e.status with connectionState := .connecting, lastError := none }
  if opening = .unavailable ∨ port.getD "" = "" then
    { e with
      status := { status with
        connected := false
        connectionState := .error
        lastError := some (if opening = .unavailable then "PySerial is unavailable"
          else "ESP32 serial port is not configured") } }
  else
    match opening with
    | .unavailable => { e with status := status }
    | .opened true =>
        { hasSerialConn := true
          status := { status with
            connected := true, simulationMode := false, connectionState := .connected
            lastError := none } }
    -- a port that is not open afterwards leaves the interface CONNECTING
    | .opened false => { hasSerialConn := true, status := status }
    | .raises hasConn error =>
        { hasSerialConn := hasConn
          status := { status with
            connected := false, simulationMode := false, connectionState := .error
            lastError := some error } }

/-- `ESP32Interface(port, baudrate, simulation_mode)`. -/
def ESP32Interface.create (port : Option String) (baudrate : Nat) (simulationMode : Bool)
    (opening : SerialOpening) : ESP32Interface :=
  let interface : ESP32Interface :=
    { status :=
        { connected := false
          simulationMode := simulationMode
          port := if port.getD "" = "" then "SIMULATION" else port.getD ""
          baudrate := baudrate
          connectionState := if simulationMode then .simulation else .disconnected } }
  if simulationMode then interface else interface.connect port opening

/-- The arguments of the constructor, which later calls read again. -/
structure ESP32Config where
  port : Option String := none
  baudrate : Nat := 115200
  simulationMode : Bool := true
  deriving DecidableEq, Repr

/-- Where opening the port raises, `serial_conn` keeps what it held. -/
def SerialOpening.keeping (e : ESP32Interface) : SerialOpening → SerialOpening
  | .raises hasConn error => .raises (hasConn || e.hasSerialConn) error
  | opening => opening

namespace ESP32Config

/-- `ESP32Interface(..)`. -/
def build (cfg : ESP32Config) (opening : SerialOpening) : ESP32Interface :=
  ESP32Interface.create cfg.port cfg.baudrate cfg.simulationMode opening

/-- `connect`, and its result. -/
def connect (cfg : ESP32Config) (e : ESP32Interface) (opening : SerialOpening) :
    ESP32Interface × Bool :=
  if cfg.simulationMode then
    ({ e with status := { e.status with connectionState := .simulation } }, false)
  else (e.connect cfg.port (opening.keeping e), opening = .opened true && cfg.port.getD "" ≠ "")

end ESP32Config

namespace ESP32Interface

/-- What `reconnect` and `close` do first. An exception of the port's own `close` is logged. -/
def dropConnection (e : ESP32Interface) : ESP32Interface :=
  { hasSerialConn := false, status := { e.status with connected := false } }

/-- `close`. -/
def close (e : ESP32Interface) : ESP32Interface :=
  { e.dropConnection with
    status := { e.dropConnection.status with connectionState := .disconnected } }

end ESP32Interface

/-- `reconnect`, and its result. -/
def ESP32Config.reconnect (cfg : ESP32Config) (e : ESP32Interface) (opening : SerialOpening) :
    ESP32Interface × Bool := cfg.connect e.dropConnection opening

/-- A call on the interface, with what the port does during it. -/
inductive SerialCall
  | connect (opening : SerialOpening)
  | reconnect (closing : Except String Unit) (opening : SerialOpening)
  | sendCommand (cmd : HardwareCommand) (reply : SerialReply)
  | close (closing : Except String Unit)

/-- One call, and what it returns; `close` returns nothing. -/
def ESP32Config.call (cfg : ESP32Config) (e : ESP32Interface) :
    SerialCall → ESP32Interface × Option Bool
  | .connect opening => ((cfg.connect e opening).1, some (cfg.connect e opening).2)
  | .reconnect _ opening => ((cfg.reconnect e opening).1, some (cfg.reconnect e opening).2)
  | .sendCommand cmd reply => ((e.sendCommand cmd reply).2, some (e.sendCommand cmd reply).1)
  | .close _ => (e.close, none)

end SmartTraffic
