import SmartTraffic.Lib.Json

/-!
# The connection of the dashboard

`TelemetryProvider` runs an effect that opens a socket, opens another one some time after a
socket has closed, and is cleaned up and run again when the user asks for it. The handlers
of a socket and of a timer keep the variables of the run of the effect that made them, also
when that run has been cleaned up. What a provider displays is kept from one run to the
next, but a provider that is mounted again starts from nothing.

The browser delivers its events one at a time. A connection that fails is closed first, and
its error is reported before its end.
-/

namespace SmartTraffic

open Lib

namespace Web

/-- The `readyState` of a socket. -/
inductive ReadyState
  | connecting
  | opened
  | closing
  | closed
  deriving DecidableEq, Repr

/-- A socket, the run of the effect that its handlers belong to, and whether `onclose` is set. -/
structure TelemetrySocket where
  run : Nat
  readyState : ReadyState := .connecting
  onclose : Bool := true

/-- A call that `setTimeout` has scheduled, for a run of the effect. Times are in milliseconds. -/
structure RetryTimer where
  run : Nat
  delay : Nat

/-- The variables of a run of the effect. -/
structure EffectRun where
  active : Bool := true
  attempts : Nat := 0
  socket : Option Nat := none
  timer : Option Nat := none
  /-- `retryConnection` has asked for the run; no handler looks at it. -/
  manual : Bool := false

/-- The state of the provider, of its runs, and of the browser. -/
structure TelemetryProvider where
  runs : Nat → EffectRun := fun _ => {}
  runCount : Nat := 0
  /-- The run that has not been cleaned up. -/
  current : Option Nat := none
  sockets : Nat → Option TelemetrySocket := fun _ => none
  socketCount : Nat := 0
  /-- The calls still to come. -/
  timers : Nat → Option RetryTimer := fun _ => none
  timerCount : Nat := 0
  telemetry : Option Json := none
  isConnected : Bool := false
  lastUpdated : Option Rat := none
  reconnectCount : Nat := 0
  isConnectionFailed : Bool := false

/-- `value?.key`; a value that is not an object has no such field. -/
def optionalField (value : Json) (key : String) : Json :=
  (value.toDict.map fun d => d.getJson key).getD .null

/-- The payload of a message, if it is taken over. -/
def acceptedPayload (msg : Json) : Option Json :=
  match optionalField msg "payload" with
  | .obj fields =>
      match optionalField (.obj fields) "lanes" with
      | .obj _ | .arr _ => some (.obj fields)
      | _ => none
  | _ => none

/-- The time until the next attempt. -/
def retryDelay (attempts : Nat) : Nat := min (1000 * 2 ^ min attempts 5) 30000

/-- `close()`. -/
def TelemetrySocket.close (k : TelemetrySocket) : TelemetrySocket :=
  match k.readyState with
  | .connecting | .opened => { k with readyState := .closing }
  | _ => k

namespace TelemetryProvider

def setRun (s : TelemetryProvider) (e : Nat) (run : EffectRun) : TelemetryProvider :=
  { s with runs := Function.update s.runs e run }

def setSocket (s : TelemetryProvider) (i : Nat) (k : TelemetrySocket) : TelemetryProvider :=
  { s with sockets := Function.update s.sockets i (some k) }

/-- `clearTimeout`, or the end of the wait. -/
def dropTimer (s : TelemetryProvider) (t : Nat) : TelemetryProvider :=
  { s with timers := Function.update s.timers t none }

/-- The connection of an active run has failed. -/
def scheduleRetry (s : TelemetryProvider) (e : Nat) : TelemetryProvider :=
  let attempts := (s.runs e).attempts + 1
  { s with
    isConnected := false
    reconnectCount := attempts
    isConnectionFailed := 5 ≤ attempts
    timers := Function.update s.timers s.timerCount
      (some { run := e, delay := retryDelay attempts })
    timerCount := s.timerCount + 1
    runs := Function.update s.runs e
      { s.runs e with attempts := attempts, timer := some s.timerCount } }

def retry (s : TelemetryProvider) (e : Nat) : TelemetryProvider :=
  if (s.runs e).active then s.scheduleRetry e else s

/-- The socket of an active run is made. -/
def newSocket (s : TelemetryProvider) (e : Nat) : TelemetryProvider :=
  { s with
    sockets := Function.update s.sockets s.socketCount (some { run := e })
    socketCount := s.socketCount + 1
    runs := Function.update s.runs e { s.runs e with socket := some s.socketCount } }

/-- `connect`; `constructs` says whether `new WebSocket` returns. -/
def connect (s : TelemetryProvider) (e : Nat) (constructs : Bool) : TelemetryProvider :=
  if (s.runs e).active then
    if constructs then s.newSocket e else s.retry e
  else s

/-- The variables of a new run. -/
def beginRun (s : TelemetryProvider) (manual : Bool) : TelemetryProvider :=
  { s with
    runs := Function.update s.runs s.runCount { manual := manual }
    runCount := s.runCount + 1
    current := some s.runCount
    reconnectCount := 0
    isConnectionFailed := false }

/-- The effect runs. -/
def startEffect (s : TelemetryProvider) (manual constructs : Bool) : TelemetryProvider :=
  (s.beginRun manual).connect s.runCount constructs

/-- The initial values of what is displayed. -/
def initialDisplay (s : TelemetryProvider) : TelemetryProvider :=
  { s with telemetry := none, isConnected := false, lastUpdated := none }

/-- The timer and the socket of a run are given up. -/
def release (s : TelemetryProvider) (run : EffectRun) : TelemetryProvider :=
  { s with
    timers := run.timer.elim s.timers fun t => Function.update s.timers t none
    sockets := run.socket.elim s.sockets fun i =>
      Function.update s.sockets i ((s.sockets i).map fun k => { k.close with onclose := false }) }

/-- The function that the effect returns. -/
def cleanup (s : TelemetryProvider) (e : Nat) : TelemetryProvider :=
  { (s.release (s.runs e)).setRun e { s.runs e with active := false } with current := none }

def onopen (s : TelemetryProvider) (e : Nat) : TelemetryProvider :=
  if (s.runs e).active then { s with isConnected := true } else s

/-- A message that is taken over. -/
def takePayload (s : TelemetryProvider) (e : Nat) (payload : Json) (date : Rat) :
    TelemetryProvider :=
  { s with
    runs := Function.update s.runs e { s.runs e with attempts := 0 }
    reconnectCount := 0
    isConnectionFailed := false
    telemetry := some payload
    lastUpdated := some date }

/-- `data` is the parsed text, if it is JSON. -/
def onmessage (s : TelemetryProvider) (e : Nat) (data : Option Json) (date : Rat) :
    TelemetryProvider :=
  if (s.runs e).active then
    match data.bind acceptedPayload with
    | some payload => s.takePayload e payload date
    | none => s
  else s

def onerror (s : TelemetryProvider) (e : Nat) : TelemetryProvider :=
  match (s.runs e).socket with
  | some i =>
      match s.sockets i with
      | some k => s.setSocket i k.close
      | none => s
  | none => s

/-! ## The events -/

inductive Occurrence
  | mount (constructs : Bool)
  | retryConnection (constructs : Bool)
  | unmount
  | opened (i : Nat)
  | message (i : Nat) (data : Option Json) (date : Rat)
  /-- The other side starts to close the connection. -/
  | closing (i : Nat)
  /-- The connection has ended; `failed` if by a failure. -/
  | closed (i : Nat) (failed : Bool)
  | timeout (t : Nat) (constructs : Bool)

/-- The socket that an event is about. -/
def Occurrence.socket : Occurrence → Option Nat
  | .opened i | .message i _ _ | .closing i | .closed i _ => some i
  | _ => none

/-- The end of a connection that had not ended. -/
def ended (s : TelemetryProvider) (i : Nat) (k : TelemetrySocket) (failed : Bool) :
    TelemetryProvider :=
  let s := s.setSocket i { k with readyState := .closed }
  let s := if failed then s.onerror k.run else s
  if k.onclose then s.retry k.run else s

def step (s : TelemetryProvider) : Occurrence → TelemetryProvider
  | .mount constructs =>
      match s.current with
      | none => s.initialDisplay.startEffect false constructs
      | some _ => s
  | .retryConnection constructs =>
      match s.current with
      | none => s
      | some e => (s.cleanup e).startEffect true constructs
  | .unmount =>
      match s.current with
      | none => s
      | some e => s.cleanup e
  | .opened i =>
      match s.sockets i with
      | some k =>
          if k.readyState = .connecting then
            (s.setSocket i { k with readyState := .opened }).onopen k.run
          else s
      | none => s
  | .message i data date =>
      match s.sockets i with
      | some k => if k.readyState = .opened then s.onmessage k.run data date else s
      | none => s
  | .closing i =>
      match s.sockets i with
      | some k =>
          if k.readyState = .opened then s.setSocket i { k with readyState := .closing } else s
      | none => s
  | .closed i failed =>
      match s.sockets i with
      | some k => if k.readyState = .closed then s else s.ended i k failed
      | none => s
  | .timeout t constructs =>
      match s.timers t with
      | some r => (s.dropTimer t).connect r.run constructs
      | none => s

/-- The provider after some events. -/
def after (es : List Occurrence) : TelemetryProvider := es.foldl step {}

end TelemetryProvider

end Web

end SmartTraffic
