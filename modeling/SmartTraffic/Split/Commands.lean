import SmartTraffic.Lib.Json

/-!
# Commands over Redis

In the split deployment the REST service publishes a command on a channel and
polls a key for the answer of the runtime, whose listener runs the command and
writes the answer under that key. Any number of `publish_command` calls go on at
a time, against one listener.

Redis hands a published message to the subscriber once at most, whether or not
the publisher learns of it. Messages may be lost and overtake each other, keys may
expire, and either side may lose its connection at any step. A request id is one
that no earlier call has drawn. What pydantic makes of a payload, and the texts of
what a library raises, are parameters or inputs.

A step is one stretch of a call or of the listener, or something that happens to
Redis; one that cannot happen in a state changes nothing.
-/

namespace SmartTraffic

open Lib

namespace Lib.Json

/-- `type(value).__name__`. -/
def typeName : Json → String
  | null => "NoneType"
  | bool _ => "bool"
  | int _ => "int"
  | float _ => "float"
  | str _ => "str"
  | arr _ => "list"
  | obj _ => "dict"

end Lib.Json

namespace Split

/-- What `json.loads` reads of a payload in an envelope that pydantic has written. -/
structure EnvelopeCodec where
  /-- The text of what `model_dump_json` raises, or the payload as it arrives. -/
  carried : Dict String Json → Except String (Dict String Json)
  /-- A text arrives as it was. -/
  carried_str : ∀ p q, carried p = .ok q → ∀ k s, p.get? k = some (.str s) →
    q.get? k = some (.str s)

/-- A message on the command channel, as the listener reads it. -/
structure CommandMessage where
  command : String
  payload : Dict String Json

/-- How far a call of `publish_command` has come. -/
inductive CallStage
  /-- It awaits `publish`. -/
  | publishing
  /-- It is about to `get` the answer, `left` times at most. -/
  | polling (left : Nat)
  | returned (response : Json)
  /-- It has raised a `RuntimeError`. -/
  | failed (text : String)

/-- A call that has drawn its request id. -/
structure Call where
  command : String
  payload : Dict String Json
  stage : CallStage := .publishing
  /-- Redis has handed its message to the subscriber. -/
  handedOver : Bool := false

/-- What the callback of the listener does. -/
inductive CallbackResult
  | returned (result : Json)
  | raised (text : String)
  /-- It returns something that `json.dumps` does not take. -/
  | unserializable

/-- What the listener is doing. -/
inductive Listener
  | disconnected
  /-- It awaits a message. -/
  | subscribed
  | executing (message : CommandMessage)
  /-- It awaits `set`. -/
  | replying (requestId : String) (result : Json)

structure SplitRuntime where
  /-- `is_connected` of the REST service. -/
  isConnected : Bool := false
  /-- The calls by request id, those that have ended included. -/
  calls : Dict String Call := ∅
  /-- The messages on their way to the listener. -/
  channel : List CommandMessage := []
  listener : Listener := .disconnected
  /-- The answers that Redis holds. -/
  answers : Dict String Json := ∅
  /-- Proof-only: the commands the callback has run, and what came of each. -/
  executed : List (CommandMessage × CallbackResult) := []

inductive Step
  /-- The REST service gains or loses its connection. -/
  | connection (up : Bool)
  /-- `publish_command` up to its first await. -/
  | publishCommand (requestId command : String) (payload : Dict String Json)
  /-- Redis hands the message of a call to the subscriber. -/
  | handOver (requestId : String)
  /-- `publish` returns the number of listeners, or raises. -/
  | published (requestId : String) (outcome : Except String Nat)
  /-- The next `get` of a call returns, or raises. -/
  | poll (requestId : String) (failure : Option String)
  /-- The listener connects and subscribes. -/
  | subscribe
  /-- `get_message` returns a message of the channel. -/
  | receive (k : Nat)
  /-- A message of the channel is lost. -/
  | lose (k : Nat)
  /-- The callback ends. -/
  | callbackDone (result : CallbackResult)
  /-- `set` has or has not stored the answer, and returns or raises. -/
  | set (stored raises : Bool)
  /-- The listener loses its connection, or is cancelled. -/
  | connectionLost
  | expire (key : String)

/-- `"traffic:command:" + request_id`. -/
def answerKey (requestId : String) : String := "traffic:command:" ++ requestId

/-- The text of the `RuntimeError` for what a call met. -/
def commandFailed (text : String) : String := s!"Runtime command failed: {text}"

/-- The message a call publishes, as it arrives. -/
def messageOf (codec : EnvelopeCodec) (requestId : String) (c : Call) :
    Except String CommandMessage :=
  match codec.carried (c.payload.set "request_id" (.str requestId)) with
  | .error text => .error text
  | .ok payload => .ok { command := c.command, payload := payload }

/-- The end of a call that has read an answer. -/
def conclude (py : Python) (response : Json) : CallStage :=
  match response.toDict with
  | none => .failed (commandFailed s!"'{response.typeName}' object has no attribute 'get'")
  | some fields =>
      if (fields.getJson "status").isStr "SUCCESS" then .returned response
      else
        .failed (commandFailed
          (py.strOf ((fields.get? "message").getD (.str "Command rejected"))))

/-- What the listener writes for a result; `none` when `json.dumps` raises. -/
def CallbackResult.answer : CallbackResult → Option Json
  | .returned result => some result
  | .raised text => some (.obj [("status", .str "ERROR"), ("message", .str text)])
  | .unserializable => none

namespace SplitRuntime

/-- `publish_command` up to its first await; the error is raised at once. -/
def publishCommand (codec : EnvelopeCodec) (s : SplitRuntime) (requestId command : String)
    (payload : Dict String Json) : SplitRuntime × Option String :=
  let c : Call := { command := command, payload := payload }
  if s.isConnected = false then (s, some "Redis unavailable; runtime command was not applied")
  -- request ids are fresh
  else if s.calls.contains requestId then (s, none)
  else
    match messageOf codec requestId c with
    | .error text => (s, some (commandFailed text))
    | .ok _ => ({ s with calls := s.calls.set requestId c }, none)

def handOver (codec : EnvelopeCodec) (s : SplitRuntime) (requestId : String) : SplitRuntime :=
  match s.calls.get? requestId with
  | none => s
  | some c =>
      match c.handedOver, messageOf codec requestId c with
      | false, .ok message =>
          { s with
            calls := s.calls.set requestId { c with handedOver := true }
            channel := s.channel ++ [message] }
      | _, _ => s

/-- The stage of a call after its own next stretch. -/
def setStage (s : SplitRuntime) (requestId : String) (c : Call) (stage : CallStage) :
    SplitRuntime :=
  { s with calls := s.calls.set requestId { c with stage := stage } }

def published (s : SplitRuntime) (requestId : String) (outcome : Except String Nat) :
    SplitRuntime :=
  match s.calls.get? requestId with
  | none => s
  | some c =>
      match c.stage, outcome with
      | .publishing, .error text => s.setStage requestId c (.failed (commandFailed text))
      | .publishing, .ok 0 =>
          s.setStage requestId c (.failed (commandFailed "Camera runtime is offline"))
      | .publishing, .ok _ => s.setStage requestId c (.polling 50)
      | _, _ => s

def poll (py : Python) (s : SplitRuntime) (requestId : String) (failure : Option String) :
    SplitRuntime :=
  match s.calls.get? requestId with
  | none => s
  | some c =>
      match c.stage, failure with
      | .polling 0, _ =>
          s.setStage requestId c
            (.failed (commandFailed "Runtime did not acknowledge the command"))
      | .polling (_ + 1), some text => s.setStage requestId c (.failed (commandFailed text))
      | .polling (left + 1), none =>
          match s.answers.get? (answerKey requestId) with
          | none => s.setStage requestId c (.polling left)
          | some response => s.setStage requestId c (conclude py response)
      | _, _ => s

/-- The listener closes its subscription, and what was on its way is gone. -/
def disconnect (s : SplitRuntime) : SplitRuntime :=
  { s with listener := .disconnected, channel := [] }

def receive (s : SplitRuntime) (k : Nat) : SplitRuntime :=
  match s.listener, s.channel[k]? with
  | .subscribed, some message =>
      let rest := { s with channel := s.channel.eraseIdx k }
      -- an empty command is passed over
      if message.command = "" then rest else { rest with listener := .executing message }
  | _, _ => s

def callbackDone (s : SplitRuntime) (result : CallbackResult) : SplitRuntime :=
  match s.listener with
  | .executing message =>
      let s := { s with executed := s.executed ++ [(message, result)] }
      let requestId := message.payload.getJson "request_id"
      if requestId.truthy = false then { s with listener := .subscribed }
      else
        match requestId, result.answer with
        | .str id, some answer => { s with listener := .replying id answer }
        -- the key or the answer cannot be formed
        | _, _ => s.disconnect
  | _ => s

def set (s : SplitRuntime) (stored raises : Bool) : SplitRuntime :=
  match s.listener with
  | .replying requestId result =>
      let s :=
        if stored then { s with answers := s.answers.set (answerKey requestId) result } else s
      if raises then s.disconnect else { s with listener := .subscribed }
  | _ => s

/-- One step, and the error that a call raises in it at once. -/
def step (py : Python) (codec : EnvelopeCodec) (s : SplitRuntime) (i : Step) :
    SplitRuntime × Option String :=
  match i with
  | .connection up => ({ s with isConnected := up }, none)
  | .publishCommand requestId command payload =>
      s.publishCommand codec requestId command payload
  | .handOver requestId => (s.handOver codec requestId, none)
  | .published requestId outcome => (s.published requestId outcome, none)
  | .poll requestId failure => (s.poll py requestId failure, none)
  | .subscribe =>
      match s.listener with
      | .disconnected => ({ s with listener := .subscribed, channel := [] }, none)
      | _ => (s, none)
  | .receive k => (s.receive k, none)
  | .lose k => ({ s with channel := s.channel.eraseIdx k }, none)
  | .callbackDone result => (s.callbackDone result, none)
  | .set stored raises => (s.set stored raises, none)
  | .connectionLost => (s.disconnect, none)
  | .expire key => ({ s with answers := s.answers.erase key }, none)

end SplitRuntime

end Split

end SmartTraffic
