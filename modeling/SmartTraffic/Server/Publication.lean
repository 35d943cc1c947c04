import SmartTraffic.Server.Runtime
import SmartTraffic.Server.Snapshot
import SmartTraffic.Simulator.Live

/-!
# Publishing the signal

`latest_snapshot` has two writers. The coordinator commits the snapshots of a
batch one by one after the whole batch has been processed. The ticker writes the
signal of its own result into the snapshot that is there (`apply_signal`), and
then replaces it by `runtime_snapshot`, which blanks the signal when the approach
it names has no live camera.

The worker, the ticker and the commands are those of `Runtime`; a `Turn` is one
stretch of them or of the coordinator. What the rest of the server does to the
sessions may happen at any time. Of a snapshot its `SignalFields` are kept.
-/

namespace SmartTraffic

open Lib

/-- Proof-only: a `process_step` that has run, with what it ran on. -/
structure StepRun where
  world : PipelineWorld
  input : StepInput

/-- The result it returned. -/
def StepRun.result (step : StepRun) : PipelineResult := (step.world.processStep step.input).2

/-- A result of a batch that waits for its commit. -/
structure FrameCommit where
  direction : LaneName
  signal : SignalFields
  /-- Proof-only: the result the snapshot was built from. -/
  result : PipelineResult
  /-- Proof-only: the place among `steps` of the step that returned the result. -/
  step : Nat

/-- The runtime together with what it publishes. -/
structure Publisher where
  runtime : Runtime := {}
  /-- The direction of the frame in `_process_frame_locked`. -/
  inHand : Option LaneName := none
  /-- `results` of the running batch. -/
  results : List FrameCommit := []
  /-- What the coordinator has been handed and has not committed. -/
  committing : Option (List FrameCommit) := none
  /-- The result of a ticker iteration, when `process_result` has returned. -/
  finishing : Option PipelineResult := none
  sessions : SessionManager := {}
  frameUpdatedAt : Dict String Rat := ∅
  lastFrameMonotonic : Rat := 0
  latestSnapshot : Option SignalFields := none
  /-- Proof-only: the most recent `PipelineResult`, as `process_result` leaves it. -/
  newest : Option PipelineResult := none
  /-- Proof-only: the ticker holds that result, and `process_result` has not seen it. -/
  newestIsTicker : Bool := false
  /-- Proof-only: the result whose signal is in the latest snapshot. -/
  shown : Option PipelineResult := none
  /-- Proof-only: every `process_step` that has run, the oldest first. -/
  steps : List StepRun := []
  /-- Proof-only: the place among them of the ticker's last step. -/
  tickerStep : Nat := 0
  /-- Proof-only: the place of the step whose result is in the latest snapshot. -/
  shownStep : Nat := 0
  /-- Proof-only: a `reset_phase` has run since the last step. -/
  resetSince : Bool := false

/-- One stretch. -/
inductive Turn
  | work (i : WorkInput)
  | coordinate (packets : List CameraPacket)
  /-- The ticker up to its next await, or to the end of an iteration without a step. -/
  | tick (r : Reading)
  | tickFails
  | command (c : OperatorCommand)
  | reset (c : OperatorCommand)
  | configure (minimum maximum : Int)
  /-- The rest of an iteration with a step. -/
  | finish (r : Reading)
  /-- The coordinator takes its next result; `accepted` is the test of session and socket. -/
  | commit (r : Reading) (accepted : Bool)
  /-- Sessions come, go and expire. -/
  | setSessions (m : SessionManager)
  /-- DISCONNECT pops the entries of a direction. -/
  | forget (direction : String)
  /-- The end of a STOP or RESTART. -/
  | forgetAll

/-- What is published. -/
inductive Publication
  | frame (c : FrameCommit)
  | ticker (r : Reading)

namespace Publisher

/-! ## The worker -/

/-- A result as `process_result` leaves it. -/
def processed (s : Publisher) (result : PipelineResult) (i : WorkInput) : PipelineResult :=
  (processResult s.runtime.systemRunning s.runtime.esp32 result i.reply).result

/-- A `process_step` of the worker: its result is the most recent one. -/
def record (s : Publisher) (input : StepInput) (ofTicker : Bool) : Publisher :=
  let step : StepRun := { world := s.runtime.world, input := input }
  { s with
    newest := some step.result
    newestIsTicker := ofTicker
    steps := s.steps ++ [step]
    tickerStep := if ofTicker then s.steps.length else s.tickerStep
    resetSince := false }

/-- The worker goes on with its job. -/
def work (s : Publisher) (i : WorkInput) : Publisher :=
  let runtime := (s.runtime.work i).1
  match s.runtime.executor with
  | .process [] _ :: _ =>
      { s with runtime := runtime, committing := some s.results, results := [] }
  | .process (p :: _) computed :: _ =>
      if p.direction ∉ computed ∧ p.isStale i.wallTime then { s with runtime := runtime }
      else
        { s.record (i.stepInput (p.framesData i.wallTime)) false with
          runtime := runtime
          inHand := some p.direction }
  | .control result _ _ :: _ =>
      -- the snapshot is built right after `process_result`
      let result := s.processed result i
      { s with
        runtime := runtime
        inHand := none
        results := s.results ++ (s.inHand.map fun direction =>
          { direction := direction, signal := result.frameSignal direction
            result := result, step := s.steps.length - 1 }).toList
        newest := some result }
  | .tickStep :: _ => { s.record (i.stepInput ∅) true with runtime := runtime }
  | .tickResult result :: _ =>
      let result := s.processed result i
      { s with
        runtime := runtime
        finishing := some result
        newest := if s.newestIsTicker then some result else s.newest
        newestIsTicker := false }
  | _ => { s with runtime := runtime }

/-! ## `runtime_snapshot` -/

/-- `streamStatus` of the approach is LIVE. -/
def isLive (py : Python) (s : Publisher) (r : Reading) (lane : LaneName) : Bool :=
  s.runtime.systemRunning && (s.sessions.getSessionByDirection py lane.key r.time).isSome
    && match s.frameUpdatedAt.get? lane.key with
      | none => false
      -- a reading of zero counts as missing
      | some seen => seen ≠ 0 && (r.monotonic - seen) * 1000 < 3000

/-- `active_missing`: the approach that the payload names is not live. -/
def activeMissing (py : Python) (s : Publisher) (r : Reading) : Bool :=
  !approachNames.any fun lane =>
    s.isLive py r lane && (s.latestSnapshot.any fun f => f.activePhase.toLower = lane.key)

/-- The fields when no signal is shown. -/
def noSignal (reason : String) : SignalFields where
  activePhase := "None"
  signalState := .allRed
  greenDuration := 0
  timeRemaining := 0
  phaseReason := some reason

/-- The signal of `runtime_snapshot`. -/
def runtimeSnapshot (py : Python) (s : Publisher) (r : Reading) : SignalFields :=
  if s.runtime.systemRunning = false then noSignal "System paused"
  else if (approachNames.any fun lane => s.isLive py r lane) = false then
    noSignal "Waiting for fresh camera frames"
  else if s.activeMissing py r then
    noSignal "Selected approach unavailable; awaiting safe phase transition"
  else s.latestSnapshot.getD (noSignal "")

/-- `runtime_snapshot` blanks the signal. -/
def hides (py : Python) (s : Publisher) (r : Reading) : Bool :=
  !s.runtime.systemRunning || !(approachNames.any fun lane => s.isLive py r lane)
    || s.activeMissing py r

/-- The end of an iteration: the snapshot is replaced and published. -/
def publishTicker (py : Python) (s : Publisher) (r : Reading) : Publisher :=
  { s with
    latestSnapshot := some (s.runtimeSnapshot py r)
    shown := if s.hides py r then none else s.shown }

/-! ## The ticker and the coordinator -/

/-- `if ctx.latest_snapshot: apply_signal(ctx.latest_snapshot["payload"], result)`. -/
def apply (s : Publisher) (result : PipelineResult) : Publisher :=
  match s.latestSnapshot with
  | none => s
  | some fields =>
      { s with
        latestSnapshot := some (applySignal fields result)
        shown := if result.signalDecision.isSome then some result else s.shown
        shownStep := if result.signalDecision.isSome then s.tickerStep else s.shownStep }

def tick (py : Python) (s : Publisher) (r : Reading) : Publisher × Option Publication :=
  -- the iteration before has not ended yet
  if s.finishing.isSome then (s, none)
  else match s.runtime.ticker with
    | .sleeping =>
        if s.runtime.systemRunning && s.runtime.world.pipeline.activeDecision.isSome then
          ({ s with runtime := s.runtime.tick }, none)
        else (s.publishTicker py r, some (.ticker r))
    | _ => ({ s with runtime := s.runtime.tick }, none)

def finish (py : Python) (s : Publisher) (r : Reading) : Publisher × Option Publication :=
  match s.finishing with
  | none => (s, none)
  | some result =>
      (({ s with finishing := none }.apply result).publishTicker py r, some (.ticker r))

/-- The coordinator with its next result. -/
def commit (s : Publisher) (r : Reading) (accepted : Bool) : Publisher × Option Publication :=
  match s.committing with
  | none => (s, none)
  | some [] => ({ s with committing := none }, none)
  | some (c :: rest) =>
      if s.runtime.systemRunning && accepted then
        ({ s with
          committing := some rest
          frameUpdatedAt := s.frameUpdatedAt.set c.direction.key r.monotonic
          lastFrameMonotonic := r.monotonic
          latestSnapshot := some c.signal
          shown := some c.result
          shownStep := c.step },
         some (.frame c))
      else ({ s with committing := some rest }, none)

/-- One stretch, and what it publishes. -/
def step (py : Python) (s : Publisher) : Turn → Publisher × Option Publication
  | .work i => (s.work i, none)
  | .coordinate packets =>
      -- the coordinator commits a batch before it takes the next one
      if s.committing.isSome then (s, none)
      else ({ s with runtime := (s.runtime.step (.coordinate packets)).1 }, none)
  | .tick r => s.tick py r
  | .tickFails => ({ s with runtime := s.runtime.tickFails, finishing := none }, none)
  | .command c => ({ s with runtime := s.runtime.command c }, none)
  | .reset c =>
      ({ s with
        runtime := s.runtime.reset c
        resetSince := s.resetSince || (c.resets && decide (c ∈ s.runtime.resets)) }, none)
  | .configure minimum maximum =>
      ({ s with runtime := (s.runtime.step (.configure minimum maximum)).1 }, none)
  | .finish r => s.finish py r
  | .commit r accepted => s.commit r accepted
  | .setSessions m => ({ s with sessions := m }, none)
  | .forget direction => ({ s with frameUpdatedAt := s.frameUpdatedAt.erase direction }, none)
  | .forgetAll => ({ s with frameUpdatedAt := ∅ }, none)

/-- The parts of `ApplicationContext` that the live intersection reads. -/
def liveContext (s : Publisher) : LiveContext where
  pipeline := some s.runtime.world.pipeline
  systemRunning := s.runtime.systemRunning
  lanes := s.runtime.world.ctx
  -- nothing in the server sets the flag
  isPipelineStalled := false
  lastFrameMonotonic := s.lastFrameMonotonic
  frameUpdatedAt := s.frameUpdatedAt

end Publisher

end SmartTraffic
