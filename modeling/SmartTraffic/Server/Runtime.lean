import SmartTraffic.Control.Manager
import SmartTraffic.Server.Command

/-!
# The runtime: batches, ticker and operator commands

The part of the server that reaches the signal. Three activities share one
pipeline:

* `process_batch` runs on the single worker of `frame_executor`. It tests and
  decodes all packets of a batch first and then processes them one after
  another, taking the pipeline lock for each;
* `run_runtime_iteration` looks at the system on the event loop and hands
  `process_step` and then `process_result` to the same worker;
* `handle_command` sets `system_running` on the event loop, and STOP and RESTART
  clear the active decision from a thread of their own, under the pipeline lock.

A `Label` is one stretch of one of them in which the others see nothing; a run
is any list of labels. A label that cannot happen in a state changes nothing.
The pipeline and the control manager exist from the start, as `start_runtime`
leaves them. Perception, logging and the executor do not raise.
-/

namespace SmartTraffic

open Lib

/-- A camera packet as `process_batch` reads it. -/
structure CameraPacket where
  direction : LaneName
  /-- `backend_receive_timestamp`, in milliseconds. -/
  backendReceiveTimestamp : Rat
  backendReceiveMonotonic : Rat
  /-- The image can be decoded and turned upright. -/
  decodes : Bool := true
  /-- What `generate_stats` yields when the detector runs on the image. -/
  observation : LaneStatistics
  deriving DecidableEq

/-- What a stretch of the worker reads besides the state. -/
structure WorkInput where
  /-- `time.time()`. -/
  wallTime : Rat := 0
  nowMono : Rat := 0
  currentMonoTime : Rat := 0
  laneOrder : List LaneName := [.north, .east, .south, .west]
  laneOrder_perm : laneOrder.Perm [.north, .east, .south, .west] := by exact laneOrder_refl
  /-- What the serial port does if a command is sent. -/
  reply : SerialReply := {}

/-- The packet has waited for more than two and a half seconds. -/
def CameraPacket.isStale (p : CameraPacket) (wallTime : Rat) : Bool :=
  2500 < wallTime * 1000 - p.backendReceiveTimestamp

/-- `frames_data` of `process_single_frame`. A timestamp of zero is replaced by the wall clock. -/
def CameraPacket.framesData (p : CameraPacket) (wallTime : Rat) : Dict LaneName FramePayload where
  items := [(p.direction,
    { timestamp := if p.backendReceiveMonotonic = 0 then wallTime else p.backendReceiveMonotonic
      observation := p.observation })]
  nodup := List.nodup_singleton p.direction

/-- The input of a `process_step` on these frames. -/
def WorkInput.stepInput (i : WorkInput) (frames : Dict LaneName FramePayload) : StepInput where
  frames := frames
  nowMono := i.nowMono
  currentMonoTime := i.currentMonoTime
  wallTime := i.wallTime
  laneOrder := i.laneOrder
  laneOrder_perm := i.laneOrder_perm

/-- The directions in `computed`: those whose detector is due when the batch is inferred. -/
def TrafficPipeline.computedFor (p : TrafficPipeline) (ready : List CameraPacket) : List LaneName :=
  (ready.filter fun packet => detectorIsDue (p.lastDetectionTs packet.direction)
    packet.backendReceiveMonotonic p.detectorFps).map (·.direction)

/-- A job of the frame executor, at the point it has reached. -/
inductive Job
  /-- `process_batch` in its first loop: packets still to be tested, and `ready`. -/
  | decode (packets ready : List CameraPacket)
  /-- `process_batch` about to process the next ready packet. -/
  | process (ready : List CameraPacket) (computed : List LaneName)
  /-- `_process_frame_locked` between `process_single_frame` and `process_result`. -/
  | control (result : PipelineResult) (ready : List CameraPacket) (computed : List LaneName)
  /-- The `process_step` of a ticker iteration. -/
  | tickStep
  /-- The `process_result` of a ticker iteration. -/
  | tickResult (result : PipelineResult)
  deriving DecidableEq

namespace Job

/-- The job is a camera batch. -/
def isBatch : Job → Bool
  | .decode _ _ => true
  | .process _ _ => true
  | .control _ _ _ => true
  | .tickStep => false
  | .tickResult _ => false

/-- The packets that were found running, fresh and decodable, and are not processed yet. -/
def ready : Job → List CameraPacket
  | .decode _ ready => ready
  | .process ready _ => ready
  | .control _ ready _ => ready
  | .tickStep => []
  | .tickResult _ => []

/-- The result that `process_result` is still to see. -/
def result : Job → Option PipelineResult
  | .decode _ _ => none
  | .process _ _ => none
  | .control result _ _ => some result
  | .tickStep => none
  | .tickResult result => some result

end Job

/-- How far an iteration of the ticker is. -/
inductive Ticker
  | sleeping
  /-- It awaits a job of the executor. -/
  | waiting
  /-- `process_step` has returned and `process_result` is to be handed over. -/
  | stepped (result : PipelineResult)
  deriving DecidableEq

/-- The result that the ticker holds and has not handed over. -/
def Ticker.result : Ticker → Option PipelineResult
  | .sleeping => none
  | .waiting => none
  | .stepped result => some result

/-- The state the three activities share. -/
structure Runtime where
  systemRunning : Bool := true
  world : PipelineWorld := {}
  esp32 : ESP32Interface := {}
  /-- The jobs of `frame_executor`; the first one is running. -/
  executor : List Job := []
  ticker : Ticker := .sleeping
  /-- The commands whose `reset_phase` has been handed to a thread and has not run yet. -/
  resets : List OperatorCommand := []
  /--
  Proof-only: a STOP has cleared the active decision, or a transmission has
  failed, and no START or RESTART has been accepted since.
  -/
  halted : Bool := false

/-- What reaches the signal. -/
inductive Actuation
  /-- A `process_step` starts a phase. -/
  | phaseStarted (d : SignalDecision LaneName)
  /-- A command is passed to `send_command`. -/
  | commandSent (cmd : HardwareCommand)
  deriving DecidableEq

/-- The phase a result reports as new. -/
def PipelineResult.started (r : PipelineResult) : Option Actuation :=
  if r.isPhaseChange then r.signalDecision.map .phaseStarted else none

/-- One stretch of an activity. -/
inductive Label
  /-- The worker runs up to the next point at which another thread can act on what it shares. -/
  | work (i : WorkInput)
  /-- `run_coordinator` hands the packets of `latest_frames` to the executor. -/
  | coordinate (packets : List CameraPacket)
  /-- The ticker runs up to its next await. -/
  | tick
  /-- Something the ticker does on the event loop raises. -/
  | tickFails
  /-- `handle_command` up to its await. -/
  | command (c : OperatorCommand)
  /-- `reset_phase` of such a command. -/
  | reset (c : OperatorCommand)
  /-- `configure` of a CONFIGURE command. -/
  | configure (minimum maximum : Int)

namespace Runtime

/-- `process_result` throws its command at a port that does not take it. -/
def transmissionFails (s : Runtime) (r : PipelineResult) (i : WorkInput) : Bool :=
  r.command.any fun cmd => !(s.esp32.sendCommand cmd i.reply).1

/-- `ControlManager.process_result` on a result. -/
def control (s : Runtime) (r : PipelineResult) (i : WorkInput) : Runtime × Option Actuation :=
  let p := processResult s.systemRunning s.esp32 r i.reply
  ({ s with
      systemRunning := p.systemRunning
      esp32 := p.esp32
      halted := s.halted || s.transmissionFails r i },
   p.sent.map .commandSent)

/-- A packet of the first loop of `process_batch` becomes ready. -/
def admits (s : Runtime) (p : CameraPacket) (i : WorkInput) : Bool :=
  s.systemRunning && !p.isStale i.wallTime && p.decodes

/-- The worker goes on with its job. -/
def work (s : Runtime) (i : WorkInput) : Runtime × Option Actuation :=
  match s.executor with
  | [] => (s, none)
  | .decode [] ready :: jobs =>
      let computed := s.world.pipeline.computedFor ready
      ({ s with executor := .process ready computed :: jobs }, none)
  | .decode (p :: packets) ready :: jobs =>
      -- only this loop tests `system_running`
      let ready := if s.admits p i then ready ++ [p] else ready
      ({ s with executor := .decode packets ready :: jobs }, none)
  | .process [] _ :: jobs => ({ s with executor := jobs }, none)
  | .process (p :: ready) computed :: jobs =>
      -- the staleness test is repeated when no detection was computed with the batch
      if p.direction ∉ computed ∧ p.isStale i.wallTime then
        ({ s with executor := .process ready computed :: jobs }, none)
      else
        let (world, result) := s.world.processStep (i.stepInput (p.framesData i.wallTime))
        ({ s with world := world, executor := .control result ready computed :: jobs },
         result.started)
  | .control result ready computed :: jobs =>
      -- the pipeline lock was free since the step, and a command may have come in between
      { s with executor := .process ready computed :: jobs }.control result i
  | .tickStep :: jobs =>
      let (world, result) := s.world.processStep (i.stepInput ∅)
      ({ s with world := world, executor := jobs, ticker := .stepped result }, result.started)
  | .tickResult result :: jobs =>
      { s with executor := jobs, ticker := .sleeping }.control result i

/-- `run_runtime_iteration` up to its next await. -/
def tick (s : Runtime) : Runtime :=
  match s.ticker with
  | .sleeping =>
      -- without camera frames the ticker moves a running phase on
      if s.systemRunning && s.world.pipeline.activeDecision.isSome then
        { s with executor := s.executor ++ [.tickStep], ticker := .waiting }
      else s
  | .waiting => s
  | .stepped result =>
      { s with executor := s.executor ++ [.tickResult result], ticker := .waiting }

/-- The handler of what an iteration raises on the event loop. -/
def tickFails (s : Runtime) : Runtime :=
  if s.ticker = .waiting then s
  else
    { s with
      ticker := .sleeping
      systemRunning := s.systemRunning && hardwareIsSafeToRun s.esp32.status }

/-- A START or RESTART that is turned down because the hardware is not safe. -/
def refuses (s : Runtime) (c : OperatorCommand) : Bool :=
  c ≠ .stop && !hardwareIsSafeToRun s.esp32.status

/-- `handle_command` up to its await. -/
def command (s : Runtime) (c : OperatorCommand) : Runtime :=
  if s.refuses c then { s with systemRunning := false }
  else
    { s with
      systemRunning := c ≠ .stop
      resets := if c.resets then s.resets ++ [c] else s.resets
      halted := s.halted && c = .stop }

/-- `reset_phase`, when the thread of the command gets the pipeline lock. -/
def reset (s : Runtime) (c : OperatorCommand) : Runtime :=
  if c ∈ s.resets then
    { s with
      world := s.world.command c
      resets := s.resets.erase c
      halted := s.halted || c = .stop }
  else s

/-- One stretch of an activity, and what it does to the signal. -/
def step (s : Runtime) : Label → Runtime × Option Actuation
  | .work i => s.work i
  | .coordinate packets =>
      -- the coordinator awaits the batch it has handed over
      if s.executor.any Job.isBatch then (s, none)
      else ({ s with executor := s.executor ++ [.decode packets []] }, none)
  | .tick => (s.tick, none)
  | .tickFails => (s.tickFails, none)
  | .command c => (s.command c, none)
  | .reset c => (s.reset c, none)
  | .configure minimum maximum => ({ s with world := s.world.configure minimum maximum }, none)

end Runtime

end SmartTraffic
