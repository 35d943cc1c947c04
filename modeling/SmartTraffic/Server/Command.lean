import SmartTraffic.Pipeline.Step

/-!
# Operator commands and the active phase

The commands of `handle_command` that change whether the system runs. STOP and
RESTART clear the active decision of the pipeline (`reset_phase`).
-/

namespace SmartTraffic

/-- The commands START, STOP and RESTART. -/
inductive OperatorCommand
  | start
  | stop
  | restart
  deriving DecidableEq, Repr

/-- `command in ("STOP", "RESTART")`: the command clears the active decision. -/
def OperatorCommand.resets : OperatorCommand → Bool
  | .start => false
  | .stop => true
  | .restart => true

def TrafficPipeline.resetPhase (p : TrafficPipeline) : TrafficPipeline :=
  { p with activeDecision := none, activeHardwareCmd := none }

/-- The timing bounds of a CONFIGURE command, applied if they are in range. -/
def PipelineWorld.configure (w : PipelineWorld) (minimum maximum : Int) : PipelineWorld :=
  if 5 ≤ minimum ∧ minimum ≤ maximum ∧ maximum ≤ 120 then
    { w with
      pipeline.signalScheduler.minGreenSec := minimum
      pipeline.signalScheduler.maxGreenSec := maximum }
  else w

/-- What a command does to the pipeline. -/
def PipelineWorld.command (w : PipelineWorld) (c : OperatorCommand) : PipelineWorld :=
  if c.resets then { w with pipeline := w.pipeline.resetPhase } else w

end SmartTraffic
