import SmartTraffic.Control.Manager
import SmartTraffic.Lib.Csv
import SmartTraffic.Lib.JsonText
import SmartTraffic.Pipeline.Health
import SmartTraffic.Server.Command
import SmartTraffic.Signal.Payload

/-!
# The decision log

`DecisionLogger`: before a command goes to the controller, its decision is appended to a
CSV file and to a JSON-Lines file, and put in front of a bounded history. The files outlive
the program; the history does not.

A write happens whole or raises before anything is written, and the loggers swallow what it
raises. `AuditedPipeline` is the controlled pipeline with its logger, over any number of
starts of the program.
-/

namespace SmartTraffic

open Lib

/-! ## One entry -/

/-- `text.upper()` of ASCII letters. -/
def upperCase (text : Text) : Text := text.map Char.toUpper

/-- `text.split(".")[-1].upper()`. -/
def lastPartUpper (text : String) : String :=
  String.ofList (upperCase ((text.toList.splitOn '.').getLastD []))

/-- `HardwareCommand.to_dict`. -/
def HardwareCommand.toDict (c : HardwareCommand) : Dict String Json where
  items :=
    [ ("command", .str "SIGNAL_PHASE"),
      ("phase_id", .int c.phaseId),
      ("green_lane", .str c.greenLane.value),
      ("green_time_sec", .int c.greenDurationSec),
      ("yellow_time_sec", .int c.yellowDurationSec),
      ("red_lanes", .arr (c.redLanes.map fun r => .str r.value)),
      ("priority_score", .float (.finite (roundDigits 2 c.priorityScore))),
      ("reason", .str c.reason.value),
      ("reason_details", .str c.reasonDetails),
      ("timestamp", .float (.finite (roundDigits 3 c.timestamp))) ]
  nodup := by
    simp only [List.map_cons, List.map_nil]
    decide

/-- `HardwareCommand.to_json`. -/
def HardwareCommand.toJson (c : HardwareCommand) : Text :=
  JsonText.dumps (some 2) (.obj c.toDict.items)

structure DecisionLog where
  timestamp : Rat
  datetimeStr : String
  phaseId : Nat
  selectedLane : String
  greenDuration : Int
  yellowDuration : Int
  decisionReason : String
  reasonDetails : String
  totalVehicles : Int
  priorityScore : Rat
  pipelineHealth : String := "INFO"
  cameraHealthSummary : String := "All Connected"
  hardwareCommandJson : Option String := none
  deriving DecidableEq, Repr

/-- `DecisionLog.to_dict`. -/
def DecisionLog.toDict (l : DecisionLog) : Dict String Json where
  items :=
    [ ("timestamp", .float (.finite (roundDigits 3 l.timestamp))),
      ("datetime_str", .str l.datetimeStr),
      ("phase_id", .int l.phaseId),
      ("selected_lane", .str l.selectedLane),
      ("green_duration_sec", .int l.greenDuration),
      ("yellow_duration_sec", .int l.yellowDuration),
      ("decision_reason", .str l.decisionReason),
      ("reason_details", .str l.reasonDetails),
      ("total_vehicles", .int l.totalVehicles),
      ("priority_score", .float (.finite (roundDigits 2 l.priorityScore))),
      ("pipeline_health", .str l.pipelineHealth),
      ("camera_health_summary", .str l.cameraHealthSummary),
      ("hardware_command_json", l.hardwareCommandJson.elim .null .str) ]
  nodup := by
    simp only [List.map_cons, List.map_nil]
    decide

/-- What logging a result meets: the clock, the detections of the first camera, and whether
each of the two files can be written. -/
structure LogInput where
  now : Rat := 0
  /-- `now` in the local time zone, as `"%Y-%m-%d %H:%M:%S"`. -/
  localTime : String := ""
  detections : Nat := 0
  csvWrites : Bool := true
  jsonWrites : Bool := true

/-- The entry `log_decision` makes. -/
def decisionLog (a : LogInput) (decision : SignalDecision LaneName) (cmd : HardwareCommand)
    (intersectionState : Option IntersectionState) (health : Option PipelineHealth) :
    DecisionLog where
  timestamp := a.now
  datetimeStr := a.localTime
  phaseId := decision.phaseId
  selectedLane := lastPartUpper decision.greenLane.value
  greenDuration := decision.greenDurationSec
  yellowDuration := decision.yellowDurationSec
  decisionReason := lastPartUpper decision.reason.value
  reasonDetails := decision.reasonDetails
  totalVehicles := intersectionState.elim 0 (·.totalVehicles)
  priorityScore := decision.priorityScore
  pipelineHealth := health.elim "INFO" (·.severity.value)
  hardwareCommandJson := some (String.ofList cmd.toJson)

/-! ## The files -/

namespace CSVLogger

def headers : List String :=
  ["timestamp", "datetime_str", "phase_id", "selected_lane", "green_duration_sec",
    "yellow_duration_sec", "decision_reason", "reason_details", "total_vehicles",
    "priority_score", "pipeline_health"]

/-- The keys that `log` reads, in the order of the columns, and their defaults. -/
def columns : List (String × Json) :=
  [("timestamp", .float (.finite 0)), ("datetime_str", .str ""), ("phase_id", .int 0),
    ("selected_lane", .str ""), ("green_duration_sec", .int 0), ("yellow_duration_sec", .int 0),
    ("decision_reason", .str ""), ("reason_details", .str ""), ("total_vehicles", .int 0),
    ("priority_score", .float (.finite 0)), ("pipeline_health", .str "INFO")]

/-- `repr` of a float. -/
def floatCell : JsonFloat → Text
  | .infinity false => ['i', 'n', 'f']
  | .infinity true => ['-', 'i', 'n', 'f']
  | .nan => ['n', 'a', 'n']
  | x => JsonText.floatText x

/-- What `csv.writer` makes of a value; `str` is for what is neither a number nor a text. -/
def cell (str : Json → Text) : Json → Text
  | .null => []
  | .int n => JsonText.intText n
  | .float x => floatCell x
  | .str s => s.toList
  | value => str value

def row (str : Json → Text) (entry : Dict String Json) : List Text :=
  columns.map fun column => cell str ((entry.get? column.1).getD column.2)

def headerRow : List Text := headers.map String.toList

/-- `_ensure_header`, where writing the file succeeds or not. -/
def ensureHeader (file : Option Text) (writes : Bool) : Option Text :=
  if file.getD [] = [] ∧ writes then some (Csv.writeRow headerRow) else file

def log (str : Json → Text) (file : Option Text) (entry : Dict String Json) (writes : Bool) :
    Option Text :=
  if writes then some (file.getD [] ++ Csv.writeRow (row str entry)) else file

end CSVLogger

/-- `JSONLogger.log`. -/
def JSONLogger.log (file : Option Text) (entry : Dict String Json) (writes : Bool) :
    Option Text :=
  if writes then some (file.getD [] ++ JsonText.dumps none (.obj entry.items) ++ ['\n']) else file

/-! ## The logger -/

/-- `DecisionHistory`, the newest entry first. -/
structure DecisionHistory where
  maxHistory : Nat := 10
  records : List DecisionLog := []

namespace DecisionHistory

def add (h : DecisionHistory) (entry : DecisionLog) : DecisionHistory :=
  { h with records := (entry :: h.records).take h.maxHistory }

def getRecent (h : DecisionHistory) (limit : Nat) : List DecisionLog := h.records.take limit

/-- A line of `format_for_hud`. -/
def hudLine (l : DecisionLog) : String :=
  let lane := String.ofList (upperCase l.selectedLane.toList)
  s!"Phase #{l.phaseId}: {lane} ({l.greenDuration}s) — {l.decisionReason}"

def formatForHud (h : DecisionHistory) (limit : Nat) : List String :=
  (h.getRecent limit).map hudLine

end DecisionHistory

/-- `DecisionLogger` and the files it writes to. -/
structure DecisionLogger where
  csvFile : Option Text := none
  jsonFile : Option Text := none
  history : DecisionHistory := {}

namespace DecisionLogger

/-- `DecisionLogger()` over the files that are there. -/
def start (l : DecisionLogger) (writes : Bool) : DecisionLogger :=
  { l with csvFile := CSVLogger.ensureHeader l.csvFile writes, history := {} }

/-- The end of `log_decision`. -/
def record (str : Json → Text) (l : DecisionLogger) (a : LogInput) (entry : DecisionLog) :
    DecisionLogger where
  csvFile := CSVLogger.log str l.csvFile entry.toDict a.csvWrites
  jsonFile := JSONLogger.log l.jsonFile entry.toDict a.jsonWrites
  history := l.history.add entry

end DecisionLogger

/-! ## The pipeline and its log -/

/-- The entry that `process_result` has logged for a result. -/
def PipelineResult.logEntry (r : PipelineResult) (a : LogInput) (health : Option PipelineHealth) :
    Option DecisionLog :=
  r.command.bind fun cmd =>
    r.signalDecision.map fun decision => decisionLog a decision cmd r.intersectionState health

structure AuditedPipeline where
  control : ControlledPipeline := {}
  logger : DecisionLogger := {}

/-- What happens to it. -/
inductive AuditOp
  /-- The program starts, with an interface that it has just built. -/
  | start (systemRunning : Bool) (esp32 : ESP32Interface) (headerWrites : Bool)
  | step (i : StepInput) (reply : SerialReply) (a : LogInput)
  /-- START, STOP or RESTART. -/
  | command (c : OperatorCommand)
  | configure (minimum maximum : Int)

/-- What an operation sends to the controller, and what it has logged before. -/
structure AuditOutput where
  logged : Option DecisionLog := none
  sent : Option HardwareCommand := none

namespace AuditedPipeline

def step (str : Json → Text) (s : AuditedPipeline) : AuditOp → AuditedPipeline × AuditOutput
  | .start systemRunning esp32 headerWrites =>
      ({ control := { systemRunning := systemRunning, esp32 := esp32 }
         logger := s.logger.start headerWrites }, {})
  | .step i reply a =>
      let result := (s.control.world.processStep i).2
      let logged := result.logEntry a (s.control.world.health i a.detections)
      ({ control := (s.control.step (i, reply)).1
         logger := logged.elim s.logger (s.logger.record str a) },
       { logged := logged
         sent := (processResult s.control.systemRunning s.control.esp32 result reply).sent })
  | .command c =>
      ({ s with control := { s.control with world := s.control.world.command c } }, {})
  | .configure minimum maximum =>
      ({ s with control := { s.control with world := s.control.world.configure minimum maximum } },
        {})

end AuditedPipeline

end SmartTraffic
