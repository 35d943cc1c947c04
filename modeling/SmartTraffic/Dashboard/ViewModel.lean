import SmartTraffic.Server.Publication

/-!
# The dashboard

What a browser makes of the signal: the payload that `runtime_snapshot` sends it, the
health that `TelemetryProvider` derives from the payload and its own clock, and the
lamp of each approach in `useDashboardViewModel`.

The figures that the view model only passes on (counts, scores, rates, latencies) are
left out.
-/

namespace SmartTraffic

open Lib

/-- The `streamStatus` of an approach, of a payload, or of the dashboard. -/
inductive StreamStatus
  | connecting
  | live
  | stale
  | offline
  | disconnected
  deriving DecidableEq, Repr

/-- A payload of `runtime_snapshot`, as far as the lamps depend on it. -/
structure TelemetryPayload where
  signal : SignalFields
  systemRunning : Bool
  pipelineHealthy : Bool
  streamStatus : StreamStatus
  laneStatus : LaneName → StreamStatus

namespace Publisher

/-- `streamStatus` of an approach. -/
def laneStreamStatus (py : Python) (s : Publisher) (r : Reading) (lane : LaneName) :
    StreamStatus :=
  let session := (s.sessions.getSessionByDirection py lane.key r.time).isSome
  let seen := (s.frameUpdatedAt.get? lane.key).any fun seen => seen ≠ 0
  if s.isLive py r lane then .live
  else if session && seen then .stale
  else if session then .connecting
  else .offline

/-- The payload that the telemetry socket sends. -/
def telemetryPayload (py : Python) (s : Publisher) (r : Reading) : TelemetryPayload :=
  let anyLive := approachNames.any fun lane => s.isLive py r lane
  { signal := s.runtimeSnapshot py r
    systemRunning := s.runtime.systemRunning
    pipelineHealthy := s.runtime.systemRunning && anyLive
    streamStatus := if anyLive then .live else .stale
    laneStatus := s.laneStreamStatus py r }

end Publisher

/-- What `TelemetryProvider` knows. Its times are in milliseconds. -/
structure TelemetryState where
  telemetry : Option TelemetryPayload := none
  isConnected : Bool := false
  lastUpdated : Option Rat := none
  now : Rat := 0

namespace TelemetryState

/-- The time since the last message; zero before the first. -/
def elapsed (t : TelemetryState) : Rat :=
  match t.lastUpdated with
  | none => 0
  | some updated => max 0 (t.now - updated)

def streamStatus (t : TelemetryState) : StreamStatus :=
  if !t.isConnected then .disconnected
  else if t.lastUpdated = none then .connecting
  else if 3000 < t.elapsed then .stale
  else (t.telemetry.map (·.streamStatus)).getD .stale

def pipelineHealthy (t : TelemetryState) : Bool :=
  t.isConnected && t.elapsed < 3000 && t.telemetry.any (·.pipelineHealthy)

end TelemetryState

inductive NodeStatus
  | connected
  | disconnected
  | pairing
  | paired
  | offline
  deriving DecidableEq, Repr

structure MobileNode where
  assignedLane : String
  status : NodeStatus
  deriving DecidableEq, Repr

structure LaneViewModel where
  direction : LaneName
  label : String
  isGreen : Bool
  statusColor : String
  statusLabel : String
  streamStatus : StreamStatus
  isConfigured : Bool
  deriving DecidableEq, Repr

structure PhaseViewModel where
  activeDirection : String
  remainingSeconds : Int
  progressPercentage : Rat
  phaseReason : String
  deriving DecidableEq, Repr

structure DashboardViewModel where
  lanes : LaneName → LaneViewModel
  activePhase : PhaseViewModel
  schedulerStatus : String

/-- `DIRECTION_LABELS`. -/
def directionLabel : LaneName → String
  | .north => "North Approach"
  | .east => "East Approach"
  | .south => "South Approach"
  | .west => "West Approach"

/-- `text || fallback`: the empty string counts as missing. -/
def orText (text : Option String) (fallback : String) : String :=
  match text with
  | none => fallback
  | some s => if s = "" then fallback else s

/-- `value || fallback`: zero counts as missing. -/
def orNumber (value : Option Int) (fallback : Int) : Int :=
  match value with
  | none => fallback
  | some n => if n = 0 then fallback else n

namespace TelemetryState

def activePhaseName (t : TelemetryState) : String :=
  (orText (t.telemetry.map (·.signal.activePhase)) "none").toLower

def remainingTime (t : TelemetryState) : Int :=
  orNumber (t.telemetry.map (·.signal.timeRemaining)) 0

def progressPct (t : TelemetryState) : Rat :=
  let greenDuration := orNumber (t.telemetry.map (·.signal.greenDuration)) 25
  min 100 (max 0 (((greenDuration - t.remainingTime : Int) : Rat) / greenDuration * 100))

/-- `isGreen` of an approach. -/
def isGreen (t : TelemetryState) (dir : LaneName) : Bool :=
  t.pipelineHealthy && t.activePhaseName = dir.key
    && t.telemetry.map (·.signal.signalState) ≠ some .yellow

/-- The first node whose lane names the approach is connected. -/
def isConfigured (nodes : List MobileNode) (dir : LaneName) : Bool :=
  (nodes.find? fun n => dir.key.toList <:+: n.assignedLane.toLower.toList).any
    (·.status = .connected)

def laneViewModel (t : TelemetryState) (nodes : List MobileNode) (dir : LaneName) :
    LaneViewModel where
  direction := dir
  label := directionLabel dir
  isGreen := t.isGreen dir
  statusColor :=
    if !t.isConnected then "#ef4444"
    else if isConfigured nodes dir then if t.isGreen dir then "#10b981" else "#3b82f6"
    else "#64748b"
  statusLabel :=
    if !t.isConnected then "DISCONNECTED"
    else if isConfigured nodes dir then if t.isGreen dir then "CURRENT GREEN" else "WAITING"
    else "OFFLINE"
  streamStatus :=
    if !t.isConnected then .offline
    else if isConfigured nodes dir then
      if t.streamStatus = .disconnected ∨ t.streamStatus = .stale then t.streamStatus
      else (t.telemetry.map (·.laneStatus dir)).getD .connecting
    else .offline
  isConfigured := isConfigured nodes dir

def phaseViewModel (t : TelemetryState) : PhaseViewModel where
  activeDirection :=
    if t.pipelineHealthy then orText (t.telemetry.map (·.signal.activePhase)) "None" else "None"
  remainingSeconds := t.remainingTime
  progressPercentage := t.progressPct
  phaseReason :=
    if t.telemetry.map (·.signal.signalState) = some .yellow then "Yellow clearance"
    else orText (t.telemetry.bind (·.signal.phaseReason)) "Waiting for a connected camera"

/-- `useDashboardViewModel`. -/
def dashboardViewModel (t : TelemetryState) (nodes : List MobileNode) : DashboardViewModel where
  lanes := t.laneViewModel nodes
  activePhase := t.phaseViewModel
  schedulerStatus :=
    if !t.isConnected then "DISCONNECTED"
    else if t.telemetry.any (·.systemRunning) then
      if t.pipelineHealthy then "RUNNING" else "WAITING FOR FRAMES"
    else "PAUSED"

end TelemetryState

end SmartTraffic
