import SmartTraffic.Lib.Digits
import SmartTraffic.Startup.Profile

/-!
# The startup sequence

`StartupManager.run` with the wizards and the validator it calls. An answer is the line that
a prompt reads, or `none` for an `EOFError` or a `KeyboardInterrupt`; when the answers run
out, so has the input. What is printed is left out, but for the attributes that printing a
profile looks up. Text that is lowered is ASCII.

An answer can be digits and still be no number to `int`. Nobody catches that `ValueError`,
so a wizard that meets one ends the start, before a profile is written.
-/

namespace SmartTraffic.Startup

open SmartTraffic Lib

/-- What a start finds around it. -/
structure Environment where
  /-- `VIDEOS_DIR`. -/
  videosDir : String := "videos"
  pathExists : String → Bool := fun _ => true
  /-- The devices of `discover_com_ports`. -/
  comPorts : List String := []
  /-- The profile can be written. -/
  writes : Bool := true

/-! ## The validator -/

def requiredLanes : List String := ["north", "south", "east", "west"]

/-- `lane in sources`. -/
def hasLane (lane : String) : Json → Except PyError Bool
  | .obj fields => .ok (fields.any fun field => field.1 = lane)
  | .arr items => .ok (items.any fun item => item.isStr lane)
  | .str s => .ok (s.toList.tails.any fun tail => lane.toList.isPrefixOf tail)
  | _ => .error .typeError

def missingSource (lane : String) : String :=
  s!"Missing camera stream source for direction '{lane}'."

def missingVideo (lane path : String) : String :=
  s!"Demo video file for '{lane}' does not exist at path: '{path}'."

/-- The lanes without a source. -/
def missingLanes (sources : Json) : List String → Except PyError (List String)
  | [] => .ok []
  | lane :: lanes => do
      let found ← hasLane lane sources
      let missing ← missingLanes sources lanes
      return if found then missing else missingSource lane :: missing

/-- The issue with one source of the demo mode. -/
def videoIssue (env : Environment) (source : String × Json) : Option String :=
  match source.2 with
  | .str path => if env.pathExists path then none else some (missingVideo source.1 path)
  | _ => none

/-- The issues with the lanes, whose phones come later in the mobile mode. -/
def laneIssues (camera : CameraConfig) : Except PyError (List String) :=
  if camera.mode.isStr "mobile" then .ok [] else missingLanes camera.sources requiredLanes

/-- The issues with the sources of a mode. -/
def modeIssues (env : Environment) (camera : CameraConfig) : Except PyError (List String) :=
  if camera.mode.isStr "demo" then
    (asDict camera.sources).map fun sources => sources.items.filterMap (videoIssue env)
  else if camera.mode.isStr "usb" then
    -- the indices go into a set
    (asDict camera.sources).bind fun sources =>
      if sources.values.all Json.hashable then .ok [] else .error .typeError
  else if camera.mode.isStr "rtsp" then (asDict camera.sources).map fun _ => []
  else .ok []

/-- `ConfigValidator.validate`, for the issues; what it only warns of is left out. -/
def validate (env : Environment) (config : StartupConfig) : Except PyError (List String) := do
  let missing ← laneIssues config.camera
  let issues ← modeIssues env config.camera
  return missing ++ issues

/-! ## The wizards -/

abbrev Answers := List (Option Text)

/-- The next prompt. -/
def ask : Answers → Option Text × Answers
  | [] => (none, [])
  | answer :: rest => (answer.map stripSpaces, rest)

/-- What a wizard makes, or the digits whose `int` raises a `ValueError`. -/
abbrev Wizard (A : Type) := Except Text A

/-- An answer that is a source unless it is empty. -/
def urlAnswer (default : String) : Option Text → Wizard Json
  | none => .ok (.str default)
  | some text => .ok (.str (if text = [] then default else String.ofList text))

/-- `int(text)` of an answer that is digits. -/
def intAnswer (text : Text) : Wizard Nat :=
  match readDigits text with
  | some n => .ok n
  | none => .error text

/-- An answer that is an index if it is digits. -/
def indexAnswer (default : Nat) : Option Text → Wizard Json
  | none => .ok (.int default)
  | some text =>
      if isDigitText text then (intAnswer text).map fun (n : Nat) => .int n else .ok (.int default)

/-- One prompt for each lane, numbered from `idx`. -/
def askLanes (source : Nat → Option Text → Wizard Json) :
    Nat → List String → Answers → Wizard (List (String × Json) × Answers)
  | _, [], answers => .ok ([], answers)
  | idx, lane :: lanes, answers => do
      let first ← source idx (ask answers).1
      let (sources, rest) ← askLanes source (idx + 1) lanes (ask answers).2
      return ((lane, first) :: sources, rest)

/-- A camera configuration by one prompt for each lane. -/
def configureLanes (mode : String) (source : Nat → Option Text → Wizard Json)
    (answers : Answers) : Wizard (CameraConfig × Answers) := do
  let (sources, rest) ← askLanes source 0 requiredLanes answers
  return ({ mode := .str mode, sources := .obj sources }, rest)

def configureMobileCameras (answers : Answers) : Wizard (CameraConfig × Answers) :=
  configureLanes "mobile"
    (fun idx => urlAnswer s!"http://192.168.1.10{idx + 1}:8080/video") answers

def configureUsbCameras (answers : Answers) : Wizard (CameraConfig × Answers) :=
  configureLanes "usb" indexAnswer answers

def configureRtspCameras (answers : Answers) : Wizard (CameraConfig × Answers) :=
  configureLanes "rtsp"
    (fun idx => urlAnswer s!"rtsp://192.168.1.10{idx + 1}:554/stream1") answers

def configureWebcam (answers : Answers) : Wizard (CameraConfig × Answers) := do
  let source ← indexAnswer 0 (ask answers).1
  return ({ mode := .str "webcam"
            sources := .obj (requiredLanes.map fun lane => (lane, source)) }, (ask answers).2)

/-- The path of a demo video. -/
def videoPath (env : Environment) (lane : String) : String := s!"{env.videosDir}/{lane}.mp4"

def configureDemoVideos (env : Environment) : CameraConfig where
  mode := .str "demo"
  sources := .obj (requiredLanes.map fun lane => (lane, .str (videoPath env lane)))

def setupCameraConfig (env : Environment) (answers : Answers) : Wizard (CameraConfig × Answers) :=
  let (answer, rest) := ask answers
  let choice := answer.getD ['5']
  if choice = ['1'] then configureMobileCameras rest
  else if choice = ['2'] then configureUsbCameras rest
  else if choice = ['3'] then configureRtspCameras rest
  else if choice = ['4'] then configureWebcam rest
  else .ok (configureDemoVideos env, rest)

/-- Simulation mode. -/
def simulatedHardware : HardwareConfig := { port := .str "COM3 (SIMULATED)" }

/-- The port that a choice selects, counted from one. -/
def chosenPort (ports : List String) (choice : Text) : Wizard (Option String) :=
  if isDigitText choice then
    (intAnswer choice).map fun n => if 1 ≤ n then ports[n - 1]? else none
  else .ok none

def setupHardwareConfig (env : Environment) (answers : Answers) : Wizard HardwareConfig :=
  if env.comPorts = [] then .ok simulatedHardware
  else
    (chosenPort env.comPorts ((ask answers).1.getD ['1'])).map fun
      | some port => { port := .str port, simulation := .bool false }
      | none => simulatedHardware

/-- The configuration that the wizards make of the answers. -/
def wizardConfig (env : Environment) (answers : Answers) : Wizard StartupConfig := do
  let (camera, rest) ← setupCameraConfig env answers
  let hardware ← setupHardwareConfig env rest
  return { camera, hardware }

/-! ## A start -/

/-- How `run` ends. -/
inductive StartOutcome
  | running (config : StartupConfig)
  /-- `sys.exit(1)`. -/
  | exited (issues : List String)
  | raised (error : PyError)
  /-- The `ValueError` of `int(text)`. -/
  | unreadable (text : Text)

/-- A saved profile can be shown: its mode is a string and its sources are a dictionary. -/
def showsProfile (config : StartupConfig) : Except PyError Unit :=
  match config.camera.mode, config.camera.sources with
  | .str _, .obj _ => .ok ()
  | _, _ => .error .attributeError

def acceptedAnswers : List Text := [[], ['y'], ['y', 'e', 's']]

/-- The answer to `Use previous configuration profile?`. -/
def usesProfile (answer : Option Text) : Bool :=
  answer.any fun text => text.map Char.toLower ∈ acceptedAnswers

/-- The wizard, from its first prompt on. -/
def runWizard (env : Environment) (answers : Answers) (file : Option Text) :
    StartOutcome × Option Text :=
  match wizardConfig env answers with
  | .error text => (.unreadable text, file)
  | .ok config =>
      let file := saveProfile config file env.writes
      match validate env config with
      | .error e => (.raised e, file)
      | .ok [] => (.running config, file)
      | .ok issues => (.exited issues, file)

/-- `StartupManager.run(interactive=True)`: how it ends, and the profile it leaves. -/
def run (env : Environment) (answers : Answers) (file : Option Text) :
    StartOutcome × Option Text :=
  match loadProfile file with
  | none => runWizard env answers file
  | some existing =>
      match showsProfile existing with
      | .error e => (.raised e, file)
      | .ok () =>
          let (answer, rest) := ask answers
          if usesProfile answer then
            match validate env existing with
            | .error e => (.raised e, file)
            | .ok [] => (.running existing, file)
            -- a profile with issues leads to the wizard
            | .ok _ => runWizard env rest file
          else runWizard env rest file

/-- `StartupManager.run(interactive=False)`, which does not look at the issues. -/
def runUnattended (env : Environment) (file : Option Text) : StartOutcome :=
  let config := (loadProfile file).getD {}
  match validate env config with
  | .error e => .raised e
  | .ok _ => .running config

end SmartTraffic.Startup
