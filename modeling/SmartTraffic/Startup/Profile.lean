import SmartTraffic.Lib.JsonText

/-!
# The startup profile

`StartupConfig`, its dictionary, and the file it is kept in between starts. Neither the
dictionary nor the file is checked for types when it is read: every field holds whatever
JSON value stands there.

A write of the profile happens whole or raises before the file is opened.
-/

namespace SmartTraffic.Startup

open SmartTraffic Lib

/-! ## The configuration -/

structure CameraConfig where
  mode : Json := .str "mobile"
  sources : Json := .obj []

structure HardwareConfig where
  port : Json := .null
  simulation : Json := .bool true
  baudrate : Json := .int 115200

structure RuntimeConfig where
  showDashboard : Json := .bool true
  saveOutputVideo : Json := .bool true
  saveLogs : Json := .bool true
  maxFps : Json := .int 30

structure DebugConfig where
  debugMode : Json := .bool false
  verboseLogging : Json := .bool true

structure StartupConfig where
  version : Json := .int 1
  camera : CameraConfig := {}
  hardware : HardwareConfig := {}
  runtime : RuntimeConfig := {}
  debug : DebugConfig := {}

namespace StartupConfig

/-- `to_dict`. -/
def toDict (c : StartupConfig) : Json :=
  .obj
    [ ("version", c.version),
      ("camera", .obj [("mode", c.camera.mode), ("sources", c.camera.sources)]),
      ("hardware", .obj
        [("port", c.hardware.port), ("simulation", c.hardware.simulation),
          ("baudrate", c.hardware.baudrate)]),
      ("runtime", .obj
        [("show_dashboard", c.runtime.showDashboard),
          ("save_output_video", c.runtime.saveOutputVideo),
          ("save_logs", c.runtime.saveLogs), ("max_fps", c.runtime.maxFps)]),
      ("debug", .obj
        [("debug_mode", c.debug.debugMode), ("verbose_logging", c.debug.verboseLogging)]) ]

end StartupConfig

/-- `data.get(key, default)`. -/
def getOr (data : Dict String Json) (key : String) (default : Json) : Json :=
  (data.get? key).getD default

/-- The dictionary on which a method is called, or the `AttributeError` of the call. -/
def asDict (data : Json) : Except PyError (Dict String Json) :=
  data.toDict.elim (.error .attributeError) .ok

def CameraConfig.fromDict (data : Json) : Except PyError CameraConfig :=
  (asDict data).map fun data =>
    { mode := getOr data "mode" (.str "mobile")
      sources := getOr data "sources" (.obj []) }

def HardwareConfig.fromDict (data : Json) : Except PyError HardwareConfig :=
  (asDict data).map fun data =>
    { port := getOr data "port" .null
      simulation := getOr data "simulation" (.bool true)
      baudrate := getOr data "baudrate" (.int 115200) }

def RuntimeConfig.fromDict (data : Json) : Except PyError RuntimeConfig :=
  (asDict data).map fun data =>
    { showDashboard := getOr data "show_dashboard" (.bool true)
      saveOutputVideo := getOr data "save_output_video" (.bool true)
      saveLogs := getOr data "save_logs" (.bool true)
      maxFps := getOr data "max_fps" (.int 30) }

def DebugConfig.fromDict (data : Json) : Except PyError DebugConfig :=
  (asDict data).map fun data =>
    { debugMode := getOr data "debug_mode" (.bool false)
      verboseLogging := getOr data "verbose_logging" (.bool true) }

def StartupConfig.fromDict (data : Dict String Json) : Except PyError StartupConfig := do
  let camera ← CameraConfig.fromDict (getOr data "camera" (getOr data "camera_config" (.obj [])))
  let hardware ← HardwareConfig.fromDict
    (getOr data "hardware" (getOr data "hardware_config" (.obj [])))
  let runtime ← RuntimeConfig.fromDict (getOr data "runtime" (.obj []))
  let debug ← DebugConfig.fromDict (getOr data "debug" (.obj []))
  return { version := getOr data "version" (.int 1), camera, hardware, runtime, debug }

/-! ## The file -/

/-- `value == CURRENT_PROFILE_VERSION`. -/
def isCurrentVersion : Json → Bool
  | .int n => n = 1
  | .bool b => b
  | .float x => x = .finite 1
  | _ => false

/-- The configuration in a text that is read as JSON; whatever is raised on the way is caught. -/
def configIn (data : Json) : Option StartupConfig :=
  data.toDict.bind fun data =>
    if isCurrentVersion (getOr data "version" (.int 1)) then (StartupConfig.fromDict data).toOption
    else none

/-- `load_profile`. -/
def loadProfile (file : Option Text) : Option StartupConfig :=
  file.bind fun text => if text = [] then none else (JsonText.loads text).bind configIn

/-- The text of a profile. -/
def profileText (config : StartupConfig) : Text :=
  JsonText.dumps (some 4) { config with version := .int 1 }.toDict

/-- `save_profile`, where writing succeeds or not. -/
def saveProfile (config : StartupConfig) (file : Option Text) (writes : Bool) : Option Text :=
  if writes then some (profileText config) else file

end SmartTraffic.Startup
