import SmartTraffic.Lib.Text
import SmartTraffic.Signal.Payload

/-!
# Who may operate the system, and with what settings

The operator's key, the direction in a path and the body of a configuration request, as the
REST routes check them, and the second check of the settings in `handle_command`.

The texts that are compared with ASCII words may be lowered letter by letter. A key that is
not Unicode, for which `encode` would raise, is left out.
-/

namespace SmartTraffic.Rest

open SmartTraffic Lib

/-! ## The operator's key -/

/-- `HTTPException(status, detail)`; what is raised otherwise is a 500. -/
structure HttpError where
  status : Nat
  detail : String
  deriving DecidableEq, Repr

/-- The two variables that `OperatorAuthManager` reads. -/
structure OperatorEnviron where
  /-- `OPERATOR_AUTH_MODE`. -/
  mode : Option Text := none
  /-- `OPERATOR_API_KEY`. -/
  apiKey : Option Text := none

namespace OperatorEnviron

/-- `mode == "required"`. -/
def isRequired (env : OperatorEnviron) : Bool :=
  (env.mode.map fun mode => (stripSpaces mode).map Char.toLower)
    = some ['r', 'e', 'q', 'u', 'i', 'r', 'e', 'd']

def key (env : OperatorEnviron) : Text := stripSpaces (env.apiKey.getD [])

/-- `validate_startup_configuration` does not raise. -/
def startsUp (env : OperatorEnviron) : Bool := !(env.isRequired && env.key = [])

/-- `verify`. -/
def verify (env : OperatorEnviron) (token : Option Text) : Except HttpError Unit :=
  let token := token.getD []
  if env.isRequired then
    if env.key = [] then
      .error ⟨500, "Server security misconfiguration: OPERATOR_API_KEY required"⟩
    else if stripSpaces token = [] ∨ stripSpaces token ≠ env.key then
      .error ⟨401, "Unauthorized: invalid or missing operator API key"⟩
    else .ok ()
  -- without a key or without a token anyone may go on
  else if env.key ≠ [] ∧ token ≠ [] ∧ stripSpaces token ≠ env.key then
    .error ⟨401, "Unauthorized: invalid operator API key"⟩
  else .ok ()

end OperatorEnviron

/-! ## The input of a route -/

def approaches : List Text :=
  [['n', 'o', 'r', 't', 'h'], ['s', 'o', 'u', 't', 'h'], ['e', 'a', 's', 't'], ['w', 'e', 's', 't']]

/-- `direction_value`. -/
def directionValue (direction : Text) : Except HttpError String :=
  let direction := direction.map Char.toLower
  if approaches.any fun approach => approach = direction then .ok (String.ofList direction)
  else .error ⟨422, "Choose north, south, east or west"⟩

/-- Settings in the range that both checks demand. -/
structure Settings where
  confidence : Rat
  minGreenSec : Int
  maxGreenSec : Int
  confidence_mem : 1 / 20 ≤ confidence ∧ confidence ≤ 19 / 20
  green_mem : 5 ≤ minGreenSec ∧ minGreenSec ≤ maxGreenSec ∧ maxGreenSec ≤ 120
  deriving DecidableEq

/-- What reading the settings can raise. -/
inductive SettingsError
  | keyError
  | payload (error : PayloadError)
  | outOfRange
  deriving DecidableEq, Repr

/-- `payload[key]`. -/
def item (payload : Dict String Json) (key : String) : Except SettingsError Json :=
  (payload.get? key).elim (.error .keyError) .ok

/-- The comparison of both checks. -/
def inRange (confidence : JsonFloat) (minimum maximum : Int) : Except SettingsError Settings :=
  match confidence with
  | .finite q =>
      if h : (1 / 20 ≤ q ∧ q ≤ 19 / 20) ∧ 5 ≤ minimum ∧ minimum ≤ maximum ∧ maximum ≤ 120 then
        .ok ⟨q, minimum, maximum, h.1, h.2⟩
      else .error .outOfRange
  -- a comparison with a NaN is false
  | _ => .error .outOfRange

/-- The settings in a payload, read and checked in the order of the code. -/
def settingsOf (c : Conversions) (payload : Dict String Json) : Except SettingsError Settings := do
  let confidence ← (c.floatOf (← item payload "confidenceThreshold")).mapError .payload
  let minimum ← (c.intOf (← item payload "minGreenTime")).mapError .payload
  let maximum ← (c.intOf (← item payload "maxGreenTime")).mapError .payload
  inRange confidence minimum maximum

/-- The error of `configure_system`; an `OverflowError` is not caught. -/
def configError : SettingsError → HttpError
  | .payload .overflowError => ⟨500, "Internal Server Error"⟩
  | _ =>
      ⟨422, "Confidence must be 0.05–0.95; green bounds must be 5 ≤ min ≤ max ≤ 120"⟩

end SmartTraffic.Rest
