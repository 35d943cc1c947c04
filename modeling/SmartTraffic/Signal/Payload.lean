import SmartTraffic.Lib.Json
import SmartTraffic.Lib.Binary64
import SmartTraffic.Signal.Keys

/-!
# Decision payloads

`SignalDecision.to_dict` and `SignalDecision.from_dict`. The encoder turns enums into
their values and rounds the two floats; the decoder takes any dictionary, has a default
for every key, and raises what `int`, `float` and the iteration over the red lanes raise.

A float is a rational, an infinity or a NaN, and a NaN counts as equal to itself. What
`round` and `float` make of a rational or an integer is the nearest double.
-/

namespace SmartTraffic

open Lib

/-- `Union[LaneName, str]`. -/
inductive Lane
  | name (lane : LaneName)
  | text (s : String)
  deriving DecidableEq, Repr

namespace Lane

/-- `lane.value if isinstance(lane, Enum) else str(lane)`. -/
def toStr : Lane → String
  | name lane => lane.value
  | text s => s

/-- `LaneName(s)`, and `s` itself where that raises a `ValueError`. -/
def ofStr (s : String) : Lane :=
  match LaneName.ofValue? s with
  | some lane => name lane
  | none => text s

/-- The lane itself, a string that spells the value of a `LaneName` counting as that value. -/
def canonical (lane : Lane) : Lane := ofStr lane.toStr

@[simp] theorem toStr_ofStr (s : String) : (ofStr s).toStr = s := by
  unfold ofStr
  cases h : LaneName.ofValue? s with
  | none => rfl
  | some lane =>
      have hvalue := List.find?_some h
      exact of_decide_eq_true hvalue

@[simp] theorem canonical_name (lane : LaneName) : (name lane).canonical = name lane := by
  cases lane <;> decide

/-- Only the spelling of a `LaneName` makes a string something else. -/
theorem canonical_text {s : String} (h : ∀ lane : LaneName, s ≠ lane.value) :
    (text s).canonical = text s := by
  unfold canonical ofStr toStr
  have hnone : LaneName.ofValue? s = none := by
    refine List.find?_eq_none.mpr fun lane _ => ?_
    simpa using (h lane).symm
  rw [hnone]

end Lane

namespace DecisionReason

def value : DecisionReason → String
  | normal => "NORMAL"
  | emergency => "EMERGENCY"
  | starvation => "STARVATION"
  | manualOverride => "MANUAL_OVERRIDE"

/-- `DecisionReason(value)`, or `none` for its `ValueError`. -/
def ofValue? (s : String) : Option DecisionReason :=
  [normal, emergency, starvation, manualOverride].find? (·.value = s)

@[simp] theorem ofValue?_value (reason : DecisionReason) : ofValue? reason.value = some reason := by
  cases reason <;> decide

end DecisionReason

/-- `round(x, d)`. -/
def Lib.JsonFloat.round (d : Nat) : JsonFloat → JsonFloat
  | .finite q => .finite (roundFloat d q)
  | x => x

/-- The float is what a decimal with at most `d` places is stored as, if it is a number at all. -/
def Lib.JsonFloat.HasDecimals (d : Nat) : JsonFloat → Prop
  | .finite q => ∃ n : Int, q = double (n / 10 ^ d)
  | _ => True

/-- The exceptions that decoding a payload can raise. -/
inductive PayloadError
  | valueError
  | typeError
  | overflowError
  deriving DecidableEq, Repr

/-- What `int` and `float` read from a text, and `str` of what is no string. -/
structure Conversions where
  intOfStr : String → Option Int
  floatOfStr : String → Option JsonFloat
  str : Json → String

namespace Conversions

variable (c : Conversions)

/-- `str(value)`. -/
def strOf : Json → String
  | .str s => s
  | j => c.str j

/-- `int(value)`. -/
def intOf : Json → Except PayloadError Int
  | .int n => .ok n
  | .bool b => .ok (if b then 1 else 0)
  | .float (.finite q) => .ok (truncate q)
  | .float (.infinity _) => .error .overflowError
  | .float .nan => .error .valueError
  | .str s => (c.intOfStr s).elim (.error .valueError) .ok
  | _ => .error .typeError

/-- `float(value)`. -/
def floatOf : Json → Except PayloadError JsonFloat
  | .float x => .ok x
  | .bool b => .ok (.finite (if b then 1 else 0))
  | .int n =>
      -- an integer that rounds to 2 ** 1024 or more does not fit a float
      if n.natAbs < 2 ^ 1024 - 2 ^ 970 then .ok (.finite (double n)) else .error .overflowError
  | .str s => (c.floatOfStr s).elim (.error .valueError) .ok
  | _ => .error .typeError

/-- `try: LaneName(value)`, `except ValueError: str(value)`. -/
def laneOf (value : Json) : Lane :=
  match value with
  | .str s => .ofStr s
  | j => .text (c.strOf j)

/-- `DecisionReason(value)`, with the normal reason for what is no value. -/
def reasonOf : Json → DecisionReason
  | .str s => (DecisionReason.ofValue? s).getD .normal
  | _ => .normal

/-- What a `for` loop over the value goes through. -/
def iterate : Json → Except PayloadError (List Json)
  | .arr items => .ok items
  | .str s => .ok (s.toList.map fun ch => .str (String.singleton ch))
  | .obj fields =>
      let data : Dict String Json := fields.foldl (fun d field => d.set field.1 field.2) ∅
      .ok (data.keys.map .str)
  | _ => .error .typeError

@[simp] theorem intOf_int (n : Int) : c.intOf (.int n) = .ok n := rfl

@[simp] theorem floatOf_float (x : JsonFloat) : c.floatOf (.float x) = .ok x := rfl

@[simp] theorem laneOf_str (s : String) : c.laneOf (.str s) = .ofStr s := rfl

@[simp] theorem strOf_str (s : String) : c.strOf (.str s) = s := rfl

@[simp] theorem iterate_arr (items : List Json) : iterate (.arr items) = .ok items := rfl

@[simp] theorem reasonOf_value (reason : DecisionReason) :
    reasonOf (.str reason.value) = reason := by
  cases reason <;> decide

end Conversions

/-- `SignalDecision`, with everything its annotations admit. -/
structure DecisionRecord where
  phaseId : Int
  greenLane : Lane
  greenDurationSec : Int
  yellowDurationSec : Int
  redLanes : List Lane
  priorityScore : JsonFloat
  reason : DecisionReason
  reasonDetails : String
  timestamp : JsonFloat
  deriving DecidableEq, Repr

namespace DecisionRecord

/-- `SignalDecision.to_dict`. -/
def toDict (d : DecisionRecord) : Dict String Json where
  items :=
    [ ("phase_id", .int d.phaseId),
      ("green_lane", .str d.greenLane.toStr),
      ("green_duration_sec", .int d.greenDurationSec),
      ("yellow_duration_sec", .int d.yellowDurationSec),
      ("red_lanes", .arr (d.redLanes.map fun r => .str r.toStr)),
      ("priority_score", .float (d.priorityScore.round 2)),
      ("reason", .str d.reason.value),
      ("reason_details", .str d.reasonDetails),
      ("timestamp", .float (d.timestamp.round 3)) ]
  nodup := by
    simp only [List.map_cons, List.map_nil]
    decide

/-- `SignalDecision.from_dict`; `now` is the clock that stands in for a missing timestamp. -/
def fromDict (c : Conversions) (now : JsonFloat) (data : Dict String Json) :
    Except PayloadError DecisionRecord := do
  let get (key : String) (default : Json) : Json := (data.get? key).getD default
  let greenLane := c.laneOf (get "green_lane" (.str "North"))
  let redLanes := (← Conversions.iterate (get "red_lanes" (.arr []))).map c.laneOf
  let reason := Conversions.reasonOf (get "reason" (.str "NORMAL"))
  let phaseId ← c.intOf (get "phase_id" (.int 1))
  let greenDurationSec ← c.intOf (get "green_duration_sec" (.int 10))
  let yellowDurationSec ← c.intOf (get "yellow_duration_sec" (.int 3))
  let priorityScore ← c.floatOf (get "priority_score" (.float (.finite 0)))
  let reasonDetails := c.strOf
    (get "reason_details" (get "decision_reason" (.str "Imported Decision")))
  let timestamp ← c.floatOf (get "timestamp" (.float now))
  return { phaseId, greenLane, greenDurationSec, yellowDurationSec, redLanes, priorityScore,
           reason, reasonDetails, timestamp }

/-- The decision with its lanes read as `LaneName` values where they spell one. -/
def canonical (d : DecisionRecord) : DecisionRecord :=
  { d with greenLane := d.greenLane.canonical, redLanes := d.redLanes.map Lane.canonical }

/-- The decision with its floats rounded as in the payload. -/
def rounded (d : DecisionRecord) : DecisionRecord :=
  { d with priorityScore := d.priorityScore.round 2, timestamp := d.timestamp.round 3 }

end DecisionRecord

/-! ## Rounding twice -/

namespace Lib.JsonFloat

/-- A decimal is rounded to itself, given where its doubles become coarser than it. -/
theorem round_of_hasDecimals {d : Nat} (k : Nat) (hfine : 10 ^ d * 2 ^ k < 2 ^ 53)
    (hcoarse : 2 ^ 52 < 10 ^ d * 2 ^ k) {x : JsonFloat} (h : x.HasDecimals d) : x.round d = x := by
  cases x with
  | finite q =>
      obtain ⟨n, rfl⟩ := h
      exact congrArg finite (roundFloat_double_decimal hfine hcoarse n)
  | infinity negative => rfl
  | nan => rfl

theorem round_hasDecimals (d : Nat) (x : JsonFloat) : (x.round d).HasDecimals d := by
  cases x with
  | finite q => exact ⟨roundHalfEven (q * 10 ^ d), rfl⟩
  | infinity negative => trivial
  | nan => trivial

/-- Two decimals are told apart up to `2 ^ 46`, and three up to `2 ^ 43`. -/
theorem round_two {x : JsonFloat} (h : x.HasDecimals 2) : x.round 2 = x :=
  round_of_hasDecimals 46 (by norm_num) (by norm_num) h

theorem round_three {x : JsonFloat} (h : x.HasDecimals 3) : x.round 3 = x :=
  round_of_hasDecimals 43 (by norm_num) (by norm_num) h

end Lib.JsonFloat

end SmartTraffic
