import SmartTraffic.Lib.Dict

/-!
# JSON values as Python handles them

What a decoded JSON value is, when it counts as true, what `a or b` and
`d.get(k)` yield, and which values can be looked up in a dictionary at all.

`Python` collects what is taken from Python's text functions and from pydantic's
field rules. The one law it carries is that a text of small ASCII letters is
lowered already.
-/

namespace SmartTraffic.Lib

/-- A number with a fraction or an exponent, or one of the constants `json.loads` accepts. -/
inductive JsonFloat
  | finite (q : Rat)
  | infinity (negative : Bool)
  | nan
  deriving DecidableEq, Repr

/-- A decoded JSON value. -/
inductive Json
  | null
  | bool (b : Bool)
  | int (n : Int)
  | float (x : JsonFloat)
  | str (s : String)
  | arr (items : List Json)
  | obj (fields : List (String × Json))

/-- The exceptions that reading a value can raise. -/
inductive PyError
  | typeError
  | attributeError
  | overflowError
  deriving DecidableEq, Repr

namespace Json

/-- `bool(value)`. -/
def truthy : Json → Bool
  | null => false
  | bool b => b
  | int n => n ≠ 0
  | float x => x ≠ .finite 0
  | str s => s ≠ ""
  | arr items => !items.isEmpty
  | obj fields => !fields.isEmpty

/-- `a or b`. -/
def orElse (a b : Json) : Json := if a.truthy then a else b

/-- `value == s` for a string `s`. -/
def isStr (s : String) : Json → Bool
  | str t => t = s
  | _ => false

/-- `value is None`. -/
def isNull : Json → Bool
  | null => true
  | _ => false

/-- A string or `None`: what a pydantic field of type `Optional[str]` accepts. -/
def isOptStr : Json → Bool
  | null => true
  | str _ => true
  | _ => false

/-- `hash(value)` does not raise. -/
def hashable : Json → Bool
  | arr _ => false
  | obj _ => false
  | _ => true

/-- The dictionary of an object: a repeated key keeps its first place and its last value. -/
def toDict : Json → Option (Dict String Json)
  | obj fields => some (fields.foldl (fun d field => d.set field.1 field.2) ∅)
  | _ => none

/-- `isinstance(value, (float, int)) and math.isfinite(value)`. -/
def isFiniteNumber : Json → Except PyError Bool
  | bool _ => .ok true
  | int n =>
      -- an integer that rounds to 2 ** 1024 or more does not fit a float
      if n.natAbs < 2 ^ 1024 - 2 ^ 970 then .ok true else .error .overflowError
  | float (.finite _) => .ok true
  | _ => .ok false

theorem isStr_iff {s : String} {j : Json} : j.isStr s = true ↔ j = .str s := by
  cases j with
  | str t =>
      exact ⟨fun h => congrArg str (of_decide_eq_true h), fun h => by simp [isStr, str.inj h]⟩
  | _ => exact ⟨fun h => absurd h Bool.false_ne_true, fun h => nomatch h⟩

end Json

/-- `d.get(k)`. -/
def Dict.getJson (d : Dict String Json) (k : String) : Json := (d.get? k).getD .null

/-- Looking up a value in a dictionary with string keys. -/
def Dict.lookupJson {V : Type} (d : Dict String V) (k : Json) : Except PyError (Option V) :=
  match k with
  | .str s => .ok (d.get? s)
  | k => if k.hashable then .ok none else .error .typeError

/-- What looking up a value finds, it finds under a string. -/
theorem Dict.lookupJson_eq_some {V : Type} {d : Dict String V} {k : Json} {v : V}
    (h : d.lookupJson k = .ok (some v)) : ∃ s, k = .str s ∧ d.get? s = some v := by
  cases k with
  | str s => exact ⟨s, rfl, Except.ok.inj h⟩
  | _ => simp [Dict.lookupJson, Json.hashable] at h

theorem Dict.getJson_set_self (d : Dict String Json) (k : String) (j : Json) :
    (d.set k j).getJson k = j := by
  unfold Dict.getJson; rw [Dict.get?_set_self]; rfl

theorem Dict.getJson_set_of_ne (d : Dict String Json) {k k' : String} (j : Json) (h : k' ≠ k) :
    (d.set k j).getJson k' = d.getJson k' := by
  unfold Dict.getJson; rw [Dict.get?_set_of_ne d j h]

/-- Python's `str.lower`, `str.upper`, `str.capitalize`, and what pydantic makes of a value. -/
structure Python where
  lower : String → String
  lower_ascii : ∀ s : String, (∀ c ∈ s.toList, 'a' ≤ c ∧ c ≤ 'z') → lower s = s
  upper : String → String
  capitalize : String → String
  /-- `str(value)` for a value that is not a string. -/
  str : Json → String
  /-- pydantic accepts the value for a field of type `float`. -/
  readsFloat : Json → Bool
  /-- The text of the validation error for a payload that is turned down. -/
  validationError : Dict String Json → String

/-- `str(value)`. -/
def Python.strOf (py : Python) : Json → String
  | .str s => s
  | j => py.str j

end SmartTraffic.Lib
