import SmartTraffic.Lib.Json
import SmartTraffic.Lib.Rounding

/-!
# The vehicle detector

`VehicleDetector`: which classes of the model it keeps, and `_convert`, which makes
detections of the boxes the model returns. What the model itself does with an image is an
input. Its class names are ASCII, and the id of a class is an integer.
-/

namespace SmartTraffic

open Lib

/-! ## Classes -/

/-- `TARGET_CLASS_NAMES`. -/
def targetClassNames : List String :=
  ["bicycle", "car", "motorcycle", "bus", "truck", "hatchback", "sedan", "suv", "muv",
    "three-wheeler", "two-wheeler", "lcv", "mini-bus", "tempo-traveller", "van", "other"]

/-- `value.strip()`. -/
def strip (value : String) : String :=
  String.ofList ((value.toList.dropWhile Char.isWhitespace).reverse.dropWhile
    Char.isWhitespace).reverse

/-- `normalize_vehicle_class`. -/
def normalizeVehicleClass (value : String) : String :=
  let normalized := (strip value).toLower.map fun c => if c = '_' ∨ c = ' ' then '-' else c
  match normalized with
  | "2-wheeler" => "two-wheeler"
  | "3-wheeler" => "three-wheeler"
  | "minibus" => "mini-bus"
  | "tempo-traveler" => "tempo-traveller"
  | name => name

/-- `VehicleDetector`, for its classes: each is a supported one. -/
structure VehicleDetector where
  vehicleClasses : Dict Int String
  supported : ∀ classId className, vehicleClasses.get? classId = some className →
    className ∈ targetClassNames

/-- The entries of `model.names` that name a supported class. -/
def supportedClasses (names : List (Int × String)) : Dict Int String :=
  names.foldl (fun d (classId, className) =>
    if normalizeVehicleClass className ∈ targetClassNames then
      d.set classId (normalizeVehicleClass className)
    else d) ∅

theorem supportedClasses_supported (names : List (Int × String)) {classId : Int}
    {className : String} (h : (supportedClasses names).get? classId = some className) :
    className ∈ targetClassNames := by
  have hfold : ∀ (names : List (Int × String)) (d : Dict Int String),
      (∀ classId className, d.get? classId = some className → className ∈ targetClassNames) →
      ∀ classId className, (names.foldl (fun d (classId, className) =>
        if normalizeVehicleClass className ∈ targetClassNames then
          d.set classId (normalizeVehicleClass className)
        else d) d).get? classId = some className → className ∈ targetClassNames := by
    intro names
    induction names with
    | nil => intro d hd; exact hd
    | cons item names ih =>
        intro d hd
        obtain ⟨id, name⟩ := item
        rw [List.foldl_cons]
        refine ih _ fun classId className hget => ?_
        dsimp only at hget
        split_ifs at hget with hname
        · by_cases hid : classId = id
          · subst hid
            rw [Dict.get?_set_self] at hget
            obtain rfl := Option.some.inj hget
            exact hname
          · rw [Dict.get?_set_of_ne _ _ hid] at hget
            exact hd classId className hget
        · exact hd classId className hget
  have hempty : ∀ classId className, (∅ : Dict Int String).get? classId = some className →
      className ∈ targetClassNames := by
    intro classId className hget
    cases hget
  exact hfold names ∅ hempty classId className h

/-- The constructor; `none` is its `ValueError`. -/
def VehicleDetector.ofNames (names : List (Int × String)) : Option VehicleDetector :=
  if (supportedClasses names).items = [] then none
  else some ⟨supportedClasses names, fun _ _ h => supportedClasses_supported names h⟩

/-- **The constructor raises exactly if the model names no supported class.** -/
theorem VehicleDetector.ofNames_eq_none_iff (names : List (Int × String)) :
    VehicleDetector.ofNames names = none
      ↔ ∀ item ∈ names, normalizeVehicleClass item.2 ∉ targetClassNames := by
  have hfold : ∀ (names : List (Int × String)) (d : Dict Int String),
      (names.foldl (fun d (classId, className) =>
        if normalizeVehicleClass className ∈ targetClassNames then
          d.set classId (normalizeVehicleClass className)
        else d) d).items = []
        ↔ d.items = [] ∧ ∀ item ∈ names, normalizeVehicleClass item.2 ∉ targetClassNames := by
    intro names
    induction names with
    | nil => intro d; simp
    | cons item names ih =>
        intro d
        rw [List.foldl_cons, ih, List.forall_mem_cons]
        dsimp only
        by_cases hname : normalizeVehicleClass item.2 ∈ targetClassNames
        · -- the class stays in the dictionary
          have hne : (d.set item.1 (normalizeVehicleClass item.2)).items ≠ [] := by
            have hmem := (Dict.mem_items_iff _).mpr
              (Dict.get?_set_self d item.1 (normalizeVehicleClass item.2))
            exact List.ne_nil_of_mem hmem
          rw [if_pos hname]
          exact iff_of_false (fun h => hne h.1) fun h => h.2.1 hname
        · rw [if_neg hname]
          exact and_congr_right fun _ => ⟨fun h => ⟨hname, h⟩, fun h => h.2⟩
  unfold ofNames
  rw [ite_eq_left_iff]
  have hempty := hfold names ∅
  unfold supportedClasses
  constructor
  · intro h
    by_contra hno
    have hne := mt hempty.mp fun h' => hno h'.2
    cases h hne
  · intro h hne
    exact absurd (hempty.mpr ⟨rfl, h⟩) hne

/-! ## Boxes -/

/-- A Python float. -/
abbrev PyFloat := JsonFloat

/-- A box of the model. -/
structure ModelBox where
  cls : Int
  conf : PyFloat
  x1 : PyFloat
  y1 : PyFloat
  x2 : PyFloat
  y2 : PyFloat
  deriving DecidableEq, Repr

/-- The `Detection` that `_convert` makes, as far as it sets fields. -/
structure RawDetection where
  className : String
  classId : Int
  confidence : Rat
  /-- `(x1, y1, x2, y2)`. -/
  bbox : Int × Int × Int × Int
  frameNumber : Int
  timestamp : Rat
  deriving DecidableEq, Repr

/-- `np.clip(q, 0, limit)`. -/
def clip (limit : Nat) (q : Rat) : Rat := min (max q 0) limit

namespace VehicleDetector

/-- One round of the loop: the detection of a box, unless it is skipped. -/
def convertBox (d : VehicleDetector) (width height : Nat) (frameNumber : Int) (timestamp : Rat)
    (box : ModelBox) : Option RawDetection :=
  match d.vehicleClasses.get? box.cls, box.conf with
  | some className, .finite confidence =>
      match box.x1, box.y1, box.x2, box.y2 with
      | .finite x1, .finite y1, .finite x2, .finite y2 =>
          if clip width x2 ≤ clip width x1 ∨ clip height y2 ≤ clip height y1 then none
          else
            some
              { className := className
                classId := box.cls
                confidence := confidence
                bbox := (truncate (clip width x1), truncate (clip height y1),
                  truncate (clip width x2), truncate (clip height y2))
                frameNumber := frameNumber
                timestamp := timestamp }
      | _, _, _, _ => none
  | _, _ => none

/-- `_convert`; `boxes` is `None` for a result without any. -/
def convert (d : VehicleDetector) (width height : Nat) (frameNumber : Int) (timestamp : Rat)
    (boxes : Option (List ModelBox)) : List RawDetection :=
  (boxes.getD []).foldl (fun detections box =>
    match d.convertBox width height frameNumber timestamp box with
    | none => detections
    | some detection => detections ++ [detection]) []

/-- The loop keeps the detections of its boxes. -/
theorem convert_eq (d : VehicleDetector) (width height : Nat) (frameNumber : Int)
    (timestamp : Rat) (boxes : Option (List ModelBox)) :
    d.convert width height frameNumber timestamp boxes
      = (boxes.getD []).filterMap (d.convertBox width height frameNumber timestamp) := by
  have hfold : ∀ (boxes : List ModelBox) (detections : List RawDetection),
      boxes.foldl (fun detections box =>
        match d.convertBox width height frameNumber timestamp box with
        | none => detections
        | some detection => detections ++ [detection]) detections
      = detections ++ boxes.filterMap (d.convertBox width height frameNumber timestamp) := by
    intro boxes
    induction boxes with
    | nil => intro detections; simp
    | cons box boxes ih =>
        intro detections
        rw [List.foldl_cons, ih, List.filterMap_cons]
        cases d.convertBox width height frameNumber timestamp box with
        | none => rfl
        | some detection => simp
  exact hfold (boxes.getD []) []

end VehicleDetector

end SmartTraffic
