import SmartTraffic.Evaluation.Evaluator
import SmartTraffic.Lib.Decimal

/-!
# Datasets

`convert_split` turns a COCO release into one label file for each image;
`DatasetLoader.load_coco_json` and `DatasetLoader.load_yolo_txt` read the one and the other as
annotations.

A COCO document is what `json.load` has made of it: its ids are integers and its boxes have
four numbers. Where the image of a document lies in the release is an input, and so is
whether a file exists. Class names are ASCII.
-/

namespace SmartTraffic

open Lib

/-- The exceptions of the converter and of the loaders. -/
inductive DatasetError
  | fileNotFound
  | unexpectedCategories (unknown : List String)
  | keyError (key : String)
  | zeroDivision
  | valueError
  deriving DecidableEq, Repr

/-! ## COCO documents -/

structure CocoCategory where
  id : Int
  name : String
  deriving DecidableEq, Repr

structure CocoImage where
  id : Int
  fileName : Option String
  width : Rat
  height : Rat
  deriving DecidableEq, Repr

structure CocoAnnotation where
  imageId : Int
  categoryId : Int
  /-- `[x, y, width, height]`. -/
  bbox : Rat × Rat × Rat × Rat
  isCrowd : Bool := false
  deriving DecidableEq, Repr

structure Coco where
  categories : List CocoCategory
  images : List CocoImage
  annotations : List CocoAnnotation
  deriving DecidableEq, Repr

/-- `{key(x): value(x) for x in items}`. -/
def dictBy {A K V : Type} [DecidableEq K] (key : A → K) (value : A → V) (items : List A) :
    Dict K V :=
  items.foldl (fun d x => d.set (key x) (value x)) ∅

/-! ## The loaders -/

namespace DatasetLoader

/-- `categories`. -/
def categoriesOf (data : Coco) : Dict Int String := dictBy (·.id) (·.name) data.categories

/-- `images`. -/
def imagesOf (data : Coco) : Dict Int String :=
  dictBy (·.id) (fun img => img.fileName.getD (toString img.id)) data.images

/-- The body of the loop of `load_coco_json`. -/
def loadAnn (data : Coco) (ann : CocoAnnotation) : GroundTruthAnnotation where
  imageId := ((imagesOf data).get? ann.imageId).getD (toString ann.imageId)
  classId := ann.categoryId
  className := ((categoriesOf data).get? ann.categoryId).getD (toString ann.categoryId)
  bbox := (roundHalfEven ann.bbox.1, roundHalfEven ann.bbox.2.1,
    roundHalfEven (ann.bbox.1 + ann.bbox.2.2.1), roundHalfEven (ann.bbox.2.1 + ann.bbox.2.2.2))
  isCrowd := ann.isCrowd

/-- `load_coco_json`. -/
def loadCocoJson : Option Coco → Except DatasetError (List GroundTruthAnnotation)
  | none => .error .fileNotFound
  | some data => .ok (data.annotations.map (loadAnn data))

/-- `class_mapping.get(cls_id, str(cls_id)) if class_mapping else str(cls_id)`. -/
def classNameOf (classMapping : Option (Dict Int String)) (clsId : Int) : String :=
  match classMapping with
  | some mapping => (mapping.get? clsId).getD (toString clsId)
  | none => toString clsId

/-- The annotation of five numbers. -/
def annotationOf (imageId : String) (imageWidth imageHeight : Int)
    (classMapping : Option (Dict Int String)) (clsId : Int) (p₁ p₂ p₃ p₄ : Rat) :
    GroundTruthAnnotation :=
  let xc := p₁ * imageWidth
  let yc := p₂ * imageHeight
  let w := p₃ * imageWidth
  let h := p₄ * imageHeight
  { imageId := imageId
    classId := clsId
    className := classNameOf classMapping clsId
    bbox := (roundHalfEven (xc - w / 2), roundHalfEven (yc - h / 2),
      roundHalfEven (xc + w / 2), roundHalfEven (yc + h / 2)) }

/-- The body of the loop of `load_yolo_txt`: a line with fewer than five parts is skipped. An
infinity or a NaN raises when it is rounded. -/
def loadLine (imageId : String) (imageWidth imageHeight : Int)
    (classMapping : Option (Dict Int String)) (line : Text) :
    Except DatasetError (Option GroundTruthAnnotation) :=
  match words (stripSpaces line) with
  | part₀ :: part₁ :: part₂ :: part₃ :: part₄ :: _ =>
      match readInt part₀, readFloat part₁, readFloat part₂, readFloat part₃, readFloat part₄ with
      | some clsId, some p₁, some p₂, some p₃, some p₄ =>
          .ok (some (annotationOf imageId imageWidth imageHeight classMapping clsId p₁ p₂ p₃ p₄))
      | _, _, _, _, _ => .error .valueError
  | _ => .ok none

/-- `load_yolo_txt`; a file that does not exist has no annotations. -/
def loadYoloTxt (annotationFile : Option Text) (imageId : String) (imageWidth imageHeight : Int)
    (classMapping : Option (Dict Int String)) :
    Except DatasetError (List GroundTruthAnnotation) :=
  match annotationFile with
  | none => .ok []
  | some text => ((fileLines text).mapM (loadLine imageId imageWidth imageHeight classMapping)).map
      List.reduceOption

end DatasetLoader

/-! ## The converter -/

/-- `CLASSES`. -/
def classes : List String :=
  ["hatchback", "sedan", "suv", "muv", "bus", "truck", "three-wheeler",
    "two-wheeler", "lcv", "mini-bus", "tempo-traveller", "bicycle", "van", "other"]

/-- The `names` of `traffic.yaml`: `CLASSES` by index. -/
def classMapping : Dict Int String := dictBy (fun item => (item.2 : Int)) (·.1) classes.zipIdx

/-- `aliases`. -/
def aliases : List (String × String) :=
  [("3-wheeler", "three-wheeler"), ("2-wheeler", "two-wheeler"), ("minibus", "mini-bus"),
    ("tempo-traveller", "tempo-traveller"), ("tempo-traveler", "tempo-traveller")]

/-- `canonical_name`. -/
def canonicalName (value : String) : String :=
  let normalized := String.ofList (((stripSpaces value.toList).map Char.toLower).map
    fun c => if c = '_' ∨ c = ' ' then '-' else c)
  (aliases.lookup normalized).getD normalized

/-- `category_names`. -/
def categoryNames (coco : Coco) : Dict Int String :=
  dictBy (·.id) (fun item => canonicalName item.name) coco.categories

/-- `f"{class_index[name]} {cx:.8f} {cy:.8f} {w / width:.8f} {h / height:.8f}"`. -/
def labelText (name : String) (width height x y w h : Rat) : Text :=
  List.intercalate [' '] [natText (classes.idxOf name), fixed 8 ((x + w / 2) / width),
    fixed 8 ((y + h / 2) / height), fixed 8 (w / width), fixed 8 (h / height)]

/-- The body of the loop over the boxes of an image: an empty box has no line. -/
def labelLine (names : Dict Int String) (width height : Rat) (box : CocoAnnotation) :
    Except DatasetError (Option Text) :=
  if box.bbox.2.2.1 ≤ 0 ∨ box.bbox.2.2.2 ≤ 0 then .ok none
  else
    match names.get? box.categoryId with
    | none => .error (.keyError (toString box.categoryId))
    | some name =>
        if width = 0 ∨ height = 0 then .error .zeroDivision
        else .ok (some (labelText name width height box.bbox.1 box.bbox.2.1 box.bbox.2.2.1
          box.bbox.2.2.2))

/-- The body of the loop over the images: where the image lies, and its lines. -/
def convertImage (resolve : String → Option String) (names : Dict Int String)
    (annotations : Dict Int (List CocoAnnotation)) (image : CocoImage) :
    Except DatasetError (String × List Text) :=
  match image.fileName with
  | none => .error (.keyError "file_name")
  | some fileName =>
      match resolve fileName with
      | none => .error .fileNotFound
      | some relative =>
          (((annotations.get? image.id).getD []).mapM
            (labelLine names image.width image.height)).map
            fun lines => (relative, lines.reduceOption)

/-- The label files by the place of their image, and what `convert_split` returns. -/
structure Conversion where
  labels : List (String × Text)
  images : Nat
  boxes : Nat
  deriving DecidableEq, Repr

/-- `convert_split`. -/
def convertSplit (resolve : String → Option String) :
    Option Coco → Except DatasetError Conversion
  | none => .error .fileNotFound
  | some coco =>
      let names := categoryNames coco
      let unknown := ((names.values.filter (· ∉ classes)).dedup).insertionSort (· ≤ ·)
      if unknown ≠ [] then .error (.unexpectedCategories unknown)
      else
        (coco.images.mapM (convertImage resolve names
          (groupBy (·.imageId) coco.annotations))).map fun files =>
            { labels := files.map fun file => (file.1, joinLines file.2)
              images := coco.images.length
              boxes := (files.map fun file => file.2.length).sum }

end SmartTraffic
