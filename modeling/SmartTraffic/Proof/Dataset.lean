import SmartTraffic.Evaluation.Dataset
import SmartTraffic.Lib.Raising

/-!
# Dataset conversion round-trips

A label line holds the centre and the size of a box as fractions of the image, with eight
decimals. In an image of up to a million pixels a side, the error of a fraction is at most a
half of a hundredth of a pixel, and that of an edge three quarters of a hundredth: rounding an
edge to pixels finds the integer it came from, wherever the box is.
-/

namespace SmartTraffic.Proof

open SmartTraffic Lib DatasetLoader

/-! ## Edges -/

section

variable {W : Nat} (hpos : 1 ≤ W) (hmax : W ≤ 10 ^ 6)
include hmax

/-- A fraction of the image, written and read back, is off by half a hundredth of a pixel. -/
theorem abs_roundDigits_mul_sub_le (q : Rat) : |roundDigits 8 q * W - q * W| ≤ 1 / 200 := by
  have hWmax : (W : Rat) ≤ 10 ^ 6 := by exact_mod_cast hmax
  have hW : (0 : Rat) ≤ W := Nat.cast_nonneg W
  rw [← sub_mul, abs_mul, abs_of_nonneg hW]
  calc |roundDigits 8 q - q| * W ≤ 1 / 2 / 10 ^ 8 * 10 ^ 6 := by
        gcongr
        exact abs_roundDigits_sub_le 8 q
    _ = 1 / 200 := by norm_num

include hpos

/-- **Both edges are found again.** -/
theorem edges_roundtrip (x w : Int) :
    roundHalfEven (roundDigits 8 (((x : Rat) + w / 2) / W) * W
        - roundDigits 8 ((w : Rat) / W) * W / 2) = x
      ∧ roundHalfEven (roundDigits 8 (((x : Rat) + w / 2) / W) * W
        + roundDigits 8 ((w : Rat) / W) * W / 2) = x + w := by
  have hW : (W : Rat) ≠ 0 := by
    have hne : W ≠ 0 := by omega
    exact_mod_cast hne
  have hcentre := abs_roundDigits_mul_sub_le hmax (((x : Rat) + w / 2) / W)
  have hsize := abs_roundDigits_mul_sub_le hmax ((w : Rat) / W)
  rw [div_mul_cancel₀ _ hW, abs_le] at hcentre hsize
  constructor
  · refine roundHalfEven_eq_of_abs_lt ?_
    rw [abs_lt]
    constructor <;> linarith
  · refine roundHalfEven_eq_of_abs_lt ?_
    push_cast
    rw [abs_lt]
    constructor <;> linarith

end

/-! ## A line -/

theorem isWord_parts (name : String) (width height x y w h : Rat) :
    ∀ part ∈ [natText (classes.idxOf name), fixed 8 ((x + w / 2) / width),
      fixed 8 ((y + h / 2) / height), fixed 8 (w / width), fixed 8 (h / height)],
      IsWord part := by
  intro part hpart
  simp only [List.mem_cons, List.not_mem_nil, or_false] at hpart
  rcases hpart with rfl | rfl | rfl | rfl | rfl
  · exact isWord_natText _
  · exact isWord_fixed _ _
  · exact isWord_fixed _ _
  · exact isWord_fixed _ _
  · exact isWord_fixed _ _

theorem isLine_labelText (name : String) (width height x y w h : Rat) :
    IsLine (labelText name width height x y w h) :=
  isLine_intercalate (isWord_parts name width height x y w h)

/-- The words of a line. -/
theorem words_labelText (name : String) (width height x y w h : Rat) :
    words (stripSpaces (labelText name width height x y w h))
      = [natText (classes.idxOf name), fixed 8 ((x + w / 2) / width),
        fixed 8 ((y + h / 2) / height), fixed 8 (w / width), fixed 8 (h / height)] := by
  rw [words_stripSpaces]
  exact words_intercalate (isWord_parts name width height x y w h)

/-- The numbers of a line, read back. -/
theorem loadLine_labelText (imageId : String) (W H : Int)
    (mapping : Option (Dict Int String)) (name : String) (width height x y w h : Rat) :
    loadLine imageId W H mapping (labelText name width height x y w h)
      = .ok (some (annotationOf imageId W H mapping (classes.idxOf name)
        (roundDigits 8 ((x + w / 2) / width)) (roundDigits 8 ((y + h / 2) / height))
        (roundDigits 8 (w / width)) (roundDigits 8 (h / height)))) := by
  have hdecimals : 0 < 8 := by omega
  unfold loadLine
  rw [words_labelText]
  dsimp only
  rw [readInt_natText, readFloat_fixed hdecimals, readFloat_fixed hdecimals,
    readFloat_fixed hdecimals, readFloat_fixed hdecimals]

theorem classNameOf_idxOf : ∀ name ∈ classes,
    classNameOf (some classMapping) (classes.idxOf name) = name := by
  decide +kernel

/-! ## Boxes -/

/-- A box with integer coordinates. -/
def IsIntegral (box : CocoAnnotation) : Prop :=
  ∃ x y w h : Int, box.bbox = ((x : Rat), (y : Rat), (w : Rat), (h : Rat))

/-- A box with a positive width and height; another one has no line. -/
def IsProper (box : CocoAnnotation) : Prop := 0 < box.bbox.2.2.1 ∧ 0 < box.bbox.2.2.2

instance (box : CocoAnnotation) : Decidable (IsProper box) := inferInstanceAs (Decidable (_ ∧ _))

/-- What a line reads back as: the annotation of the document, under the canonical class. -/
def reread (data : Coco) (imageId : String) (box : CocoAnnotation) : GroundTruthAnnotation where
  imageId := imageId
  classId := classes.idxOf (canonicalName (loadAnn data box).className)
  className := canonicalName (loadAnn data box).className
  bbox := (loadAnn data box).bbox

theorem get?_categoryNames (data : Coco) (id : Int) :
    (categoryNames data).get? id = ((categoriesOf data).get? id).map canonicalName := by
  unfold categoryNames categoriesOf dictBy
  induction data.categories using List.reverseRecOn with
  | nil => rfl
  | append_singleton categories category ih =>
      rw [List.foldl_append, List.foldl_append, List.foldl_cons, List.foldl_cons, List.foldl_nil,
        List.foldl_nil, Dict.get?_set, Dict.get?_set, ih]
      split_ifs <;> rfl

/-- What a line and its absence say. -/
theorem labelLine_eq_ok {names : Dict Int String} {width height : Rat} {box : CocoAnnotation}
    {line : Option Text} (h : labelLine names width height box = .ok line) :
    (¬IsProper box ∧ line = none) ∨ (IsProper box ∧ ∃ name, names.get? box.categoryId = some name
      ∧ line = some (labelText name width height box.bbox.1 box.bbox.2.1 box.bbox.2.2.1
        box.bbox.2.2.2)) := by
  unfold labelLine at h
  by_cases hempty : box.bbox.2.2.1 ≤ 0 ∨ box.bbox.2.2.2 ≤ 0
  · rw [if_pos hempty] at h
    refine Or.inl ⟨fun hproper => ?_, (Except.ok.inj h).symm⟩
    rcases hempty with hw | hh
    · exact absurd hproper.1 (not_lt.mpr hw)
    · exact absurd hproper.2 (not_lt.mpr hh)
  · rw [if_neg hempty] at h
    rw [not_or, not_le, not_le] at hempty
    refine Or.inr ⟨hempty, ?_⟩
    cases hname : names.get? box.categoryId with
    | none =>
        rw [hname] at h
        cases h
    | some name =>
        rw [hname] at h
        dsimp only at h
        split_ifs at h
        exact ⟨name, rfl, (Except.ok.inj h).symm⟩

/-- A category that the converter knows, the loader knows by its original name. -/
theorem className_loadAnn {data : Coco} {box : CocoAnnotation} {name : String}
    (h : (categoryNames data).get? box.categoryId = some name) :
    (categoriesOf data).get? box.categoryId = some (loadAnn data box).className
      ∧ canonicalName (loadAnn data box).className = name := by
  rw [get?_categoryNames, Option.map_eq_some_iff] at h
  obtain ⟨original, horiginal, rfl⟩ := h
  unfold loadAnn
  rw [horiginal]
  exact ⟨rfl, rfl⟩

/-- **The line of a box reads back as the box.** -/
theorem loadLine_labelLine {data : Coco} {W H : Nat} (hW : 1 ≤ W ∧ W ≤ 10 ^ 6)
    (hH : 1 ≤ H ∧ H ≤ 10 ^ 6) {box : CocoAnnotation} (hbox : IsIntegral box) {name : String}
    (hname : (categoryNames data).get? box.categoryId = some name) (hknown : name ∈ classes)
    (imageId : String) :
    loadLine imageId W H (some classMapping)
        (labelText name W H box.bbox.1 box.bbox.2.1 box.bbox.2.2.1 box.bbox.2.2.2)
      = .ok (some (reread data imageId box)) := by
  obtain ⟨x, y, w, h, hbbox⟩ := hbox
  have hclass := (className_loadAnn hname).2
  have hpixels : (loadAnn data box).bbox = (x, y, x + w, y + h) := by
    unfold loadAnn
    dsimp only
    rw [hbbox]
    dsimp only
    rw [← Int.cast_add, ← Int.cast_add, roundHalfEven_intCast, roundHalfEven_intCast,
      roundHalfEven_intCast, roundHalfEven_intCast]
  obtain ⟨hleft, hright⟩ := edges_roundtrip hW.1 hW.2 x w
  obtain ⟨htop, hbottom⟩ := edges_roundtrip hH.1 hH.2 y h
  rw [loadLine_labelText, hbbox]
  unfold annotationOf reread
  rw [hclass, hpixels, classNameOf_idxOf _ hknown]
  dsimp only
  rw [Int.cast_natCast, Int.cast_natCast, hleft, hright, htop, hbottom]

/-! ## The label file of an image -/

/-- A line and the box it stands for. -/
def LineOf (names : Dict Int String) (width height : Rat) (box : CocoAnnotation) (line : Text) :
    Prop :=
  ∃ name, names.get? box.categoryId = some name
    ∧ line = labelText name width height box.bbox.1 box.bbox.2.1 box.bbox.2.2.1 box.bbox.2.2.2

/-- The boxes of an image that have a line. -/
def keptBoxes (data : Coco) (image : CocoImage) : List CocoAnnotation :=
  (data.annotations.filter fun box => decide (box.imageId = image.id)).filter
    fun box => decide (IsProper box)

/-- **Each box that is kept has its line**, in the order of the boxes. -/
theorem lines_of_boxes {names : Dict Int String} {width height : Rat}
    {boxes : List CocoAnnotation} {rows : List (Option Text)}
    (h : List.Forall₂ (fun box row => labelLine names width height box = .ok row) boxes rows) :
    List.Forall₂ (LineOf names width height) (boxes.filter fun box => decide (IsProper box))
      rows.reduceOption := by
  induction h with
  | nil => exact List.Forall₂.nil
  | cons hbox _ ih =>
      rcases labelLine_eq_ok hbox with ⟨hempty, rfl⟩ | ⟨hproper, name, hname, rfl⟩
      · rw [List.filter_cons_of_neg (by simpa using hempty), List.reduceOption_cons_of_none]
        exact ih
      · rw [List.filter_cons_of_pos (by simpa using hproper), List.reduceOption_cons_of_some]
        exact List.Forall₂.cons ⟨name, hname, rfl⟩ ih

/-- No category is unexpected. -/
theorem unknown_eq_nil_iff {names : Dict Int String} :
    ((names.values.filter (· ∉ classes)).dedup).insertionSort (· ≤ ·) = []
      ↔ ∀ id name, names.get? id = some name → name ∈ classes := by
  rw [List.eq_nil_iff_forall_not_mem]
  simp only [List.mem_insertionSort, List.mem_dedup, List.mem_filter, Dict.mem_values_iff,
    decide_eq_true_eq, not_and, not_not]
  constructor
  · intro h id name hname
    exact h name ⟨id, hname⟩
  · rintro h name ⟨id, hname⟩
    exact h id name hname

/-- What `convert_split` has written for an image. -/
theorem convertSplit_image {resolve : String → Option String} {data : Coco} {c : Conversion}
    (h : convertSplit resolve (some data) = .ok c) {image : CocoImage}
    (himage : image ∈ data.images) :
    (∀ id name, (categoryNames data).get? id = some name → name ∈ classes)
      ∧ ∃ relative lines, image.fileName.bind resolve = some relative
        ∧ (relative, joinLines lines) ∈ c.labels
        ∧ List.Forall₂ (LineOf (categoryNames data) image.width image.height)
          (keptBoxes data image) lines := by
  unfold convertSplit at h
  dsimp only at h
  split_ifs at h with hunknown
  -- every category is known, so the images are converted one by one
  obtain ⟨files, hfiles, rfl⟩ := map_eq_ok h
  rw [mapM_eq_ok_iff] at hfiles
  obtain ⟨file, hfile, hconvert⟩ := exists_of_forall₂ hfiles himage
  refine ⟨unknown_eq_nil_iff.mp (not_ne_iff.mp hunknown), ?_⟩
  unfold convertImage at hconvert
  cases hname : image.fileName with
  | none =>
      rw [hname] at hconvert
      cases hconvert
  | some fileName =>
      rw [hname] at hconvert
      dsimp only at hconvert
      cases hresolve : resolve fileName with
      | none =>
          rw [hresolve] at hconvert
          cases hconvert
      | some relative =>
          rw [hresolve] at hconvert
          -- its file has a line for every box that is kept
          obtain ⟨rows, hrows, rfl⟩ := map_eq_ok hconvert
          rw [mapM_eq_ok_iff, groupBy_getD] at hrows
          exact ⟨relative, rows.reduceOption, hresolve, List.mem_map_of_mem hfile,
            lines_of_boxes hrows⟩

/-! ## What is converted -/

/-- A document that does not make the converter raise. -/
structure Convertible (resolve : String → Option String) (data : Coco) : Prop where
  known : ∀ id name, (categoryNames data).get? id = some name → name ∈ classes
  found : ∀ image ∈ data.images, ∃ relative, image.fileName.bind resolve = some relative
  labelled : ∀ image ∈ data.images, ∀ box ∈ keptBoxes data image,
    (∃ name, (categoryNames data).get? box.categoryId = some name)
      ∧ image.width ≠ 0 ∧ image.height ≠ 0

theorem labelLine_isOk_iff {names : Dict Int String} {width height : Rat} {box : CocoAnnotation} :
    (∃ row, labelLine names width height box = .ok row) ↔ (IsProper box →
      (∃ name, names.get? box.categoryId = some name) ∧ width ≠ 0 ∧ height ≠ 0) := by
  unfold labelLine
  by_cases hempty : box.bbox.2.2.1 ≤ 0 ∨ box.bbox.2.2.2 ≤ 0
  · rw [if_pos hempty]
    refine iff_of_true ⟨none, rfl⟩ fun hproper => ?_
    rcases hempty with hw | hh
    · exact absurd hproper.1 (not_lt.mpr hw)
    · exact absurd hproper.2 (not_lt.mpr hh)
  · rw [if_neg hempty]
    rw [not_or, not_le, not_le] at hempty
    rw [imp_iff_right (show IsProper box from hempty)]
    cases hname : names.get? box.categoryId with
    | none =>
        refine iff_of_false ?_ ?_
        · rintro ⟨row, h⟩
          cases h
        · rintro ⟨⟨name, h⟩, -⟩
          cases h
    | some name =>
        dsimp only
        by_cases hzero : width = 0 ∨ height = 0
        · rw [if_pos hzero]
          refine iff_of_false ?_ ?_
          · rintro ⟨row, h⟩
            cases h
          · rintro ⟨-, hw, hh⟩
            exact hzero.elim hw hh
        · rw [if_neg hzero]
          rw [not_or] at hzero
          exact iff_of_true ⟨_, rfl⟩ ⟨⟨name, rfl⟩, hzero⟩

theorem convertImage_isOk_iff {resolve : String → Option String} {names : Dict Int String}
    {annotations : Dict Int (List CocoAnnotation)} {image : CocoImage} :
    (∃ file, convertImage resolve names annotations image = .ok file)
      ↔ (∃ relative, image.fileName.bind resolve = some relative)
        ∧ ∀ box ∈ (annotations.get? image.id).getD [], IsProper box →
          (∃ name, names.get? box.categoryId = some name) ∧ image.width ≠ 0
            ∧ image.height ≠ 0 := by
  unfold convertImage
  cases hresolve : image.fileName.bind resolve with
  | none =>
      refine iff_of_false ?_ ?_
      · rintro ⟨file, h⟩
        cases hname : image.fileName with
        | none =>
            rw [hname] at h
            cases h
        | some fileName =>
            rw [hname, Option.bind_some] at hresolve
            rw [hname] at h
            dsimp only at h
            rw [hresolve] at h
            cases h
      · rintro ⟨⟨relative, h⟩, -⟩
        cases h
  | some relative =>
      obtain ⟨fileName, hname, hfile⟩ := Option.bind_eq_some_iff.mp hresolve
      rw [hname]
      dsimp only
      rw [hfile]
      dsimp only
      rw [map_isOk_iff, mapM_isOk_iff]
      simp only [labelLine_isOk_iff]
      exact (and_iff_right ⟨relative, rfl⟩).symm

/-- **The converter has a result exactly for these documents.** -/
theorem convertSplit_isOk_iff {resolve : String → Option String} {data : Coco} :
    (∃ c, convertSplit resolve (some data) = .ok c) ↔ Convertible resolve data := by
  have himages : (∀ image ∈ data.images, ∃ file, convertImage resolve (categoryNames data)
      (groupBy (·.imageId) data.annotations) image = .ok file)
      ↔ (∀ image ∈ data.images, ∃ relative, image.fileName.bind resolve = some relative)
        ∧ ∀ image ∈ data.images, ∀ box ∈ keptBoxes data image,
          (∃ name, (categoryNames data).get? box.categoryId = some name)
            ∧ image.width ≠ 0 ∧ image.height ≠ 0 := by
    simp only [convertImage_isOk_iff, groupBy_getD, forall_and, keptBoxes, List.mem_filter,
      decide_eq_true_eq, and_imp]
  unfold convertSplit
  dsimp only
  by_cases hunknown : (((categoryNames data).values.filter (· ∉ classes)).dedup).insertionSort
      (· ≤ ·) = []
  · rw [if_neg (not_ne_iff.mpr hunknown), map_isOk_iff, mapM_isOk_iff, himages]
    constructor
    · rintro ⟨hfound, hlabelled⟩
      exact ⟨unknown_eq_nil_iff.mp hunknown, hfound, hlabelled⟩
    · intro h
      exact ⟨h.found, h.labelled⟩
  · rw [if_pos hunknown]
    refine iff_of_false ?_ fun h => hunknown (unknown_eq_nil_iff.mpr h.known)
    rintro ⟨c, h⟩
    cases h

/-! ## The round trip -/

/-- **Each line is read**, and that of an integral box as the box. -/
theorem annotations_of_lines {data : Coco}
    (hknown : ∀ id name, (categoryNames data).get? id = some name → name ∈ classes) {W H : Nat}
    (hW : 1 ≤ W ∧ W ≤ 10 ^ 6) (hH : 1 ≤ H ∧ H ≤ 10 ^ 6) (imageId : String)
    {boxes : List CocoAnnotation} {lines : List Text}
    (h : List.Forall₂ (LineOf (categoryNames data) W H) boxes lines) :
    ∃ anns, List.Forall₂
        (fun line ann => loadLine imageId W H (some classMapping) line = .ok (some ann)) lines anns
      ∧ List.Forall₂ (fun box ann => IsIntegral box → ann = reread data imageId box
        ∧ (categoriesOf data).get? box.categoryId = some (loadAnn data box).className)
        boxes anns := by
  induction h with
  | nil => exact ⟨[], List.Forall₂.nil, List.Forall₂.nil⟩
  | @cons box line boxes lines hline _ ih =>
      obtain ⟨anns, hread, hback⟩ := ih
      obtain ⟨name, hname, rfl⟩ := hline
      refine ⟨_ :: anns, List.Forall₂.cons (loadLine_labelText _ _ _ _ _ _ _ _ _ _ _) hread,
        List.Forall₂.cons (fun hbox => ?_) hback⟩
      have hload := loadLine_labelLine hW hH hbox hname (hknown _ _ hname) imageId
      rw [loadLine_labelText] at hload
      exact ⟨Option.some.inj (Except.ok.inj hload), (className_loadAnn hname).1⟩

/--
**Dataset conversion round-trips.** Of an image of at most a million pixels a side, the
converter writes one line for each box with a positive width and height, and the file reads
back as one annotation for each line. That of an integral box has the pixels that
`load_coco_json` has for the box, and the canonical name of its category. Which documents
are converted at all says `convertSplit_isOk_iff`.
-/
theorem dataset_conversion_roundtrips (resolve : String → Option String) (data : Coco)
    {c : Conversion} (hconvert : convertSplit resolve (some data) = .ok c) {image : CocoImage}
    (himage : image ∈ data.images) {W H : Nat} (hwidth : image.width = W)
    (hheight : image.height = H) (hW : 1 ≤ W ∧ W ≤ 10 ^ 6) (hH : 1 ≤ H ∧ H ≤ 10 ^ 6)
    (imageId : String) :
    loadCocoJson (some data) = .ok (data.annotations.map (loadAnn data))
      ∧ ∃ relative lines anns, image.fileName.bind resolve = some relative
        ∧ (relative, joinLines lines) ∈ c.labels
        ∧ loadYoloTxt (some (joinLines lines)) imageId W H (some classMapping) = .ok anns
        ∧ List.Forall₂ (fun line ann =>
          loadLine imageId W H (some classMapping) line = .ok (some ann)) lines anns
        ∧ List.Forall₂ (fun box ann => IsIntegral box → ann = reread data imageId box
          ∧ (categoriesOf data).get? box.categoryId = some (loadAnn data box).className)
          (keptBoxes data image) anns := by
  obtain ⟨hknown, relative, lines, hrelative, hmem, hlines⟩ := convertSplit_image hconvert himage
  rw [hwidth, hheight] at hlines
  have hfile : fileLines (joinLines lines) = lines := by
    refine fileLines_joinLines fun line hline => ?_
    obtain ⟨box, -, name, -, rfl⟩ := exists_of_forall₂ hlines.flip hline
    exact isLine_labelText _ _ _ _ _ _ _
  obtain ⟨anns, hread, hback⟩ := annotations_of_lines hknown hW hH imageId hlines
  have hloaded : lines.mapM (loadLine imageId W H (some classMapping)) = .ok (anns.map some) := by
    rw [mapM_eq_ok_iff, List.forall₂_map_right_iff]
    exact hread
  have hsome : (anns.map some).reduceOption = anns := by
    unfold List.reduceOption
    rw [List.filterMap_map]
    exact List.filterMap_some
  refine ⟨rfl, relative, lines, anns, hrelative, hmem, ?_, hread, hback⟩
  unfold loadYoloTxt
  dsimp only
  rw [hfile, hloaded]
  exact congrArg Except.ok hsome

/-- A release with one minibus, which has driven half out of its image. -/
def minibusRelease : Coco where
  categories := [⟨7, " Minibus"⟩]
  images := [⟨1, some "scene.jpg", 640, 480⟩]
  annotations := [{ imageId := 1, categoryId := 7, bbox := (-3, 60, 101, 120) },
    { imageId := 1, categoryId := 7, bbox := (50, 60, 0, 120) }]

theorem dataset_conversion_roundtrips_minibus :
    ∃ c, convertSplit some (some minibusRelease) = .ok c
      ∧ ∃ relative lines, (relative, joinLines lines) ∈ c.labels
        ∧ loadYoloTxt (some (joinLines lines)) "scene.jpg" 640 480 (some classMapping)
          = .ok [⟨"scene.jpg", 9, "mini-bus", (-3, 60, 98, 180), false⟩] := by
  have hconvert : convertSplit some (some minibusRelease) = .ok
      { labels := [("scene.jpg", "9 0.07421875 0.25000000 0.15781250 0.25000000\n".toList)]
        images := 1
        boxes := 1 } := by
    decide +kernel
  have hkept : keptBoxes minibusRelease ⟨1, some "scene.jpg", 640, 480⟩
      = [{ imageId := 1, categoryId := 7, bbox := (-3, 60, 101, 120) }] := by
    decide +kernel
  obtain ⟨-, relative, lines, anns, -, hmem, hload, -, hback⟩ := dataset_conversion_roundtrips some
    minibusRelease hconvert (List.mem_singleton.mpr rfl) (W := 640) (H := 480) rfl rfl (by omega)
    (by omega) "scene.jpg"
  rw [hkept, List.forall₂_cons_left_iff] at hback
  obtain ⟨ann, rest, hann, hrest, rfl⟩ := hback
  obtain rfl := List.forall₂_nil_left_iff.mp hrest
  have hreread : ann = _ := (hann ⟨-3, 60, 101, 120, by norm_num⟩).1
  refine ⟨_, hconvert, relative, lines, hmem, hload.trans ?_⟩
  rw [hreread]
  decide +kernel

end SmartTraffic.Proof
