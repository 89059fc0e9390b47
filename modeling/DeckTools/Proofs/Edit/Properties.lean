import DeckTools.Proofs.Edit.Checked
import DeckTools.Proofs.Edit.Sent
import DeckTools.Edit.Plan

/-!
# The properties that edits change

The properties of an image and of a video are written down once, as a table.  The mask
of a checked edit lists what changes in it; the checks see to it that every number is
finite, and so is sent as it is.
-/

namespace DeckTools

open FieldMask

/-! ## Finite numbers -/

theorem toJson_eq_float {kind : ToolErrorKind} {name : String} {low high : Int} {level : Float}
    (h : checkLevel kind name low high level = .ok ()) :
    Scalar.toJson level = .float level := by
  unfold checkLevel at h
  split at h
  case isTrue hbetween =>
      have hfinite : level.isFinite = true := by
        unfold isBetween at hbetween
        rw [Bool.and_assoc] at hbetween
        exact (Bool.and_eq_true_iff.mp hbetween).1
      have hjson : Scalar.toJson level = Json.ofFloat level := rfl
      rw [hjson, Json.ofFloat, if_pos hfinite]
  case isFalse => exact absurd h failWith_ne_ok

/-- An edge that is given is cut by a fraction. -/
theorem Crop.checkEdges_of_check {crop : Crop Float} (h : crop.check = .ok ()) :
    checkEdge "left" crop.left = .ok () ∧ checkEdge "right" crop.right = .ok () ∧
      checkEdge "top" crop.top = .ok () ∧ checkEdge "bottom" crop.bottom = .ok () := by
  have hgiven := isEmpty_of_check h
  unfold Crop.check at h
  dsimp only at h
  rw [hgiven, if_neg Bool.false_ne_true] at h
  rcases bind_eq_ok.mp h with ⟨_, hleft, h⟩
  rcases bind_eq_ok.mp h with ⟨_, hright, h⟩
  rcases bind_eq_ok.mp h with ⟨_, htop, h⟩
  rcases bind_eq_ok.mp h with ⟨_, hbottom, _⟩
  exact ⟨hleft, hright, htop, hbottom⟩

theorem toJson_eq_float_of_checkEdge {name : String} {edge : Option Float} {offset : Float}
    (h : checkEdge name edge = .ok ()) (hedge : edge = some offset) :
    Scalar.toJson offset = .float offset := by
  unfold checkEdge at h
  rw [hedge] at h
  exact toJson_eq_float h

/-! ## Tables -/

/-- What becomes of a property that gets a number, if there is one. -/
def number (value : Option Float) : Option (Option Json) :=
  value.map (fun x => some (.float x))

/-- A colour effect as it is sent; a cleared one has no value. -/
def Recolor.value : Recolor -> Option Json
  | clear => none
  | preset name => some (Json.object [("name", .str name)])

def ImageEdit.properties (edit : ImageEdit Float) : List PropertyRow :=
  [(["brightness"], number edit.brightness),
    (["contrast"], number edit.contrast),
    (["transparency"], number edit.transparency),
    (["cropProperties", "leftOffset"], number (edit.crop.bind Crop.left)),
    (["cropProperties", "rightOffset"], number (edit.crop.bind Crop.right)),
    (["cropProperties", "topOffset"], number (edit.crop.bind Crop.top)),
    (["cropProperties", "bottomOffset"], number (edit.crop.bind Crop.bottom)),
    (["recolor"], edit.recolor.map Recolor.value)]

def VideoEdit.properties (edit : VideoEdit Float) : List PropertyRow :=
  [(["start"], edit.start.map (fun time => some (.ofNat time))),
    (["end"], edit.stop.map (fun time => some (.ofNat time))),
    (["autoPlay"], edit.autoplay.map (fun flag => some (.bool flag))),
    (["mute"], edit.mute.map (fun flag => some (.bool flag)))]

/-! ## Masks -/

theorem FieldMask.entries_setGiven {β : Type} (mask : FieldMask) (path : String)
    (write : β -> Json) (value : Option β) :
    (mask.setGiven path write value).entries =
      mask.entries ++ steps path (value.map (fun b => some (write b))) := by
  cases value with
  | none => simp [setGiven]
  | some b => rfl

/-- What a mask sends for a number is the number itself, provided that it is finite. -/
theorem FieldMask.entries_setNumber {mask : FieldMask} {path : String} {value : Option Float}
    (h : forall x, value = some x -> Scalar.toJson x = .float x) :
    (mask.setGiven path Scalar.toJson value).entries =
      mask.entries ++ steps path (number value) := by
  rw [entries_setGiven]
  cases value with
  | none => rfl
  | some x => rw [Option.map_some, h x rfl, number, Option.map_some]

namespace ImageEdit

theorem entries_maskRecolor (mask : FieldMask) (recolor : Option Recolor) :
    (maskRecolor mask recolor).entries =
      mask.entries ++ steps "recolor" (recolor.map Recolor.value) := by
  cases recolor with
  | none => simp [maskRecolor]
  | some effect => cases effect <;> rfl

theorem entries_maskCrop {mask : FieldMask} {crop : Crop Float} (h : crop.check = .ok ()) :
    (maskCrop mask crop).entries =
      mask.entries ++ steps "cropProperties.leftOffset" (number crop.left) ++
        steps "cropProperties.rightOffset" (number crop.right) ++
        steps "cropProperties.topOffset" (number crop.top) ++
        steps "cropProperties.bottomOffset" (number crop.bottom) := by
  rcases Crop.checkEdges_of_check h with ⟨hleft, hright, htop, hbottom⟩
  unfold maskCrop
  rw [entries_setNumber (fun _ => toJson_eq_float_of_checkEdge hbottom),
    entries_setNumber (fun _ => toJson_eq_float_of_checkEdge htop),
    entries_setNumber (fun _ => toJson_eq_float_of_checkEdge hright),
    entries_setNumber (fun _ => toJson_eq_float_of_checkEdge hleft)]

/-- The part of a mask that stands before a crop. -/
def levels (edit : ImageEdit Float) : FieldMask :=
  FieldMask.empty.setGiven "brightness" Scalar.toJson edit.brightness
    |>.setGiven "contrast" Scalar.toJson edit.contrast
    |>.setGiven "transparency" Scalar.toJson edit.transparency

theorem mask_eq (edit : ImageEdit Float) :
    edit.mask = maskRecolor (edit.crop.elim edit.levels (maskCrop edit.levels)) edit.recolor := by
  unfold mask
  cases edit.crop <;> rfl

theorem entries_elim_maskCrop {mask : FieldMask} {crop : Option (Crop Float)}
    (h : Passes Crop.check crop) :
    (crop.elim mask (maskCrop mask)).entries =
      mask.entries ++ steps "cropProperties.leftOffset" (number (crop.bind Crop.left)) ++
        steps "cropProperties.rightOffset" (number (crop.bind Crop.right)) ++
        steps "cropProperties.topOffset" (number (crop.bind Crop.top)) ++
        steps "cropProperties.bottomOffset" (number (crop.bind Crop.bottom)) := by
  cases crop with
  | none => simp [number]
  | some given => exact entries_maskCrop (h given rfl)

end ImageEdit

namespace CheckedImageEdit

theorem entries_levels (edit : CheckedImageEdit Float) :
    edit.levels.entries =
      steps "brightness" (number edit.brightness) ++ steps "contrast" (number edit.contrast) ++
        steps "transparency" (number edit.transparency) := by
  unfold ImageEdit.levels
  rw [entries_setNumber (fun x hx => toJson_eq_float (edit.transparency_passes x hx)),
    entries_setNumber (fun x hx => toJson_eq_float (edit.contrast_passes x hx)),
    entries_setNumber (fun x hx => toJson_eq_float (edit.brightness_passes x hx))]
  rfl

theorem entries_mask (edit : CheckedImageEdit Float) :
    edit.mask.entries = allSteps edit.properties := by
  rw [ImageEdit.mask_eq, ImageEdit.entries_maskRecolor,
    ImageEdit.entries_elim_maskCrop edit.crop_passes, edit.entries_levels]
  unfold allSteps ImageEdit.properties
  simp only [List.flatMap_cons, List.flatMap_nil, List.append_assoc, List.append_nil]
  rfl

end CheckedImageEdit

theorem VideoEdit.entries_mask (edit : VideoEdit Float) :
    edit.mask.entries = allSteps edit.properties := by
  unfold mask properties allSteps
  simp only [entries_setGiven, List.flatMap_cons, List.flatMap_nil, List.append_assoc,
    List.append_nil]
  rfl

theorem canonical_of_number {value : Option Float} {json : Json}
    (h : number value = some (some json)) :
    json.canonical = json := by
  rcases Option.map_eq_some_iff.mp h with ⟨x, _, hx⟩
  cases hx
  rfl

theorem Recolor.canonical_of_value {effect : Recolor} {json : Json}
    (h : effect.value = some json) :
    json.canonical = json := by
  cases effect with
  | clear => cases h
  | preset name =>
      cases h
      rfl

theorem ImageEdit.canonical_properties (edit : ImageEdit Float) :
    CanonicalTable edit.properties := by
  intro row value hrow hvalue
  simp only [properties, List.mem_cons, List.not_mem_nil, or_false] at hrow
  rcases hrow with rfl | rfl | rfl | rfl | rfl | rfl | rfl | rfl
  case inr.inr.inr.inr.inr.inr.inr =>
      rcases Option.map_eq_some_iff.mp hvalue with ⟨effect, _, heffect⟩
      exact Recolor.canonical_of_value heffect
  all_goals exact canonical_of_number hvalue

theorem VideoEdit.canonical_properties (edit : VideoEdit Float) :
    CanonicalTable edit.properties := by
  intro row value hrow hvalue
  simp only [properties, List.mem_cons, List.not_mem_nil, or_false] at hrow
  rcases hrow with rfl | rfl | rfl | rfl <;>
  · rcases Option.map_eq_some_iff.mp hvalue with ⟨given, _, hgiven⟩
    cases hgiven
    rfl

theorem CheckedImageEdit.lists_mask (edit : CheckedImageEdit Float) :
    edit.mask.Lists (changed edit.properties) := by
  apply FieldMask.Lists.of_table edit.entries_mask
  -- The ways are the same in every edit: that they part is a fact about the table alone.
  · unfold ImageEdit.properties
    simp only [List.map_cons, List.map_nil]
    decide
  · unfold ImageEdit.properties
    simp only [List.map_cons, List.map_nil]
    decide
  · exact edit.canonical_properties

theorem VideoEdit.lists_mask (edit : VideoEdit Float) :
    edit.mask.Lists (changed edit.properties) := by
  apply FieldMask.Lists.of_table edit.entries_mask
  · unfold properties
    simp only [List.map_cons, List.map_nil]
    decide
  · unfold properties
    simp only [List.map_cons, List.map_nil]
    decide
  · exact edit.canonical_properties

end DeckTools
