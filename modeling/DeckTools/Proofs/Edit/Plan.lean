import DeckTools.Edit.Plan
import DeckTools.Proofs.Edit.Checked

/-!
# Plans of checked edits

The plan of a checked edit is never empty.  There is a plan unless the element is
of another kind or shows no size that could be stretched; a size that asks for
nothing, which would be a fault of the caller, does not get past the checks.
-/

namespace DeckTools

variable {α : Type}

/-! ## Masks -/

namespace FieldMask

@[simp] theorem isEmpty_empty : empty.isEmpty = true := rfl

@[simp] theorem isEmpty_set (mask : FieldMask) (path : String) (value : Json) :
    (mask.set path value).isEmpty = false := by
  unfold isEmpty set
  simp

@[simp] theorem isEmpty_clear (mask : FieldMask) (path : String) :
    (mask.clear path).isEmpty = false := by
  unfold isEmpty clear
  simp

@[simp] theorem isEmpty_setGiven {β : Type} (mask : FieldMask) (path : String)
    (write : β -> Json) (value : Option β) :
    (mask.setGiven path write value).isEmpty = (mask.isEmpty && value.isNone) := by
  cases value with
  | none => simp [setGiven]
  | some b => simp [setGiven]

end FieldMask

variable [Scalar α]

theorem ImageEdit.isEmpty_maskCrop (mask : FieldMask) (crop : Crop α) :
    (maskCrop mask crop).isEmpty = (mask.isEmpty && crop.isEmpty) := by
  simp [maskCrop, Crop.isEmpty, Bool.and_assoc]

theorem ImageEdit.isEmpty_maskRecolor (mask : FieldMask) (recolor : Option Recolor) :
    (maskRecolor mask recolor).isEmpty = (mask.isEmpty && recolor.isNone) := by
  cases recolor with
  | none => simp [maskRecolor]
  | some recolor => cases recolor <;> simp [maskRecolor]

theorem CheckedImageEdit.isEmpty_mask (edit : CheckedImageEdit α) :
    edit.mask.isEmpty = !edit.changesProperties := by
  unfold ImageEdit.mask ImageEdit.changesProperties
  rw [ImageEdit.isEmpty_maskRecolor]
  cases hcrop : edit.crop with
  | none => simp [Bool.and_assoc]
  | some crop =>
      have hgiven : crop.isEmpty = false := Crop.isEmpty_of_check (edit.crop_passes crop hcrop)
      simp [ImageEdit.isEmpty_maskCrop, hgiven]

omit [Scalar α] in
theorem VideoEdit.isEmpty_mask (edit : VideoEdit α) :
    edit.mask.isEmpty = !edit.changesProperties := by
  unfold mask changesProperties
  simp [Bool.and_assoc]

/-! ## Requests -/

omit [Scalar α] in
theorem propertyRequests_eq_nil_iff {request : PropertyUpdate -> Request α}
    {objectId : String} {mask : FieldMask} :
    propertyRequests request objectId mask = [] <-> mask.isEmpty = true := by
  unfold propertyRequests
  split
  case isTrue h => simp [h]
  case isFalse h => simp [h]

/-- There is one request that moves and resizes if that is asked, and else there is none. -/
theorem transformRequests_eq_ok {element : Element α} {position : Option (Position α)}
    {size : Option (TargetSize α)} {requests : List (Request α)} :
    transformRequests element position size = .ok requests <->
      ((position.isSome || size.isSome) = true ∧
        exists transform, editedTransform element position size = .ok transform ∧
          [.setTransform element.objectId transform] = requests) ∨
      ((position.isSome || size.isSome) = false ∧ [] = requests) := by
  unfold transformRequests
  cases position.isSome || size.isSome with
  | true =>
      rw [if_pos rfl, map_eq_ok]
      simp
  | false =>
      rw [if_neg Bool.false_ne_true]
      simp

/-- A plan for one element has a request for each half of the edit that is asked. -/
theorem planEdit_ne_nil {element : Element α} {position : Option (Position α)}
    {size : Option (TargetSize α)} {request : PropertyUpdate -> Request α} {mask : FieldMask}
    {properties : Bool} {requests : List (Request α)}
    (hmask : mask.isEmpty = !properties)
    (hchanges : ((position.isSome || size.isSome) || properties) = true)
    (h : planEdit element position size request mask = .ok requests) :
    requests ≠ [] := by
  rcases map_eq_ok.mp h with ⟨moves, hmoves, heq⟩
  rw [← heq]
  intro hnil
  rcases List.append_eq_nil_iff.mp hnil with ⟨hnoMoves, hnoUpdate⟩
  rw [propertyRequests_eq_nil_iff, hmask] at hnoUpdate
  rcases transformRequests_eq_ok.mp hmoves with ⟨_, transform, _, hmove⟩ | ⟨hnotAsked, _⟩
  · rw [hnoMoves] at hmove
    cases hmove
  · rw [hnotAsked, Bool.false_or] at hchanges
    rw [hchanges] at hnoUpdate
    cases hnoUpdate

theorem modifyImage_eq {element : Element α} {edit : ImageEdit α}
    (himage : element.isImage = true) :
    modifyImage element edit =
      (planEdit element edit.position edit.size .updateImageProperties edit.mask).map
        (fun requests => { requests, modified := edit.modified }) := by
  unfold modifyImage checkKind
  rw [himage, if_pos rfl, ok_bind, bind_ok_eq_map]

theorem modifyVideo_eq {element : Element α} {edit : VideoEdit α}
    (hvideo : element.isVideo = true) :
    modifyVideo element edit =
      (planEdit element edit.position edit.size .updateVideoProperties edit.mask).map
        (fun requests => { requests, modified := edit.modified }) := by
  unfold modifyVideo checkKind
  rw [hvideo, if_pos rfl, ok_bind, bind_ok_eq_map]

theorem modifyImage_ne_nil {element : Element α} {edit : CheckedImageEdit α}
    {plan : EditPlan α} (h : modifyImage element edit.toImageEdit = .ok plan) :
    plan.requests ≠ [] := by
  unfold modifyImage at h
  rcases bind_eq_ok.mp h with ⟨_, _, h⟩
  rcases bind_eq_ok.mp h with ⟨requests, hrequests, h⟩
  cases h
  exact planEdit_ne_nil edit.isEmpty_mask edit.changes hrequests

theorem modifyVideo_ne_nil {element : Element α} {edit : CheckedVideoEdit α}
    {plan : EditPlan α} (h : modifyVideo element edit.toVideoEdit = .ok plan) :
    plan.requests ≠ [] := by
  unfold modifyVideo at h
  rcases bind_eq_ok.mp h with ⟨_, _, h⟩
  rcases bind_eq_ok.mp h with ⟨requests, hrequests, h⟩
  cases h
  exact planEdit_ne_nil edit.isEmpty_mask edit.changes hrequests

/-! ## Faults -/

/-- A target on one axis is enough. -/
theorem resizeFactors_ne_noTarget {width height : α} {targetWidth targetHeight : Option α}
    (hgiven : (targetWidth.isNone && targetHeight.isNone) = false) :
    resizeFactors width height targetWidth targetHeight ≠ .error .noTarget := by
  intro h
  unfold resizeFactors at h
  rw [hgiven, if_neg Bool.false_ne_true] at h
  split at h
  case isTrue => cases h
  case isFalse =>
      split at h
      case isTrue => cases h
      case isFalse =>
          cases targetWidth with
          | some w => cases targetHeight <;> cases h
          | none =>
              cases targetHeight with
              | some height => cases h
              | none => cases hgiven

theorem resized_error {element : Element α} {size : TargetSize α} {transform : Transform α}
    {e : ToolError} (hsize : size.check = .ok ())
    (h : resized element size transform = .error e) :
    e.kind = .invalidObjectState := by
  unfold resized at h
  cases hrendered : element.renderedSize with
  | none =>
      rw [hrendered] at h
      cases h
      rfl
  | some rendered =>
      rw [hrendered] at h
      dsimp only at h
      split at h
      case h_1 => cases h
      -- The branch that would blame the size again: the checks have ruled it out.
      case h_2 hfactors =>
          have hgiven : size.isEmpty = false := TargetSize.isEmpty_of_check hsize
          exact absurd hfactors (resizeFactors_ne_noTarget hgiven)
      case h_3 =>
          cases h
          rfl

theorem editedTransform_error {element : Element α} {position : Option (Position α)}
    {size : Option (TargetSize α)} {e : ToolError}
    (hsize : forall target, size = some target -> target.check = .ok ())
    (h : editedTransform element position size = .error e) :
    e.kind = .invalidObjectState := by
  unfold editedTransform at h
  dsimp only at h
  cases size with
  | none => cases h
  | some target =>
      rcases bind_eq_error.mp h with hsized | ⟨sized, _, h⟩
      · exact resized_error (hsize target rfl) hsized
      · cases h

theorem planEdit_error {element : Element α} {position : Option (Position α)}
    {size : Option (TargetSize α)} {request : PropertyUpdate -> Request α} {mask : FieldMask}
    {e : ToolError}
    (hsize : forall target, size = some target -> target.check = .ok ())
    (h : planEdit element position size request mask = .error e) :
    e.kind = .invalidObjectState := by
  have hmoves := map_eq_error.mp h
  unfold transformRequests at hmoves
  split at hmoves
  case isTrue => exact editedTransform_error hsize (map_eq_error.mp hmoves)
  case isFalse => cases hmoves

omit [Scalar α] in
theorem checkKind_error {element : Element α} {isWanted : Bool} {wanted : String}
    {e : ToolError} (h : checkKind element isWanted wanted = .error e) :
    e.kind = .invalidObjectType := by
  unfold checkKind at h
  split at h
  case isTrue => cases h
  case isFalse =>
      cases h
      rfl

theorem modifyImage_error {element : Element α} {edit : CheckedImageEdit α} {e : ToolError}
    (h : modifyImage element edit.toImageEdit = .error e) :
    e.kind = .invalidObjectType ∨ e.kind = .invalidObjectState := by
  unfold modifyImage at h
  rcases bind_eq_error.mp h with hkind | ⟨_, _, h⟩
  · exact Or.inl (checkKind_error hkind)
  · rcases bind_eq_error.mp h with hplan | ⟨requests, _, h⟩
    · exact Or.inr (planEdit_error edit.size_passes hplan)
    · cases h

theorem modifyVideo_error {element : Element α} {edit : CheckedVideoEdit α} {e : ToolError}
    (h : modifyVideo element edit.toVideoEdit = .error e) :
    e.kind = .invalidObjectType ∨ e.kind = .invalidObjectState := by
  unfold modifyVideo at h
  rcases bind_eq_error.mp h with hkind | ⟨_, _, h⟩
  · exact Or.inl (checkKind_error hkind)
  · rcases bind_eq_error.mp h with hplan | ⟨requests, _, h⟩
    · exact Or.inr (planEdit_error edit.size_passes hplan)
    · cases h

end DeckTools
