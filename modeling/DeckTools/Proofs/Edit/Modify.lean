import DeckTools.Proofs.Edit.Plan
import DeckTools.Proofs.Edit.Properties
import DeckTools.Rehearsal.SampleDeck

/-!
# Plans that carry out edits

The plan of a checked edit has the transform that is asked, then the update that is
asked, and names the fields that the caller set.
-/

namespace DeckTools

/-! ## What is asked -/

def setFields (fields : List (String × Bool)) : List String :=
  (fields.filter Prod.snd).map Prod.fst

theorem setFields_cons (name : String) (isSet : Bool) (rest : List (String × Bool)) :
    setFields ((name, isSet) :: rest) = (if isSet then [name] else []) ++ setFields rest := by
  cases isSet <;> rfl

def ImageChanges.given (changes : ImageChanges Float) : List String :=
  setFields
    [("position", changes.position.isSome), ("size", changes.size.isSome),
      ("brightness", changes.brightness.isSome), ("contrast", changes.contrast.isSome),
      ("transparency", changes.transparency.isSome), ("crop", changes.crop.isSome),
      ("recolor", changes.recolor.isSome)]

def VideoChanges.given (changes : VideoChanges Float) : List String :=
  setFields
    [("position", changes.position.isSome), ("size", changes.size.isSome),
      ("start_time", changes.startTime.isSome), ("end_time", changes.endTime.isSome),
      ("autoplay", changes.autoplay.isSome), ("mute", changes.mute.isSome)]

theorem isSome_of_mapM_eq_ok {ε α β : Type} {check : α -> Except ε β} {given : Option α}
    {checked : Option β} (h : given.mapM check = .ok checked) :
    checked.isSome = given.isSome := by
  cases given with
  | none =>
      cases h
      rfl
  | some value =>
      rcases map_eq_ok.mp h with ⟨result, _, heq⟩
      rw [← heq]
      rfl

theorem ImageChanges.modified_of_check {changes : ImageChanges Float}
    {edit : CheckedImageEdit Float} (h : changes.check = .ok edit) :
    edit.modified = changes.given := by
  rcases edit_of_check h with ⟨recolor, hrecolor, hedit⟩
  rw [hedit]
  unfold ImageEdit.modified given geometryFields fieldName
  simp only [setFields_cons, isSome_of_mapM_eq_ok hrecolor, List.append_assoc]
  simp [setFields]

theorem VideoChanges.modified_of_check {changes : VideoChanges Float}
    {edit : CheckedVideoEdit Float} (h : changes.check = .ok edit) :
    edit.modified = changes.given := by
  rw [(edit_of_check h).2]
  unfold VideoEdit.modified given geometryFields fieldName
  simp only [setFields_cons, Option.isSome_map, List.append_assoc]
  simp [setFields]

/-! ## Plans -/

/-- The plan has the transform and the update that are asked, in this order, and no more. -/
structure EditPlan.CarriesOut (plan : EditPlan Float) (objectId : String)
    (moves updates : Bool) (request : PropertyUpdate -> Request Float)
    (changes : List (List String × Option Json)) : Prop where
  oneOrTwo : plan.requests.length = 1 ∨ plan.requests.length = 2
  addressed : forall sent, sent ∈ plan.requests -> sent.objectId = objectId
  parts :
    exists (transform : Option (Transform Float)) (update : Option PropertyUpdate),
      plan.requests =
        (transform.map (Request.setTransform objectId)).toList ++
          (update.map request).toList ∧
      transform.isSome = moves ∧ update.isSome = updates ∧
      forall sent, update = some sent -> sent.Sends changes

section Plans

variable {α : Type} [Scalar α] {element : Element α} {position : Option (Position α)}
  {size : Option (TargetSize α)} {request : PropertyUpdate -> Request α}
  {mask : FieldMask} {requests : List (Request α)}

theorem exists_transform_of_transformRequests
    (h : transformRequests element position size = .ok requests) :
    exists transform : Option (Transform α),
      requests = (transform.map (Request.setTransform element.objectId)).toList ∧
      transform.isSome = (position.isSome || size.isSome) := by
  rcases transformRequests_eq_ok.mp h with ⟨hasked, transform, _, heq⟩ | ⟨hnot, heq⟩
  · exact ⟨some transform, heq.symm, hasked.symm⟩
  · exact ⟨none, heq.symm, hnot.symm⟩

omit [Scalar α] in
theorem exists_update_of_propertyRequests (request : PropertyUpdate -> Request α)
    (objectId : String) (mask : FieldMask) :
    exists update : Option PropertyUpdate,
      propertyRequests request objectId mask = (update.map request).toList ∧
      update.isSome = !mask.isEmpty ∧
      forall sent, update = some sent -> sent = .ofMask objectId mask := by
  unfold propertyRequests
  cases mask.isEmpty with
  | true =>
      refine ⟨none, rfl, rfl, ?_⟩
      intro sent hsent
      cases hsent
  | false =>
      refine ⟨some (.ofMask objectId mask), rfl, rfl, ?_⟩
      intro sent hsent
      cases hsent
      rfl

/-- A plan for one element has at most a transform and an update. -/
theorem exists_parts_of_planEdit
    (h : planEdit element position size request mask = .ok requests) :
    exists (transform : Option (Transform α)) (update : Option PropertyUpdate),
      requests =
        (transform.map (Request.setTransform element.objectId)).toList ++
          (update.map request).toList ∧
      transform.isSome = (position.isSome || size.isSome) ∧ update.isSome = !mask.isEmpty ∧
      forall sent, update = some sent -> sent = .ofMask element.objectId mask := by
  rcases map_eq_ok.mp h with ⟨moves, hmoves, heq⟩
  rcases exists_transform_of_transformRequests hmoves with ⟨transform, htransform, hmoved⟩
  rcases exists_update_of_propertyRequests request element.objectId mask with
    ⟨update, hupdate, hupdated, hsent⟩
  rw [htransform, hupdate] at heq
  exact ⟨transform, update, heq.symm, hmoved, hupdated, hsent⟩

omit [Scalar α] in
theorem length_parts {objectId : String} {transform : Option (Transform α)}
    {update : Option PropertyUpdate} (h : (transform.isSome || update.isSome) = true) :
    ((transform.map (Request.setTransform objectId)).toList ++
        (update.map request).toList).length = 1 ∨
      ((transform.map (Request.setTransform objectId)).toList ++
        (update.map request).toList).length = 2 := by
  cases transform with
  | none =>
      cases update with
      | none => cases h
      | some sent => exact Or.inl rfl
  | some transform =>
      cases update with
      | none => exact Or.inl rfl
      | some sent => exact Or.inr rfl

omit [Scalar α] in
theorem objectId_of_mem_parts {objectId : String} {transform : Option (Transform α)}
    {update : Option PropertyUpdate} {sent : Request α}
    (hrequest : forall sent, (request sent).objectId = sent.objectId)
    (hupdate : forall sent, update = some sent -> sent.objectId = objectId)
    (h : sent ∈ (transform.map (Request.setTransform objectId)).toList ++
      (update.map request).toList) :
    sent.objectId = objectId := by
  rcases List.mem_append.mp h with hmove | hchange
  · rcases Option.map_eq_some_iff.mp (Option.mem_toList.mp hmove) with ⟨transform, _, hsame⟩
    rw [← hsame]
    rfl
  · rcases Option.map_eq_some_iff.mp (Option.mem_toList.mp hchange) with
      ⟨found, hfound, hsame⟩
    rw [← hsame, hrequest, hupdate found hfound]

/-- A plan fails only on an element that cannot be stretched to the size that is asked. -/
theorem isSome_size_of_planEdit_error {e : ToolError}
    (h : planEdit element position size request mask = .error e) :
    size.isSome = true := by
  have hmoves := map_eq_error.mp h
  unfold transformRequests at hmoves
  split at hmoves
  case isTrue =>
      have htransform := map_eq_error.mp hmoves
      cases size with
      | none => cases htransform
      | some target => rfl
  case isFalse => cases hmoves

/-! ## Images and videos -/

theorem carriesOut_of_planned {element : Element Float} {position : Option (Position Float)}
    {size : Option (TargetSize Float)} {request : PropertyUpdate -> Request Float}
    {plan : EditPlan Float} {updates : Bool} {changes : List (List String × Option Json)}
    {modified : List String}
    (h : (planEdit element position size request mask).map
      (fun requests => { requests, modified }) = .ok plan)
    (hrequest : forall update, (request update).objectId = update.objectId)
    (hmask : mask.isEmpty = !updates)
    (hasked : ((position.isSome || size.isSome) || updates) = true)
    (hlists : mask.Lists changes) :
    plan.CarriesOut element.objectId (position.isSome || size.isSome) updates request
        changes ∧
      plan.modified = modified := by
  rcases map_eq_ok.mp h with ⟨requests, hplan, heq⟩
  subst heq
  rcases exists_parts_of_planEdit hplan with
    ⟨transform, update, hparts, hmoved, hupdated, hsent⟩
  rw [hmask, Bool.not_not] at hupdated
  refine ⟨?_, rfl⟩
  refine
    { oneOrTwo := ?_
      addressed := ?_
      parts := ⟨transform, update, hparts, hmoved, hupdated, ?_⟩ }
  · dsimp only
    rw [hparts]
    apply length_parts
    rw [hmoved, hupdated]
    exact hasked
  · intro sent hmem
    dsimp only at hmem
    rw [hparts] at hmem
    apply objectId_of_mem_parts hrequest _ hmem
    intro found hfound
    rw [hsent found hfound]
    rfl
  · intro sent hfound
    rw [hsent sent hfound]
    exact hlists.sends element.objectId

theorem fault_of_planned {write : List (Request α) -> EditPlan α} {e : ToolError}
    (hsize : Passes TargetSize.check size)
    (h : (planEdit element position size request mask).map write = .error e) :
    e.kind = .invalidObjectState ∧ size.isSome = true := by
  have hplan := map_eq_error.mp h
  exact ⟨planEdit_error hsize hplan, isSome_size_of_planEdit_error hplan⟩

end Plans

/--
The plan of an accepted edit has the transform that is asked and then the update that is
asked, which sends the properties that change and nothing else, and it names the fields
that the caller set.  There is such a plan unless a size is asked of an element that
cannot be stretched.
-/
theorem modify_carries_out :
    (forall (element : Element Float) (changes : ImageChanges Float)
        (edit : CheckedImageEdit Float),
      element.isImage = true -> changes.check = .ok edit ->
        (forall e, modifyImage element edit.toImageEdit = .error e ->
          e.kind = .invalidObjectState ∧ edit.size.isSome = true) ∧
        forall plan, modifyImage element edit.toImageEdit = .ok plan ->
          plan.CarriesOut element.objectId edit.changesTransform edit.changesProperties
              .updateImageProperties (changed edit.properties) ∧
            plan.modified = changes.given) ∧
    forall (element : Element Float) (changes : VideoChanges Float)
        (edit : CheckedVideoEdit Float),
      element.isVideo = true -> changes.check = .ok edit ->
        (forall e, modifyVideo element edit.toVideoEdit = .error e ->
          e.kind = .invalidObjectState ∧ edit.size.isSome = true) ∧
        forall plan, modifyVideo element edit.toVideoEdit = .ok plan ->
          plan.CarriesOut element.objectId edit.changesTransform edit.changesProperties
              .updateVideoProperties (changed edit.properties) ∧
            plan.modified = changes.given := by
  constructor
  · intro element changes edit himage hcheck
    rw [modifyImage_eq himage, ← ImageChanges.modified_of_check hcheck]
    constructor
    · intro e h
      exact fault_of_planned edit.size_passes h
    · intro plan h
      exact carriesOut_of_planned h (fun _ => rfl) edit.isEmpty_mask edit.changes
        edit.lists_mask
  · intro element changes edit hvideo hcheck
    rw [modifyVideo_eq hvideo, ← VideoChanges.modified_of_check hcheck]
    constructor
    · intro e h
      exact fault_of_planned edit.size_passes h
    · intro plan h
      exact carriesOut_of_planned h (fun _ => rfl) edit.isEmpty_mask edit.changes
        edit.lists_mask

/-! ## Sample edits -/

namespace Rehearsal

def unsizedImage : Element Float :=
  .image (named "image-1") { contentUrl := none, sourceUrl := none, properties := none }

def unsizedVideo : Element Float :=
  .video (named "video-1") { id := none, source := none, url := none, playback := none }

def narrow : TargetSize Float :=
  { width := some 100, height := none }

def imageChanges (size : Option (TargetSize Float)) : ImageChanges Float :=
  { position := some { x := 10, y := 20 }
    size
    brightness := some 0.5
    contrast := none
    transparency := none
    crop := some { left := some 0.25, right := none, top := some 0.125, bottom := none }
    recolor := some "none" }

def imageEdit : ImageEdit Float :=
  { position := some { x := 10, y := 20 }
    size := none
    brightness := some 0.5
    contrast := none
    transparency := none
    crop := some { left := some 0.25, right := none, top := some 0.125, bottom := none }
    recolor := some .clear }

def videoChanges : VideoChanges Float :=
  { position := none
    size := none
    startTime := some 1.5
    endTime := none
    autoplay := none
    mute := some true }

def videoEdit : VideoEdit Float :=
  { position := none
    size := none
    start := some (milliseconds (1.5 : Float))
    stop := none
    autoplay := none
    mute := some true }

end Rehearsal

theorem modify_carries_out_sample :
    (exists edit plan,
      (Rehearsal.imageChanges none).check = .ok edit ∧
      edit.toImageEdit = Rehearsal.imageEdit ∧
      modifyImage Rehearsal.unsizedImage edit.toImageEdit = .ok plan ∧
      plan.modified = ["position", "brightness", "crop", "recolor"] ∧
      plan.CarriesOut "image-1" true true .updateImageProperties
        [(["brightness"], some (.float 0.5)),
          (["cropProperties", "leftOffset"], some (.float 0.25)),
          (["cropProperties", "topOffset"], some (.float 0.125)), (["recolor"], none)]) ∧
    (exists e edit,
      (Rehearsal.imageChanges (some Rehearsal.narrow)).check = .ok edit ∧
      modifyImage Rehearsal.unsizedImage edit.toImageEdit = .error e ∧
      e.kind = .invalidObjectState) ∧
    exists edit plan,
      Rehearsal.videoChanges.check = .ok edit ∧
      edit.toVideoEdit = Rehearsal.videoEdit ∧
      modifyVideo Rehearsal.unsizedVideo edit.toVideoEdit = .ok plan ∧
      plan.modified = ["start_time", "mute"] ∧
      plan.CarriesOut "video-1" false true .updateVideoProperties
        [(["start"], some (.ofNat (milliseconds (1.5 : Float)))),
          (["mute"], some (.bool true))] := by
  refine ⟨?image, ?unsized, ?video⟩
  case image =>
      have hcheck : exists edit, (Rehearsal.imageChanges none).check = .ok edit ∧
          edit.toImageEdit = Rehearsal.imageEdit := ⟨_, rfl, rfl⟩
      have hplan : exists plan,
          modifyImage Rehearsal.unsizedImage Rehearsal.imageEdit = .ok plan := ⟨_, rfl⟩
      rcases hcheck with ⟨edit, hcheck, hedit⟩
      rcases hplan with ⟨plan, hplan⟩
      rw [← hedit] at hplan
      rcases (modify_carries_out.1 _ _ _ rfl hcheck).2 plan hplan with ⟨hcarries, hmodified⟩
      rw [hedit] at hcarries
      exact ⟨edit, plan, hcheck, hedit, hplan, hmodified, hcarries⟩
  case unsized =>
      have hcheck : exists edit,
          (Rehearsal.imageChanges (some Rehearsal.narrow)).check = .ok edit ∧
          exists e, modifyImage Rehearsal.unsizedImage edit.toImageEdit = .error e :=
        ⟨_, rfl, _, rfl⟩
      rcases hcheck with ⟨edit, hcheck, e, hfault⟩
      rcases (modify_carries_out.1 _ _ _ rfl hcheck).1 e hfault with ⟨hkind, _⟩
      exact ⟨e, edit, hcheck, hfault, hkind⟩
  case video =>
      have hcheck : exists edit, Rehearsal.videoChanges.check = .ok edit ∧
          edit.toVideoEdit = Rehearsal.videoEdit := ⟨_, rfl, rfl⟩
      have hplan : exists plan,
          modifyVideo Rehearsal.unsizedVideo Rehearsal.videoEdit = .ok plan := ⟨_, rfl⟩
      rcases hcheck with ⟨edit, hcheck, hedit⟩
      rcases hplan with ⟨plan, hplan⟩
      rw [← hedit] at hplan
      rcases (modify_carries_out.2 _ _ _ rfl hcheck).2 plan hplan with ⟨hcarries, hmodified⟩
      rw [hedit] at hcarries
      exact ⟨edit, plan, hcheck, hedit, hplan, hmodified, hcarries⟩

end DeckTools
