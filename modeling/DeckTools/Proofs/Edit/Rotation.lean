import DeckTools.Proofs.Edit.Resize

/-!
# Resizing what has been turned

A resize divides by the size that an element shows, and what it takes for that is the intrinsic
size times the scale alone.  The scale of an element that has been turned is the cosine of its
angle.  So the more an element is turned, the smaller it counts, and by a quarter turn it has no
size that could be stretched.
-/

namespace DeckTools

/-! ## Targets within reach -/

section Measurable

variable {α : Type} [Scalar α] {target : TargetSize α} {shown : α × α}

/-- Each wanted axis shows enough to divide by. -/
structure TargetSize.Measurable (target : TargetSize α) (shown : α × α) : Prop where
  width : target.width.isSome = true -> isMeasurable shown.1 = true
  height : target.height.isSome = true -> isMeasurable shown.2 = true

theorem exists_resizeFactors_iff (hgiven : target.isEmpty = false) :
    (exists factors,
      resizeFactors shown.1 shown.2 target.width target.height = .ok factors) <->
      target.Measurable shown := by
  constructor
  · intro h
    rcases h with ⟨⟨factorX, factorY⟩, h⟩
    rcases resizeFactors_eq_ok h with ⟨hwidth, hheight, _, _⟩
    constructor
    · intro hwanted
      rcases Option.isSome_iff_exists.mp hwanted with ⟨points, hpoints⟩
      exact (hwidth points hpoints).1
    · intro hwanted
      rcases Option.isSome_iff_exists.mp hwanted with ⟨points, hpoints⟩
      exact (hheight points hpoints).1
  · intro h
    have hnone : (target.width.isNone && target.height.isNone) = false := hgiven
    have hwidth : (target.width.isSome && !isMeasurable shown.1) = false := by
      simpa using h.width
    have hheight : (target.height.isSome && !isMeasurable shown.2) = false := by
      simpa using h.height
    unfold resizeFactors
    rw [hnone, hwidth, hheight, if_neg Bool.false_ne_true, if_neg Bool.false_ne_true,
      if_neg Bool.false_ne_true]
    cases hw : target.width with
    | some points => cases target.height <;> exact ⟨_, rfl⟩
    | none =>
        cases hh : target.height with
        | some points => exact ⟨_, rfl⟩
        | none =>
            rw [hw, hh] at hnone
            cases hnone

variable {element : Element α}

theorem exists_resized_iff {old : Transform α} (hgiven : target.isEmpty = false)
    (hshown : element.renderedSize = some shown) :
    (exists sized, resized element target old = .ok sized) <-> target.Measurable shown := by
  rw [← exists_resizeFactors_iff hgiven]
  constructor
  · intro h
    rcases h with ⟨sized, h⟩
    rcases resized_eq_ok h with ⟨other, factorX, factorY, hother, hfactors, _⟩
    rw [hshown] at hother
    cases hother
    exact ⟨_, hfactors⟩
  · intro h
    rcases h with ⟨factors, hfactors⟩
    unfold resized
    rw [hshown]
    dsimp only
    rw [hfactors]
    exact ⟨_, rfl⟩

theorem exists_planEdit_iff {position : Option (Position α)}
    {request : PropertyUpdate -> Request α} {mask : FieldMask}
    (hgiven : target.isEmpty = false) (hshown : element.renderedSize = some shown) :
    (exists requests, planEdit element position (some target) request mask = .ok requests) <->
      target.Measurable shown := by
  rw [← exists_resized_iff hgiven hshown]
  constructor
  · intro h
    rcases h with ⟨requests, h⟩
    rcases planEdit_resize_eq_ok.mp h with ⟨sent, hsent, _⟩
    rcases bind_eq_ok.mp hsent with ⟨sized, hsized, _⟩
    exact ⟨sized, hsized⟩
  · intro h
    rcases h with ⟨sized, hsized⟩
    exact ⟨_, planEdit_resize_eq_ok.mpr ⟨_, bind_eq_ok.mpr ⟨sized, hsized, rfl⟩, rfl⟩⟩

end Measurable

/-! ## Elements that have been turned -/

section Turned

variable {α : Type} [LinearOrder α] [ExactScalar α] {target : TargetSize α}
  {width height cosine sine : α} {element : Element α}

/-- An element of at least one EMU by one EMU, turned by an angle. -/
structure Element.Turned (element : Element α) (width height cosine sine : α) : Prop where
  size : element.info.size.map Size.emu = some (width, height)
  width_ge : 1 ≤ width
  height_ge : 1 ≤ height
  scaleX : element.currentTransform.scaleX = cosine
  scaleY : element.currentTransform.scaleY = cosine
  shearX : element.currentTransform.shearX = -sine
  shearY : element.currentTransform.shearY = sine
  circle : cosine * cosine + sine * sine = 1

theorem Element.Turned.renderedSize (h : element.Turned width height cosine sine) :
    element.renderedSize = some (width * |cosine|, height * |cosine|) := by
  rcases Option.map_eq_some_iff.mp h.size with ⟨size, hsize, hemu⟩
  rw [renderedSize_eq, DeckTools.renderedSize, hsize, Option.map_some, Option.getD_some]
  dsimp only
  rw [hemu, h.scaleX, h.scaleY, ExactScalar.abs_eq]

/-- What is wanted of a turned element can be reached on each axis. -/
structure TargetSize.InReach (target : TargetSize α) (width height cosine : α) : Prop where
  width : target.width.isSome = true -> 1 / 2 ^ 52 < width * |cosine|
  height : target.height.isSome = true -> 1 / 2 ^ 52 < height * |cosine|

theorem isMeasurable_mul_cosine_iff {extent : α} (hextent : 1 ≤ extent) :
    isMeasurable (extent * |cosine|) = true <-> 1 / 2 ^ 52 < extent * |cosine| := by
  have hnonneg : 0 ≤ extent * |cosine| :=
    mul_nonneg (le_trans zero_le_one hextent) (abs_nonneg cosine)
  rw [ExactScalar.isMeasurable_iff, abs_of_nonneg hnonneg]

theorem measurable_iff_inReach (hwidth : 1 ≤ width) (hheight : 1 ≤ height) :
    target.Measurable (width * |cosine|, height * |cosine|) <->
      target.InReach width height cosine := by
  constructor
  · intro h
    constructor
    · intro hwanted
      exact (isMeasurable_mul_cosine_iff hwidth).mp (h.width hwanted)
    · intro hwanted
      exact (isMeasurable_mul_cosine_iff hheight).mp (h.height hwanted)
  · intro h
    constructor
    · intro hwanted
      exact (isMeasurable_mul_cosine_iff hwidth).mpr (h.width hwanted)
    · intro hwanted
      exact (isMeasurable_mul_cosine_iff hheight).mpr (h.height hwanted)

/-- A cosine that is not all but zero keeps an element of one EMU in reach. -/
theorem TargetSize.inReach_of_cosine (hwidth : 1 ≤ width) (hheight : 1 ≤ height)
    (h : 1 / 2 ^ 52 < |cosine|) :
    target.InReach width height cosine where
  width _ := lt_of_lt_of_le h (le_mul_of_one_le_left (abs_nonneg cosine) hwidth)
  height _ := lt_of_lt_of_le h (le_mul_of_one_le_left (abs_nonneg cosine) hheight)

theorem TargetSize.not_inReach_zero (hgiven : target.isEmpty = false) :
    ¬ target.InReach width height 0 := by
  intro h
  have hpos : (0 : α) < 1 / 2 ^ 52 := by positivity
  cases hw : target.width with
  | some points =>
      have hlarge := h.width (by rw [hw]; rfl)
      rw [abs_zero, mul_zero] at hlarge
      exact lt_asymm hpos hlarge
  | none =>
      cases hh : target.height with
      | some points =>
          have hlarge := h.height (by rw [hh]; rfl)
          rw [abs_zero, mul_zero] at hlarge
          exact lt_asymm hpos hlarge
      | none =>
          unfold isEmpty at hgiven
          rw [hw, hh] at hgiven
          cases hgiven

/-- Whether a resize of a turned element is planned, which its cosine decides. -/
structure ResizesTurned (planned : Except ToolError (EditPlan α)) (target : TargetSize α)
    (width height cosine : α) : Prop where
  planned_iff : (exists plan, planned = .ok plan) <-> target.InReach width height cosine
  tilted : 1 / 2 ^ 52 < |cosine| -> exists plan, planned = .ok plan
  quarterTurn : cosine = 0 -> exists e, planned = .error e
  refused : forall e, planned = .error e -> e.kind = .invalidObjectState

theorem resizesTurned_of_planEdit {position : Option (Position α)}
    {request : PropertyUpdate -> Request α} {mask : FieldMask}
    {write : List (Request α) -> EditPlan α} (hturned : element.Turned width height cosine sine)
    (htarget : target.check = .ok ()) :
    ResizesTurned ((planEdit element position (some target) request mask).map write)
      target width height cosine := by
  have hgiven : target.isEmpty = false := TargetSize.isEmpty_of_check htarget
  have hplanned : (exists plan,
      (planEdit element position (some target) request mask).map write = .ok plan) <->
        target.InReach width height cosine := by
    rw [← measurable_iff_inReach hturned.width_ge hturned.height_ge,
      ← exists_planEdit_iff hgiven hturned.renderedSize]
    simp only [map_eq_ok]
    constructor
    · intro h
      rcases h with ⟨_, requests, hrequests, _⟩
      exact ⟨requests, hrequests⟩
    · intro h
      rcases h with ⟨requests, hrequests⟩
      exact ⟨_, requests, hrequests, rfl⟩
  refine
    { planned_iff := hplanned, tilted := ?tilted, quarterTurn := ?quarterTurn
      refused := ?refused }
  case tilted =>
      intro h
      exact hplanned.mpr
        (TargetSize.inReach_of_cosine hturned.width_ge hturned.height_ge h)
  case quarterTurn =>
      rintro rfl
      cases hplan : (planEdit element position (some target) request mask).map write with
      | error e => exact ⟨e, rfl⟩
      | ok plan =>
          exact absurd (hplanned.mp ⟨plan, hplan⟩) (TargetSize.not_inReach_zero hgiven)
  case refused =>
      intro e h
      apply planEdit_error _ (map_eq_error.mp h)
      rintro _ ⟨⟩
      exact htarget

/--
A resize of an image or a video that has been turned is planned just if each wanted axis, times
the cosine of the angle, is more than the least extent.  So it is refused after a quarter turn.
-/
theorem resize_of_turned {α : Type} [LinearOrder α] [ExactScalar α] :
    (forall (element : Element α) (changes : ImageChanges α) (edit : CheckedImageEdit α)
        (target : TargetSize α) (width height cosine sine : α),
      element.isImage = true -> element.Turned width height cosine sine ->
      changes.check = .ok edit -> edit.size = some target ->
      ResizesTurned (modifyImage element edit.toImageEdit) target width height cosine) ∧
    forall (element : Element α) (changes : VideoChanges α) (edit : CheckedVideoEdit α)
        (target : TargetSize α) (width height cosine sine : α),
      element.isVideo = true -> element.Turned width height cosine sine ->
      changes.check = .ok edit -> edit.size = some target ->
      ResizesTurned (modifyVideo element edit.toVideoEdit) target width height cosine := by
  constructor
  · intro element changes edit target width height cosine sine himage hturned _ hsize
    rw [modifyImage_eq himage, hsize]
    exact resizesTurned_of_planEdit hturned (edit.size_passes target hsize)
  · intro element changes edit target width height cosine sine hvideo hturned _ hsize
    rw [modifyVideo_eq hvideo, hsize]
    exact resizesTurned_of_planEdit hturned (edit.size_passes target hsize)

end Turned

namespace Rehearsal

def quarterTurned : Element ℚ :=
  .image
    { objectId := "image-1"
      size :=
        some
          { width := some { magnitude := 100, unit := .point }
            height := some { magnitude := 100, unit := .point } }
      transform :=
        some
          { scaleX := 0, scaleY := 0, shearX := -1, shearY := 1
            translateX := 100, translateY := 0, unit := .point }
      title := none
      description := none }
    { contentUrl := none, sourceUrl := none, properties := none }

def tiltedVideo : Element ℚ :=
  .video
    { objectId := "video-1"
      size := some { width := some (.ofEmu 1270000), height := some (.ofEmu 635000) }
      transform :=
        some
          { scaleX := 3 / 5, scaleY := 3 / 5, shearX := -4 / 5, shearY := 4 / 5
            translateX := 0, translateY := 0, unit := .emu }
      title := none
      description := none }
    { id := none, source := none, url := none, playback := none }

def unchangedSize : TargetSize ℚ :=
  { width := some 100, height := some 100 }

def squareChanges : ImageChanges ℚ :=
  { position := none
    size := some unchangedSize
    brightness := none
    contrast := none
    transparency := none
    crop := none
    recolor := none }

def squareEdit : ImageEdit ℚ :=
  { position := none
    size := some unchangedSize
    brightness := none
    contrast := none
    transparency := none
    crop := none
    recolor := none }

def videoSizeChanges : VideoChanges ℚ :=
  { position := none
    size := some unchangedSize
    startTime := none
    endTime := none
    autoplay := none
    mute := none }

def videoSizeEdit : VideoEdit ℚ :=
  { position := none
    size := some unchangedSize
    start := none
    stop := none
    autoplay := none
    mute := none }

theorem quarterTurned_turned :
    letI := ExactScalar.rational
    quarterTurned.Turned 1270000 1270000 0 1 :=
  letI := ExactScalar.rational
  { size := by decide +kernel
    width_ge := by decide +kernel
    height_ge := by decide +kernel
    scaleX := rfl
    scaleY := rfl
    shearX := rfl
    shearY := rfl
    circle := by decide +kernel }

theorem tiltedVideo_turned :
    letI := ExactScalar.rational
    tiltedVideo.Turned 1270000 635000 (3 / 5) (4 / 5) :=
  letI := ExactScalar.rational
  { size := by decide +kernel
    width_ge := by decide +kernel
    height_ge := by decide +kernel
    scaleX := rfl
    scaleY := rfl
    shearX := by decide +kernel
    shearY := rfl
    circle := by decide +kernel }

end Rehearsal

/-- The video has a plan, and the square after a quarter turn has none. -/
theorem resize_of_turned_tilted :
    letI := ExactScalar.rational
    (Rehearsal.tiltedVideo.Turned 1270000 635000 (3 / 5) (4 / 5) ∧
      exists edit plan, Rehearsal.videoSizeChanges.check = .ok edit ∧
        edit.toVideoEdit = Rehearsal.videoSizeEdit ∧
        modifyVideo Rehearsal.tiltedVideo edit.toVideoEdit = .ok plan) ∧
    Rehearsal.quarterTurned.Turned 1270000 1270000 0 1 ∧
    exists edit e, Rehearsal.squareChanges.check = .ok edit ∧
      edit.toImageEdit = Rehearsal.squareEdit ∧
      modifyImage Rehearsal.quarterTurned edit.toImageEdit = .error e := by
  let _ := ExactScalar.rational
  have hvideo : exists edit, Rehearsal.videoSizeChanges.check = .ok edit ∧
      edit.toVideoEdit = Rehearsal.videoSizeEdit := ⟨_, rfl, rfl⟩
  have himage : exists edit, Rehearsal.squareChanges.check = .ok edit ∧
      edit.toImageEdit = Rehearsal.squareEdit := ⟨_, rfl, rfl⟩
  have hcosine : (1 : ℚ) / 2 ^ 52 < |3 / 5| := by decide +kernel
  rcases hvideo with ⟨video, hvideo, hvideoEdit⟩
  rcases himage with ⟨image, himage, himageEdit⟩
  have hvideoSize : video.size = some Rehearsal.unchangedSize := by
    rw [hvideoEdit]
    rfl
  have himageSize : image.size = some Rehearsal.unchangedSize := by
    rw [himageEdit]
    rfl
  constructor
  · rcases (resize_of_turned.2 _ _ _ _ _ _ _ _ rfl Rehearsal.tiltedVideo_turned hvideo
      hvideoSize).tilted hcosine with ⟨plan, hplan⟩
    exact ⟨Rehearsal.tiltedVideo_turned, video, plan, hvideo, hvideoEdit, hplan⟩
  · rcases (resize_of_turned.1 _ _ _ _ _ _ _ _ rfl Rehearsal.quarterTurned_turned himage
      himageSize).quarterTurn rfl with ⟨e, he⟩
    exact ⟨Rehearsal.quarterTurned_turned, image, e, himage, himageEdit, he⟩

/-- The square is to stay as large as it is, but counts as an element without extent. -/
theorem quarter_turn_not_resized :
    letI := ExactScalar.rational
    Rehearsal.quarterTurned.isImage = true ∧
    Rehearsal.quarterTurned.Turned 1270000 1270000 0 1 ∧
    exists edit e, Rehearsal.squareChanges.check = .ok edit ∧
      edit.size = some Rehearsal.unchangedSize ∧
      modifyImage Rehearsal.quarterTurned edit.toImageEdit = .error e ∧
      e.kind = .invalidObjectState := by
  let _ := ExactScalar.rational
  have hcheck : exists edit, Rehearsal.squareChanges.check = .ok edit ∧
      edit.size = some Rehearsal.unchangedSize := ⟨_, rfl, rfl⟩
  rcases hcheck with ⟨edit, hcheck, hsize⟩
  have hresizes : ResizesTurned (modifyImage Rehearsal.quarterTurned edit.toImageEdit)
      Rehearsal.unchangedSize 1270000 1270000 0 := by
    rw [modifyImage_eq rfl, hsize]
    exact resizesTurned_of_planEdit Rehearsal.quarterTurned_turned (edit.size_passes _ hsize)
  rcases hresizes.quarterTurn rfl with ⟨e, he⟩
  exact ⟨rfl, Rehearsal.quarterTurned_turned, edit, e, hcheck, hsize, he,
    hresizes.refused e he⟩

end DeckTools
