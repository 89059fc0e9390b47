import Mathlib.Data.Sign.Basic
import DeckTools.Proofs.Edit.Plan
import DeckTools.Proofs.Geometry.Exact

/-!
# Resizing reaches its target

A resize is planned as factors on the transform that an element has, so whether the element
shows the target size afterwards depends on its intrinsic size, its scale and the factors
together.  Without rounding it does, and nothing else about the transform changes but where
the element is to be.
-/

namespace DeckTools

/-! ## Elements with another transform -/

namespace Element

variable {α : Type}

def withInfo (info : ElementInfo α) : Element α -> Element α
  | shape _ content => .shape info content
  | image _ content => .image info content
  | video _ content => .video info content
  | table _ content => .table info content
  | group _ members => .group info members
  | other _ name => .other info name

@[simp] theorem info_withInfo (info : ElementInfo α) (element : Element α) :
    (element.withInfo info).info = info := by
  cases element <;> rfl

def withTransform (transform : Transform α) (element : Element α) : Element α :=
  element.withInfo { element.info with transform := some transform }

/-- The transform that the element has now; without one it stands as it is. -/
def currentTransform [Scalar α] (element : Element α) : Transform α :=
  element.info.transform.getD .identity

theorem renderedSize_eq [Scalar α] (element : Element α) :
    element.renderedSize =
      DeckTools.renderedSize element.info.size (some element.currentTransform) := rfl

theorem renderedSize_withTransform [Scalar α] (transform : Transform α) (element : Element α) :
    (element.withTransform transform).renderedSize =
      DeckTools.renderedSize element.info.size (some transform) := by
  rw [withTransform, renderedSize, info_withInfo]

end Element

/-! ## Factors -/

section Factors

variable {α : Type} [Scalar α]

/-- The factor of a target axis is relative to what shows; an open axis takes the other one. -/
theorem resizeFactors_eq_ok {width height factorX factorY : α}
    {targetWidth targetHeight : Option α}
    (h : resizeFactors width height targetWidth targetHeight = .ok (factorX, factorY)) :
    (forall points, targetWidth = some points ->
      isMeasurable width = true ∧ factorX = emuOfPoints points / width) ∧
    (forall points, targetHeight = some points ->
      isMeasurable height = true ∧ factorY = emuOfPoints points / height) ∧
    (targetWidth = none ∨ targetHeight = none -> factorX = factorY) ∧
    (targetWidth.isSome || targetHeight.isSome) = true := by
  unfold resizeFactors at h
  split at h
  case isTrue => cases h
  case isFalse =>
    split at h
    case isTrue => cases h
    case isFalse hwidth =>
      split at h
      case isTrue => cases h
      case isFalse hheight =>
        have hwide : targetWidth.isSome = true -> isMeasurable width = true := by
          simpa using hwidth
        have hhigh : targetHeight.isSome = true -> isMeasurable height = true := by
          simpa using hheight
        cases targetWidth with
        | none =>
          cases targetHeight with
          | none => cases h
          | some points =>
            cases h
            exact ⟨nofun, fun _ hpoints => ⟨hhigh rfl, by cases hpoints; rfl⟩, fun _ => rfl, rfl⟩
        | some points =>
          cases targetHeight with
          | none =>
            cases h
            exact ⟨fun _ hpoints => ⟨hwide rfl, by cases hpoints; rfl⟩, nofun, fun _ => rfl, rfl⟩
          | some other =>
            cases h
            refine ⟨fun _ hpoints => ⟨hwide rfl, by cases hpoints; rfl⟩,
              fun _ hpoints => ⟨hhigh rfl, by cases hpoints; rfl⟩, ?_, rfl⟩
            intro hopen
            rcases hopen with hnone | hnone <;> cases hnone

theorem resized_eq_ok {element : Element α} {size : TargetSize α} {old sized : Transform α}
    (h : resized element size old = .ok sized) :
    exists shown factorX factorY, element.renderedSize = some shown ∧
      resizeFactors shown.1 shown.2 size.width size.height = .ok (factorX, factorY) ∧
      sized = old.stretch factorX factorY := by
  unfold resized at h
  split at h
  case h_1 => cases h
  case h_2 width height hshown =>
    split at h
    case h_1 factorX factorY hfactors =>
      cases h
      exact ⟨(width, height), factorX, factorY, hshown, hfactors, rfl⟩
    case h_2 => cases h
    case h_3 => cases h

end Factors

theorem checkExtent_eq_ok {name : String} {points : ℚ}
    (h : checkExtent name (some points) = .ok ()) : 0 < points := by
  unfold checkExtent at h
  dsimp only at h
  split at h
  case isTrue => cases h
  case isFalse hextent => simpa using hextent

theorem TargetSize.pos_of_check {size : TargetSize ℚ} (h : size.check = .ok ()) :
    (forall points, size.width = some points -> 0 < points) ∧
      forall points, size.height = some points -> 0 < points := by
  have hgiven : size.isEmpty = false := isEmpty_of_check h
  unfold check at h
  rw [hgiven] at h
  rcases bind_eq_ok.mp h with ⟨_, hwidth, hheight⟩
  constructor
  · intro points hpoints
    rw [hpoints] at hwidth
    exact checkExtent_eq_ok hwidth
  · intro points hpoints
    rw [hpoints] at hheight
    exact checkExtent_eq_ok hheight

/-- Positive factors that take what shows to a target, in points. -/
structure FactorsReach (shown : ℚ × ℚ) (target : TargetSize ℚ) (factorX factorY : ℚ) :
    Prop where
  positiveX : 0 < factorX
  positiveY : 0 < factorY
  width : forall points, target.width = some points -> shown.1 * factorX = points * 12700
  height : forall points, target.height = some points -> shown.2 * factorY = points * 12700
  single : target.width = none ∨ target.height = none -> factorX = factorY

theorem factor_reaches {extent points factor : ℚ} (hnonneg : 0 ≤ extent)
    (hmeasurable : isMeasurable extent = true) (hpoints : 0 < points)
    (hfactor : factor = emuOfPoints points / extent) :
    0 < factor ∧ extent * factor = points * 12700 := by
  have hextent : 0 < extent := pos_of_isMeasurable hmeasurable hnonneg
  rw [hfactor, emuOfPoints_eq]
  constructor
  · positivity
  · exact mul_div_cancel₀ (points * 12700) (ne_of_gt hextent)

theorem factorsReach_of_resizeFactors {shown : ℚ × ℚ} {target : TargetSize ℚ}
    {factorX factorY : ℚ} (hnonneg : 0 ≤ shown.1 ∧ 0 ≤ shown.2) (htarget : target.check = .ok ())
    (h : resizeFactors shown.1 shown.2 target.width target.height = .ok (factorX, factorY)) :
    FactorsReach shown target factorX factorY := by
  rcases resizeFactors_eq_ok h with ⟨hwidth, hheight, hsingle, hgiven⟩
  rcases TargetSize.pos_of_check htarget with ⟨hposWidth, hposHeight⟩
  have hx : forall points, target.width = some points ->
      0 < factorX ∧ shown.1 * factorX = points * 12700 := by
    intro points hpoints
    rcases hwidth points hpoints with ⟨hmeasurable, hfactor⟩
    exact factor_reaches hnonneg.1 hmeasurable (hposWidth points hpoints) hfactor
  have hy : forall points, target.height = some points ->
      0 < factorY ∧ shown.2 * factorY = points * 12700 := by
    intro points hpoints
    rcases hheight points hpoints with ⟨hmeasurable, hfactor⟩
    exact factor_reaches hnonneg.2 hmeasurable (hposHeight points hpoints) hfactor
  -- an axis without a target has the factor of the other, which then has one
  have hpositive : 0 < factorX ∧ 0 < factorY := by
    cases hw : target.width with
    | none =>
      rcases Option.isSome_iff_exists.mp (by simpa [hw] using hgiven) with ⟨points, hpoints⟩
      rw [hsingle (Or.inl hw)]
      exact ⟨(hy points hpoints).1, (hy points hpoints).1⟩
    | some points =>
      cases hh : target.height with
      | none =>
        rw [← hsingle (Or.inr hh)]
        exact ⟨(hx points hw).1, (hx points hw).1⟩
      | some other => exact ⟨(hx points hw).1, (hy other hh).1⟩
  exact
    { positiveX := hpositive.1
      positiveY := hpositive.2
      width := fun points hpoints => (hx points hpoints).2
      height := fun points hpoints => (hy points hpoints).2
      single := hsingle }

/-! ## Transforms -/

namespace Transform

/-- The transform with its translation at a position in points, if there is one. -/
def placedAt (transform : Transform ℚ) : Option (Position ℚ) -> Transform ℚ
  | some point =>
      { transform with translateX := point.x * 12700, translateY := point.y * 12700 }
  | none => transform

theorem renderedSize_placedAt (transform : Transform ℚ) (position : Option (Position ℚ))
    (size : Option (Size ℚ)) :
    renderedSize size (some (transform.placedAt position)) =
      renderedSize size (some transform) := by
  cases position <;> rfl

theorem renderedSize_inEmu (transform : Transform ℚ) (size : Option (Size ℚ)) :
    renderedSize size (some transform.inEmu) = renderedSize size (some transform) := by
  rw [inEmu_eq]
  rfl

/-- The transform takes an element from what it shows to a target size and a position. -/
structure Resizes (sent : Transform ℚ) (element : Element ℚ) (target : TargetSize ℚ)
    (position : Option (Position ℚ)) : Prop where
  width : forall points, target.width = some points ->
    (element.withTransform sent).renderedSize.map Prod.fst = some (points * 12700)
  height : forall points, target.height = some points ->
    (element.withTransform sent).renderedSize.map Prod.snd = some (points * 12700)
  single : target.width = none ∨ target.height = none ->
    exists factor, 0 < factor ∧
      sent.scaleX = element.currentTransform.scaleX * factor ∧
      sent.scaleY = element.currentTransform.scaleY * factor ∧
      sent.shearX = element.currentTransform.shearX * factor ∧
      sent.shearY = element.currentTransform.shearY * factor
  signX : SignType.sign sent.scaleX = SignType.sign element.currentTransform.scaleX
  signY : SignType.sign sent.scaleY = SignType.sign element.currentTransform.scaleY
  unit : sent.unit = .emu
  stays : position = none ->
    sent.translateX =
        element.currentTransform.translateX * element.currentTransform.unit.inEmu ∧
      sent.translateY =
        element.currentTransform.translateY * element.currentTransform.unit.inEmu
  moves : forall point, position = some point ->
    sent.translateX = point.x * 12700 ∧ sent.translateY = point.y * 12700

theorem resizes_of_factorsReach {element : Element ℚ} {target : TargetSize ℚ}
    {shown : ℚ × ℚ} {factorX factorY : ℚ} (hshown : element.renderedSize = some shown)
    (h : FactorsReach shown target factorX factorY) (position : Option (Position ℚ)) :
    ((element.currentTransform.inEmu.stretch factorX factorY).placedAt position).Resizes
      element target position := by
  have hrendered :
      (element.withTransform
        ((element.currentTransform.inEmu.stretch factorX factorY).placedAt
          position)).renderedSize = some (shown.1 * factorX, shown.2 * factorY) := by
    rw [Element.renderedSize_withTransform, renderedSize_placedAt,
      renderedSize_stretch h.positiveX h.positiveY, renderedSize_inEmu,
      ← Element.renderedSize_eq, hshown, Option.map_some]
  have hscaleX :
      ((element.currentTransform.inEmu.stretch factorX factorY).placedAt position).scaleX =
        element.currentTransform.scaleX * factorX := by
    rw [inEmu_eq]
    cases position <;> rfl
  have hscaleY :
      ((element.currentTransform.inEmu.stretch factorX factorY).placedAt position).scaleY =
        element.currentTransform.scaleY * factorY := by
    rw [inEmu_eq]
    cases position <;> rfl
  refine
    { width := ?width, height := ?height, single := ?single, signX := ?signX
      signY := ?signY, unit := ?unit, stays := ?stays, moves := ?moves }
  case width =>
    intro points hpoints
    rw [hrendered, Option.map_some, h.width points hpoints]
  case height =>
    intro points hpoints
    rw [hrendered, Option.map_some, h.height points hpoints]
  case single =>
    intro hopen
    refine ⟨factorX, h.positiveX, hscaleX, ?_⟩
    rw [hscaleY, ← h.single hopen, inEmu_eq]
    cases position <;> exact ⟨rfl, rfl, rfl⟩
  case signX => rw [hscaleX, sign_mul, sign_pos h.positiveX, mul_one]
  case signY => rw [hscaleY, sign_mul, sign_pos h.positiveY, mul_one]
  case unit =>
    rw [inEmu_eq]
    cases position <;> rfl
  case stays =>
    intro hnone
    rw [hnone, inEmu_eq]
    exact ⟨rfl, rfl⟩
  case moves =>
    intro point hpoint
    rw [hpoint]
    exact ⟨rfl, rfl⟩

end Transform

/-- A resize stretches the current transform, wherever the element is moved afterwards. -/
theorem editedTransform_eq_ok {element : Element ℚ} {position : Option (Position ℚ)}
    {target : TargetSize ℚ} {sent : Transform ℚ}
    (h : editedTransform element position (some target) = .ok sent) :
    exists shown factorX factorY, element.renderedSize = some shown ∧
      resizeFactors shown.1 shown.2 target.width target.height = .ok (factorX, factorY) ∧
      forall other, editedTransform element other (some target) =
        .ok ((element.currentTransform.inEmu.stretch factorX factorY).placedAt other) := by
  unfold editedTransform at h
  rcases bind_eq_ok.mp h with ⟨sized, hsized, _⟩
  rcases resized_eq_ok hsized with ⟨shown, factorX, factorY, hshown, hfactors, rfl⟩
  refine ⟨shown, factorX, factorY, hshown, hfactors, ?_⟩
  intro other
  unfold editedTransform
  dsimp only at hsized ⊢
  rw [hsized, ok_bind]
  cases other <;> rfl

/-! ## Plans -/

def Request.transform? {α : Type} : Request α -> Option (String × Transform α)
  | .setTransform objectId transform => some (objectId, transform)
  | _ => none

/-- The transforms that a plan sends, each with its object. -/
def EditPlan.transforms {α : Type} (plan : EditPlan α) : List (String × Transform α) :=
  plan.requests.filterMap Request.transform?

section Plans

variable {α : Type} {element : Element α} {position : Option (Position α)}
  {target : TargetSize α} {request : PropertyUpdate -> Request α} {mask : FieldMask}

theorem planEdit_resize_eq_ok [Scalar α] {requests : List (Request α)} :
    planEdit element position (some target) request mask = .ok requests <->
      exists sent, editedTransform element position (some target) = .ok sent ∧
        .setTransform element.objectId sent ::
          propertyRequests request element.objectId mask = requests := by
  have hasked : (position.isSome || (some target).isSome) = true := by simp
  unfold planEdit transformRequests
  rw [if_pos hasked, map_eq_ok]
  simp only [map_eq_ok]
  constructor
  · intro h
    rcases h with ⟨moves, ⟨sent, hsent, rfl⟩, rfl⟩
    exact ⟨sent, hsent, rfl⟩
  · intro h
    rcases h with ⟨sent, hsent, rfl⟩
    exact ⟨_, ⟨sent, hsent, rfl⟩, rfl⟩

theorem transforms_resize (hrequest : forall update, (request update).transform? = none)
    (objectId : String) (sent : Transform α) :
    (.setTransform objectId sent :: propertyRequests request objectId mask).filterMap
        Request.transform? = [(objectId, sent)] := by
  have hproperties :
      (propertyRequests request objectId mask).filterMap Request.transform? = [] := by
    unfold propertyRequests
    split
    case isTrue => rfl
    case isFalse => rw [List.filterMap_cons_none (hrequest _), List.filterMap_nil]
  have hfirst : (Request.setTransform objectId sent).transform? = some (objectId, sent) := rfl
  rw [List.filterMap_cons_some hfirst, hproperties]

end Plans

/-- No extent of the intrinsic size of the element is negative. -/
def Element.SizeNonNegative (element : Element ℚ) : Prop :=
  forall size, element.info.size = some size -> size.NonNegative

/--
The plan sends one transform.  It takes the element to its target size and position, and
differs from what a plan for the size alone would send in nothing but the position.
-/
def EditPlan.Resizes (plan : EditPlan ℚ) (element : Element ℚ) (target : TargetSize ℚ)
    (position : Option (Position ℚ)) (sizeAlone : Except ToolError (EditPlan ℚ)) : Prop :=
  exists sent alone unmoved,
    plan.transforms = [(element.objectId, sent)] ∧ sent.Resizes element target position ∧
      sizeAlone = .ok alone ∧ alone.transforms = [(element.objectId, unmoved)] ∧
      sent = unmoved.placedAt position

/-- The kind of the element is looked at before anything is planned. -/
theorem resizes_of_planEdit {element : Element ℚ} {position : Option (Position ℚ)}
    {target : TargetSize ℚ} {request : PropertyUpdate -> Request ℚ} {mask : FieldMask}
    {kind : Except ToolError Unit} {plan : EditPlan ℚ} {modified alone : List String}
    (hrequest : forall update, (request update).transform? = none)
    (hsize : element.SizeNonNegative) (htarget : target.check = .ok ())
    (h : (do
      kind
      let requests <- planEdit element position (some target) request mask
      .ok (EditPlan.mk requests modified)) = .ok plan) :
    plan.Resizes element target position (do
      kind
      let requests <- planEdit element none (some target) request mask
      .ok (EditPlan.mk requests alone)) := by
  rcases bind_eq_ok.mp h with ⟨_, hkind, h⟩
  rcases bind_eq_ok.mp h with ⟨requests, hrequests, h⟩
  cases h
  rcases planEdit_resize_eq_ok.mp hrequests with ⟨sent, hsent, rfl⟩
  rcases editedTransform_eq_ok hsent with
    ⟨shown, factorX, factorY, hshown, hfactors, hedited⟩
  have hnonneg : 0 ≤ shown.1 ∧ 0 ≤ shown.2 := renderedSize_nonneg hsize hshown
  have hreach : FactorsReach shown target factorX factorY :=
    factorsReach_of_resizeFactors hnonneg htarget hfactors
  have hplaced : sent =
      (element.currentTransform.inEmu.stretch factorX factorY).placedAt position := by
    rw [hedited position] at hsent
    exact (Except.ok.inj hsent).symm
  have halone : planEdit element none (some target) request mask =
      .ok (.setTransform element.objectId
          (element.currentTransform.inEmu.stretch factorX factorY) ::
        propertyRequests request element.objectId mask) :=
    planEdit_resize_eq_ok.mpr ⟨_, hedited none, rfl⟩
  rw [hkind, ok_bind, halone, ok_bind]
  refine ⟨sent, _, _, transforms_resize hrequest _ _, ?_, rfl,
    transforms_resize hrequest _ _, hplaced⟩
  rw [hplaced]
  exact Transform.resizes_of_factorsReach hshown hreach position

/-- Without rounding, a resize takes an image or a video to its target. -/
theorem resize_reaches_target :
    (forall (element : Element ℚ) (changes : ImageChanges ℚ) (edit : CheckedImageEdit ℚ)
        (target : TargetSize ℚ) (plan : EditPlan ℚ),
      element.SizeNonNegative -> changes.check = .ok edit -> edit.size = some target ->
      modifyImage element edit.toImageEdit = .ok plan ->
      plan.Resizes element target edit.position
        (modifyImage element { edit.toImageEdit with position := none })) ∧
    forall (element : Element ℚ) (changes : VideoChanges ℚ) (edit : CheckedVideoEdit ℚ)
        (target : TargetSize ℚ) (plan : EditPlan ℚ),
      element.SizeNonNegative -> changes.check = .ok edit -> edit.size = some target ->
      modifyVideo element edit.toVideoEdit = .ok plan ->
      plan.Resizes element target edit.position
        (modifyVideo element { edit.toVideoEdit with position := none }) := by
  constructor
  · intro element changes edit target plan hnonneg _ hsize hplan
    have htarget := edit.size_passes target hsize
    unfold modifyImage at hplan ⊢
    rw [hsize] at hplan ⊢
    exact resizes_of_planEdit (fun _ => rfl) hnonneg htarget hplan
  · intro element changes edit target plan hnonneg _ hsize hplan
    have htarget := edit.size_passes target hsize
    unfold modifyVideo at hplan ⊢
    rw [hsize] at hplan ⊢
    exact resizes_of_planEdit (fun _ => rfl) hnonneg htarget hplan

namespace Rehearsal

def mirroredImage : Element ℚ :=
  .image
    { objectId := "image-1"
      size :=
        some
          { width := some { magnitude := 100, unit := .point }
            height := some { magnitude := 50, unit := .point } }
      transform :=
        some
          { scaleX := -1 / 2, scaleY := 1, shearX := 1 / 4, shearY := 0
            translateX := 10, translateY := 20, unit := .point }
      title := none
      description := none }
    { contentUrl := none, sourceUrl := none, properties := none }

def widened : TargetSize ℚ :=
  { width := some 100, height := none }

def widenedImage : Transform ℚ :=
  { scaleX := -1, scaleY := 2, shearX := 1 / 2, shearY := 0
    translateX := 127000, translateY := 254000, unit := .emu }

def widening : ImageEdit ℚ :=
  { position := none
    size := some widened
    brightness := none
    contrast := none
    transparency := none
    crop := none
    recolor := none }

def plainVideo : Element ℚ :=
  .video
    { objectId := "video-1"
      size := some { width := some (.ofEmu 1270000), height := some (.ofEmu 635000) }
      transform := none
      title := none
      description := none }
    { id := none, source := none, url := none, playback := none }

def squared : TargetSize ℚ :=
  { width := some 200, height := some 200 }

def squaredVideo : Transform ℚ :=
  { scaleX := 2, scaleY := 4, shearX := 0, shearY := 0
    translateX := 127000, translateY := 254000, unit := .emu }

def squaring : VideoEdit ℚ :=
  { position := some { x := 10, y := 20 }
    size := some squared
    start := none
    stop := none
    autoplay := none
    mute := none }

end Rehearsal

theorem exists_ok_of_map_toOption {ε β γ : Type} {checked : Except ε β} {read : β -> γ}
    {result : γ} (h : checked.toOption.map read = some result) :
    exists value, checked = .ok value ∧ read value = result := by
  cases checked with
  | error e => cases h
  | ok value => exact ⟨value, rfl, Option.some.inj h⟩

theorem resize_reaches_target_sample :
    (exists changes edit plan, Rehearsal.mirroredImage.SizeNonNegative ∧
      ImageChanges.check changes = .ok edit ∧ edit.toImageEdit = Rehearsal.widening ∧
      modifyImage Rehearsal.mirroredImage Rehearsal.widening = .ok plan ∧
      plan.transforms = [("image-1", Rehearsal.widenedImage)] ∧
      plan.Resizes Rehearsal.mirroredImage Rehearsal.widened none
        (modifyImage Rehearsal.mirroredImage Rehearsal.widening)) ∧
    exists changes edit plan, Rehearsal.plainVideo.SizeNonNegative ∧
      VideoChanges.check changes = .ok edit ∧ edit.toVideoEdit = Rehearsal.squaring ∧
      modifyVideo Rehearsal.plainVideo Rehearsal.squaring = .ok plan ∧
      plan.transforms = [("video-1", Rehearsal.squaredVideo)] ∧
      plan.Resizes Rehearsal.plainVideo Rehearsal.squared (some { x := 10, y := 20 })
        (modifyVideo Rehearsal.plainVideo { Rehearsal.squaring with position := none }) := by
  constructor
  · let changes : ImageChanges ℚ :=
      { position := none, size := some Rehearsal.widened, brightness := none
        contrast := none, transparency := none, crop := none, recolor := none }
    have hnonneg : Rehearsal.mirroredImage.SizeNonNegative := by
      intro size hsize
      cases hsize
      constructor
      · intro length hlength
        cases hlength
        decide +kernel
      · intro length hlength
        cases hlength
        decide +kernel
    have hcheck : exists edit, changes.check = .ok edit ∧
        edit.toImageEdit = Rehearsal.widening := ⟨_, rfl, rfl⟩
    rcases hcheck with ⟨edit, hcheck, hedit⟩
    have hsent : (modifyImage Rehearsal.mirroredImage Rehearsal.widening).toOption.map
        EditPlan.transforms = some [("image-1", Rehearsal.widenedImage)] := by decide +kernel
    rcases exists_ok_of_map_toOption hsent with ⟨plan, hplan, hsent⟩
    rw [← hedit] at hplan
    have hresizes := resize_reaches_target.1 _ _ _ Rehearsal.widened plan hnonneg hcheck
      (by rw [hedit]; rfl) hplan
    rw [hedit] at hplan hresizes
    exact ⟨changes, edit, plan, hnonneg, hcheck, hedit, hplan, hsent, hresizes⟩
  · let changes : VideoChanges ℚ :=
      { position := some { x := 10, y := 20 }, size := some Rehearsal.squared
        startTime := none, endTime := none, autoplay := none, mute := none }
    have hnonneg : Rehearsal.plainVideo.SizeNonNegative := by
      intro size hsize
      cases hsize
      constructor
      · intro length hlength
        cases hlength
        decide +kernel
      · intro length hlength
        cases hlength
        decide +kernel
    have hcheck : exists edit, changes.check = .ok edit ∧
        edit.toVideoEdit = Rehearsal.squaring := ⟨_, rfl, rfl⟩
    rcases hcheck with ⟨edit, hcheck, hedit⟩
    have hsent : (modifyVideo Rehearsal.plainVideo Rehearsal.squaring).toOption.map
        EditPlan.transforms = some [("video-1", Rehearsal.squaredVideo)] := by decide +kernel
    rcases exists_ok_of_map_toOption hsent with ⟨plan, hplan, hsent⟩
    rw [← hedit] at hplan
    have hresizes := resize_reaches_target.2 _ _ _ Rehearsal.squared plan hnonneg hcheck
      (by rw [hedit]; rfl) hplan
    rw [hedit] at hplan hresizes
    exact ⟨changes, edit, plan, hnonneg, hcheck, hedit, hplan, hsent, hresizes⟩

end DeckTools
