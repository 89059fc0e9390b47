import DeckTools.Proofs.Edit.Checked
import DeckTools.Tool.Registry

/-!
# Refusing the input

Before its first call a tool only checks its parameters.  Whatever such a check refuses,
the error is of one of the kinds for faulty input.  There is one lemma for each check, and
checks are put together by the rules for chains, choices and lists.
-/

namespace DeckTools

variable {α β : Type}

/-- Every error of a check blames the input. -/
def BlamesInput (checked : Except ToolError α) : Prop :=
  forall e, checked = .error e -> e.isInvalidInput = true

/-! ## Rules -/

theorem blamesInput_ok (value : α) : BlamesInput (.ok value) := by
  intro e he
  cases he

theorem blamesInput_failWith {kind : ToolErrorKind} {detail : String}
    (h : kind.isInvalidInput = true) :
    BlamesInput (failWith kind detail : Except ToolError α) := by
  intro e he
  cases he
  exact h

theorem blamesInput_bind {checked : Except ToolError α} {rest : α -> Except ToolError β}
    (hchecked : BlamesInput checked) (hrest : forall value, BlamesInput (rest value)) :
    BlamesInput (checked >>= rest) := by
  intro e he
  rcases bind_eq_error.mp he with he | ⟨value, _, he⟩
  · exact hchecked e he
  · exact hrest value e he

theorem blamesInput_map {checked : Except ToolError α} {write : α -> β}
    (hchecked : BlamesInput checked) :
    BlamesInput (checked.map write) := by
  intro e he
  exact hchecked e (map_eq_error.mp he)

/-- A condition that is refused by an error if it holds. -/
theorem blamesInput_failIf {condition : Prop} [Decidable condition] {kind : ToolErrorKind}
    {detail : String} {accepted : Except ToolError α} (h : kind.isInvalidInput = true)
    (haccepted : BlamesInput accepted) :
    BlamesInput (if condition then failWith kind detail else accepted) := by
  split
  case isTrue => exact blamesInput_failWith h
  case isFalse => exact haccepted

/-- A condition that is refused by an error unless it holds. -/
theorem blamesInput_failUnless {condition : Prop} [Decidable condition] {kind : ToolErrorKind}
    {detail : String} {accepted : Except ToolError α} (h : kind.isInvalidInput = true)
    (haccepted : BlamesInput accepted) :
    BlamesInput (if condition then accepted else failWith kind detail) := by
  split
  case isTrue => exact haccepted
  case isFalse => exact blamesInput_failWith h

theorem blamesInput_option_mapM {check : α -> Except ToolError β} {given : Option α}
    (hcheck : forall value, BlamesInput (check value)) :
    BlamesInput (given.mapM check) := by
  cases given with
  | none => exact blamesInput_ok none
  | some value => exact blamesInput_map (hcheck value)

/-- By induction on the list; the first error is the error of all. -/
theorem blamesInput_list_mapM {check : α -> Except ToolError β} {given : List α}
    (hcheck : forall value, BlamesInput (check value)) :
    BlamesInput (given.mapM check) := by
  induction given with
  | nil => exact blamesInput_ok []
  | cons value rest ih =>
      rw [List.mapM_cons]
      apply blamesInput_bind (hcheck value)
      intro first
      apply blamesInput_bind ih
      intro later
      exact blamesInput_ok (first :: later)

theorem checkGiven_blamesInput {check : α -> Except ToolError Unit} {given : Option α}
    (hcheck : forall value, BlamesInput (check value)) :
    BlamesInput (checkGiven check given) := by
  cases given with
  | none => exact blamesInput_ok _
  | some value =>
      unfold checkGiven
      dsimp only
      split
      case h_1 => exact blamesInput_ok _
      case h_2 e herror =>
          intro other hother
          cases hother
          exact hcheck value e herror

/-! ## IDs, titles and texts -/

theorem decodeParams_blamesInput (decode : Decoder α) (params : Json) :
    BlamesInput (decodeParams decode params) := by
  unfold decodeParams
  split
  case h_1 value _ => exact blamesInput_ok value
  case h_2 => exact blamesInput_failWith rfl

theorem checkPresentationId_blamesInput (raw : String) :
    BlamesInput (checkPresentationId raw) := by
  unfold checkPresentationId
  apply blamesInput_failIf rfl
  apply blamesInput_failUnless rfl
  exact blamesInput_ok _

theorem checkObjectId_blamesInput (raw : String) : BlamesInput (checkObjectId raw) := by
  unfold checkObjectId
  exact blamesInput_failIf rfl (blamesInput_ok _)

theorem checkTitle_blamesInput (raw : String) : BlamesInput (checkTitle raw) := by
  unfold checkTitle
  apply blamesInput_failIf rfl
  apply blamesInput_failIf rfl
  exact blamesInput_ok _

theorem checkLanguage_blamesInput (raw : String) : BlamesInput (checkLanguage raw) := by
  unfold checkLanguage
  exact blamesInput_failUnless rfl (blamesInput_ok _)

theorem SlideRef.ofParts_blamesInput (index : Option Int) (id : Option String) :
    BlamesInput (ofParts index id) := by
  unfold ofParts
  dsimp only
  split
  case h_1 => exact blamesInput_failWith rfl
  case h_2 => exact blamesInput_failIf rfl (blamesInput_ok _)
  case h_3 => exact blamesInput_ok _
  case h_4 => exact blamesInput_failWith rfl

theorem ImagePayload.ofText_blamesInput (raw : String) : BlamesInput (ofText raw) := by
  unfold ofText
  apply blamesInput_failIf rfl
  split
  case h_1 => exact blamesInput_failWith rfl
  case h_2 =>
      split
      case h_1 => exact blamesInput_ok _
      case h_2 => exact blamesInput_failWith rfl

theorem Search.Options.check_blamesInput (options : Options) : BlamesInput options.check := by
  apply blamesInput_failIf rfl
  apply blamesInput_failIf rfl
  exact blamesInput_ok ()

theorem Transition.ofText_blamesInput (raw : String) : BlamesInput (ofText raw) := by
  unfold ofText
  dsimp only
  split
  case h_1 transition _ => exact blamesInput_ok transition
  case h_2 => exact blamesInput_failWith rfl

/-! ## Geometry and properties -/

section Scalars

variable {α : Type} [Scalar α]

theorem checkTransitionDuration_blamesInput (seconds : α) :
    BlamesInput (checkTransitionDuration seconds) :=
  blamesInput_failIf rfl (blamesInput_ok ())

theorem checkCoordinate_blamesInput (name : String) (value : α) :
    BlamesInput (checkCoordinate name value) :=
  blamesInput_failIf rfl (blamesInput_ok ())

theorem Position.check_blamesInput (position : Position α) : BlamesInput position.check := by
  apply blamesInput_bind (checkCoordinate_blamesInput "x" position.x)
  intro _
  exact checkCoordinate_blamesInput "y" position.y

theorem checkExtent_blamesInput (name : String) (value : Option α) :
    BlamesInput (checkExtent name value) := by
  cases value with
  | none => exact blamesInput_ok ()
  | some value => exact blamesInput_failIf rfl (blamesInput_ok ())

theorem TargetSize.check_blamesInput (size : TargetSize α) : BlamesInput size.check := by
  have hextents : BlamesInput
      (checkExtent "width" size.width >>= fun _ => checkExtent "height" size.height) := by
    apply blamesInput_bind (checkExtent_blamesInput "width" size.width)
    intro _
    exact checkExtent_blamesInput "height" size.height
  exact blamesInput_failIf rfl hextents

theorem checkLevel_blamesInput {kind : ToolErrorKind} (h : kind.isInvalidInput = true)
    (name : String) (low high : Int) (value : α) :
    BlamesInput (checkLevel kind name low high value) :=
  blamesInput_failUnless h (blamesInput_ok ())

theorem checkEdge_blamesInput (name : String) (value : Option α) :
    BlamesInput (checkEdge name value) := by
  cases value with
  | none => exact blamesInput_ok ()
  | some value => exact checkLevel_blamesInput rfl _ 0 1 value

theorem checkOpposite_blamesInput (names : String) (a b : Option α) :
    BlamesInput (checkOpposite names a b) :=
  blamesInput_failIf rfl (blamesInput_ok ())

theorem Crop.check_blamesInput (crop : Crop α) : BlamesInput crop.check := by
  unfold check
  apply blamesInput_failIf rfl
  apply blamesInput_bind (checkEdge_blamesInput "left" crop.left)
  intro _
  apply blamesInput_bind (checkEdge_blamesInput "right" crop.right)
  intro _
  apply blamesInput_bind (checkEdge_blamesInput "top" crop.top)
  intro _
  apply blamesInput_bind (checkEdge_blamesInput "bottom" crop.bottom)
  intro _
  apply blamesInput_bind (checkOpposite_blamesInput "left + right" crop.left crop.right)
  intro _
  exact checkOpposite_blamesInput "top + bottom" crop.top crop.bottom

theorem Recolor.ofText_blamesInput (raw : String) : BlamesInput (ofText raw) := by
  unfold ofText
  dsimp only
  split
  case isTrue => exact blamesInput_ok _
  case isFalse => exact blamesInput_failUnless rfl (blamesInput_ok _)

theorem checkTime_blamesInput (name : String) (value : Option α) :
    BlamesInput (checkTime name value) := by
  cases value with
  | none => exact blamesInput_ok ()
  | some value => exact blamesInput_failIf rfl (blamesInput_ok ())

theorem checkTimeRange_blamesInput (start stop : Option α) :
    BlamesInput (checkTimeRange start stop) := by
  unfold checkTimeRange
  apply blamesInput_bind (checkTime_blamesInput "start_time" start)
  intro _
  apply blamesInput_bind (checkTime_blamesInput "end_time" stop)
  intro _
  split
  case h_1 => exact blamesInput_failIf rfl (blamesInput_ok ())
  case h_2 => exact blamesInput_ok ()

theorem ImageChanges.check_blamesInput (changes : ImageChanges α) :
    BlamesInput changes.check := by
  unfold check
  apply blamesInput_bind (checkGiven_blamesInput Position.check_blamesInput)
  intro _
  apply blamesInput_bind (checkGiven_blamesInput TargetSize.check_blamesInput)
  intro _
  apply blamesInput_bind (checkGiven_blamesInput (checkLevel_blamesInput rfl _ _ _))
  intro _
  apply blamesInput_bind (checkGiven_blamesInput (checkLevel_blamesInput rfl _ _ _))
  intro _
  apply blamesInput_bind (checkGiven_blamesInput (checkLevel_blamesInput rfl _ _ _))
  intro _
  apply blamesInput_bind (checkGiven_blamesInput Crop.check_blamesInput)
  intro _
  apply blamesInput_bind (blamesInput_option_mapM Recolor.ofText_blamesInput)
  intro recolor
  dsimp only
  split
  case isTrue => exact blamesInput_ok _
  case isFalse => exact blamesInput_failWith rfl

theorem VideoChanges.check_blamesInput (changes : VideoChanges α) :
    BlamesInput changes.check := by
  unfold check
  apply blamesInput_bind (checkGiven_blamesInput Position.check_blamesInput)
  intro _
  apply blamesInput_bind (checkGiven_blamesInput TargetSize.check_blamesInput)
  intro _
  apply blamesInput_bind (checkTimeRange_blamesInput changes.startTime changes.endTime)
  intro _
  dsimp only
  split
  case isTrue => exact blamesInput_ok _
  case isFalse => exact blamesInput_failWith rfl

end Scalars

/-! ## Parameters -/

theorem AddImage.ofParams_blamesInput (params : Json) : BlamesInput (ofParams params) := by
  unfold ofParams
  apply blamesInput_bind (decodeParams_blamesInput AddImageParams.decode params)
  intro p
  apply blamesInput_bind (checkPresentationId_blamesInput p.presentationId)
  intro presentationId
  apply blamesInput_bind (SlideRef.ofParts_blamesInput p.slideIndex p.slideId)
  intro slide
  apply blamesInput_bind (ImagePayload.ofText_blamesInput p.imageData)
  intro image
  apply blamesInput_bind (checkGiven_blamesInput Position.check_blamesInput)
  intro _
  apply blamesInput_bind (checkGiven_blamesInput TargetSize.check_blamesInput)
  intro _
  exact blamesInput_ok _

theorem ReplaceImage.ofParams_blamesInput (params : Json) : BlamesInput (ofParams params) := by
  unfold ofParams
  apply blamesInput_bind (decodeParams_blamesInput ReplaceImageParams.decode params)
  intro p
  apply blamesInput_bind (checkPresentationId_blamesInput p.presentationId)
  intro presentationId
  apply blamesInput_bind (checkObjectId_blamesInput p.objectId)
  intro objectId
  apply blamesInput_bind (ImagePayload.ofText_blamesInput p.imageData)
  intro image
  exact blamesInput_ok _

theorem Modify.ofParams_blamesInput {changes : Decoder α} {unchanged : α}
    {check : α -> Except ToolError β} (hcheck : forall value, BlamesInput (check value))
    (params : Json) :
    BlamesInput (ofParams changes unchanged check params) := by
  unfold ofParams
  apply blamesInput_bind (decodeParams_blamesInput (ModifyParams.decode changes unchanged) params)
  intro p
  apply blamesInput_bind (checkPresentationId_blamesInput p.presentationId)
  intro presentationId
  apply blamesInput_bind (checkObjectId_blamesInput p.objectId)
  intro objectId
  apply blamesInput_bind (hcheck p.changes)
  intro edit
  exact blamesInput_ok _

theorem DeleteObjects.ofParams_blamesInput (params : Json) : BlamesInput (ofParams params) := by
  unfold ofParams
  apply blamesInput_bind (decodeParams_blamesInput DeleteParams.decode params)
  intro p
  apply blamesInput_bind (checkPresentationId_blamesInput p.presentationId)
  intro presentationId
  apply blamesInput_failIf rfl
  apply blamesInput_bind (blamesInput_list_mapM checkObjectId_blamesInput)
  intro objectIds
  exact blamesInput_ok _

theorem CreatePresentation.ofParams_blamesInput (params : Json) :
    BlamesInput (ofParams params) := by
  unfold ofParams
  apply blamesInput_bind (decodeParams_blamesInput CreateParams.decode params)
  intro p
  apply blamesInput_bind (checkTitle_blamesInput p.title)
  intro title
  exact blamesInput_ok _

theorem CopyPresentation.ofParams_blamesInput (params : Json) :
    BlamesInput (ofParams params) := by
  unfold ofParams
  apply blamesInput_bind (decodeParams_blamesInput CopyParams.decode params)
  intro p
  apply blamesInput_bind (checkPresentationId_blamesInput p.sourceId)
  intro source
  apply blamesInput_bind (checkTitle_blamesInput p.name)
  intro name
  exact blamesInput_ok _

theorem ExportPdf.ofParams_blamesInput (params : Json) : BlamesInput (ofParams params) := by
  unfold ofParams
  apply blamesInput_bind (decodeParams_blamesInput ExportParams.decode params)
  intro p
  apply blamesInput_bind (checkPresentationId_blamesInput p.presentationId)
  intro presentationId
  exact blamesInput_ok _

theorem SearchText.ofParams_blamesInput (defaultContext : Nat) (params : Json) :
    BlamesInput (ofParams defaultContext params) := by
  unfold ofParams
  apply blamesInput_bind (decodeParams_blamesInput SearchParams.decode params)
  intro p
  apply blamesInput_bind (checkPresentationId_blamesInput p.presentationId)
  intro presentationId
  apply blamesInput_failIf rfl
  apply blamesInput_bind (Search.Options.check_blamesInput _)
  intro _
  exact blamesInput_ok _

theorem Translate.checkScope_blamesInput (p : TranslateParams) :
    BlamesInput (checkScope p) := by
  unfold checkScope
  split
  case h_1 => exact blamesInput_ok _
  case h_2 => exact blamesInput_map (SlideRef.ofParts_blamesInput p.slideIndex p.slideId)
  case h_3 => exact blamesInput_map (checkObjectId_blamesInput (p.objectId.getD ""))

theorem Translate.ofParams_blamesInput (params : Json) : BlamesInput (ofParams params) := by
  unfold ofParams
  apply blamesInput_bind (decodeParams_blamesInput TranslateParams.decode params)
  intro p
  apply blamesInput_bind (checkPresentationId_blamesInput p.presentationId)
  intro presentationId
  apply blamesInput_bind (checkLanguage_blamesInput p.targetLanguage)
  intro target
  apply blamesInput_bind (blamesInput_option_mapM checkLanguage_blamesInput)
  intro source
  apply blamesInput_bind (checkScope_blamesInput p)
  intro scope
  exact blamesInput_ok _

theorem ListComments.ofParams_blamesInput (params : Json) : BlamesInput (ofParams params) := by
  unfold ofParams
  apply blamesInput_bind (decodeParams_blamesInput CommentParams.decode params)
  intro p
  apply blamesInput_bind (checkPresentationId_blamesInput p.presentationId)
  intro presentationId
  exact blamesInput_ok _

theorem SetTransition.checkSlides_blamesInput (p : TransitionParams) :
    BlamesInput (checkSlides p) := by
  unfold checkSlides
  dsimp only
  split
  case isTrue => exact blamesInput_failIf rfl (blamesInput_ok _)
  case isFalse => exact blamesInput_map (SlideRef.ofParts_blamesInput p.slideIndex p.slideId)

theorem SetTransition.ofParams_blamesInput (params : Json) : BlamesInput (ofParams params) := by
  unfold ofParams
  apply blamesInput_bind (decodeParams_blamesInput TransitionParams.decode params)
  intro p
  apply blamesInput_bind (checkPresentationId_blamesInput p.presentationId)
  intro _
  apply blamesInput_bind (checkSlides_blamesInput p)
  intro slides
  apply blamesInput_bind (Transition.ofText_blamesInput p.transitionType)
  intro transition
  cases p.duration with
  | none => exact blamesInput_ok _
  | some seconds =>
      apply blamesInput_bind (checkTransitionDuration_blamesInput seconds)
      intro _
      exact blamesInput_ok _

end DeckTools
