import DeckTools.Proofs.Deck.Reference
import DeckTools.Proofs.Image.Payload
import DeckTools.Proofs.Json.Canonical
import DeckTools.Proofs.Tool.Deletion

/-!
# Adding an image

An image is uploaded as it was decoded and created, by a batch of its own, on the slide
that the caller means.  What services read in that batch is the geometry that was given,
in EMU, and no other: a transform for a position, and each axis of a size.
-/

namespace DeckTools

open Dialogue

/-! ## Requests that create images -/

section Encoded

variable {α : Type} [Scalar α]

structure EncodesPoints (points : α) (length : Json) : Prop where
  magnitude : length.get? "magnitude" = some (Scalar.toJson (emuOfPoints points))
  unit : length.get? "unit" = some (.str "EMU")

/-- A transform that moves to a position and neither scales nor shears. -/
structure EncodesPosition (position : Position α) (transform : Json) : Prop where
  scaleX : transform.get? "scaleX" = some (Scalar.toJson (Scalar.ofInt 1 : α))
  scaleY : transform.get? "scaleY" = some (Scalar.toJson (Scalar.ofInt 1 : α))
  shearX : transform.get? "shearX" = some (Scalar.toJson (Scalar.ofInt 0 : α))
  shearY : transform.get? "shearY" = some (Scalar.toJson (Scalar.ofInt 0 : α))
  translateX : transform.get? "translateX" = some (Scalar.toJson (emuOfPoints position.x))
  translateY : transform.get? "translateY" = some (Scalar.toJson (emuOfPoints position.y))
  unit : transform.get? "unit" = some (.str "EMU")

structure EncodesSize (target : TargetSize α) (size : Json) : Prop where
  width : Option.Rel EncodesPoints target.width (size.get? "width")
  height : Option.Rel EncodesPoints target.height (size.get? "height")

/-- A request for an image on a page, with that geometry that was given. -/
def EncodesImage (objectId pageId url : String) (position : Option (Position α))
    (size : Option (TargetSize α)) (request : Json) : Prop :=
  exists body properties,
    request.get? "createImage" = some body ∧
    body.get? "objectId" = some (.str objectId) ∧ body.get? "url" = some (.str url) ∧
    body.get? "elementProperties" = some properties ∧
    properties.get? "pageObjectId" = some (.str pageId) ∧
    Option.Rel EncodesPosition position (properties.get? "transform") ∧
    Option.Rel EncodesSize size (properties.get? "size")

theorem encodesPoints_toJson (points : α) :
    EncodesPoints points (Length.ofEmu (emuOfPoints points)).toJson where
  magnitude := by
    rw [Length.toJson, Json.get?_object]
    rfl
  unit := by
    rw [Length.toJson, Json.get?_object]
    rfl

theorem encodesPosition_toJson (position : Position α) :
    EncodesPosition position
      (Transform.translation (emuOfPoints position.x) (emuOfPoints position.y)).toJson := by
  constructor
  all_goals
    rw [Transform.toJson, Json.get?_object]
    rfl

theorem Size.get?_width (size : Size α) :
    size.toJson.get? "width" = size.width.map Length.toJson := by
  rw [toJson, Json.get?_object]
  cases size.width <;> cases size.height <;> rfl

theorem Size.get?_height (size : Size α) :
    size.toJson.get? "height" = size.height.map Length.toJson := by
  rw [toJson, Json.get?_object]
  cases size.width <;> cases size.height <;> rfl

theorem encodesAxis (axis : Option α) :
    Option.Rel EncodesPoints axis
      ((axis.map (fun points => Length.ofEmu (emuOfPoints points))).map Length.toJson) := by
  cases axis with
  | none => exact .none
  | some points => exact .some (encodesPoints_toJson points)

theorem encodesSize_toJson (target : TargetSize α) :
    EncodesSize target target.toSize.toJson where
  width := by
    rw [Size.get?_width]
    exact encodesAxis target.width
  height := by
    rw [Size.get?_height]
    exact encodesAxis target.height

/-- What is said about a new image besides its ID and its address. -/
def NewImage.properties (image : NewImage α) : Json :=
  Json.object
    (("pageObjectId", .str image.pageId) ::
      (Json.optional "size" Size.toJson image.size ++
        Json.optional "transform" Transform.toJson image.transform))

theorem NewImage.get?_pageObjectId (image : NewImage α) :
    image.properties.get? "pageObjectId" = some (.str image.pageId) := by
  rw [properties, Json.get?_object]
  cases image.size <;> cases image.transform <;> rfl

theorem NewImage.get?_size (image : NewImage α) :
    image.properties.get? "size" = image.size.map Size.toJson := by
  rw [properties, Json.get?_object]
  cases image.size <;> cases image.transform <;> rfl

theorem NewImage.get?_transform (image : NewImage α) :
    image.properties.get? "transform" = image.transform.map Transform.toJson := by
  rw [properties, Json.get?_object]
  cases image.size <;> cases image.transform <;> rfl

theorem NewImage.exists_body (image : NewImage α) :
    exists body, (Request.createImage image).toJson.get? "createImage" = some body ∧
      body.get? "objectId" = some (.str image.objectId) ∧
      body.get? "url" = some (.str image.url) ∧
      body.get? "elementProperties" = some image.properties := by
  refine ⟨(Request.createImage image).body, rfl, ?_, ?_, ?_⟩
  all_goals
    rw [Request.body, Json.get?_object]
    rfl

/-- The request that is built encodes the geometry it is built from, if no size is empty. -/
theorem encodesImage_createImage (objectId pageId url : String)
    (position : Option (Position α)) {size : Option (TargetSize α)}
    (hsize : forall target, size = some target -> target.isEmpty = false) :
    EncodesImage objectId pageId url position size
      (createImage objectId pageId url position size).toJson := by
  unfold createImage
  generalize himage : NewImage.mk objectId url pageId _ _ = image
  rcases image.exists_body with ⟨body, hbody, hobjectId, hurl, hproperties⟩
  rw [← himage] at hobjectId hurl
  refine ⟨body, image.properties, hbody, hobjectId, hurl, hproperties, ?_, ?_, ?_⟩
  · rw [image.get?_pageObjectId, ← himage]
  · rw [image.get?_transform, ← himage]
    cases position with
    | none => exact .none
    | some position => exact .some (encodesPosition_toJson position)
  · rw [image.get?_size, ← himage]
    cases size with
    | none => exact .none
    | some target =>
        rw [Option.filter_some, hsize target rfl]
        exact .some (encodesSize_toJson target)

end Encoded

/-! ## Orders -/

namespace AddImage

/-- The order is read off parameters: what they decode to, with the geometry as it stands. -/
structure Reads (order : AddImage) (p : AddImageParams) : Prop where
  presentation : order.presentationId = Text.trim p.presentationId
  slide : SlideRef.ofParts p.slideIndex p.slideId = .ok order.slide
  bytes : Text.Base64.decodeChars? (ImagePayload.symbols p.imageData) = some order.image.bytes
  format : ImageFormat.detect? order.image.bytes = some order.image.format
  position : order.position = p.position
  size : order.size = p.size
  notEmpty : forall target, p.size = some target -> target.isEmpty = false

theorem reads_of_ofParams {params : Json} {p : AddImageParams} {order : AddImage}
    (hparams : AddImageParams.decode params = .ok p) (horder : ofParams params = .ok order) :
    order.Reads p := by
  unfold ofParams at horder
  rw [decodeParams_eq_ok hparams, ok_bind] at horder
  rcases bind_eq_ok.mp horder with ⟨id, hid, horder⟩
  rcases bind_eq_ok.mp horder with ⟨slide, hslide, horder⟩
  rcases bind_eq_ok.mp horder with ⟨image, himage, horder⟩
  rcases bind_eq_ok.mp horder with ⟨_, _, horder⟩
  rcases bind_eq_ok.mp horder with ⟨hsize, _, horder⟩
  cases horder
  rcases ImagePayload.ofText_eq_ok_iff.mp himage with ⟨hbytes, hformat⟩
  refine ⟨checkPresentationId_eq_ok hid, hslide, hbytes, hformat, rfl, rfl, ?_⟩
  intro target htarget
  exact TargetSize.isEmpty_of_check (hsize.down target htarget)

/-! ## Runs -/

/--
The image cannot be uploaded; or it is, and whether or not it can be shared, one batch is
sent that creates it on a page, with the geometry that was ordered.
-/
def Adds (job : Job) (order : AddImage) (page : Page Float) (turns : Turns) : Prop :=
  (exists e, turns = [⟨uploadCall job order.image, .error e⟩]) ∨
  exists (file : FileRef) (shared : Except ApiError Unit)
    (answered : Except ApiError BatchReply) (image : NewImage Float),
    turns =
      [⟨uploadCall job order.image, .ok file⟩, ⟨.makePublic file.id, shared⟩,
        ⟨.batchUpdate order.presentationId [.createImage image], answered⟩] ∧
    EncodesImage (job.newObjectId "img") page.objectId (imageUrl file.id) order.position
      order.size (Request.createImage image).toJson

theorem run_eq_perform {params : Json} {order : AddImage} (h : ofParams params = .ok order)
    (job : Job) :
    Tool.addImage.run job params = perform job order :=
  carryOut_of_ok h (perform job)

section Held

variable {order : AddImage}

theorem adds_submit_bind (job : Job) (page : Page Float) (upload : Completion FileRef)
    (shared : Except ApiError Unit) (report : BatchReply -> Json)
    (hsize : forall target, order.size = some target -> target.isEmpty = false) :
    (submit order.presentationId
        [createImage (job.newObjectId "img") page.objectId (imageUrl upload.value.id)
          order.position order.size] .createFailed >>= fun reply => .done (report reply)).Ensures
      fun later _ =>
        Adds job order page
          (⟨uploadCall job order.image, .ok upload.value⟩ ::
            ⟨.makePublic upload.value.id, shared⟩ :: later) := by
  have hencodes := encodesImage_createImage (job.newObjectId "img") page.objectId
    (imageUrl upload.value.id) order.position hsize
  unfold submit
  rw [ensures_call_bind]
  constructor
  · intro e
    exact Or.inr ⟨upload.value, shared, .error e, _, rfl, hencodes⟩
  · intro reply
    exact Or.inr ⟨upload.value, shared, .ok reply, _, rfl, hencodes⟩

variable {σ : Type} {answer : (call : Call) -> σ -> call.Answer × σ} {state : σ} {deck : Deck}

theorem hold_perform_adds (job : Job)
    (hserved : (answer (.getPresentation order.presentationId) state).1 = .ok deck)
    {position : Nat} {page : Page Float}
    (hslide : order.slide.resolve deck = .ok (position, page))
    (hsize : forall target, order.size = some target -> target.isEmpty = false) :
    exists later,
      ((perform job order).hold answer state).turns =
        ⟨.getPresentation order.presentationId, .ok deck⟩ :: later ∧
      Adds job order page later := by
  unfold perform fetch
  rw [hold_call_bind_of_ok hserved]
  refine ⟨_, rfl, ?_⟩
  apply Ensures.hold (P := fun turns _ => Adds job order page turns)
  rw [hslide]
  dsimp only [Dialogue.ofExcept, done_bind]
  rw [ensures_uploadImage_bind]
  refine ⟨?_, ?_, ?_⟩
  · intro e
    exact Or.inl ⟨e, rfl⟩
  · intro file
    exact adds_submit_bind job page _ (.ok ()) _ hsize
  · intro file e
    exact adds_submit_bind job page _ (.error e) _ hsize

end Held

/--
If the presentation has the slide that accepted parameters mean, the bytes they decode to
are uploaded under the type that these show, and one batch creates the image on that slide.
-/
theorem run_creates_on_slide {params : Json} {p : AddImageParams} {order : AddImage}
    (hparams : AddImageParams.decode params = .ok p) (horder : ofParams params = .ok order)
    {σ : Type} {answer : (call : Call) -> σ -> call.Answer × σ} {state : σ} {deck : Deck}
    (hserved : (answer (.getPresentation order.presentationId) state).1 = .ok deck)
    {position : Nat} {page : Page Float}
    (hslide : order.slide.resolve deck = .ok (position, page)) (job : Job) :
    order.Reads p ∧ SlideRef.Means deck position page p.slideIndex p.slideId ∧
      exists later,
        ((Tool.addImage.run job params).hold answer state).turns =
          ⟨.getPresentation order.presentationId, .ok deck⟩ :: later ∧
        Adds job order page later := by
  have hreads := reads_of_ofParams hparams horder
  refine ⟨hreads, (SlideRef.resolve_eq_ok_iff hreads.slide).mp hslide, ?_⟩
  rw [run_eq_perform horder]
  apply hold_perform_adds job hserved hslide
  rw [hreads.size]
  exact hreads.notEmpty

def placedParams : Json :=
  Json.object
    [("presentation_id", .str "pres-1"), ("slide_index", .int 2),
      ("image_data", .str "iVBORw0KGgo="),
      ("position", Json.object [("x", .int 100), ("y", .int 50)]),
      ("size", Json.object [("width", .int 200)])]

def placed : AddImage :=
  { presentationId := "pres-1"
    slide := .index 2
    image := { bytes := [0x89, 0x50, 0x4E, 0x47, 0x0D, 0x0A, 0x1A, 0x0A], format := .png }
    position := some { x := 100.0, y := 50.0 }
    size := some { width := some 200.0, height := none } }

/-- The width alone is given, and the image is reported on the second slide. -/
theorem run_creates_on_slide_placed :
    exists p page held later report,
      AddImageParams.decode placedParams = .ok p ∧ ofParams placedParams = .ok placed ∧
      (Rehearsal.answer (.getPresentation "pres-1")
        (Rehearsal.start Rehearsal.sampleDeck)).1 = .ok Rehearsal.sampleDeck ∧
      placed.slide.resolve Rehearsal.sampleDeck = .ok (1, page) ∧
      placed.Reads p ∧
      SlideRef.Means Rehearsal.sampleDeck 1 page p.slideIndex p.slideId ∧
      held = (Tool.addImage.run Job.sample placedParams).hold Rehearsal.answer
        (Rehearsal.start Rehearsal.sampleDeck) ∧
      held.turns = ⟨.getPresentation "pres-1", .ok Rehearsal.sampleDeck⟩ :: later ∧
      Adds Job.sample placed page later ∧
      held.outcome = .value report ∧ report.get? "slide_id" = some (.str "slide-2") := by
  have hparams : exists p, AddImageParams.decode placedParams = .ok p := ⟨_, rfl⟩
  have horder : ofParams placedParams = .ok placed := rfl
  have hserved : (Rehearsal.answer (.getPresentation "pres-1")
      (Rehearsal.start Rehearsal.sampleDeck)).1 = .ok Rehearsal.sampleDeck := rfl
  have hslide : exists page, placed.slide.resolve Rehearsal.sampleDeck = .ok (1, page) :=
    ⟨_, rfl⟩
  rcases hparams with ⟨p, hparams⟩
  rcases hslide with ⟨page, hslide⟩
  rcases run_creates_on_slide hparams horder hserved hslide Job.sample with
    ⟨hreads, hmeans, later, hturns, hadds⟩
  rw [run_eq_perform horder] at hturns ⊢
  exact ⟨p, page, _, later, _, hparams, horder, hserved, hslide, hreads, hmeans, rfl, hturns,
    hadds, rfl, rfl⟩

end AddImage

end DeckTools
