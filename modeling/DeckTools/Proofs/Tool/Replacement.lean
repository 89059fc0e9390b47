import DeckTools.Proofs.Deck.Agreement
import DeckTools.Proofs.Tool.Deletion
import DeckTools.Proofs.Tool.FaultsEarly

/-!
# Replacing an image in place

A replacement deletes the old image and creates a new one on the page that owns it.  The
old transform is sent in EMU, and the old size is sent on demand.  An image with that
geometry shows at the same place and in the same size as the old one, whatever units the
document uses.
-/

namespace DeckTools

open Dialogue

/-! ## The same geometry in EMU -/

section Geometry

variable {α : Type} [Scalar α]

@[simp] theorem Transform.unit_inEmu (transform : Transform α) :
    transform.inEmu.unit = .emu := by
  unfold inEmu
  split <;> rfl

@[simp] theorem Transform.scaleX_inEmu (transform : Transform α) :
    transform.inEmu.scaleX = transform.scaleX := by
  unfold inEmu
  split <;> rfl

@[simp] theorem Transform.scaleY_inEmu (transform : Transform α) :
    transform.inEmu.scaleY = transform.scaleY := by
  unfold inEmu
  split <;> rfl

theorem Transform.inEmu_of_unit {transform : Transform α} (h : transform.unit = .emu) :
    transform.inEmu = transform := by
  unfold inEmu
  rw [h]
  dsimp only
  rw [← h]

@[simp] theorem Transform.inEmu_inEmu (transform : Transform α) :
    transform.inEmu.inEmu = transform.inEmu :=
  inEmu_of_unit transform.unit_inEmu

/-- What shows does not depend on the unit of the translation. -/
theorem renderedSize_map_inEmu (size : Option (Size α)) (transform : Option (Transform α)) :
    renderedSize size (transform.map Transform.inEmu) = renderedSize size transform := by
  cases transform with
  | none => rfl
  | some transform => simp [renderedSize]

/-! ## New images in the place of old ones -/

/-- The image is created on the page of an element, with its transform and perhaps its size. -/
structure NewImage.TakesPlaceOf (image : NewImage α) (found : Located α) (keepSize : Bool) :
    Prop where
  page : image.pageId = found.page.page.objectId
  transform : image.transform = found.element.info.transform.map Transform.inEmu
  size : image.size = if keepSize then found.element.info.size else none

/-- An element with the geometry of a new image shows at the place and in the size of another. -/
def NewImage.ShowsLike (image : NewImage α) (found : Located α) : Prop :=
  forall element : Element α, element.info.size = image.size ->
    element.info.transform = image.transform ->
    element.renderedSize = found.element.renderedSize ∧
      element.info.transform.map Transform.inEmu =
        found.element.info.transform.map Transform.inEmu

theorem NewImage.TakesPlaceOf.showsLike {image : NewImage α} {found : Located α}
    (h : image.TakesPlaceOf found true) :
    image.ShowsLike found := by
  intro element hsize htransform
  have hkept : image.size = found.element.info.size := h.size
  constructor
  · unfold Element.renderedSize
    rw [hsize, htransform, hkept, h.transform, renderedSize_map_inEmu]
  · rw [htransform, h.transform, Option.map_map]
    congr 1
    funext transform
    exact transform.inEmu_inEmu

end Geometry

/-! ## Replies that name what was created -/

/-- At the position of each request that creates an image, the reply names that image. -/
def BatchReply.Echoes (reply : BatchReply) (requests : List Edit) : Prop :=
  forall (position : Nat) (image : NewImage Float),
    requests[position]? = some (.createImage image) ->
      exists entry created, reply.replies[position]? = some entry ∧
        entry.get? "createImage" = some created ∧
        created.get? "objectId" = some (.str image.objectId)

theorem BatchReply.createdImageId?_of_echoes {reply : BatchReply} {requests : List Edit}
    {position : Nat} {image : NewImage Float} (h : reply.Echoes requests)
    (himage : requests[position]? = some (.createImage image)) :
    reply.createdImageId? position = some image.objectId := by
  rcases h position image himage with ⟨entry, created, hentry, hcreated, hnamed⟩
  unfold createdImageId?
  rw [hentry, Option.bind_some, hcreated, Option.bind_some, hnamed]
  rfl

namespace ReplaceImage

theorem ofParams_eq_ok {params : Json} {p : ReplaceImageParams} {id objectId : String}
    {image : ImagePayload} (hparams : ReplaceImageParams.decode params = .ok p)
    (hid : checkPresentationId p.presentationId = .ok id)
    (hobject : checkObjectId p.objectId = .ok objectId)
    (himage : ImagePayload.ofText p.imageData = .ok image) :
    ofParams params =
      .ok { presentationId := id, objectId, image, keepSize := p.preserveSize } := by
  unfold ofParams
  rw [decodeParams_eq_ok hparams, ok_bind, hid, ok_bind, hobject, ok_bind, himage, ok_bind]

theorem target_of_locate? {order : ReplaceImage} {deck : Deck} {found : Located Float}
    (hfound : deck.locate? order.objectId = some found)
    (hkind : found.element.isImage = true) :
    order.target deck = .ok found := by
  unfold target locate
  rw [hfound]
  dsimp only
  rw [ok_bind, if_pos hkind]

/-- What is reported of a replacement. -/
def report (objectId fileId : String) (image : NewImage Float) (warnings : List String) : Json :=
  Json.object
    [("new_object_id", .str image.objectId),
      ("replaced_object_id", .str objectId),
      ("page_id", .str image.pageId),
      ("file_id", .str fileId),
      ("image_url", .str image.url),
      ("warnings", Json.strings warnings)]

/--
After the presentation is fetched, the image cannot be uploaded; or one batch is sent that
deletes the old image and creates a new one in its place.  If the batch succeeds and the
reply names what it created, the ID of the new image is reported.
-/
def Replaces (job : Job) (order : ReplaceImage) (found : Located Float) (turns : Turns)
    (outcome : Outcome ToolError Json) : Prop :=
  (exists e, turns = [⟨uploadCall job order.image, .error e⟩] ∧
    outcome = .error (e.toToolError .uploadFailed .uploadFailed)) ∨
  exists (file : FileRef) (shared : Except ApiError Unit)
    (answered : Except ApiError BatchReply) (image : NewImage Float),
    turns =
      [⟨uploadCall job order.image, .ok file⟩, ⟨.makePublic file.id, shared⟩,
        ⟨.batchUpdate order.presentationId
          [.deleteObject found.element.objectId, .createImage image], answered⟩] ∧
    image.objectId = job.newObjectId "img" ∧ image.url = imageUrl file.id ∧
    image.TakesPlaceOf found order.keepSize ∧
    (order.keepSize = true -> image.ShowsLike found) ∧
    (forall e, answered = .error e ->
      outcome = .error (e.toToolError (missingInBatch e) .replaceFailed)) ∧
    forall reply, answered = .ok reply ->
      reply.Echoes [.deleteObject found.element.objectId, .createImage image] ->
        exists warnings, outcome = .value (report order.objectId file.id image warnings)

/-- The image that is created for a file in the place of another. -/
def newImage (job : Job) (order : ReplaceImage) (found : Located Float) (file : FileRef) :
    NewImage Float :=
  { objectId := job.newObjectId "img"
    url := imageUrl file.id
    pageId := found.page.page.objectId
    size := if order.keepSize then found.element.info.size else none
    transform := found.element.info.transform.map Transform.inEmu }

theorem newImage_takesPlaceOf (job : Job) (order : ReplaceImage) (found : Located Float)
    (file : FileRef) :
    (newImage job order found file).TakesPlaceOf found order.keepSize where
  page := rfl
  transform := rfl
  size := rfl

/-- The batch and the report, once the image is uploaded. -/
theorem replaces_submit_bind (job : Job) (order : ReplaceImage) (found : Located Float)
    (upload : Completion FileRef) (shared : Except ApiError Unit) :
    (submit order.presentationId
        (replaceImage found.element found.page.page.objectId (job.newObjectId "img")
          (imageUrl upload.value.id) order.keepSize) .replaceFailed >>= fun reply =>
      .done (Json.object
        [("new_object_id", .str ((reply.createdImageId? 1).getD (job.newObjectId "img"))),
          ("replaced_object_id", .str order.objectId),
          ("page_id", .str found.page.page.objectId),
          ("file_id", .str upload.value.id),
          ("image_url", .str (imageUrl upload.value.id)),
          ("warnings", Json.strings upload.warnings)])).Ensures
      fun later outcome =>
        Replaces job order found
          (⟨uploadCall job order.image, .ok upload.value⟩ ::
            ⟨.makePublic upload.value.id, shared⟩ :: later) outcome := by
  have hplace := newImage_takesPlaceOf job order found upload.value
  have hshows : order.keepSize = true ->
      (newImage job order found upload.value).ShowsLike found := by
    intro hkeep
    rw [hkeep] at hplace
    exact hplace.showsLike
  unfold submit
  rw [ensures_call_bind]
  constructor
  · intro e
    apply Or.inr
    refine ⟨upload.value, shared, .error e, newImage job order found upload.value, rfl, rfl, rfl,
      hplace, hshows, ?_, ?_⟩
    · intro other heq
      cases heq
      rfl
    · intro reply heq
      cases heq
  · intro reply
    apply Or.inr
    refine ⟨upload.value, shared, .ok reply, newImage job order found upload.value, rfl, rfl, rfl,
      hplace, hshows, ?_, ?_⟩
    · intro e heq
      cases heq
    · intro other heq hechoes
      cases heq
      have hcreated : reply.createdImageId? 1 =
          some (newImage job order found upload.value).objectId :=
        BatchReply.createdImageId?_of_echoes hechoes rfl
      rw [hcreated]
      exact ⟨upload.warnings, rfl⟩

/-! ## Runs -/

section Held

variable {σ : Type} {answer : (call : Call) -> σ -> call.Answer × σ} {state : σ} {deck : Deck}
  {found : Located Float}

/-- Once the image is found, what is left of a run is the upload and the batch. -/
theorem hold_perform_replaces {order : ReplaceImage} (job : Job)
    (hserved : (answer (.getPresentation order.presentationId) state).1 = .ok deck)
    (hfound : deck.locate? order.objectId = some found)
    (hkind : found.element.isImage = true) :
    exists later,
      ((perform job order).hold answer state).turns =
        ⟨.getPresentation order.presentationId, .ok deck⟩ :: later ∧
      Replaces job order found later ((perform job order).hold answer state).outcome := by
  unfold perform fetch
  rw [hold_call_bind_of_ok hserved]
  refine ⟨_, rfl, ?_⟩
  apply Ensures.hold
  rw [target_of_locate? hfound hkind]
  dsimp only [Dialogue.ofExcept, done_bind]
  rw [ensures_uploadImage_bind]
  refine ⟨?_, ?_, ?_⟩
  · intro e
    exact Or.inl ⟨e, rfl, rfl⟩
  · intro file
    exact replaces_submit_bind job order found _ (.ok ())
  · intro file e
    exact replaces_submit_bind job order found _ (.error e)

end Held

/--
An image that an ID names is replaced in place.  The batch deletes the old image and
creates the new one, under a fresh ID, on the page that owns the old one; the transform is
the old one in EMU, and the size is the old one if it is to be kept.
-/
theorem run_replaces_in_place {params : Json} {p : ReplaceImageParams} {id objectId : String}
    {image : ImagePayload} (hparams : ReplaceImageParams.decode params = .ok p)
    (hid : checkPresentationId p.presentationId = .ok id)
    (hobject : checkObjectId p.objectId = .ok objectId)
    (himage : ImagePayload.ofText p.imageData = .ok image)
    {σ : Type} {answer : (call : Call) -> σ -> call.Answer × σ} {state : σ} {deck : Deck}
    (hserved : (answer (.getPresentation id) state).1 = .ok deck) {found : Located Float}
    (hfound : deck.locate? objectId = some found) (hkind : found.element.isImage = true)
    (job : Job) :
    deck.Reaches found ∧ found.element.objectId = objectId ∧
      exists later,
        ((Tool.replaceImage.run job params).hold answer state).turns =
          ⟨.getPresentation id, .ok deck⟩ :: later ∧
        Replaces job
          { presentationId := id, objectId, image, keepSize := p.preserveSize } found later
          ((Tool.replaceImage.run job params).hold answer state).outcome := by
  rcases (Presentation.locate?_eq_some_iff deck objectId found).mp hfound with
    ⟨place, hbears, _⟩
  refine ⟨⟨place, hbears.stands, hbears.reached⟩, hbears.named, ?_⟩
  rw [run_eq_perform (ofParams_eq_ok hparams hid hobject himage) job]
  exact hold_perform_replaces job hserved hfound hkind

/-- An image is replaced, and the ID that was sent is reported. -/
theorem run_replaces_in_place_sample :
    exists p found held later report,
      ReplaceImageParams.decode (sampleParams "image-1") = .ok p ∧
      checkPresentationId p.presentationId = .ok "pres-1" ∧
      checkObjectId p.objectId = .ok "image-1" ∧
      ImagePayload.ofText p.imageData = .ok (sample "image-1").image ∧
      (Rehearsal.answer (.getPresentation "pres-1")
        (Rehearsal.start Rehearsal.sampleDeck)).1 = .ok Rehearsal.sampleDeck ∧
      Presentation.locate? Rehearsal.sampleDeck "image-1" = some found ∧
      found.element.isImage = true ∧
      held = (Tool.replaceImage.run Job.sample (sampleParams "image-1")).hold Rehearsal.answer
        (Rehearsal.start Rehearsal.sampleDeck) ∧
      held.turns = ⟨.getPresentation "pres-1", .ok Rehearsal.sampleDeck⟩ :: later ∧
      Replaces Job.sample (sample "image-1") found later held.outcome ∧
      held.outcome = .value report ∧ report.get? "new_object_id" = some (.str "img_") := by
  have hparams : ReplaceImageParams.decode (sampleParams "image-1") =
      .ok
        { presentationId := "pres-1", objectId := "image-1", imageData := "iVBORw0KGgo="
          preserveSize := true } := rfl
  have hid : checkPresentationId "pres-1" = .ok "pres-1" := rfl
  have hobject : checkObjectId "image-1" = .ok "image-1" := rfl
  have himage : ImagePayload.ofText "iVBORw0KGgo=" = .ok (sample "image-1").image := rfl
  have hserved : (Rehearsal.answer (.getPresentation "pres-1")
      (Rehearsal.start Rehearsal.sampleDeck)).1 = .ok Rehearsal.sampleDeck := rfl
  have hfound : exists found, Presentation.locate? Rehearsal.sampleDeck "image-1" = some found ∧
      found.element.isImage = true := ⟨_, rfl, rfl⟩
  rcases hfound with ⟨found, hfound, hkind⟩
  rcases (run_replaces_in_place hparams hid hobject himage hserved hfound hkind
    Job.sample).2.2 with ⟨later, hturns, hreplaces⟩
  have hrun : Tool.replaceImage.run Job.sample (sampleParams "image-1") =
      (sample "image-1").perform Job.sample := run_eq_perform rfl Job.sample
  rw [hrun] at hturns hreplaces ⊢
  exact ⟨_, found, _, later, _, hparams, hid, hobject, himage, hserved, hfound, hkind, rfl,
    hturns, hreplaces, rfl, rfl⟩

end ReplaceImage

end DeckTools
