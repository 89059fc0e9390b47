import DeckTools.Deck.Reference
import DeckTools.Edit.Checks
import DeckTools.Edit.Decode
import DeckTools.Edit.Plan
import DeckTools.Tool.Basic
import DeckTools.Tool.Schema

/-!
# Tools for images and videos

Images are added to a slide, replaced at their place, and modified; videos are
modified.  New image data is uploaded as a file of its own, and the presentation
service reads it from there.
-/

namespace DeckTools

open Fields

/-! ## Adding an image -/

structure AddImageParams where
  presentationId : String
  slideIndex : Option Int
  slideId : Option String
  imageData : String
  position : Option (Position Float)
  size : Option (TargetSize Float)

def AddImageParams.decode : Decoder AddImageParams :=
  Decoder.record "Params" <|
    AddImageParams.mk <$> required "presentation_id" Decoder.text <*>
      optional "slide_index" Decoder.signed64 <*>
      optional "slide_id" Decoder.text <*>
      required "image_data" Decoder.text <*>
      optional "position" decodePosition <*>
      optional "size" decodeTargetSize

structure AddImage where
  presentationId : String
  slide : SlideRef
  image : ImagePayload
  position : Option (Position Float)
  size : Option (TargetSize Float)

namespace AddImage

def ofParams (params : Json) : Except ToolError AddImage := do
  let p <- decodeParams AddImageParams.decode params
  let presentationId <- checkPresentationId p.presentationId
  let slide <- SlideRef.ofParts p.slideIndex p.slideId
  let image <- ImagePayload.ofText p.imageData
  let _ <- checkGiven Position.check p.position
  let _ <- checkGiven TargetSize.check p.size
  .ok { presentationId, slide, image, position := p.position, size := p.size }

def perform (job : Job) (order : AddImage) : Run Json := do
  let deck <- fetch order.presentationId
  let (_, page) <- Dialogue.ofExcept (order.slide.resolve deck)
  let upload <- uploadImage job order.image
  let url := imageUrl upload.value.id
  let objectId := job.newObjectId "img"
  let reply <- submit order.presentationId
    [createImage objectId page.objectId url order.position order.size] .createFailed
  .done <| Json.object
    [("object_id", .str ((reply.createdImageId? 0).getD objectId)),
      ("slide_id", .str page.objectId),
      ("file_id", .str upload.value.id),
      ("image_url", .str url),
      ("presentation_url", .str (presentationUrl order.presentationId)),
      ("warnings", Json.strings upload.warnings)]

end AddImage

def positionSchema : Json :=
  Schema.record [("x", Schema.numberFrom 0), ("y", Schema.numberFrom 0)] ["x", "y"]

def Tool.addImage : Tool where
  name := "add_image"
  description :=
    "Add an image (base64 PNG, JPEG, GIF, WebP or BMP) to a slide. Position and size " ++
    "are in points; omit size to keep the image's natural size, or give one axis to " ++
    "keep its aspect ratio."
  parameters :=
    Schema.record
      [("presentation_id", Schema.textAbout "Presentation ID"),
        ("slide_index",
          Schema.typed "integer"
            [("minimum", .int 1), ("description", .str "1-based slide position")]),
        ("slide_id", Schema.textAbout "Slide object ID (instead of slide_index)"),
        ("image_data", Schema.textAbout "Base64 image bytes or a data: URL"),
        ("position", positionSchema),
        ("size", Schema.properties [("width", Schema.positive), ("height", Schema.positive)])]
      ["presentation_id", "image_data"]
  requiresApproval := false
  run job params := carryOut (AddImage.ofParams params) (AddImage.perform job)

/-! ## Replacing an image -/

structure ReplaceImageParams where
  presentationId : String
  objectId : String
  imageData : String
  preserveSize : Bool

def ReplaceImageParams.decode : Decoder ReplaceImageParams :=
  Decoder.record "Params" <|
    ReplaceImageParams.mk <$> required "presentation_id" Decoder.text <*>
      required "object_id" Decoder.text <*>
      required "image_data" Decoder.text <*>
      withDefault "preserve_size" Decoder.boolean true

structure ReplaceImage where
  presentationId : String
  objectId : String
  image : ImagePayload
  keepSize : Bool

namespace ReplaceImage

def ofParams (params : Json) : Except ToolError ReplaceImage := do
  let p <- decodeParams ReplaceImageParams.decode params
  let presentationId <- checkPresentationId p.presentationId
  let objectId <- checkObjectId p.objectId
  let image <- ImagePayload.ofText p.imageData
  .ok { presentationId, objectId, image, keepSize := p.preserveSize }

def target (order : ReplaceImage) (deck : Deck) : Except ToolError (Located Float) := do
  let found <- locate deck order.objectId
  if found.element.isImage then .ok found
  else
    failWith .invalidObjectType
      ("object '" ++ order.objectId ++ "' is a " ++ found.element.kindName ++
        ", not an image")

def perform (job : Job) (order : ReplaceImage) : Run Json := do
  let deck <- fetch order.presentationId
  let found <- Dialogue.ofExcept (order.target deck)
  let pageId := found.page.page.objectId
  let upload <- uploadImage job order.image
  let url := imageUrl upload.value.id
  let objectId := job.newObjectId "img"
  let reply <- submit order.presentationId
    (replaceImage found.element pageId objectId url order.keepSize) .replaceFailed
  .done <| Json.object
    [("new_object_id", .str ((reply.createdImageId? 1).getD objectId)),
      ("replaced_object_id", .str order.objectId),
      ("page_id", .str pageId),
      ("file_id", .str upload.value.id),
      ("image_url", .str url),
      ("warnings", Json.strings upload.warnings)]

end ReplaceImage

def Tool.replaceImage : Tool where
  name := "replace_image"
  description :=
    "Replace an image with new image data at the same position. By default the old " ++
    "size is kept; set preserve_size to false to keep only the old transform. " ++
    "Returns the new object ID."
  parameters :=
    Schema.record
      [("presentation_id", Schema.text),
        ("object_id", Schema.textAbout "Image to replace"),
        ("image_data", Schema.textAbout "Base64 image bytes or a data: URL"),
        ("preserve_size", Schema.flag true)]
      ["presentation_id", "object_id", "image_data"]
  requiresApproval := true
  run job params := carryOut (ReplaceImage.ofParams params) (ReplaceImage.perform job)

/-! ## Modifying an element -/

structure ModifyParams (α : Type) where
  presentationId : String
  objectId : String
  changes : α

def ModifyParams.decode {α : Type} (changes : Decoder α) (unchanged : α) :
    Decoder (ModifyParams α) :=
  Decoder.record "Params" <|
    ModifyParams.mk <$> required "presentation_id" Decoder.text <*>
      required "object_id" Decoder.text <*>
      withDefault "properties" changes unchanged

structure Modify (α : Type) where
  presentationId : String
  objectId : String
  edit : α

namespace Modify

def ofParams {α β : Type} (changes : Decoder α) (unchanged : α)
    (check : α -> Except ToolError β) (params : Json) : Except ToolError (Modify β) := do
  let p <- decodeParams (ModifyParams.decode changes unchanged) params
  let presentationId <- checkPresentationId p.presentationId
  let objectId <- checkObjectId p.objectId
  let edit <- check p.changes
  .ok { presentationId, objectId, edit }

def imageOfParams : Json -> Except ToolError (Modify (CheckedImageEdit Float)) :=
  ofParams decodeImageChanges ImageChanges.none ImageChanges.check

def videoOfParams : Json -> Except ToolError (Modify (CheckedVideoEdit Float)) :=
  ofParams decodeVideoChanges VideoChanges.none VideoChanges.check

def perform {α : Type} (plan : Element Float -> α -> Except ToolError (EditPlan Float))
    (failure : ToolErrorKind) (order : Modify α) : Run Json := do
  let deck <- fetch order.presentationId
  let found <- Dialogue.ofExcept (locate deck order.objectId)
  let plan <- Dialogue.ofExcept (plan found.element order.edit)
  let _ <- submit order.presentationId plan.requests failure
  .done <| Json.object
    [("object_id", .str order.objectId),
      ("requests_applied", .ofNat plan.requests.length),
      ("modified_fields", Json.strings plan.modified)]

end Modify

def anyPositionSchema : Json :=
  Schema.properties [("x", Schema.number), ("y", Schema.number)]

def anySizeSchema : Json :=
  Schema.properties [("width", Schema.number), ("height", Schema.number)]

def modifySchema (changes : List (String × Json)) : Json :=
  Schema.record
    [("presentation_id", Schema.text),
      ("object_id", Schema.text),
      ("properties", Schema.properties changes)]
    ["presentation_id", "object_id", "properties"]

def Tool.modifyImage : Tool where
  name := "modify_image"
  description :=
    "Modify an image: position and size in points, brightness and contrast (-1 to 1), " ++
    "transparency (0 to 1), crop offsets as fractions, and recolor presets. Only the " ++
    "given properties change; recolor NONE removes a recolor."
  parameters :=
    let fraction := Schema.numberBetween 0 1
    modifySchema
      [("position", anyPositionSchema),
        ("size", anySizeSchema),
        ("brightness", Schema.numberBetween (-1) 1),
        ("contrast", Schema.numberBetween (-1) 1),
        ("transparency", fraction),
        ("crop",
          Schema.properties
            [("left", fraction), ("right", fraction), ("top", fraction), ("bottom", fraction)]),
        ("recolor",
          Schema.textAbout "NONE, GRAYSCALE, SEPIA, NEGATIVE, LIGHT1-LIGHT10, DARK1-DARK10")]
  requiresApproval := false
  run _ params :=
    carryOut (Modify.imageOfParams params)
      (Modify.perform (fun element edit => DeckTools.modifyImage element edit.toImageEdit)
        .modifyImageFailed)

def secondsSchema : Json :=
  Schema.typed "number" [("minimum", .int 0), ("description", .str "Seconds")]

def Tool.modifyVideo : Tool where
  name := "modify_video"
  description :=
    "Modify a video: position and size in points, playback start and end in seconds, " ++
    "autoplay and mute."
  parameters :=
    modifySchema
      [("position", anyPositionSchema),
        ("size", anySizeSchema),
        ("start_time", secondsSchema),
        ("end_time", secondsSchema),
        ("autoplay", Schema.typed "boolean" []),
        ("mute", Schema.typed "boolean" [])]
  requiresApproval := false
  run _ params :=
    carryOut (Modify.videoOfParams params)
      (Modify.perform (fun element edit => DeckTools.modifyVideo element edit.toVideoEdit)
        .modifyVideoFailed)

end DeckTools
