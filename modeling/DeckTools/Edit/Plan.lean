import DeckTools.Batch.Request
import DeckTools.Deck.Element
import DeckTools.Edit.Changes
import DeckTools.Geometry.Resize
import DeckTools.ToolError

/-!
# Planning edits

A plan is the list of requests that carries an edit out, together with the names
of the fields it changes.  A plan for one element moves and resizes it first and
changes its properties after that.
-/

namespace DeckTools

variable {α : Type} [Scalar α]

/-! ## Creating and deleting -/

/-- A target size as an intrinsic size in EMU; an open axis stays missing. -/
def TargetSize.toSize (size : TargetSize α) : Size α :=
  { width := size.width.map (fun w => Length.ofEmu (emuOfPoints w))
    height := size.height.map (fun h => Length.ofEmu (emuOfPoints h)) }

/-- Create an image on a page.  Geometry that is not given is not sent. -/
def createImage (objectId pageId url : String) (position : Option (Position α))
    (size : Option (TargetSize α)) : Request α :=
  .createImage
    { objectId, url, pageId
      size := (size.filter (fun s => !s.isEmpty)).map TargetSize.toSize
      transform := position.map fun p =>
        Transform.translation (emuOfPoints p.x) (emuOfPoints p.y) }

/--
Replace an element by a new image at its place.  The transform is kept; the size
is kept only on demand.
-/
def replaceImage (old : Element α) (pageId newObjectId url : String) (keepSize : Bool) :
    List (Request α) :=
  [.deleteObject old.objectId,
    .createImage
      { objectId := newObjectId, url, pageId
        size := if keepSize then old.info.size else none
        transform := old.info.transform.map Transform.inEmu }]

def deleteObjects (objectIds : List String) : List (Request α) :=
  objectIds.map Request.deleteObject

/-! ## Modifying -/

structure EditPlan (α : Type) where
  requests : List (Request α)
  modified : List String

def resized (element : Element α) (size : TargetSize α) (transform : Transform α) :
    Except ToolError (Transform α) :=
  match element.renderedSize with
  | none =>
      failWith .invalidObjectState
        ("object '" ++ element.objectId ++ "' has no size, so it cannot be resized")
  | some (width, height) =>
      match resizeFactors width height size.width size.height with
      | .ok (factorX, factorY) => .ok (transform.stretch factorX factorY)
      | .error .noTarget =>
          failWith .invalidSize "size must set width and/or height"
      | .error reason =>
          failWith .invalidObjectState
            ("object '" ++ element.objectId ++ "': " ++ reason.message)

def editedTransform (element : Element α) (position : Option (Position α))
    (size : Option (TargetSize α)) : Except ToolError (Transform α) := do
  let current := (element.info.transform.getD Transform.identity).inEmu
  let sized <- match size with
    | some size => resized element size current
    | none => .ok current
  .ok <|
    match position with
    | some p => sized.moveTo (emuOfPoints p.x) (emuOfPoints p.y)
    | none => sized

def transformRequests (element : Element α) (position : Option (Position α))
    (size : Option (TargetSize α)) : Except ToolError (List (Request α)) :=
  if position.isSome || size.isSome then
    (editedTransform element position size).map fun transform =>
      [.setTransform element.objectId transform]
  else .ok []

def geometryFields (position : Option (Position α)) (size : Option (TargetSize α)) :
    List String :=
  (if position.isSome then ["position"] else []) ++
    (if size.isSome then ["size"] else [])

def FieldMask.setGiven {β : Type} (mask : FieldMask) (path : String) (write : β -> Json)
    (value : Option β) : FieldMask :=
  match value with
  | some b => mask.set path (write b)
  | none => mask

def fieldName {β : Type} (name : String) (value : Option β) : List String :=
  if value.isSome then [name] else []

namespace ImageEdit

def maskCrop (mask : FieldMask) (crop : Crop α) : FieldMask :=
  mask.setGiven "cropProperties.leftOffset" Scalar.toJson crop.left
    |>.setGiven "cropProperties.rightOffset" Scalar.toJson crop.right
    |>.setGiven "cropProperties.topOffset" Scalar.toJson crop.top
    |>.setGiven "cropProperties.bottomOffset" Scalar.toJson crop.bottom

def maskRecolor (mask : FieldMask) (recolor : Option Recolor) : FieldMask :=
  match recolor with
  | some .clear => mask.clear "recolor"
  | some (.preset name) => mask.set "recolor" (Json.object [("name", .str name)])
  | none => mask

def mask (edit : ImageEdit α) : FieldMask :=
  let levels :=
    FieldMask.empty.setGiven "brightness" Scalar.toJson edit.brightness
      |>.setGiven "contrast" Scalar.toJson edit.contrast
      |>.setGiven "transparency" Scalar.toJson edit.transparency
  let cropped := match edit.crop with
    | some crop => maskCrop levels crop
    | none => levels
  maskRecolor cropped edit.recolor

def modified (edit : ImageEdit α) : List String :=
  geometryFields edit.position edit.size ++
    fieldName "brightness" edit.brightness ++ fieldName "contrast" edit.contrast ++
    fieldName "transparency" edit.transparency ++ fieldName "crop" edit.crop ++
    fieldName "recolor" edit.recolor

end ImageEdit

namespace VideoEdit

def mask (edit : VideoEdit α) : FieldMask :=
  FieldMask.empty.setGiven "start" Json.ofNat edit.start
    |>.setGiven "end" Json.ofNat edit.stop
    |>.setGiven "autoPlay" Json.bool edit.autoplay
    |>.setGiven "mute" Json.bool edit.mute

def modified (edit : VideoEdit α) : List String :=
  geometryFields edit.position edit.size ++
    fieldName "start_time" edit.start ++ fieldName "end_time" edit.stop ++
    fieldName "autoplay" edit.autoplay ++ fieldName "mute" edit.mute

end VideoEdit

def propertyRequests (request : PropertyUpdate -> Request α) (objectId : String)
    (mask : FieldMask) : List (Request α) :=
  if mask.isEmpty then [] else [request (.ofMask objectId mask)]

def checkKind (element : Element α) (isWanted : Bool) (wanted : String) :
    Except ToolError Unit :=
  if isWanted then .ok ()
  else
    failWith .invalidObjectType
      ("object '" ++ element.objectId ++ "' is a " ++ element.kindName ++ ", not " ++ wanted)

def planEdit (element : Element α) (position : Option (Position α))
    (size : Option (TargetSize α)) (request : PropertyUpdate -> Request α) (mask : FieldMask) :
    Except ToolError (List (Request α)) :=
  (transformRequests element position size).map fun moves =>
    moves ++ propertyRequests request element.objectId mask

def modifyImage (element : Element α) (edit : ImageEdit α) :
    Except ToolError (EditPlan α) := do
  checkKind element element.isImage "an image"
  let requests <-
    planEdit element edit.position edit.size .updateImageProperties edit.mask
  .ok { requests, modified := edit.modified }

def modifyVideo (element : Element α) (edit : VideoEdit α) :
    Except ToolError (EditPlan α) := do
  checkKind element element.isVideo "a video"
  let requests <-
    planEdit element edit.position edit.size .updateVideoProperties edit.mask
  .ok { requests, modified := edit.modified }

end DeckTools
