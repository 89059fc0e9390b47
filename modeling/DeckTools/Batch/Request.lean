import DeckTools.Batch.FieldMask
import DeckTools.Geometry.Encode

/-!
# Edit requests

A batch is a list of requests that a service carries out in order, all or none.
Each request is written as an object with one member, named for what it does.
-/

namespace DeckTools

variable {α : Type}

/-- A table cell as requests address it, in 32-bit words. -/
structure CellLocation where
  row : UInt32
  column : UInt32
  deriving DecidableEq

structure TextAddress where
  objectId : String
  cell : Option CellLocation
  deriving DecidableEq

structure NewImage (α : Type) where
  objectId : String
  url : String
  pageId : String
  size : Option (Size α)
  transform : Option (Transform α)

structure PropertyUpdate where
  objectId : String
  values : Json
  fields : String

def PropertyUpdate.ofMask (objectId : String) (mask : FieldMask) : PropertyUpdate :=
  { objectId, values := mask.values, fields := mask.paths }

inductive Request (α : Type) where
  | createImage (image : NewImage α)
  | deleteObject (objectId : String)
  | updateImageProperties (update : PropertyUpdate)
  | updateVideoProperties (update : PropertyUpdate)
  | setTransform (objectId : String) (transform : Transform α)
  | insertText (address : TextAddress) (text : String)
  | deleteText (address : TextAddress)

namespace Request

def name : Request α -> String
  | createImage _ => "createImage"
  | deleteObject _ => "deleteObject"
  | updateImageProperties _ => "updateImageProperties"
  | updateVideoProperties _ => "updateVideoProperties"
  | setTransform _ _ => "updatePageElementTransform"
  | insertText _ _ => "insertText"
  | deleteText _ => "deleteText"

def objectId : Request α -> String
  | createImage image => image.objectId
  | deleteObject objectId => objectId
  | updateImageProperties update => update.objectId
  | updateVideoProperties update => update.objectId
  | setTransform objectId _ => objectId
  | insertText address _ => address.objectId
  | deleteText address => address.objectId

def addressMembers (address : TextAddress) : List (String × Json) :=
  ("objectId", .str address.objectId) ::
    Json.optional "cellLocation"
      (fun cell : CellLocation =>
        Json.object
          [("rowIndex", .ofNat cell.row.toNat), ("columnIndex", .ofNat cell.column.toNat)])
      address.cell

def body [Scalar α] : Request α -> Json
  | createImage image =>
      Json.object
        [("objectId", .str image.objectId),
          ("url", .str image.url),
          ("elementProperties",
            Json.object
              (("pageObjectId", .str image.pageId) ::
                (Json.optional "size" Size.toJson image.size ++
                  Json.optional "transform" Transform.toJson image.transform)))]
  | deleteObject objectId => Json.object [("objectId", .str objectId)]
  | updateImageProperties update =>
      Json.object
        [("objectId", .str update.objectId),
          ("imageProperties", update.values),
          ("fields", .str update.fields)]
  | updateVideoProperties update =>
      Json.object
        [("objectId", .str update.objectId),
          ("videoProperties", update.values),
          ("fields", .str update.fields)]
  | setTransform objectId transform =>
      Json.object
        [("objectId", .str objectId),
          ("transform", transform.toJson),
          ("applyMode", .str "ABSOLUTE")]
  | insertText address text =>
      Json.object
        (addressMembers address ++ [("text", .str text), ("insertionIndex", .ofNat 0)])
  | deleteText address =>
      Json.object
        (addressMembers address ++ [("textRange", Json.object [("type", .str "ALL")])])

def toJson [Scalar α] (request : Request α) : Json :=
  .obj [(request.name, request.body)]

end Request

end DeckTools
