import DeckTools.Deck.Text
import DeckTools.Geometry.Placement

/-!
# Page elements

An element is a shape, an image, a video, a table, a group of further elements,
or something the tools only know by name.  The outline of a list of elements
names every element in document order, a group before its members, with the
number of groups around it.  Walks look only at elements inside at most
`maxDepth` groups.
-/

namespace DeckTools

variable {α : Type}

structure ElementInfo (α : Type) where
  objectId : String
  size : Option (Size α)
  transform : Option (Transform α)
  title : Option String
  description : Option String

structure Placeholder where
  type : Option String
  parentObjectId : Option String

structure Shape where
  shapeType : Option String
  text : Option TextContent
  placeholder : Option Placeholder

structure Image where
  contentUrl : Option String
  sourceUrl : Option String
  properties : Option Json

structure VideoPlayback where
  autoPlay : Option Bool
  start : Option Nat
  stop : Option Nat
  mute : Option Bool

structure Video where
  id : Option String
  source : Option String
  url : Option String
  playback : Option VideoPlayback

/-- A table, row by row; a cell may be without text. -/
structure Table where
  rows : Nat
  columns : Nat
  cells : List (List (Option TextContent))

inductive Element (α : Type) where
  | shape (info : ElementInfo α) (content : Shape)
  | image (info : ElementInfo α) (content : Image)
  | video (info : ElementInfo α) (content : Video)
  | table (info : ElementInfo α) (content : Table)
  | group (info : ElementInfo α) (members : List (Element α))
  | other (info : ElementInfo α) (name : String)

/-- The deepest nesting of groups that walks look into. -/
def maxDepth : Nat := 64

namespace Element

def info : Element α -> ElementInfo α
  | shape info _ => info
  | image info _ => info
  | video info _ => info
  | table info _ => info
  | group info _ => info
  | other info _ => info

def objectId (element : Element α) : String :=
  element.info.objectId

def kindName : Element α -> String
  | shape _ _ => "shape"
  | image _ _ => "image"
  | video _ _ => "video"
  | table _ _ => "table"
  | group _ _ => "group"
  | other _ name => name

def isImage : Element α -> Bool
  | image _ _ => true
  | _ => false

def isVideo : Element α -> Bool
  | video _ _ => true
  | _ => false

def renderedSize [Scalar α] (element : Element α) : Option (α × α) :=
  DeckTools.renderedSize element.info.size element.info.transform

/-! ## Text of one element -/

/-- The texts an element holds itself: that of a shape, those of the cells of a table. -/
def ownTexts : Element α -> List TextUnit
  | shape info content =>
      content.text.toList.map (fun text =>
        { objectId := info.objectId, cell := none, content := text })
  | table info grid =>
      grid.cells.zipIdx.flatMap fun row =>
        row.1.zipIdx.filterMap fun cell =>
          cell.1.map fun text =>
            { objectId := info.objectId
              cell := some { row := row.2, column := cell.2 }
              content := text }
  | _ => []

/-! ## Outline -/

mutual

def outline (depth : Nat) : Element α -> List (Nat × Element α)
  | group info members => (depth, group info members) :: outlineAll (depth + 1) members
  | shape info content => [(depth, shape info content)]
  | image info content => [(depth, image info content)]
  | video info content => [(depth, video info content)]
  | table info content => [(depth, table info content)]
  | other info name => [(depth, other info name)]

def outlineAll (depth : Nat) : List (Element α) -> List (Nat × Element α)
  | [] => []
  | element :: rest => outline depth element ++ outlineAll depth rest

end

def walk (elements : List (Element α)) : List (Element α) :=
  ((outlineAll 0 elements).filter (fun entry => entry.1 ≤ maxDepth)).map Prod.snd

/-! ## Walks

Each walk goes down on its own and turns back below `maxDepth`.
-/

mutual

/-- The first element with an object ID, in an element inside `depth` groups. -/
def findIn (objectId : String) (depth : Nat) : Element α -> Option (Element α)
  | group info members =>
      if info.objectId == objectId then some (group info members)
      else findAmong objectId (depth + 1) members
  | element => if element.objectId == objectId then some element else none

def findAmong (objectId : String) (depth : Nat) : List (Element α) -> Option (Element α)
  | [] => none
  | element :: rest =>
      if maxDepth < depth then none
      else
        match findIn objectId depth element with
        | some found => some found
        | none => findAmong objectId depth rest

end

def find? (elements : List (Element α)) (objectId : String) : Option (Element α) :=
  findAmong objectId 0 elements

mutual

def idsIn (depth : Nat) : Element α -> List String
  | group info members => info.objectId :: idsAmong (depth + 1) members
  | element => [element.objectId]

def idsAmong (depth : Nat) : List (Element α) -> List String
  | [] => []
  | element :: rest =>
      if maxDepth < depth then [] else idsIn depth element ++ idsAmong depth rest

end

def ids (elements : List (Element α)) : List String :=
  idsAmong 0 elements

mutual

def textsIn (depth : Nat) : Element α -> List TextUnit
  | group _ members => textsAmong (depth + 1) members
  | element => element.ownTexts

def textsAmong (depth : Nat) : List (Element α) -> List TextUnit
  | [] => []
  | element :: rest =>
      if maxDepth < depth then [] else textsIn depth element ++ textsAmong depth rest

end

def texts (elements : List (Element α)) : List TextUnit :=
  textsAmong 0 elements

end Element

end DeckTools
