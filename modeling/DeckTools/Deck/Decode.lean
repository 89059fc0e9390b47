import DeckTools.Deck.Presentation
import DeckTools.Json.Decode

/-!
# Decoding presentations

Presentations arrive as JSON documents.  Nearly every field has a default, and
fields the tools do not use are ignored.  Groups and notes pages nest; each
enclosing record takes away at least one level of JSON, so the depth of the
document bounds the recursion.
-/

namespace DeckTools

open Fields

/-! ## Geometry -/

/-- A unit; unknown names mean an unspecified one. -/
def decodeUnit : Decoder LengthUnit :=
  Decoder.variant [("EMU", .emu), ("PT", .point)] (some .unspecified)

def decodeLength : Decoder (Length Float) :=
  Decoder.record "Dimension" <|
    Length.mk <$> withDefault "magnitude" Decoder.double 0 <*>
      withDefault "unit" decodeUnit .emu

def decodeSize : Decoder (Size Float) :=
  Decoder.record "Size" <|
    Size.mk <$> optional "width" decodeLength <*> optional "height" decodeLength

/-- A transform; scales default to one and everything else to zero. -/
def decodeTransform : Decoder (Transform Float) :=
  Decoder.record "Transform" <|
    Transform.mk <$> withDefault "scaleX" Decoder.double 1 <*>
      withDefault "scaleY" Decoder.double 1 <*>
      withDefault "shearX" Decoder.double 0 <*>
      withDefault "shearY" Decoder.double 0 <*>
      withDefault "translateX" Decoder.double 0 <*>
      withDefault "translateY" Decoder.double 0 <*>
      withDefault "unit" decodeUnit .emu

/-! ## Text -/

def decodeContent (name : String) : Decoder String :=
  Decoder.record name (withDefault "content" Decoder.text "")

def decodeTextSpan : Decoder TextSpan :=
  Decoder.record "TextElement" <|
    TextSpan.mk <$> optional "startIndex" Decoder.signed64 <*>
      optional "endIndex" Decoder.signed64 <*>
      optional "textRun" (decodeContent "TextRun") <*>
      optional "autoText" (decodeContent "AutoText")

def decodeTextContent : Decoder TextContent :=
  Decoder.record "TextContent" <|
    TextContent.mk <$> withDefault "textElements" (Decoder.list decodeTextSpan) []

/-! ## Elements -/

def decodePlaceholder : Decoder Placeholder :=
  Decoder.record "Placeholder" <|
    Placeholder.mk <$> optional "type" Decoder.text <*>
      optional "parentObjectId" Decoder.text

def decodeShape : Decoder Shape :=
  Decoder.record "Shape" <|
    Shape.mk <$> optional "shapeType" Decoder.text <*>
      optional "text" decodeTextContent <*>
      optional "placeholder" decodePlaceholder

def decodeImage : Decoder Image :=
  Decoder.record "Image" <|
    Image.mk <$> optional "contentUrl" Decoder.text <*>
      optional "sourceUrl" Decoder.text <*>
      optional "imageProperties" Decoder.any

def decodeVideoPlayback : Decoder VideoPlayback :=
  Decoder.record "VideoProperties" <|
    VideoPlayback.mk <$> optional "autoPlay" Decoder.boolean <*>
      optional "start" Decoder.unsigned64 <*>
      optional "end" Decoder.unsigned64 <*>
      optional "mute" Decoder.boolean

def decodeVideo : Decoder Video :=
  Decoder.record "Video" <|
    Video.mk <$> optional "id" Decoder.text <*>
      optional "source" Decoder.text <*>
      optional "url" Decoder.text <*>
      optional "videoProperties" decodeVideoPlayback

def decodeTableCell : Decoder (Option TextContent) :=
  Decoder.record "TableCell" (optional "text" decodeTextContent)

def decodeTableRow : Decoder (List (Option TextContent)) :=
  Decoder.record "TableRow" (withDefault "tableCells" (Decoder.list decodeTableCell) [])

def decodeTable : Decoder Table :=
  Decoder.record "Table" <|
    Table.mk <$> withDefault "rows" Decoder.unsigned32 0 <*>
      withDefault "columns" Decoder.unsigned32 0 <*>
      withDefault "tableRows" (Decoder.list decodeTableRow) []

def decodeGroup (element : Decoder (Element Float)) : Decoder (List (Element Float)) :=
  Decoder.record "Group" (withDefault "children" (Decoder.list element) [])

/-- What a document says an element is; it may say several things, or nothing. -/
structure ElementContent where
  shape : Option Shape
  image : Option Image
  video : Option Video
  table : Option Table
  members : Option (List (Element Float))
  line : Option Json
  sheetsChart : Option Json
  wordArt : Option Json

namespace ElementContent

/-- The element itself; of several contents the one declared first counts. -/
def element (content : ElementContent) (info : ElementInfo Float) : Element Float :=
  match content.shape, content.image, content.video, content.table, content.members with
  | some shape, _, _, _, _ => .shape info shape
  | none, some image, _, _, _ => .image info image
  | none, none, some video, _, _ => .video info video
  | none, none, none, some table, _ => .table info table
  | none, none, none, none, some members => .group info members
  | none, none, none, none, none =>
      if content.line.isSome then .other info "line"
      else if content.sheetsChart.isSome then .other info "sheets_chart"
      else if content.wordArt.isSome then .other info "word_art"
      else .other info "unknown"

end ElementContent

def decodeElementWith (inner : Decoder (Element Float)) : Decoder (Element Float) :=
  Decoder.record "RawPageElement" <|
    (fun info content => content.element info) <$>
      (ElementInfo.mk <$> withDefault "objectId" Decoder.text "" <*>
        nullable "size" decodeSize <*>
        nullable "transform" decodeTransform <*>
        nullable "title" Decoder.text <*>
        nullable "description" Decoder.text) <*>
      (ElementContent.mk <$> nullable "shape" decodeShape <*>
        nullable "image" decodeImage <*>
        nullable "video" decodeVideo <*>
        nullable "table" decodeTable <*>
        nullable "elementGroup" (decodeGroup inner) <*>
        nullable "line" Decoder.any <*>
        nullable "sheetsChart" Decoder.any <*>
        nullable "wordArt" Decoder.any)

def decodeElementWithin : Nat -> Decoder (Element Float)
  | 0, value => Decoder.refuse "struct RawPageElement" value
  | levels + 1, value => decodeElementWith (decodeElementWithin levels) value

def decodeElement : Decoder (Element Float) :=
  fun value => decodeElementWithin (value.depth + 1) value

/-! ## Pages -/

structure SlideLinks where
  layoutId : Option String
  masterId : Option String
  notes : Option (Page Float)

def decodeSlideLinks (page : Decoder (Page Float)) : Decoder SlideLinks :=
  Decoder.record "SlideProperties" <|
    SlideLinks.mk <$> optional "layoutObjectId" Decoder.text <*>
      optional "masterObjectId" Decoder.text <*>
      optional "notesPage" page

def decodePageWith (element : Decoder (Element Float)) (notes : Decoder (Page Float)) :
    Decoder (Page Float) :=
  Decoder.record "Page" <|
    (fun objectId pageType elements links =>
        { objectId, pageType, elements
          layoutId := links.bind SlideLinks.layoutId
          masterId := links.bind SlideLinks.masterId
          notes := links.bind SlideLinks.notes }) <$>
      withDefault "objectId" Decoder.text "" <*>
      optional "pageType" Decoder.text <*>
      withDefault "pageElements" (Decoder.list element) [] <*>
      optional "slideProperties" (decodeSlideLinks notes)

def decodePageWithin : Nat -> Decoder (Page Float)
  | 0, value => Decoder.refuse "struct Page" value
  | levels + 1, value =>
      decodePageWith (decodeElementWithin levels) (decodePageWithin levels) value

def decodePresentation : Decoder (Presentation Float) :=
  fun value =>
    let page := decodePageWithin (value.depth + 1)
    Decoder.record "Presentation"
      (Presentation.mk <$> withDefault "presentationId" Decoder.text "" <*>
        withDefault "title" Decoder.text "" <*>
        optional "revisionId" Decoder.text <*>
        optional "pageSize" decodeSize <*>
        withDefault "slides" (Decoder.list page) [] <*>
        withDefault "masters" (Decoder.list page) [] <*>
        withDefault "layouts" (Decoder.list page) []) value

end DeckTools
