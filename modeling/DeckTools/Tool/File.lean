import DeckTools.Deck.Reference
import DeckTools.Pdf
import DeckTools.Tool.Basic
import DeckTools.Tool.Schema

/-!
# Tools for whole files

Presentations are created, copied and exported.  A folder that is not given, or
blank, is no folder.
-/

namespace DeckTools

open Fields

def givenFolder (raw : Option String) : Option String :=
  (raw.map Text.trim).filter (fun id => !id.isEmpty)

/-! ## Creating a presentation -/

structure CreateParams where
  title : String
  folderId : Option String

def CreateParams.decode : Decoder CreateParams :=
  Decoder.record "Params" <|
    CreateParams.mk <$> required "title" Decoder.text <*> optional "folder_id" Decoder.text

structure CreatePresentation where
  title : String
  folder : Option String

namespace CreatePresentation

def ofParams (params : Json) : Except ToolError CreatePresentation := do
  let p <- decodeParams CreateParams.decode params
  let title <- checkTitle p.title
  .ok { title, folder := givenFolder p.folderId }

def file (deck : Deck) (folder : Option String) : Run (Completion Deck) :=
  match folder with
  | none => .done (.full deck)
  | some folder => do
      let moved <- Remote.attempt (.moveFile deck.id folder)
      match moved with
      | .ok _ => .done (.full deck)
      | .error e =>
          .done ((Completion.full deck).warn
            ("presentation was created but could not be moved to folder " ++ folder ++ ": " ++
              e.describe))

def perform (order : CreatePresentation) : Run Json := do
  let created <- Remote.call (.createPresentation order.title)
    (ApiError.toToolError .createFailed .createFailed)
  let filed <- file created order.folder
  .done <| Json.object
    [("presentation_id", .str filed.value.id),
      ("title", .str filed.value.title),
      ("url", .str (presentationUrl filed.value.id)),
      ("slide_count", .ofNat filed.value.slides.length),
      ("warnings", Json.strings filed.warnings)]

end CreatePresentation

def Tool.createPresentation : Tool where
  name := "create_presentation"
  description :=
    "Create a new presentation. If folder_id is given the deck is moved there; a failed " ++
    "move is reported as a warning and the presentation is still returned."
  parameters :=
    Schema.record
      [("title", Schema.textUpTo maxTitleLength),
        ("folder_id", Schema.textAbout "Drive folder to file the deck in")]
      ["title"]
  requiresApproval := false
  run _ params := carryOut (CreatePresentation.ofParams params) CreatePresentation.perform

/-! ## Copying a presentation -/

structure CopyParams where
  sourceId : String
  name : String
  destinationFolderId : Option String

def CopyParams.decode : Decoder CopyParams :=
  Decoder.record "Params" <|
    CopyParams.mk <$> required "source_id" Decoder.text <*>
      required "name" Decoder.text <*>
      optional "destination_folder_id" Decoder.text

structure CopyPresentation where
  source : String
  name : String
  folder : Option String

namespace CopyPresentation

def ofParams (params : Json) : Except ToolError CopyPresentation := do
  let p <- decodeParams CopyParams.decode params
  let source <- checkPresentationId p.sourceId
  let name <- checkTitle p.name
  .ok { source, name, folder := givenFolder p.destinationFolderId }

/-- Whether a message names an ID, and not only a longer one that contains it. -/
def namesId (message id : String) : Bool :=
  (Text.words Text.isIdChar message.toList).contains id.toList

/-- What a failed copy means: the folder is missing if the message names it. -/
def failure (folder : Option String) (e : ApiError) : ToolError :=
  let byClass := e.toToolError .sourceNotFound .copyFailed
  match folder with
  | some folder =>
      if e.errorClass = .notFound ∧ namesId e.message folder then
        { kind := .folderNotFound, detail := e.describe }
      else byClass
  | none => byClass

def perform (order : CopyPresentation) : Run Json := do
  let copy <- Remote.call (.copyFile order.source order.name order.folder)
    (failure order.folder)
  .done <| Json.object
    [("presentation_id", .str copy.id),
      ("name", .str copy.name),
      ("url", .str (presentationUrl copy.id)),
      ("source_id", .str order.source)]

end CopyPresentation

def Tool.copyPresentation : Tool where
  name := "copy_presentation"
  description :=
    "Copy a presentation to a new file with the given name, optionally into a Drive folder."
  parameters :=
    Schema.record
      [("source_id", Schema.textAbout "Presentation to copy"),
        ("name", Schema.textUpTo maxTitleLength),
        ("destination_folder_id", Schema.text)]
      ["source_id", "name"]
  requiresApproval := false
  run _ params := carryOut (CopyPresentation.ofParams params) CopyPresentation.perform

/-! ## Exporting a presentation -/

structure ExportParams where
  presentationId : String
  includeContent : Bool

def ExportParams.decode : Decoder ExportParams :=
  Decoder.record "Params" <|
    ExportParams.mk <$> required "presentation_id" Decoder.text <*>
      withDefault "include_content" Decoder.boolean true

namespace ExportPdf

def ofParams (params : Json) : Except ToolError ExportParams := do
  let p <- decodeParams ExportParams.decode params
  let presentationId <- checkPresentationId p.presentationId
  .ok { p with presentationId }

def mimeType : String := "application/pdf"

/--
Read the chunks of a body onto what was read before.  A chunk that fails, or that
goes over the limit, ends the export.
-/
def readCapped (limit : Nat) :
    List UInt8 -> List (Except ApiError (List UInt8)) -> Except ToolError (List UInt8)
  | body, [] => .ok body
  | _, .error e :: _ => failWith .exportFailed e.describe
  | body, .ok chunk :: rest =>
      if limit < body.length + chunk.length then
        failWith .exportFailed
          ("export is larger than the " ++ Text.natText limit ++ " byte limit")
      else readCapped limit (body ++ chunk) rest

def report (p : ExportParams) (body : List UInt8) : Json :=
  Json.object <|
    [("presentation_id", .str p.presentationId),
      ("mime_type", .str mimeType),
      ("size_bytes", .ofNat body.length),
      ("page_count", .ofNat (Pdf.countPages body))] ++
    (if p.includeContent then [("content_base64", .str (Text.Base64.encode body))] else [])

def perform (limit : Nat) (p : ExportParams) : Run Json := do
  let chunks <- Remote.call (.exportFile p.presentationId mimeType)
    (ApiError.toToolError .presentationNotFound .exportFailed)
  let body <- Dialogue.ofExcept (readCapped limit [] chunks)
  .done (report p body)

end ExportPdf

def Tool.exportPdf (limit : Nat) : Tool where
  name := "export_pdf"
  description :=
    "Export a presentation as PDF. Returns the size, an estimated page count and, " ++
    "unless include_content is false, the PDF bytes as base64."
  parameters :=
    Schema.record
      [("presentation_id", Schema.text), ("include_content", Schema.flag true)]
      ["presentation_id"]
  requiresApproval := false
  run _ params := carryOut (ExportPdf.ofParams params) (ExportPdf.perform limit)

end DeckTools
