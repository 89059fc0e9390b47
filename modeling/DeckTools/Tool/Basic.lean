import DeckTools.Image.Payload
import DeckTools.Job
import DeckTools.Remote.Call

/-!
# Tools

A tool has a name, a description, a schema for its parameters, and a run that
may call the services.  A run first turns the parameters into an order, which
needs no call, and then carries the order out.
-/

namespace DeckTools

abbrev Run (α : Type) : Type := Remote ToolError α

structure Tool where
  name : String
  description : String
  parameters : Json
  requiresApproval : Bool
  run : Job -> Json -> Run Json

namespace Tool

def schema (tool : Tool) : Json :=
  .obj
    [("name", .str tool.name),
      ("description", .str tool.description),
      ("parameters", tool.parameters)]

end Tool

structure ToolSettings where
  exportMaxBytes : Nat
  searchContext : Nat

/-! ## Orders -/

def decodeParams {α : Type} (decode : Decoder α) (params : Json) : Except ToolError α :=
  match decode params with
  | .ok a => .ok a
  | .error e => .error { kind := .invalidParameters, detail := e.message }

def carryOut {α β : Type} (order : Except ToolError α) (perform : α -> Run β) : Run β :=
  match order with
  | .ok order => perform order
  | .error e => .fail e

/-! ## Common steps -/

def fetch (id : String) : Run Deck :=
  Remote.call (.getPresentation id) (ApiError.toToolError .presentationNotFound .serviceError)

/-- What is missing when a batch fails: the presentation, or an object in it. -/
def missingInBatch (e : ApiError) : ToolErrorKind :=
  if e.status == some 404 then .presentationNotFound else .objectNotFound

def submit (id : String) (requests : List Edit) (failure : ToolErrorKind) : Run BatchReply :=
  Remote.call (.batchUpdate id requests) (fun e => e.toToolError (missingInBatch e) failure)

def locate (deck : Deck) (objectId : String) : Except ToolError (Located Float) :=
  match deck.locate? objectId with
  | some found => .ok found
  | none => failWith .objectNotFound ("no object with ID '" ++ objectId ++ "'")

/-! ## Follow-up steps -/

structure Completion (α : Type) where
  value : α
  warnings : List String

namespace Completion

variable {α : Type}

def full (value : α) : Completion α :=
  { value, warnings := [] }

def warn (completion : Completion α) (warning : String) : Completion α :=
  { completion with warnings := completion.warnings ++ [warning] }

def isPartial (completion : Completion α) : Bool :=
  !completion.warnings.isEmpty

end Completion

/-! ## Addresses -/

def presentationUrl (id : String) : String :=
  "https://docs.google.com/presentation/d/" ++ id ++ "/edit"

def imageUrl (fileId : String) : String :=
  "https://drive.google.com/uc?export=download&id=" ++ fileId

/-! ## Uploads -/

def uploadName (job : Job) (format : ImageFormat) : String :=
  "slidesmith-" ++ job.id ++ "." ++ format.extension

/--
Upload an image and share it, so that the presentation service can read it.
Sharing that fails is a warning.
-/
def uploadImage (job : Job) (image : ImagePayload) : Run (Completion FileRef) := do
  let file <- Remote.call
    (.uploadFile (uploadName job image.format) image.format.mimeType image.bytes)
    (ApiError.toToolError .uploadFailed .uploadFailed)
  let shared <- Remote.attempt (.makePublic file.id)
  match shared with
  | .ok _ => .done (.full file)
  | .error e =>
      .done ((Completion.full file).warn
        ("uploaded image " ++ file.id ++ " could not be made public: " ++ e.describe))

end DeckTools
