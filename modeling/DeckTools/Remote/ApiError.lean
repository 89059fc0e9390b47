import DeckTools.Json.Decode
import DeckTools.Json.Read
import DeckTools.Text.Blank
import DeckTools.Text.Occurrence
import DeckTools.ToolError

/-!
# Errors of remote services

A service answers a call with a status, a message and perhaps a reason.  The
class of an error says what it means for the caller: a problem with a parent
folder is recognised first, then the status decides, and the words of the message
and the reason count only where the status says little.
-/

namespace DeckTools

/-- A failed call; there is no status when the service was not reached. -/
structure ApiError where
  status : Option Nat
  message : String
  reason : Option String
  deriving DecidableEq

inductive ApiErrorClass where
  | notFound
  | forbidden
  | invalidParent
  | other
  deriving DecidableEq

namespace ApiError

def transport (message : String) : ApiError :=
  { status := none, message, reason := none }

def describe (e : ApiError) : String :=
  match e.status with
  | some status => "HTTP " ++ Text.natText status ++ ": " ++ e.message
  | none => e.message

/-! ## Classes -/

def namesParent (message reason : String) : Bool :=
  Text.contains message "invalid parent" || Text.contains reason "parentnotfound" ||
    Text.contains reason "invalidparent" ||
    (Text.contains message "parent" && Text.contains message "not found")

def namesMissing (message reason : String) : Bool :=
  Text.contains message "not found" || Text.contains message "could not be found" ||
    Text.contains reason "notfound" || reason == "not_found"

def namesForbidden (message reason : String) : Bool :=
  Text.contains reason "permission_denied" || Text.contains message "permission_denied" ||
    Text.contains message "insufficient permissions" ||
    Text.contains message "forbidden" || Text.contains reason "forbidden"

def classByWords (message reason : String) : ApiErrorClass :=
  if namesMissing message reason then .notFound
  else if namesForbidden message reason then .forbidden
  else .other

def errorClass (e : ApiError) : ApiErrorClass :=
  let message := Text.asciiLower e.message
  let reason := Text.asciiLower (e.reason.getD "")
  if namesParent message reason then .invalidParent
  else
    match e.status with
    | some 404 => .notFound
    | some 401 => .forbidden
    | some 403 => .forbidden
    | some 400 => classByWords message reason
    | none => classByWords message reason
    | some _ => .other

/--
The tool error for a failed call.  The kinds say what a missing object and a plain
failure mean for the call; the full text of the error becomes the detail.
-/
def toToolError (notFound failure : ToolErrorKind) (e : ApiError) : ToolError :=
  let kind := match e.errorClass with
    | .notFound => notFound
    | .forbidden => ToolErrorKind.accessDenied
    | .invalidParent => ToolErrorKind.folderNotFound
    | .other => failure
  { kind, detail := e.describe }

/-! ## Error bodies -/

structure ErrorBody where
  message : String
  status : Option String
  reasons : List (Option String)

def decodeErrorBody : Decoder ErrorBody :=
  Decoder.record "ErrorEnvelope" <|
    Fields.required "error" <|
      Decoder.record "ErrorBody" <|
        ErrorBody.mk <$> Fields.withDefault "message" Decoder.text "" <*>
          Fields.optional "status" Decoder.text <*>
          Fields.withDefault "errors"
            (Decoder.list
              (Decoder.record "ErrorDetail" (Fields.optional "reason" Decoder.text))) []

/--
The error of a response that is not a success.  The body is read as an error
envelope; the first reason counts, or else the status it names.  Any other body is
the message itself.
-/
def ofResponse (status : Nat) (body : String) : ApiError :=
  let read := (Json.read? body).map decodeErrorBody
  match read with
  | some (.ok error) =>
      { status := some status
        message := if error.message.isEmpty then body else error.message
        reason := (error.reasons.findSome? id).or error.status }
  | _ => { status := some status, message := Text.trim body, reason := none }

end ApiError

end DeckTools
