import DeckTools.Dialogue
import DeckTools.Http.Target
import DeckTools.Json.Decode
import DeckTools.Json.Print
import DeckTools.Json.Read
import DeckTools.Remote.ApiError
import DeckTools.Text.Utf8

/-!
# HTTP exchanges

A request is answered by a response or gets lost on the way.  A response whose
status is not one of success is an error; how much of its body arrived does not
matter then.  A response of success may still break off before its end.
-/

namespace DeckTools

inductive HttpMethod where
  | get
  | post
  | patch
  deriving DecidableEq

def HttpMethod.name : HttpMethod -> String
  | get => "GET"
  | post => "POST"
  | patch => "PATCH"

structure HttpRequest where
  method : HttpMethod
  address : String
  query : List (String × String)
  authorization : Option String
  contentType : Option String
  body : List UInt8

def HttpRequest.target (request : HttpRequest) : String :=
  Http.target request.address request.query

/-- A response, with the reason why its body breaks off if it does. -/
structure HttpResponse where
  status : Nat
  body : List UInt8
  broken : Option String

/-- What comes back for a request; a reason tells why nothing does. -/
inductive HttpAnswer where
  | response (response : HttpResponse)
  | lost (reason : String)

abbrev Exchange (α : Type) : Type :=
  Dialogue HttpRequest (fun _ => HttpAnswer) ApiError α

namespace Exchange

def isHeaderChar (c : Char) : Bool :=
  c == '\t' || (0x20 ≤ c.toNat && c.toNat != 0x7F)

def lost {α : Type} (label reason : String) : Exchange α :=
  .fail (.transport (label ++ " request failed: " ++ reason))

def send (label : String) (request : HttpRequest) : Exchange HttpResponse :=
  if !(request.authorization.getD "").toList.all isHeaderChar then
    lost label "the token cannot be sent"
  else
    .ask request fun answer =>
      match answer with
      | .lost reason => lost label reason
      | .response response =>
          if 200 ≤ response.status && response.status < 300 then .done response
          else
            let body := if response.broken.isSome then [] else response.body
            .fail (.ofResponse response.status (Text.Utf8.decodeLossy body))

def unreadable (words : JsonWords) (label : String) (fault : Option DecodeError)
    (text : String) : ApiError :=
  .transport (label ++ " JSON parse error: " ++ words fault text ++ ". Raw: " ++ text)

def decodeBody {α : Type} (words : JsonWords) (label : String) (decode : Decoder α)
    (response : HttpResponse) : Except ApiError α :=
  match response.broken with
  | some reason => .error (.transport (label ++ " body read failed: " ++ reason))
  | none =>
      let text := Text.Utf8.decodeLossy response.body
      match Json.read? text with
      | none => .error (unreadable words label none text)
      | some value =>
          (decode value).mapError fun fault => unreadable words label (some fault) text

def fetchJson {α : Type} (words : JsonWords) (label : String) (decode : Decoder α)
    (request : HttpRequest) : Exchange α := do
  let response <- send label request
  Dialogue.ofExcept (decodeBody words label decode response)

def submit (label : String) (request : HttpRequest) : Exchange Unit := do
  let _ <- send label request
  .done ()

/-- The chunks of a body; one that breaks off ends in a failing chunk. -/
def chunks (response : HttpResponse) : List (Except ApiError (List UInt8)) :=
  (if response.body.isEmpty then [] else [.ok response.body]) ++
    response.broken.toList.map
      (fun reason => .error (.transport ("export stream: " ++ reason)))

end Exchange

end DeckTools
