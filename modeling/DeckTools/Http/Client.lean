import DeckTools.Deck.Decode
import DeckTools.Http.Exchange
import DeckTools.Http.Upload
import DeckTools.Remote.Call

/-!
# Services over HTTP

Every call of a service is one exchange, except moving a file, which first asks
for the folders the file is in, and translating nothing, which needs none.
-/

namespace DeckTools

structure Endpoints where
  slides : String
  drive : String
  upload : String
  translate : String
  deriving DecidableEq

structure HttpClient where
  endpoints : Endpoints
  token : String
  translateKey : Option String
  boundaryDigits : String
  words : JsonWords

namespace HttpClient

/-! ## Requests -/

def slidesLabel : String := "Google Slides"

def driveLabel : String := "Google Drive"

def translateLabel : String := "Google Translate"

def bare (client : HttpClient) (method : HttpMethod) (address : String)
    (query : List (String × String)) : HttpRequest :=
  { method, address, query
    authorization := some ("Bearer " ++ client.token)
    contentType := none
    body := [] }

def withJson (request : HttpRequest) (body : Json) : HttpRequest :=
  { request with
    contentType := some "application/json"
    body := Text.Utf8.encode body.compact }

def deckAddress (client : HttpClient) (id action : String) : String :=
  Http.join client.endpoints.slides ("presentations/" ++ Text.Percent.segment id ++ action)

def fileAddress (client : HttpClient) (id action : String) : String :=
  Http.join client.endpoints.drive ("files/" ++ Text.Percent.segment id ++ action)

/-! ## Presentations -/

def getPresentation (client : HttpClient) (id : String) : Exchange Deck :=
  Exchange.fetchJson client.words slidesLabel decodePresentation
    (client.bare .get (client.deckAddress id "") [])

def batchUpdate (client : HttpClient) (id : String) (requests : List Edit) :
    Exchange BatchReply :=
  Exchange.fetchJson client.words slidesLabel BatchReply.decode <|
    withJson (client.bare .post (client.deckAddress id ":batchUpdate") [])
      (Json.object [("requests", .arr (requests.map Request.toJson))])

def createPresentation (client : HttpClient) (title : String) : Exchange Deck :=
  Exchange.fetchJson client.words slidesLabel decodePresentation <|
    withJson (client.bare .post (Http.join client.endpoints.slides "presentations") [])
      (Json.object [("title", .str title)])

/-! ## Files -/

def fileFields : String := "id,name,mimeType,webViewLink"

def commentFields : String :=
  "nextPageToken,comments(id,author(displayName,emailAddress),content," ++
    "quotedFileContent(value),resolved,deleted,createdTime,modifiedTime," ++
    "replies(id,author(displayName,emailAddress),content,createdTime,deleted))"

def onAllDrives : String × String := ("supportsAllDrives", "true")

def uploadFile (client : HttpClient) (name mimeType : String) (bytes : List UInt8) :
    Exchange FileRef :=
  let boundary := Http.uploadBoundary client.boundaryDigits
  let metadata := Json.object [("name", .str name), ("mimeType", .str mimeType)]
  let request := client.bare .post (Http.join client.endpoints.upload "files")
    [("uploadType", "multipart"), ("fields", fileFields)]
  Exchange.fetchJson client.words driveLabel decodeFileRef
    { request with
      contentType := some (Http.uploadContentType boundary)
      body := Http.uploadBody boundary metadata mimeType bytes }

def makePublic (client : HttpClient) (file : String) : Exchange Unit :=
  Exchange.submit driveLabel <|
    withJson (client.bare .post (client.fileAddress file "/permissions") [])
      (Json.object [("role", .str "reader"), ("type", .str "anyone")])

def copyFile (client : HttpClient) (source name : String) (folder : Option String) :
    Exchange FileRef :=
  let members := ("name", Json.str name) ::
    Json.optional "parents" (fun folder => Json.strings [folder]) folder
  Exchange.fetchJson client.words driveLabel decodeFileRef <|
    withJson
      (client.bare .post (client.fileAddress source "/copy")
        [("fields", fileFields), onAllDrives])
      (Json.object members)

def decodeParents : Decoder (List String) :=
  Decoder.record "Parents" (Fields.withDefault "parents" (Decoder.list Decoder.text) [])

def moveRequest (client : HttpClient) (file folder : String) (parents : List String) :
    HttpRequest :=
  withJson
    (client.bare .patch (client.fileAddress file "")
      [("addParents", folder),
        ("removeParents", String.intercalate "," parents),
        ("fields", "id,parents"),
        onAllDrives])
    (.obj [])

def moveFile (client : HttpClient) (file folder : String) : Exchange Unit := do
  let parents <- Exchange.fetchJson client.words driveLabel decodeParents
    (client.bare .get (client.fileAddress file "") [("fields", "parents"), onAllDrives])
  Exchange.submit driveLabel (client.moveRequest file folder parents)

def exportFile (client : HttpClient) (file mimeType : String) :
    Exchange (List (Except ApiError (List UInt8))) := do
  let response <- Exchange.send driveLabel
    (client.bare .get (client.fileAddress file "/export") [("mimeType", mimeType)])
  .done (Exchange.chunks response)

def listComments (client : HttpClient) (file : String) (includeDeleted : Bool)
    (pageSize : Nat) (token : Option String) : Exchange CommentPage :=
  Exchange.fetchJson client.words driveLabel decodeCommentPage <|
    client.bare .get (client.fileAddress file "/comments") <|
      [("includeDeleted", if includeDeleted then "true" else "false"),
        ("pageSize", Text.natText pageSize),
        ("fields", commentFields)] ++
      token.toList.map (fun token => ("pageToken", token))

/-! ## Translations -/

def decodeTranslations : Decoder (List String) :=
  Decoder.record "TranslateResponse" <|
    Fields.required "data" <|
      Decoder.record "TranslateData" <|
        Fields.withDefault "translations"
          (Decoder.list
            (Decoder.record "Translation" (Fields.required "translatedText" Decoder.text))) []

/-- A request to the translation service; a key takes the place of the token. -/
def translateRequest (client : HttpClient) : HttpRequest :=
  let request := client.bare .post (Http.trimSlashes client.endpoints.translate) []
  match client.translateKey with
  | some key => { request with query := [("key", key)], authorization := none }
  | none => request

/-- Translate texts; the reply has to bring as many. -/
def translate (client : HttpClient) (texts : List String) (target : String)
    (source : Option String) : Exchange (List String) :=
  if texts.isEmpty then .done []
  else do
    let members := [("q", Json.strings texts), ("target", .str target)] ++
      Json.optional "source" Json.str source ++ [("format", .str "text")]
    let translated <- Exchange.fetchJson client.words translateLabel decodeTranslations
      (withJson client.translateRequest (Json.object members))
    if translated.length == texts.length then .done translated
    else
      .fail <| .transport
        ("translation returned " ++ Text.natText translated.length ++ " strings for " ++
          Text.natText texts.length ++ " inputs")

/-! ## Calls -/

def exchange (client : HttpClient) : (call : Call) -> Exchange call.Reply
  | .getPresentation id => client.getPresentation id
  | .batchUpdate id requests => client.batchUpdate id requests
  | .createPresentation title => client.createPresentation title
  | .uploadFile name mimeType bytes => client.uploadFile name mimeType bytes
  | .makePublic file => client.makePublic file
  | .copyFile source name folder => client.copyFile source name folder
  | .moveFile file folder => client.moveFile file folder
  | .exportFile file mimeType => client.exportFile file mimeType
  | .listComments file includeDeleted pageSize token =>
      client.listComments file includeDeleted pageSize token
  | .translate texts target source => client.translate texts target source

def carry {ε α : Type} (client : HttpClient) (run : Remote ε α) :
    Dialogue HttpRequest (fun _ => HttpAnswer) ε α :=
  run.through (fun call => (client.exchange call).caught)

end HttpClient

end DeckTools
