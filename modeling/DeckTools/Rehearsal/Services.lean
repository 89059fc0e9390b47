import DeckTools.Rehearsal.SampleDeck
import DeckTools.Rehearsal.SamplePdf
import DeckTools.Remote.Call

/-!
# Services in memory

A rehearsal answers calls without any network.  It serves one presentation, keeps
a record of what it was asked, and follows a script: calls of a kind may fail
from now on or once, and the next call of a kind may get a reply of choice.  A
call that fails once does not reach the service and leaves no record; one that
fails from now on is counted but not recorded otherwise.
-/

namespace DeckTools

/-! ## Records -/

structure DeckService where
  deck : Deck
  calls : Nat
  batches : List (String × List Edit)
  titles : List String

structure UploadRecord where
  name : String
  mimeType : String
  size : Nat

structure CopyRecord where
  source : String
  name : String
  folder : Option String

structure FileService where
  exportBody : List UInt8
  commentPages : List CommentPage
  calls : Nat
  uploads : List UploadRecord
  shared : List String
  copies : List CopyRecord
  moves : List (String × String)
  exports : List (String × String)
  commentRequests : List (Bool × Option String)

structure TranslationRecord where
  texts : List String
  target : String
  source : Option String

structure TranslationService where
  dictionary : List (String × String)
  requests : List TranslationRecord

/-- Replies of choice, each for the next call of its kind. -/
structure ReplyScript where
  batch : Option (List Json)
  created : Option Deck
  file : Option FileRef
  chunks : Option (List (Except ApiError (List UInt8)))
  commentPages : List CommentPage
  translations : Option (List String)

structure Rehearsal where
  decks : DeckService
  files : FileService
  translations : TranslationService
  replies : ReplyScript
  faults : List (CallKind × ApiError)
  nextFaults : List (CallKind × ApiError)

namespace Rehearsal

/-! ## Start -/

def freshDecks (deck : Deck) : DeckService :=
  { deck, calls := 0, batches := [], titles := [] }

/-- A file service that was not asked anything yet; it exports two pages. -/
def freshFiles : FileService :=
  { exportBody := samplePdf 2
    commentPages := []
    calls := 0
    uploads := []
    shared := []
    copies := []
    moves := []
    exports := []
    commentRequests := [] }

def noReplies : ReplyScript :=
  { batch := none, created := none, file := none, chunks := none
    commentPages := [], translations := none }

def start (deck : Deck) : Rehearsal :=
  { decks := freshDecks deck
    files := freshFiles
    translations := { dictionary := [], requests := [] }
    replies := noReplies
    faults := []
    nextFaults := [] }

/-! ## Script -/

/-- Serve another presentation, with a fresh record and without standing failures. -/
def serve (r : Rehearsal) (deck : Deck) : Rehearsal :=
  { r with
    decks := freshDecks deck
    faults := r.faults.filter (fun fault => !fault.1.concernsDecks) }

def failAlways (r : Rehearsal) (kind : CallKind) (e : ApiError) : Rehearsal :=
  { r with faults := (kind, e) :: r.faults }

def failNext (r : Rehearsal) (kind : CallKind) (e : ApiError) : Rehearsal :=
  { r with nextFaults := (kind, e) :: r.nextFaults.filter (fun fault => fault.1 != kind) }

def fault? (faults : List (CallKind × ApiError)) (kind : CallKind) : Option ApiError :=
  (faults.find? (fun fault => fault.1 == kind)).map Prod.snd

def define (r : Rehearsal) (source translated : String) : Rehearsal :=
  { r with
    translations := { r.translations with
      dictionary := (source, translated) :: r.translations.dictionary } }

/-! ## Replies -/

def entityNotFound : ApiError :=
  { status := some 404
    message := "Requested entity was not found."
    reason := some "notFound" }

def get (id : String) (r : Rehearsal) : Except ApiError Deck × Rehearsal :=
  (if r.decks.deck.id == id then .ok r.decks.deck else .error entityNotFound, r)

/-- The reply to one request: a created image is named, everything else is empty. -/
def replyTo : Edit -> Json
  | .createImage image =>
      Json.object [("createImage", Json.object [("objectId", .str image.objectId)])]
  | _ => .obj []

def batch (id : String) (requests : List Edit) (r : Rehearsal) :
    Except ApiError BatchReply × Rehearsal :=
  let replies := r.replies.batch.getD (requests.map replyTo)
  (.ok { presentationId := id, replies },
    { r with
      decks := { r.decks with batches := r.decks.batches ++ [(id, requests)] }
      replies := { r.replies with batch := none } })

def createdDeck (title : String) : Deck :=
  { id := "new-pres-1"
    title
    revision := none
    pageSize := none
    slides := [plainPage "p" "SLIDE" []]
    masters := []
    layouts := [] }

def create (title : String) (r : Rehearsal) : Except ApiError Deck × Rehearsal :=
  (.ok (r.replies.created.getD (createdDeck title)),
    { r with
      decks := { r.decks with titles := r.decks.titles ++ [title] }
      replies := { r.replies with created := none } })

def upload (name mimeType : String) (bytes : List UInt8) (r : Rehearsal) :
    Except ApiError FileRef × Rehearsal :=
  let uploads := r.files.uploads ++ [{ name, mimeType, size := bytes.length }]
  let file : FileRef :=
    { id := "file-" ++ Text.natText uploads.length
      name
      mimeType := some mimeType
      webViewLink := none }
  (.ok (r.replies.file.getD file),
    { r with
      files := { r.files with uploads }
      replies := { r.replies with file := none } })

def copy (source name : String) (folder : Option String) (r : Rehearsal) :
    Except ApiError FileRef × Rehearsal :=
  let file : FileRef :=
    { id := "copy-1"
      name
      mimeType := some "application/vnd.google-apps.presentation"
      webViewLink := none }
  (.ok (r.replies.file.getD file),
    { r with
      files := { r.files with copies := r.files.copies ++ [{ source, name, folder }] }
      replies := { r.replies with file := none } })

def exportBody (file mimeType : String) (r : Rehearsal) :
    Except ApiError (List (Except ApiError (List UInt8))) × Rehearsal :=
  let body := r.files.exportBody
  let middle := body.length / 2
  let chunks := [.ok (body.take middle), .ok (body.drop middle)]
  (.ok (r.replies.chunks.getD chunks),
    { r with
      files := { r.files with exports := r.files.exports ++ [(file, mimeType)] }
      replies := { r.replies with chunks := none } })

def pageToken (position : Nat) : String :=
  "page-" ++ Text.natText position

def pagePosition (token : Option String) : Nat :=
  let digits := token.bind (fun t => Text.dropStart? "page-".toList t.toList)
  ((digits.bind Text.unsigned?).filter (fun n => n < Nat.pow 2 64)).getD 0

def commentPage (pages : List CommentPage) (token : Option String) : CommentPage :=
  let position := pagePosition token
  let comments := match pages[position]? with
    | some page => page.comments
    | none => []
  { comments
    nextToken :=
      if position + 1 < pages.length then some (pageToken (position + 1)) else none }

def comments (includeDeleted : Bool) (token : Option String) (r : Rehearsal) :
    Except ApiError CommentPage × Rehearsal :=
  let files := { r.files with
    commentRequests := r.files.commentRequests ++ [(includeDeleted, token)] }
  match r.replies.commentPages with
  | page :: rest =>
      (.ok page, { r with files, replies := { r.replies with commentPages := rest } })
  | [] => (.ok (commentPage files.commentPages token), { r with files })

/-- A text in the dictionary is translated by it, any other is marked. -/
def lookUp (dictionary : List (String × String)) (target text : String) : String :=
  match dictionary.find? (fun entry => entry.1 == text) with
  | some entry => entry.2
  | none => "[" ++ target ++ "] " ++ text

def translate (texts : List String) (target : String) (source : Option String)
    (r : Rehearsal) : Except ApiError (List String) × Rehearsal :=
  let translated := texts.map (lookUp r.translations.dictionary target)
  (.ok (r.replies.translations.getD translated),
    { r with
      translations := { r.translations with
        requests := r.translations.requests ++ [{ texts, target, source }] }
      replies := { r.replies with translations := none } })

def reply : (call : Call) -> Rehearsal -> call.Answer × Rehearsal
  | .getPresentation id, r => get id r
  | .batchUpdate id requests, r => batch id requests r
  | .createPresentation title, r => create title r
  | .uploadFile name mimeType bytes, r => upload name mimeType bytes r
  | .makePublic file, r =>
      (.ok (), { r with files := { r.files with shared := r.files.shared ++ [file] } })
  | .copyFile source name folder, r => copy source name folder r
  | .moveFile file folder, r =>
      (.ok (), { r with files := { r.files with moves := r.files.moves ++ [(file, folder)] } })
  | .exportFile file mimeType, r => exportBody file mimeType r
  | .listComments _ includeDeleted _ token, r => comments includeDeleted token r
  | .translate texts target source, r => translate texts target source r

def count (r : Rehearsal) (kind : CallKind) : Rehearsal :=
  if kind.concernsDecks then { r with decks := { r.decks with calls := r.decks.calls + 1 } }
  else if kind.concernsFiles then
    { r with files := { r.files with calls := r.files.calls + 1 } }
  else r

def answer (call : Call) (r : Rehearsal) : call.Answer × Rehearsal :=
  match fault? r.nextFaults call.kind with
  | some e =>
      (.error e,
        { r with nextFaults := r.nextFaults.filter (fun fault => fault.1 != call.kind) })
  | none =>
      let r := r.count call.kind
      match fault? r.faults call.kind with
      | some e => (.error e, r)
      | none => reply call r

def hold {ε α : Type} (run : Remote ε α) (r : Rehearsal) :
    Conversation Call Call.Answer ε α Rehearsal :=
  Dialogue.hold answer run r

end Rehearsal

end DeckTools
