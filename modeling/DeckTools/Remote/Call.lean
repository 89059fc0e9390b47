import DeckTools.Batch.Request
import DeckTools.Deck.Presentation
import DeckTools.Dialogue
import DeckTools.Remote.ApiError
import DeckTools.Remote.Reply

/-!
# Calls to remote services

Tools work on presentations, files and texts through these calls.  Each call is
answered by a reply of its own type or by an error, whatever the service is.
-/

namespace DeckTools

abbrev Deck : Type := Presentation Float

abbrev Edit : Type := Request Float

inductive Call where
  | getPresentation (id : String)
  | batchUpdate (id : String) (requests : List Edit)
  | createPresentation (title : String)
  | uploadFile (name mimeType : String) (bytes : List UInt8)
  | makePublic (file : String)
  | copyFile (source name : String) (folder : Option String)
  | moveFile (file folder : String)
  | exportFile (file mimeType : String)
  | listComments (file : String) (includeDeleted : Bool) (pageSize : Nat)
      (token : Option String)
  | translate (texts : List String) (target : String) (source : Option String)

inductive CallKind where
  | getPresentation
  | batchUpdate
  | createPresentation
  | uploadFile
  | makePublic
  | copyFile
  | moveFile
  | exportFile
  | listComments
  | translate
  deriving DecidableEq

def CallKind.concernsDecks : CallKind -> Bool
  | getPresentation => true
  | batchUpdate => true
  | createPresentation => true
  | _ => false

def CallKind.concernsFiles (kind : CallKind) : Bool :=
  !kind.concernsDecks && kind != .translate

namespace Call

def kind : Call -> CallKind
  | getPresentation _ => .getPresentation
  | batchUpdate _ _ => .batchUpdate
  | createPresentation _ => .createPresentation
  | uploadFile _ _ _ => .uploadFile
  | makePublic _ => .makePublic
  | copyFile _ _ _ => .copyFile
  | moveFile _ _ => .moveFile
  | exportFile _ _ => .exportFile
  | listComments _ _ _ _ => .listComments
  | translate _ _ _ => .translate

@[reducible]
def Reply : Call -> Type
  | getPresentation _ => Deck
  | batchUpdate _ _ => BatchReply
  | createPresentation _ => Deck
  | uploadFile _ _ _ => FileRef
  | makePublic _ => Unit
  | copyFile _ _ _ => FileRef
  | moveFile _ _ => Unit
  | exportFile _ _ => List (Except ApiError (List UInt8))
  | listComments _ _ _ _ => CommentPage
  | translate _ _ _ => List String

@[reducible]
def Answer (call : Call) : Type :=
  Except ApiError call.Reply

end Call

/-- A computation that calls the services and ends in an error of type `ε`. -/
abbrev Remote (ε α : Type) : Type := Dialogue Call Call.Answer ε α

def Remote.call {ε : Type} (call : Call) (onError : ApiError -> ε) : Remote ε call.Reply :=
  .ask call fun answer =>
    match answer with
    | .ok reply => .done reply
    | .error e => .fail (onError e)

/-- Make a call and go on with its answer, failed or not. -/
def Remote.attempt {ε : Type} (call : Call) : Remote ε (Except ApiError call.Reply) :=
  Dialogue.request call

def Remote.translateOne (text target : String) (source : Option String) :
    Remote ApiError String := do
  let translated <- Remote.call (.translate [text] target source) id
  match translated.getLast? with
  | some text => .done text
  | none => .fail (.transport "translation response was empty")

end DeckTools
