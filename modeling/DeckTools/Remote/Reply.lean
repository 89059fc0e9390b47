import DeckTools.Json.Decode

/-!
# Replies of remote services

What the services answer about files, batches and comments.
-/

namespace DeckTools

open Fields

structure FileRef where
  id : String
  name : String
  mimeType : Option String
  webViewLink : Option String

def decodeFileRef : Decoder FileRef :=
  Decoder.record "FileRef" <|
    FileRef.mk <$> required "id" Decoder.text <*>
      withDefault "name" Decoder.text "" <*>
      optional "mimeType" Decoder.text <*>
      optional "webViewLink" Decoder.text

structure BatchReply where
  presentationId : String
  replies : List Json

namespace BatchReply

def decode : Decoder BatchReply :=
  Decoder.record "BatchReply" <|
    BatchReply.mk <$> withDefault "presentationId" Decoder.text "" <*>
      withDefault "replies" (Decoder.list Decoder.any) []

/-- The ID of the image that the request at a position created, if the reply tells. -/
def createdImageId? (reply : BatchReply) (position : Nat) : Option String :=
  ((reply.replies[position]?).bind (Json.get? "createImage")).bind
    (fun created => (created.get? "objectId").bind Json.str?)

end BatchReply

structure CommentAuthor where
  displayName : String
  emailAddress : Option String

structure CommentReply where
  id : String
  author : Option CommentAuthor
  content : String
  createdTime : Option String
  deleted : Bool

structure Comment where
  id : String
  author : Option CommentAuthor
  content : String
  quoted : Option String
  resolved : Bool
  deleted : Bool
  createdTime : Option String
  modifiedTime : Option String
  replies : List CommentReply

structure CommentPage where
  comments : List Comment
  nextToken : Option String

def decodeCommentAuthor : Decoder CommentAuthor :=
  Decoder.record "CommentAuthor" <|
    CommentAuthor.mk <$> withDefault "displayName" Decoder.text "" <*>
      optional "emailAddress" Decoder.text

def decodeCommentReply : Decoder CommentReply :=
  Decoder.record "CommentReply" <|
    CommentReply.mk <$> withDefault "id" Decoder.text "" <*>
      optional "author" decodeCommentAuthor <*>
      withDefault "content" Decoder.text "" <*>
      optional "createdTime" Decoder.text <*>
      withDefault "deleted" Decoder.boolean false

def decodeComment : Decoder Comment :=
  Decoder.record "Comment" <|
    Comment.mk <$> withDefault "id" Decoder.text "" <*>
      optional "author" decodeCommentAuthor <*>
      withDefault "content" Decoder.text "" <*>
      optional "quotedFileContent"
        (Decoder.record "QuotedContent" (withDefault "value" Decoder.text "")) <*>
      withDefault "resolved" Decoder.boolean false <*>
      withDefault "deleted" Decoder.boolean false <*>
      optional "createdTime" Decoder.text <*>
      optional "modifiedTime" Decoder.text <*>
      withDefault "replies" (Decoder.list decodeCommentReply) []

def decodeCommentPage : Decoder CommentPage :=
  Decoder.record "CommentPage" <|
    CommentPage.mk <$> withDefault "comments" (Decoder.list decodeComment) [] <*>
      optional "nextPageToken" Decoder.text

end DeckTools
