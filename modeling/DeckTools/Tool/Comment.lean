import DeckTools.Deck.Reference
import DeckTools.Tool.Basic
import DeckTools.Tool.Schema

/-!
# Listing comments

Comments come in pages, each of which may name the next.  The listing follows
these names until there is none, or one it has followed before.
-/

namespace DeckTools

open Fields

structure CommentParams where
  presentationId : String
  includeDeleted : Bool
  includeResolved : Bool

def CommentParams.decode : Decoder CommentParams :=
  Decoder.record "Params" <|
    CommentParams.mk <$> required "presentation_id" Decoder.text <*>
      withDefault "include_deleted" Decoder.boolean false <*>
      withDefault "include_resolved" Decoder.boolean true

namespace ListComments

def ofParams (params : Json) : Except ToolError CommentParams := do
  let p <- decodeParams CommentParams.decode params
  let presentationId <- checkPresentationId p.presentationId
  .ok { p with presentationId }

/-! ## Pages -/

def pageSize : Nat := 100

/-- Where a page says to go on: at a token that is not empty and was not followed before. -/
def nextToken? (followed : List String) (page : CommentPage) : Option String :=
  page.nextToken.filter (fun token => !token.isEmpty && !followed.contains token)

/-- Read pages from a token on; so many of them may follow the first. -/
def readPages (p : CommentParams) (budget : Nat) (followed : List String)
    (token : Option String) : Run (List Comment) := do
  let page <- Remote.call
    (.listComments p.presentationId p.includeDeleted pageSize token)
    (ApiError.toToolError .presentationNotFound .serviceError)
  match nextToken? followed page with
  | none => .done page.comments
  | some next =>
      match budget with
      | 0 => .unfinished
      | budget + 1 => do
          let rest <- readPages p budget (next :: followed) (some next)
          .done (page.comments ++ rest)

/-! ## Reports -/

def authorName (author : Option CommentAuthor) : String :=
  match author with
  | some a => if a.displayName.isEmpty then "Unknown" else a.displayName
  | none => "Unknown"

def replyReport (reply : CommentReply) : Json :=
  Json.object
    [("id", .str reply.id),
      ("author", .str (authorName reply.author)),
      ("content", .str reply.content),
      ("created_time", Json.ofOption .str reply.createdTime)]

/-- A comment as callers get it; deleted answers are left out unless wanted. -/
def commentReport (includeDeleted : Bool) (comment : Comment) : Json :=
  let replies := comment.replies.filter (fun reply => includeDeleted || !reply.deleted)
  Json.object
    [("id", .str comment.id),
      ("author", .str (authorName comment.author)),
      ("content", .str comment.content),
      ("quoted_text",
        Json.ofOption .str (comment.quoted.filter (fun text => !text.isEmpty))),
      ("resolved", .bool comment.resolved),
      ("created_time", Json.ofOption .str comment.createdTime),
      ("modified_time", Json.ofOption .str comment.modifiedTime),
      ("replies", .arr (replies.map replyReport))]

def wanted (p : CommentParams) (comments : List Comment) : List Comment :=
  comments.filter (fun comment => p.includeResolved || !comment.resolved)

def report (p : CommentParams) (comments : List Comment) : Json :=
  let listed := wanted p comments
  Json.object
    [("total", .ofNat listed.length),
      ("comments", .arr (listed.map (commentReport p.includeDeleted)))]

def perform (job : Job) (p : CommentParams) : Run Json := do
  let comments <- readPages p job.pageBudget [] none
  .done (report p comments)

end ListComments

def Tool.listComments : Tool where
  name := "list_comments"
  description := "List comments on a presentation with their replies and quoted text."
  parameters :=
    Schema.record
      [("presentation_id", Schema.text),
        ("include_deleted", Schema.flag false),
        ("include_resolved", Schema.flag true)]
      ["presentation_id"]
  requiresApproval := false
  run job params := carryOut (ListComments.ofParams params) (ListComments.perform job)

end DeckTools
