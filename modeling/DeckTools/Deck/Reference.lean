import DeckTools.Deck.Presentation
import DeckTools.Text.Ascii
import DeckTools.Text.Blank
import DeckTools.Text.Quoted
import DeckTools.ToolError

/-!
# Naming presentations, slides and objects

Callers name files and objects by ID, and a slide by its position, counted from
one, or by its ID, but not by both.  Blanks around an ID do not count.
-/

namespace DeckTools

variable {α : Type}

/-! ## IDs and titles -/

def checkPresentationId (raw : String) : Except ToolError String :=
  let id := Text.trim raw
  if id.isEmpty then failWith .invalidPresentationId "presentation_id is required"
  else if id.toList.all Text.isIdChar then .ok id
  else
    failWith .invalidPresentationId
      ("'" ++ id ++ "' contains characters not allowed in a file ID")

def checkObjectId (raw : String) : Except ToolError String :=
  let id := Text.trim raw
  if id.isEmpty then failWith .invalidObjectId "object_id is required" else .ok id

def maxTitleLength : Nat := 255

def checkTitle (raw : String) : Except ToolError String :=
  let title := Text.trim raw
  if title.isEmpty then failWith .invalidTitle "title is required"
  else if maxTitleLength < title.length then
    failWith .invalidTitle
      ("title must be at most " ++ Text.natText maxTitleLength ++ " characters")
  else .ok title

/-! ## Slides -/

/-- A slide by its position, counted from one, or by its ID. -/
inductive SlideRef where
  | index (position : Nat)
  | objectId (id : String)
  deriving DecidableEq

namespace SlideRef

def describe : SlideRef -> String
  | index position => "Index(" ++ Text.natText position ++ ")"
  | objectId id => "Id(" ++ Text.quote id ++ ")"

/-- Build a reference from a position or an ID; a blank ID counts as missing. -/
def ofParts (index : Option Int) (id : Option String) : Except ToolError SlideRef :=
  let named := (id.map Text.trim).filter (fun id => !id.isEmpty)
  match index, named with
  | some _, some _ =>
      failWith .invalidSlideReference "provide either slide_index or slide_id, not both"
  | some index, none =>
      if index < 1 then
        failWith .invalidSlideReference
          ("slide_index must be 1 or greater, got " ++ Text.intText index)
      else .ok (.index index.toNat)
  | none, some id => .ok (.objectId id)
  | none, none =>
      failWith .invalidSlideReference "slide_index (1-based) or slide_id is required"

def resolve (deck : Presentation α) : SlideRef -> Except ToolError (Nat × Page α)
  | index position =>
      match deck.slides[position - 1]? with
      | some page => .ok (position - 1, page)
      | none =>
          failWith .slideNotFound
            ("slide index " ++ Text.natText position ++
              " is out of range (presentation has " ++
              Text.natText deck.slides.length ++ " slides)")
  | objectId id =>
      match deck.slideById? id with
      | some found => .ok found
      | none => failWith .slideNotFound ("no slide with ID '" ++ id ++ "'")

end SlideRef

end DeckTools
