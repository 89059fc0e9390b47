import DeckTools.Deck.Reference
import DeckTools.Edit.Plan
import DeckTools.Tool.Basic
import DeckTools.Tool.Schema
import DeckTools.Transition

/-!
# Deleting objects and setting transitions

Objects are deleted by ID; IDs that the presentation does not know are reported.
Transitions cannot be set by the presentation service, so a request for one is
checked and then refused.
-/

namespace DeckTools

open Fields

/-! ## Deleting -/

structure DeleteParams where
  presentationId : String
  objectIds : List String
  objectId : Option String

def DeleteParams.decode : Decoder DeleteParams :=
  Decoder.record "Params" <|
    DeleteParams.mk <$> required "presentation_id" Decoder.text <*>
      withDefault "object_ids" (Decoder.list Decoder.text) [] <*>
      optional "object_id" Decoder.text

structure DeleteObjects where
  presentationId : String
  objectIds : List String

namespace DeleteObjects

def ofParams (params : Json) : Except ToolError DeleteObjects := do
  let p <- decodeParams DeleteParams.decode params
  let presentationId <- checkPresentationId p.presentationId
  let requested := p.objectIds ++ p.objectId.toList
  if requested.isEmpty then failWith .noObjectsSpecified "give object_ids or object_id"
  let objectIds <- requested.mapM checkObjectId
  .ok { presentationId, objectIds }

/-- Split the IDs by whether the presentation knows them; some must be known. -/
def partition (order : DeleteObjects) (deck : Deck) : Except ToolError IdPartition :=
  let parts := deck.categorize order.objectIds
  if parts.existing.isEmpty then
    failWith .objectNotFound
      ("none of the requested objects exist: " ++ String.intercalate ", " parts.missing)
  else .ok parts

def perform (order : DeleteObjects) : Run Json := do
  let deck <- fetch order.presentationId
  let parts <- Dialogue.ofExcept (order.partition deck)
  let _ <- submit order.presentationId (deleteObjects parts.existing) .deleteFailed
  .done <| Json.object
    [("deleted_ids", Json.strings parts.existing),
      ("deleted_count", .ofNat parts.existing.length),
      ("not_found_ids", Json.strings parts.missing)]

end DeleteObjects

def Tool.deleteObjects : Tool where
  name := "delete_objects"
  description :=
    "Delete one or more objects from a presentation. Duplicate IDs are collapsed; " ++
    "IDs that do not exist are listed in not_found_ids."
  parameters :=
    Schema.record
      [("presentation_id", Schema.text),
        ("object_ids", Schema.typed "array" [("items", Schema.text)]),
        ("object_id", Schema.textAbout "Single ID; combined with object_ids")]
      ["presentation_id"]
  requiresApproval := true
  run _ params := carryOut (DeleteObjects.ofParams params) DeleteObjects.perform

/-! ## Setting transitions -/

structure TransitionParams where
  presentationId : String
  slideIndex : Option Int
  slideId : Option String
  applyToAll : Bool
  transitionType : String
  duration : Option Float

def TransitionParams.decode : Decoder TransitionParams :=
  Decoder.record "Params" <|
    TransitionParams.mk <$> required "presentation_id" Decoder.text <*>
      optional "slide_index" Decoder.signed64 <*>
      optional "slide_id" Decoder.text <*>
      withDefault "apply_to_all" Decoder.boolean false <*>
      required "transition_type" Decoder.text <*>
      optional "duration_seconds" Decoder.double

structure SetTransition where
  transition : Transition
  slides : String

namespace SetTransition

def checkSlides (p : TransitionParams) : Except ToolError String :=
  let namesSlide :=
    p.slideIndex.isSome || p.slideId.any (fun id => !Text.isBlankText id)
  if p.applyToAll then
    if namesSlide then
      failWith .invalidSlideReference
        "apply_to_all cannot be combined with slide_index or slide_id"
    else .ok "all slides"
  else (SlideRef.ofParts p.slideIndex p.slideId).map SlideRef.describe

def ofParams (params : Json) : Except ToolError SetTransition := do
  let p <- decodeParams TransitionParams.decode params
  let _ <- checkPresentationId p.presentationId
  let slides <- checkSlides p
  let transition <- Transition.ofText p.transitionType
  match p.duration with
  | some seconds => checkTransitionDuration seconds
  | none => .ok ()
  .ok { transition, slides }

def perform (order : SetTransition) : Run Json :=
  .fail
    { kind := .transitionNotSupported
      detail :=
        "the Slides API cannot set transitions; apply " ++ order.transition.name ++ " to " ++
          order.slides ++ " in the Slides editor" }

end SetTransition

def Tool.setTransition : Tool where
  name := "set_transition"
  description :=
    "Set a slide transition. The Google Slides API cannot change transitions, so this " ++
    "validates the request and reports that transitions must be set in the editor."
  parameters :=
    Schema.record
      [("presentation_id", Schema.text),
        ("slide_index", Schema.count),
        ("slide_id", Schema.text),
        ("apply_to_all", Schema.flag false),
        ("transition_type",
          Schema.typed "string" [("enum", Json.strings (Transition.all.map Transition.name))]),
        ("duration_seconds",
          Schema.typed "number"
            [("exclusiveMinimum", .int 0),
              ("maximum", .float (Float.ofInt maxTransitionSeconds))])]
      ["presentation_id", "transition_type"]
  requiresApproval := false
  run _ params := carryOut (SetTransition.ofParams params) SetTransition.perform

end DeckTools
