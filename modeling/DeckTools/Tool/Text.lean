import DeckTools.Deck.Reference
import DeckTools.Search
import DeckTools.Tool.Basic
import DeckTools.Tool.Schema
import DeckTools.Translation.Target

/-!
# Tools for text

Text is searched, and it is translated in place.  A translation covers the whole
presentation, one slide or one object.
-/

namespace DeckTools

open Fields

/-! ## Searching -/

structure SearchParams where
  presentationId : String
  query : String
  caseSensitive : Bool
  contextLength : Option Nat
  includeNotes : Bool
  maxResults : Option Nat

def SearchParams.decode : Decoder SearchParams :=
  Decoder.record "Params" <|
    SearchParams.mk <$> required "presentation_id" Decoder.text <*>
      required "query" Decoder.text <*>
      withDefault "case_sensitive" Decoder.boolean false <*>
      optional "context_chars" Decoder.size <*>
      withDefault "include_notes" Decoder.boolean true <*>
      optional "max_results" Decoder.size

structure SearchText where
  presentationId : String
  query : String
  options : Search.Options

namespace SearchText

def ofParams (defaultContext : Nat) (params : Json) : Except ToolError SearchText := do
  let p <- decodeParams SearchParams.decode params
  let presentationId <- checkPresentationId p.presentationId
  if Text.isBlankText p.query then failWith .emptyQuery "query must not be empty"
  let options : Search.Options :=
    { caseSensitive := p.caseSensitive
      contextLength := p.contextLength.getD defaultContext
      includeNotes := p.includeNotes
      maxResults := p.maxResults }
  options.check
  .ok { presentationId, query := p.query, options }

def perform (order : SearchText) : Run Json := do
  let deck <- fetch order.presentationId
  let outcome := Search.run deck order.query order.options
  .done <| Json.object
    [("query", .str order.query),
      ("total_matches", .ofNat outcome.total),
      ("matches", .arr (outcome.listed.map Search.Match.toJson)),
      ("truncated", .bool outcome.truncated)]

end SearchText

def Tool.searchText (defaultContext : Nat) : Tool where
  name := "search_text"
  description :=
    "Search every slide for a substring. Matches may overlap. Each match reports its " ++
    "1-based slide index, the containing object and a context snippet."
  parameters :=
    Schema.record
      [("presentation_id", Schema.text),
        ("query", Schema.text),
        ("case_sensitive", Schema.flag false),
        ("context_chars",
          Schema.typed "integer"
            [("minimum", .int 0), ("maximum", .ofNat Search.maxContext),
              ("default", .ofNat defaultContext)]),
        ("include_notes", Schema.flag true),
        ("max_results", Schema.count)]
      ["presentation_id", "query"]
  requiresApproval := false
  run _ params := carryOut (SearchText.ofParams defaultContext params) SearchText.perform

/-! ## Translating -/

inductive ScopeName where
  | presentation
  | slide
  | object
  deriving DecidableEq

def ScopeName.decode : Decoder ScopeName :=
  Decoder.variant
    [("presentation", .presentation), ("slide", .slide), ("object", .object)] none

structure TranslateParams where
  presentationId : String
  targetLanguage : String
  sourceLanguage : Option String
  scope : ScopeName
  slideIndex : Option Int
  slideId : Option String
  objectId : Option String
  includeNotes : Bool

def TranslateParams.decode : Decoder TranslateParams :=
  Decoder.record "Params" <|
    TranslateParams.mk <$> required "presentation_id" Decoder.text <*>
      required "target_language" Decoder.text <*>
      optional "source_language" Decoder.text <*>
      withDefault "scope" ScopeName.decode .presentation <*>
      optional "slide_index" Decoder.signed64 <*>
      optional "slide_id" Decoder.text <*>
      optional "object_id" Decoder.text <*>
      withDefault "include_notes" Decoder.boolean false

inductive Scope where
  | presentation
  | slide (slide : SlideRef)
  | object (objectId : String)

structure Translate where
  presentationId : String
  target : String
  source : Option String
  scope : Scope
  includeNotes : Bool

namespace Translate

def checkScope (p : TranslateParams) : Except ToolError Scope :=
  match p.scope with
  | .presentation => .ok .presentation
  | .slide => (SlideRef.ofParts p.slideIndex p.slideId).map .slide
  | .object => (checkObjectId (p.objectId.getD "")).map .object

/-- Check the parameters; a blank source language is none. -/
def ofParams (params : Json) : Except ToolError Translate := do
  let p <- decodeParams TranslateParams.decode params
  let presentationId <- checkPresentationId p.presentationId
  let target <- checkLanguage p.targetLanguage
  let source <-
    (p.sourceLanguage.filter (fun language => !Text.isBlankText language)).mapM checkLanguage
  let scope <- checkScope p
  .ok { presentationId, target, source, scope, includeNotes := p.includeNotes }

def slideTargets (includeNotes : Bool) (slide : Page Float) : List TextTarget :=
  TextTarget.collect slide.elements ++
    (if includeNotes then
      slide.notes.toList.flatMap (fun notes => TextTarget.collect notes.elements)
    else [])

def targets (deck : Deck) (scope : Scope) (includeNotes : Bool) :
    Except ToolError (List TextTarget) :=
  match scope with
  | .presentation => .ok (deck.slides.flatMap (slideTargets includeNotes))
  | .slide slide => (slide.resolve deck).map (fun found => slideTargets includeNotes found.2)
  | .object objectId =>
      (locate deck objectId).map (fun found => TextTarget.collect [found.element])

def someTargets (deck : Deck) (order : Translate) : Except ToolError (List TextTarget) := do
  let targets <- targets deck order.scope order.includeNotes
  if targets.isEmpty then
    failWith .noTextToTranslate "no text found in the requested scope"
  else .ok targets

def checkCount (texts translations : List String) : Except ToolError Unit :=
  if translations.length == texts.length then .ok ()
  else
    failWith .translateFailed
      ("sent " ++ Text.natText texts.length ++ " texts but got " ++
        Text.natText translations.length ++ " translations")

def perform (order : Translate) : Run Json := do
  let deck <- fetch order.presentationId
  let targets <- Dialogue.ofExcept (someTargets deck order)
  let texts := targets.map TextTarget.text
  let translations <- Remote.call (.translate texts order.target order.source)
    (ApiError.toToolError .translateFailed .translateFailed)
  let _ <- Dialogue.ofExcept (checkCount texts translations)
  let plan : TranslationPlan Float := TranslationPlan.ofTranslations targets translations
  let report := Json.object
    [("translated_count", .ofNat plan.translated),
      ("skipped_count", .ofNat plan.skipped),
      ("target_language", .str order.target)]
  if plan.requests.isEmpty then .done report
  else do
    let _ <- submit order.presentationId plan.requests .translateFailed
    .done report

end Translate

def Tool.translate : Tool where
  name := "translate_presentation"
  description :=
    "Translate text in shapes, groups and table cells in place. Scope is the whole " ++
    "presentation, one slide (slide_index or slide_id) or one object (object_id). " ++
    "Speaker notes are included only with include_notes."
  parameters :=
    Schema.record
      [("presentation_id", Schema.text),
        ("target_language", Schema.textAbout "Language code, e.g. es or pt-BR"),
        ("source_language", Schema.textAbout "Detected when omitted"),
        ("scope",
          Schema.typed "string"
            [("enum", Json.strings ["presentation", "slide", "object"]),
              ("default", .str "presentation")]),
        ("slide_index", Schema.count),
        ("slide_id", Schema.text),
        ("object_id", Schema.text),
        ("include_notes", Schema.flag false)]
      ["presentation_id", "target_language"]
  requiresApproval := false
  run _ params := carryOut (Translate.ofParams params) Translate.perform

end DeckTools
