import DeckTools.Deck.Presentation
import DeckTools.Text.Ascii
import DeckTools.Text.LowerCase
import DeckTools.ToolError

/-!
# Searching text

Every text on the slides is searched, that of notes pages on demand.  Offsets
and radii count characters.  Occurrences may overlap, and a limit on the matches
listed does not change how many are counted.
-/

namespace DeckTools
namespace Search

variable {α : Type}

/-! ## Options -/

def maxContext : Nat := 500

structure Options where
  caseSensitive : Bool
  contextLength : Nat
  includeNotes : Bool
  maxResults : Option Nat

def Options.check (options : Options) : Except ToolError Unit :=
  if maxContext < options.contextLength then
    failWith .invalidSearchOptions
      ("context_chars must be at most " ++ Text.natText maxContext ++ ", got " ++
        Text.natText options.contextLength)
  else if options.maxResults == some 0 then
    failWith .invalidSearchOptions "max_results must be at least 1"
  else .ok ()

/-! ## Sources -/

/-- A text that is searched, and where it stands; slides count from one. -/
structure Source where
  slideIndex : Nat
  slideId : String
  objectId : String
  objectType : String
  text : String

def notesLabel : String := "SPEAKER_NOTES:"

/-- The ID of a text: that of the element, with row and column for a cell. -/
def unitId (unit : TextUnit) : String :=
  match unit.cell with
  | some cell =>
      unit.objectId ++ "[" ++ Text.natText cell.row ++ "," ++ Text.natText cell.column ++ "]"
  | none => unit.objectId

def unitType (unit : TextUnit) : String :=
  if unit.cell.isSome then "table_cell" else "shape"

def pageSources (slide : Page α) (index : Nat) (label : String) (page : Page α) :
    List Source :=
  (Element.texts page.elements).map fun unit =>
    { slideIndex := index + 1
      slideId := slide.objectId
      objectId := unitId unit
      objectType := label ++ unitType unit
      text := unit.content.plain }

def slideSources (includeNotes : Bool) (slide : Page α) (index : Nat) : List Source :=
  pageSources slide index "" slide ++
    (if includeNotes then
      slide.notes.toList.flatMap (pageSources slide index notesLabel)
    else [])

def sources (deck : Presentation α) (includeNotes : Bool) : List Source :=
  deck.slides.zipIdx.flatMap (fun slide => slideSources includeNotes slide.1 slide.2)

/-! ## Occurrences -/

def folded (caseSensitive : Bool) (cs : List Char) : List Char :=
  if caseSensitive then cs else cs.map Text.lowerCase

def startsFrom (needle : List Char) (offset : Nat) : List Char -> List Nat
  | [] => []
  | c :: rest =>
      if needle.isPrefixOf (c :: rest) then offset :: startsFrom needle (offset + 1) rest
      else startsFrom needle (offset + 1) rest

/-- The offsets of every occurrence; the empty text occurs nowhere. -/
def findAll (haystack needle : List Char) (caseSensitive : Bool) : List Nat :=
  if needle.isEmpty then []
  else startsFrom (folded caseSensitive needle) 0 (folded caseSensitive haystack)

/-- A stretch of a text with some characters around it, marked where it is cut. -/
def contextWindow (text : List Char) (start length radius : Nat) : String :=
  let first := start - radius
  let stop := min (start + length + radius) text.length
  let mark (cut : Bool) : List Char := if cut then ['.', '.', '.'] else []
  String.ofList
    (mark (0 < first) ++ (text.drop first).take (stop - first) ++
      mark (stop < text.length))

/-! ## Matches -/

structure Match where
  source : Source
  start : Nat
  matched : String
  context : String

structure Outcome where
  total : Nat
  listed : List Match
  truncated : Bool

def sourceMatches (query : List Char) (options : Options) (source : Source) : List Match :=
  let text := source.text.toList
  (findAll text query options.caseSensitive).map fun start =>
    { source, start
      matched := String.ofList ((text.drop start).take query.length)
      context := contextWindow text start query.length options.contextLength }

def run (deck : Presentation α) (query : String) (options : Options) : Outcome :=
  let all := (sources deck options.includeNotes).flatMap (sourceMatches query.toList options)
  let listed := match options.maxResults with
    | some limit => all.take limit
    | none => all
  { total := all.length, listed, truncated := listed.length < all.length }

def Match.toJson (found : Match) : Json :=
  Json.object
    [("slide_index", .ofNat found.source.slideIndex),
      ("slide_id", .str found.source.slideId),
      ("object_id", .str found.source.objectId),
      ("object_type", .str found.source.objectType),
      ("start_index", .ofNat found.start),
      ("match", .str found.matched),
      ("context", .str found.context)]

def Outcome.toJson (outcome : Outcome) : Json :=
  Json.object
    [("total_matches", .ofNat outcome.total),
      ("matches", .arr (outcome.listed.map Match.toJson)),
      ("truncated", .bool outcome.truncated)]

end Search
end DeckTools
