/-!
# Text in a deck

The text of a shape or a table cell is a list of spans.  A span holds ordinary
characters, the characters of a live field such as a slide number, or neither
when it only marks a paragraph.
-/

namespace DeckTools

structure TextSpan where
  startIndex : Option Int
  endIndex : Option Int
  run : Option String
  auto : Option String

namespace TextSpan

/-- The characters of a span; ordinary ones hide those of a field. -/
def content (span : TextSpan) : String :=
  match span.run, span.auto with
  | some run, _ => run
  | none, some auto => auto
  | none, none => ""

end TextSpan

structure TextContent where
  spans : List TextSpan

namespace TextContent

def plain (text : TextContent) : String :=
  String.join (text.spans.map TextSpan.content)

def hasAuto (text : TextContent) : Bool :=
  text.spans.any (fun span => span.auto.isSome)

end TextContent

/-- The row and column of a table cell, from zero. -/
structure CellAddress where
  row : Nat
  column : Nat
  deriving DecidableEq

structure TextUnit where
  objectId : String
  cell : Option CellAddress
  content : TextContent

end DeckTools
