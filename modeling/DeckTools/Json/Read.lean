import DeckTools.Json.Token

/-!
# Reading JSON text

Tokens are read one by one, with the arrays and objects that are still open kept
aside.  `read?` keeps the members of an object in the order and number in which
they are written, and marks what has no reading; `parse?` gives the canonical
value of a text that has a reading throughout.  Arrays and objects enclose each
other as deep as a text likes, but one inside 127 others has no reading.
-/

namespace DeckTools
namespace Json

/-- How many arrays and objects may enclose each other in what has a reading. -/
def nestingLimit : Nat := 127

/-- An array or object that is still open; what it holds so far stands last first. -/
inductive Unclosed where
  | array (items : List Json)
  | object (members : List (Option String × Json)) (key : Option String)

/-- How far a text was read, inside the open arrays and objects, innermost first. -/
inductive Progress where
  | atValue (outer : List Unclosed)
  | atFirstItem (outer : List Unclosed)
  | atFirstKey (outer : List Unclosed)
  | atKey (members : List (Option String × Json)) (outer : List Unclosed)
  | atColon (members : List (Option String × Json)) (key : Option String)
      (outer : List Unclosed)
  | after (value : Json) (outer : List Unclosed)

namespace Progress

/-- An array or object that was closed, which has no reading when it is too deep. -/
def close (value : Json) (outer : List Unclosed) : Progress :=
  .after (if (outer.drop (nestingLimit - 1)).isEmpty then value else .unreadable) outer

def objectOf (members : List (Option String × Json)) : Json :=
  match members.reverse.mapM (fun m => m.1.map (fun key => (key, m.2))) with
  | some members => .obj members
  | none => .unreadable

def start? (outer : List Unclosed) : Token -> Option Progress
  | .scalar value => some (.after value outer)
  | .text content => some (.after ((content.map Json.str).getD .unreadable) outer)
  | .openArray => some (.atFirstItem outer)
  | .openObject => some (.atFirstKey outer)
  | _ => none

def continue? (value : Json) : List Unclosed -> Token -> Option Progress
  | .array items :: outer, .comma => some (.atValue (.array (value :: items) :: outer))
  | .array items :: outer, .closeArray => some (close (.arr (value :: items).reverse) outer)
  | .object members key :: outer, .comma => some (.atKey ((key, value) :: members) outer)
  | .object members key :: outer, .closeObject =>
      some (close (objectOf ((key, value) :: members)) outer)
  | _, _ => none

def step? : Progress -> Token -> Option Progress
  | .atValue outer, token => start? outer token
  | .atFirstItem outer, .closeArray => some (close (.arr []) outer)
  | .atFirstItem outer, token => start? (.array [] :: outer) token
  | .atFirstKey outer, .closeObject => some (close (.obj []) outer)
  | .atFirstKey outer, .text key => some (.atColon [] key outer)
  | .atKey members outer, .text key => some (.atColon members key outer)
  | .atColon members key outer, .colon => some (.atValue (.object members key :: outer))
  | .after value outer, token => continue? value outer token
  | _, _ => none

end Progress

def ofTokens? (tokens : List Token) : Option Json :=
  match tokens.foldlM Progress.step? (.atValue []) with
  | some (.after value []) => some value
  | _ => none

def read? (s : String) : Option Json :=
  (Token.ofChars? s.toList).bind ofTokens?

def parse? (s : String) : Option Json :=
  ((read? s).filter isReadable).map canonical

end Json
end DeckTools
