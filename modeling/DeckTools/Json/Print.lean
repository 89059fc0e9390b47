import DeckTools.Decimal.Notation
import DeckTools.Json.Value
import DeckTools.Text.Ascii

/-!
# Printing JSON

The compact form has no white space.  The indented form puts each item and each
member on a line of its own, two spaces deeper than what encloses it; an empty
array or object stays closed up.  A value without a reading is written as null.
-/

namespace DeckTools
namespace Json

def controlEscape (c : Char) : List Char :=
  let digits := Nat.toDigits 16 c.toNat
  ['\\', 'u'] ++ List.replicate (4 - digits.length) '0' ++ digits

def escapeChar (c : Char) : List Char :=
  if c == '"' || c == '\\' then ['\\', c]
  else if c == '\x08' then ['\\', 'b']
  else if c == '\x0c' then ['\\', 'f']
  else if c == '\n' then ['\\', 'n']
  else if c == '\r' then ['\\', 'r']
  else if c == '\t' then ['\\', 't']
  else if c.toNat < 0x20 then controlEscape c
  else [c]

def textLiteral (s : String) : String :=
  String.ofList (['"'] ++ s.toList.flatMap escapeChar ++ ['"'])

def scalarText : Json -> String
  | .null => "null"
  | .bool true => "true"
  | .bool false => "false"
  | .int n => Text.intText n
  | .float x => Decimal.jsonText x
  | .str s => textLiteral s
  | .unreadable => "null"
  | _ => ""

mutual

def compact : Json -> String
  | .arr items => "[" ++ String.intercalate "," (compactItems items) ++ "]"
  | .obj members => "\x7b" ++ String.intercalate "," (compactMembers members) ++ "\x7d"
  | value => scalarText value

def compactItems : List Json -> List String
  | [] => []
  | item :: rest => compact item :: compactItems rest

def compactMembers : List (String × Json) -> List String
  | [] => []
  | (key, value) :: rest => (textLiteral key ++ ":" ++ compact value) :: compactMembers rest

end

def newLine (level : Nat) : String :=
  String.ofList ('\n' :: List.replicate (2 * level) ' ')

def block (level : Nat) (opening closing : String) (pieces : List String) : String :=
  if pieces.isEmpty then opening ++ closing
  else
    let inner := newLine (level + 1)
    opening ++ inner ++ String.intercalate ("," ++ inner) pieces ++ newLine level ++ closing

mutual

def indentedAt (level : Nat) : Json -> String
  | .arr items => block level "[" "]" (indentedItems (level + 1) items)
  | .obj members => block level "\x7b" "\x7d" (indentedMembers (level + 1) members)
  | value => scalarText value

def indentedItems (level : Nat) : List Json -> List String
  | [] => []
  | item :: rest => indentedAt level item :: indentedItems level rest

def indentedMembers (level : Nat) : List (String × Json) -> List String
  | [] => []
  | (key, value) :: rest =>
      (textLiteral key ++ ": " ++ indentedAt level value) :: indentedMembers level rest

end

def indented (value : Json) : String :=
  indentedAt 0 value

end Json
end DeckTools
