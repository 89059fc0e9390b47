import DeckTools.Text.Unprinted
import DeckTools.Text.Utf8

/-!
# Quoted text

Messages show foreign text between double quotes.  A backslash stands before a
quote, a backslash, and the letters that name a line end, a tab and the null
character; anything else that does not show as itself is written by its code
point.
-/

namespace DeckTools
namespace Text

def codePointEscape (c : Char) : List Char :=
  ['\\', 'u', '\x7b'] ++ Nat.toDigits 16 c.toNat ++ ['\x7d']

def quoteChar (c : Char) : List Char :=
  if c == '"' || c == '\\' then ['\\', c]
  else if c == '\t' then ['\\', 't']
  else if c == '\n' then ['\\', 'n']
  else if c == '\r' then ['\\', 'r']
  else if c.toNat == 0 then ['\\', '0']
  else if isUnprinted c then codePointEscape c
  else [c]

def quote (s : String) : String :=
  String.ofList (['"'] ++ s.toList.flatMap quoteChar ++ ['"'])

def hexByte (b : UInt8) : List Char :=
  let digits := (Nat.toDigits 16 b.toNat).map Char.toUpper
  if digits.length < 2 then '0' :: digits else digits

/-- A byte list between quotes; bytes of a fault are written by their hexadecimal digits. -/
def quoteBytes (bytes : List UInt8) : String :=
  let written : Utf8.Piece -> List Char
    | .char c => quoteChar c
    | .fault stray => stray.flatMap (fun b => ['\\', 'x'] ++ hexByte b)
  String.ofList (['"'] ++ (Utf8.pieces bytes).flatMap written ++ ['"'])

end Text
end DeckTools
