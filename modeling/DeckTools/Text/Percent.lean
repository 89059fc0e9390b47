import DeckTools.Text.Quoted

/-!
# Percent encoding

A path segment keeps the unreserved characters and writes every other byte as a
percent sign and two upper-case hexadecimal digits.  A query string keeps a
slightly different set and writes a space as a plus sign.
-/

namespace DeckTools
namespace Text
namespace Percent

def escapeByte (b : UInt8) : List Char :=
  '%' :: hexByte b

/-- The bytes a path segment keeps: ASCII letters, digits, `-`, `_`, `.`, `~`. -/
def isUnreserved (b : UInt8) : Bool :=
  let c := Char.ofNat b.toNat
  c.isAlphanum || c == '-' || c == '_' || c == '.' || c == '~'

/-- The bytes a query string keeps: ASCII letters, digits, `*`, `-`, `.`, `_`. -/
def isFormSafe (b : UInt8) : Bool :=
  let c := Char.ofNat b.toNat
  c.isAlphanum || c == '*' || c == '-' || c == '.' || c == '_'

def segment (s : String) : String :=
  String.ofList <| (Utf8.encode s).flatMap fun b =>
    if isUnreserved b then [Char.ofNat b.toNat] else escapeByte b

def form (s : String) : String :=
  String.ofList <| (Utf8.encode s).flatMap fun b =>
    if isFormSafe b then [Char.ofNat b.toNat]
    else if b == 0x20 then ['+'] else escapeByte b

def query (pairs : List (String × String)) : String :=
  String.intercalate "&" (pairs.map (fun p => form p.1 ++ "=" ++ form p.2))

end Percent
end Text
end DeckTools
