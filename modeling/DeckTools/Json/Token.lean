import DeckTools.Json.Numeral

/-!
# Tokens of JSON text

One pass over the characters cuts a text into punctuation, texts and the other
scalars.  A text may not hold a raw control character.  A text with an escaped
surrogate that is no half of a pair, and a number beyond the doubles, are tokens
without a reading.
-/

namespace DeckTools
namespace Json

inductive Token where
  | openObject
  | closeObject
  | openArray
  | closeArray
  | colon
  | comma
  | text (content : Option String)
  | scalar (value : Json)

namespace Token

/-- What the characters read so far are part of; what was read stands last first. -/
inductive Reading where
  | between
  | word (soFar : List Char)
  | text (soFar : List Nat)
  | escape (soFar : List Nat)
  | code (soFar : List Nat) (missing value : Nat)

def hexValue? (c : Char) : Option Nat :=
  if c.isDigit then some (c.toNat - '0'.toNat)
  else if 'a' ≤ c && c ≤ 'f' then some (c.toNat - 'a'.toNat + 10)
  else if 'A' ≤ c && c ≤ 'F' then some (c.toNat - 'A'.toNat + 10)
  else none

def escaped? (c : Char) : Option Char :=
  if c == '"' || c == '\\' || c == '/' then some c
  else if c == 'b' then some '\x08'
  else if c == 'f' then some '\x0c'
  else if c == 'n' then some '\n'
  else if c == 'r' then some '\r'
  else if c == 't' then some '\t'
  else none

def isHighHalf (code : Nat) : Bool :=
  0xD800 ≤ code && code ≤ 0xDBFF

def isLowHalf (code : Nat) : Bool :=
  0xDC00 ≤ code && code ≤ 0xDFFF

def joined (high low : Nat) : Char :=
  Char.ofNat (0x10000 + (high - 0xD800) * 0x400 + (low - 0xDC00))

/--
The characters of codes that stand last first, put before the given ones.  A half
of a pair without the other half is no character.
-/
def spell? (after : List Char) : List Nat -> Option (List Char)
  | [] => some after
  | [code] =>
      if isHighHalf code || isLowHalf code then none else some (Char.ofNat code :: after)
  | code :: before :: rest =>
      if isLowHalf code && isHighHalf before then spell? (joined before code :: after) rest
      else if isHighHalf code || isLowHalf code then none
      else spell? (Char.ofNat code :: after) (before :: rest)

def ofCodes (codes : List Nat) : Token :=
  .text ((spell? [] codes).map String.ofList)

def ofWord? (cs : List Char) : Option Token :=
  if cs == ['t', 'r', 'u', 'e'] then some (.scalar (.bool true))
  else if cs == ['f', 'a', 'l', 's', 'e'] then some (.scalar (.bool false))
  else if cs == ['n', 'u', 'l', 'l'] then some (.scalar .null)
  else (Numeral.ofChars? cs).map (fun n => .scalar (n.value?.getD .unreadable))

def punctuation? (c : Char) : Option Token :=
  if c == '\x7b' then some .openObject
  else if c == '\x7d' then some .closeObject
  else if c == '[' then some .openArray
  else if c == ']' then some .closeArray
  else if c == ':' then some .colon
  else if c == ',' then some .comma
  else none

def isSpace (c : Char) : Bool :=
  c == ' ' || c == '\n' || c == '\t' || c == '\r'

def isWordChar (c : Char) : Bool :=
  c.isAlphanum || c == '+' || c == '-' || c == '.'

def start? (c : Char) (found : List Token) : Option (Reading × List Token) :=
  if isSpace c then some (.between, found)
  else if c == '"' then some (.text [], found)
  else if isWordChar c then some (.word [c], found)
  else (punctuation? c).map (fun token => (.between, token :: found))

def step? (reading : Reading) (c : Char) (found : List Token) :
    Option (Reading × List Token) :=
  match reading with
  | .between => start? c found
  | .word soFar =>
      if isWordChar c then some (.word (c :: soFar), found)
      else (ofWord? soFar.reverse).bind (fun token => start? c (token :: found))
  | .text soFar =>
      if c == '"' then some (.between, ofCodes soFar :: found)
      else if c == '\\' then some (.escape soFar, found)
      else if c.toNat < 0x20 then none
      else some (.text (c.toNat :: soFar), found)
  | .escape soFar =>
      if c == 'u' then some (.code soFar 4 0, found)
      else (escaped? c).map (fun e => (.text (e.toNat :: soFar), found))
  | .code soFar missing value =>
      (hexValue? c).map fun digit =>
        let next := value * 16 + digit
        if missing ≤ 1 then (.text (next :: soFar), found)
        else (.code soFar (missing - 1) next, found)

def collect? : Reading -> List Token -> List Char -> Option (List Token)
  | .between, found, [] => some found.reverse
  | .word soFar, found, [] =>
      (ofWord? soFar.reverse).map (fun token => (token :: found).reverse)
  | _, _, [] => none
  | reading, found, c :: rest =>
      match step? reading c found with
      | some (next, found) => collect? next found rest
      | none => none

def ofChars? (cs : List Char) : Option (List Token) :=
  collect? .between [] cs

end Token
end Json
end DeckTools
