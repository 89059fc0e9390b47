import DeckTools.Text.Ascii

/-!
# Base64

The standard alphabet in its strict form: padding is required, and the bits of
the last group that no byte uses are zero.  So every byte list has exactly one
accepted spelling.
-/

namespace DeckTools
namespace Text
namespace Base64

def symbol (n : Nat) : Char :=
  if n < 26 then Char.ofNat ('A'.toNat + n)
  else if n < 52 then Char.ofNat ('a'.toNat + (n - 26))
  else if n < 62 then Char.ofNat ('0'.toNat + (n - 52))
  else if n == 62 then '+' else '/'

def value? (c : Char) : Option Nat :=
  if 'A' ≤ c && c ≤ 'Z' then some (c.toNat - 'A'.toNat)
  else if 'a' ≤ c && c ≤ 'z' then some (c.toNat - 'a'.toNat + 26)
  else if '0' ≤ c && c ≤ '9' then some (c.toNat - '0'.toNat + 52)
  else if c == '+' then some 62
  else if c == '/' then some 63
  else none

def encodeGroup (a b c : Nat) : List Char :=
  [symbol (a / 4), symbol (a % 4 * 16 + b / 16), symbol (b % 16 * 4 + c / 64), symbol (c % 64)]

def encodeChars : List UInt8 -> List Char
  | a :: b :: c :: rest => encodeGroup a.toNat b.toNat c.toNat ++ encodeChars rest
  | [a, b] => (encodeGroup a.toNat b.toNat 0).take 3 ++ ['=']
  | [a] => (encodeGroup a.toNat 0 0).take 2 ++ ['=', '=']
  | [] => []

def encode (bytes : List UInt8) : String :=
  String.ofList (encodeChars bytes)

def decodeChars? : List Char -> Option (List UInt8)
  | [] => some []
  | [w, x, '=', '='] => do
      let a <- value? w
      let b <- value? x
      if b % 16 == 0 then some [UInt8.ofNat (a * 4 + b / 16)] else none
  | [w, x, y, '='] => do
      let a <- value? w
      let b <- value? x
      let c <- value? y
      if c % 4 == 0 then
        some [UInt8.ofNat (a * 4 + b / 16), UInt8.ofNat (b % 16 * 16 + c / 4)]
      else none
  | w :: x :: y :: z :: rest => do
      let a <- value? w
      let b <- value? x
      let c <- value? y
      let d <- value? z
      let bytes <- decodeChars? rest
      some (UInt8.ofNat (a * 4 + b / 16) :: UInt8.ofNat (b % 16 * 16 + c / 4) ::
        UInt8.ofNat (c % 4 * 64 + d) :: bytes)
  | _ => none

def decode? (s : String) : Option (List UInt8) :=
  decodeChars? s.toList

/-! ## Texts that are no spelling -/

/-- Why a text is no spelling.  Offsets count the bytes of the text. -/
inductive Fault where
  | symbol (byte : UInt8) (offset : Nat)
  | lastSymbol (byte : UInt8) (offset : Nat)
  | length (count : Nat)
  | padding
  deriving DecidableEq

def Fault.message : Fault -> String
  | .symbol byte offset =>
      "Invalid symbol " ++ natText byte.toNat ++ ", offset " ++ natText offset ++ "."
  | .lastSymbol byte offset =>
      "Invalid last symbol " ++ natText byte.toNat ++ ", offset " ++ natText offset ++ "."
  | .length count => "Invalid input length: " ++ natText count
  | .padding => "Invalid padding"

def isSymbol (byte : UInt8) : Bool :=
  (value? (Char.ofNat byte.toNat)).isSome

def isPad (byte : UInt8) : Bool :=
  byte.toNat == '='.toNat

def firstStray? (offset : Nat) : List UInt8 -> Option Fault
  | [] => none
  | byte :: rest =>
      if isSymbol byte then firstStray? (offset + 1) rest else some (.symbol byte offset)

/--
Why the last group, of one to four bytes, stands for no bytes.  Padding is a stray byte unless
it follows two symbols at least and nothing but padding follows it.
-/
def groupFault (offset : Nat) (group : List UInt8) : Fault :=
  let symbols := group.takeWhile isSymbol
  match group.dropWhile isSymbol with
  | [] => if symbols.length < 2 then .length (offset + symbols.length) else .padding
  | stray :: rest =>
      if isPad stray && 2 ≤ symbols.length && rest.all isPad then
        if group.length == 4 then
          .lastSymbol (symbols.getLastD 0) (offset + symbols.length - 1)
        else .padding
      else .symbol stray (offset + symbols.length)

/-- Why bytes that are not empty are no spelling.  A single byte over is looked at first. -/
def fault (bytes : List UInt8) : Fault :=
  let last := bytes.getLastD 0
  let whole := (bytes.length - 1) / 4 * 4
  if bytes.length % 4 == 1 && !isSymbol last && !isPad last then
    .symbol last (bytes.length - 1)
  else
    (firstStray? 0 (bytes.take whole)).getD (groupFault whole (bytes.drop whole))

end Base64
end Text
end DeckTools
