import DeckTools.Json.Value
import DeckTools.Text.Ascii

/-!
# Numerals

A numeral without point and exponent is a whole number while it fits in 64 bits.
Any other numeral is a double, made in two rounding steps: the leading digits
that fit in 64 bits are converted, and the result is multiplied or divided by a
single power of ten.
-/

namespace DeckTools
namespace Json

def significandLimit : Nat := Nat.pow 2 64 - 1

/-- Append digits to a significand while they fit; also the digits left over. -/
def appendDigits (significand : Nat) : List Char -> Nat × List Char
  | [] => (significand, [])
  | d :: rest =>
      let next := significand * 10 + (d.toNat - '0'.toNat)
      if next ≤ significandLimit then appendDigits next rest
      else (significand, d :: rest)

def powerOfTen (n : Nat) : Float :=
  Float.ofScientific 1 false n

/-- `significand * 10 ^ exponent` in two rounding steps, unless it overflows. -/
def scaled? (significand : Nat) (exponent : Int) : Option Float :=
  let base := Float.ofNat significand
  if significand == 0 then some base
  else if 308 < exponent then none
  else if 0 ≤ exponent then
    let product := base * powerOfTen exponent.toNat
    if product.isFinite then some product else none
  else if -308 ≤ exponent then some (base / powerOfTen (-exponent).toNat)
  else if -616 ≤ exponent then
    some (base / powerOfTen 308 / powerOfTen (-exponent - 308).toNat)
  else some 0.0

structure Numeral where
  negative : Bool
  whole : List Char
  fraction : Option (List Char)
  exponent : Option (Bool × List Char)

namespace Numeral

def exponentOf? : List Char -> Option (Bool × List Char)
  | '-' :: ds => if !ds.isEmpty && ds.all Char.isDigit then some (true, ds) else none
  | '+' :: ds => if !ds.isEmpty && ds.all Char.isDigit then some (false, ds) else none
  | ds => if !ds.isEmpty && ds.all Char.isDigit then some (false, ds) else none

def ending? : List Char -> Option (Option (Bool × List Char))
  | [] => some none
  | c :: rest => if c == 'e' || c == 'E' then (exponentOf? rest).map some else none

def takeMinus : List Char -> Bool × List Char
  | '-' :: rest => (true, rest)
  | cs => (false, cs)

def takeFraction : List Char -> Option (List Char) × List Char
  | '.' :: rest => (some (rest.takeWhile Char.isDigit), rest.dropWhile Char.isDigit)
  | cs => (none, cs)

def ofChars? (cs : List Char) : Option Numeral :=
  let (negative, unsigned) := takeMinus cs
  let whole := unsigned.takeWhile Char.isDigit
  let (fraction, rest) := takeFraction (unsigned.dropWhile Char.isDigit)
  if whole.isEmpty || (whole.head? == some '0' && 1 < whole.length) then none
  else if fraction == some [] then none
  else (ending? rest).map (fun exponent => { negative, whole, fraction, exponent })

def value? (n : Numeral) : Option Json :=
  let (whole, unread) := appendDigits 0 n.whole
  let (significand, leftOver) := appendDigits whole (n.fraction.getD [])
  let read := (n.fraction.getD []).length - leftOver.length
  let shift : Int := match n.exponent with
    | some (true, ds) => -(Text.digitsToNat ds)
    | some (false, ds) => Text.digitsToNat ds
    | none => 0
  let isWhole := unread.isEmpty && n.fraction.isNone && n.exponent.isNone
  if isWhole && !n.negative then some (.int whole)
  else if isWhole && whole != 0 && whole ≤ Nat.pow 2 63 then some (.int (-(Int.ofNat whole)))
  else
    let exponent : Int := Int.ofNat unread.length - Int.ofNat read + shift
    (scaled? significand exponent).map (fun x => .float (if n.negative then -x else x))

end Numeral

end Json
end DeckTools
