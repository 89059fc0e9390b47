import DeckTools.Text.Ascii

/-!
# Reading decimals

A decimal is an optional sign, digits, perhaps a point with more digits, and
perhaps an exponent; or it is the name of infinity or of what is no number.  The
double it stands for is the nearest one.
-/

namespace DeckTools
namespace Decimal

/-- Take a sign from the front; true stands for a minus. -/
def takeSign : List Char -> Bool × List Char
  | '-' :: rest => (true, rest)
  | '+' :: rest => (false, rest)
  | cs => (false, cs)

def exponentOf? : List Char -> Option Int
  | [] => some 0
  | 'e' :: rest =>
      let (negative, digits) := takeSign rest
      if digits.isEmpty || !digits.all Char.isDigit then none
      else
        let size := Int.ofNat (Text.digitsToNat digits)
        some (if negative then -size else size)
  | _ => none

def magnitude? (cs : List Char) : Option Float :=
  if cs == "nan".toList then some (0 / 0)
  else if cs == "inf".toList || cs == "infinity".toList then some (1 / 0)
  else
    let whole := cs.takeWhile Char.isDigit
    let rest := cs.dropWhile Char.isDigit
    let (fraction, rest) := match rest with
      | '.' :: more => (more.takeWhile Char.isDigit, more.dropWhile Char.isDigit)
      | rest => ([], rest)
    if whole.isEmpty && fraction.isEmpty then none
    else
      (exponentOf? rest).map fun exponent =>
        let scale := exponent - Int.ofNat fraction.length
        Float.ofScientific (Text.digitsToNat (whole ++ fraction)) (scale < 0) scale.natAbs

def ofText? (text : String) : Option Float :=
  let (negative, cs) := takeSign (text.toList.map Char.toLower)
  (magnitude? cs).map (fun x => if negative then -x else x)

end Decimal
end DeckTools
