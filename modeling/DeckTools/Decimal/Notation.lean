import DeckTools.Decimal.Shortest

/-!
# Decimal notations

The positional notation never uses an exponent and writes whole numbers without
a point; messages about amounts use it.  The JSON notation keeps a point in whole
numbers and turns to an exponent, always signed, outside a middle range; printed
JSON uses it, and so do messages about JSON that does not decode.
-/

namespace DeckTools
namespace Decimal

def digitChars (n : Nat) : List Char :=
  Nat.toDigits 10 n

def withPoint (ds : List Char) (places : Nat) : List Char :=
  let whole := ds.length - places
  if places == 0 then ds
  else if ds.length ≤ places then
    ['0', '.'] ++ List.replicate (places - ds.length) '0' ++ ds
  else ds.take whole ++ ['.'] ++ ds.drop whole

def positional (d : Digits) : List Char :=
  let ds := digitChars d.digits
  if 0 ≤ d.exponent then
    if d.digits == 0 then ['0'] else ds ++ List.replicate d.exponent.toNat '0'
  else withPoint ds (-d.exponent).toNat

def signed (negative : Bool) (cs : List Char) : String :=
  String.ofList (if negative then '-' :: cs else cs)

/-- A double in positional notation, an exact tie going up. -/
def display (x : Float) : String :=
  match Value.ofFloat x with
  | .nan => "NaN"
  | .infinite negative => signed negative ['i', 'n', 'f']
  | .finite negative significand exponent =>
      signed negative (positional (shortest .upper significand exponent))

def exponentChars (e : Int) : List Char :=
  'e' :: (if e < 0 then '-' else '+') :: digitChars e.natAbs

/--
Digits in JSON notation.  With the point after the first digit at `10 ^ (top-1)`,
numbers with `-5 < top ≤ 16` are written in full and others by an exponent.
-/
def jsonDigits (d : Digits) : List Char :=
  let ds := digitChars d.digits
  let top : Int := ds.length + d.exponent
  if d.digits == 0 then ['0', '.', '0']
  else if 0 ≤ d.exponent && top ≤ 16 then positional d ++ ['.', '0']
  else if -5 < top && top ≤ 16 then positional d
  else
    match ds with
    | [] => []
    | [c] => c :: exponentChars (top - 1)
    | c :: rest => c :: '.' :: rest ++ exponentChars (top - 1)

/-- A finite double in JSON notation, an exact tie going to the even digit. -/
def jsonText (x : Float) : String :=
  match Value.ofFloat x with
  | .nan => "null"
  | .infinite _ => "null"
  | .finite negative significand exponent =>
      signed negative (jsonDigits (shortest .even significand exponent))

end Decimal
end DeckTools
