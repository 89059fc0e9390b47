import DeckTools.Decimal.Binary

/-!
# Shortest decimals

Every positive double owns the interval of reals that round to it; the ends
belong to it when its significand is even.  Among the powers of ten, the
coarsest grid with a point in that interval gives the fewest digits that read
back as the same double.  At most two points of that grid matter, the
neighbours of the value itself, and the nearer one is chosen.
-/

namespace DeckTools
namespace Decimal

structure Digits where
  digits : Nat
  exponent : Int
  deriving DecidableEq

inductive Tie where
  | upper
  | even
  deriving DecidableEq

/--
The value and its interval in quarters of the last binary place, with the two
factors that bring these quarters and a grid of powers of ten to one unit.
-/
structure Interval where
  value : Nat
  low : Nat
  high : Nat
  closed : Bool
  quarter : Nat
  grid : Nat

def Interval.of (significand : Nat) (exponent place : Int) : Interval :=
  let quarterExponent := exponent - 2
  let below := if significand == Nat.pow 2 52 && exponent != -1074 then 1 else 2
  { value := 4 * significand
    low := 4 * significand - below
    high := 4 * significand + 2
    closed := significand % 2 == 0
    quarter := Nat.pow 2 quarterExponent.toNat * Nat.pow 10 (-place).toNat
    grid := Nat.pow 10 place.toNat * Nat.pow 2 (-quarterExponent).toNat }

namespace Interval

def holds (i : Interval) (point : Nat) : Bool :=
  if i.closed then
    i.low * i.quarter ≤ point * i.grid && point * i.grid ≤ i.high * i.quarter
  else
    i.low * i.quarter < point * i.grid && point * i.grid < i.high * i.quarter

def floor (i : Interval) : Nat :=
  i.value * i.quarter / i.grid

def pick? (tie : Tie) (i : Interval) : Option Nat :=
  let below := i.floor
  let above := below + 1
  match i.holds below, i.holds above with
  | false, false => none
  | true, false => some below
  | false, true => some above
  | true, true =>
      let fromBelow := i.value * i.quarter - below * i.grid
      let fromAbove := above * i.grid - i.value * i.quarter
      if fromBelow < fromAbove then some below
      else if fromAbove < fromBelow then some above
      else
        match tie with
        | .upper => some above
        | .even => if below % 2 == 0 then some below else some above

end Interval

/-- Try grids from `10 ^ place` on, each ten times finer than the one before. -/
def refine (tie : Tie) (significand : Nat) (exponent : Int) : Nat -> Int -> Digits
  | 0, place => { digits := (Interval.of significand exponent place).floor, exponent := place }
  | tries + 1, place =>
      match (Interval.of significand exponent place).pick? tie with
      | some point => { digits := point, exponent := place }
      | none => refine tie significand exponent tries (place - 1)

/-- A power of ten that is no less than `significand * 2 ^ exponent`. -/
def topPlace (significand : Nat) (exponent : Int) : Int :=
  ((Nat.log2 significand : Int) + 1 + exponent) * 30103 / 100000 + 2

/-- The fewest digits that read back as the double `significand * 2 ^ exponent`. -/
def shortest (tie : Tie) (significand : Nat) (exponent : Int) : Digits :=
  if significand == 0 then { digits := 0, exponent := 0 }
  else refine tie significand exponent 24 (topPlace significand exponent)

end Decimal
end DeckTools
