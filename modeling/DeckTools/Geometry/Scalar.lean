import DeckTools.Decimal.Notation
import DeckTools.Json.Value

/-!
# Scalars

Geometry is written once over a type of scalars.  Doubles are what the services
exchange; any other number type with these operations, exact ones included, can
take their place.
-/

namespace DeckTools

/-- The operations that geometry and its checks use. -/
class Scalar (α : Type) extends Add α, Mul α, Div α where
  /-- A whole number. -/
  ofInt : Int -> α
  /-- The distance from zero. -/
  abs : α -> α
  /-- Strictly less. -/
  lt : α -> α -> Bool
  /-- Less or equal. -/
  le : α -> α -> Bool
  /-- Whether the scalar is a number of finite size. -/
  isFinite : α -> Bool
  /-- The distance from 1 to the next larger double, `2 ^ -52`. -/
  epsilon : α
  /-- The nearest natural number, a half going up, at most `2 ^ 64 - 1`. -/
  toCount : α -> Nat
  /-- The text of the scalar in messages. -/
  text : α -> String
  /-- The scalar in a request. -/
  toJson : α -> Json

instance : Scalar Float where
  ofInt := Float.ofInt
  abs := Float.abs
  lt a b := a < b
  le a b := a ≤ b
  isFinite := Float.isFinite
  epsilon := Float.ofScientific 2220446049250313 true 31
  toCount x := x.round.toUInt64.toNat
  text := Decimal.display
  toJson := Json.ofFloat

end DeckTools
