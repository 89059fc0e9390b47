import DeckTools.Geometry.Scalar

/-!
# Points and EMU

Callers give lengths in points, 72 to the inch.  Documents measure in EMU, of
which a point has 12700.
-/

namespace DeckTools

variable {α : Type} [Scalar α]

def emuPerPoint : α :=
  Scalar.ofInt 12700

def emuOfPoints (points : α) : α :=
  points * emuPerPoint

def pointsOfEmu (emu : α) : α :=
  emu / emuPerPoint

inductive LengthUnit where
  | emu
  | point
  | unspecified
  deriving DecidableEq, Inhabited

structure Length (α : Type) where
  magnitude : α
  unit : LengthUnit
  deriving DecidableEq

namespace Length

def ofEmu (magnitude : α) : Length α :=
  { magnitude, unit := .emu }

/-- A length in EMU; one without unit is taken to be in EMU. -/
def emu (length : Length α) : α :=
  match length.unit with
  | .point => emuOfPoints length.magnitude
  | .emu => length.magnitude
  | .unspecified => length.magnitude

end Length

end DeckTools
