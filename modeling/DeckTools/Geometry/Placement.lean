import DeckTools.Geometry.Length

/-!
# Sizes and transforms

An element has an intrinsic size, either axis of which may be missing, and an
affine transform that puts it on its page.  What shows on the page is the
intrinsic size times the scale of the transform.
-/

namespace DeckTools

variable {α : Type} [Scalar α]

structure Size (α : Type) where
  width : Option (Length α)
  height : Option (Length α)
  deriving DecidableEq

namespace Size

/-- Width and height in EMU, a missing axis counting as zero. -/
def emu (size : Size α) : α × α :=
  let axis (length : Option (Length α)) : α :=
    match length with
    | some l => l.emu
    | none => Scalar.ofInt 0
  (axis size.width, axis size.height)

end Size

/-- Scale, shear and translation; the unit is that of the translation. -/
structure Transform (α : Type) where
  scaleX : α
  scaleY : α
  shearX : α
  shearY : α
  translateX : α
  translateY : α
  unit : LengthUnit
  deriving DecidableEq

namespace Transform

def identity : Transform α :=
  { scaleX := Scalar.ofInt 1
    scaleY := Scalar.ofInt 1
    shearX := Scalar.ofInt 0
    shearY := Scalar.ofInt 0
    translateX := Scalar.ofInt 0
    translateY := Scalar.ofInt 0
    unit := .emu }

def moveTo (transform : Transform α) (x y : α) : Transform α :=
  { transform with translateX := x, translateY := y }

def translation (x y : α) : Transform α :=
  identity.moveTo x y

def inEmu (transform : Transform α) : Transform α :=
  match transform.unit with
  | .point =>
      { transform with
        translateX := emuOfPoints transform.translateX
        translateY := emuOfPoints transform.translateY
        unit := .emu }
  | .emu => { transform with unit := .emu }
  | .unspecified => { transform with unit := .emu }

def stretch (transform : Transform α) (factorX factorY : α) : Transform α :=
  { transform with
    scaleX := transform.scaleX * factorX
    shearX := transform.shearX * factorX
    scaleY := transform.scaleY * factorY
    shearY := transform.shearY * factorY }

end Transform

def renderedSize (size : Option (Size α)) (transform : Option (Transform α)) :
    Option (α × α) :=
  size.map fun s =>
    let t := transform.getD Transform.identity
    (s.emu.1 * Scalar.abs t.scaleX, s.emu.2 * Scalar.abs t.scaleY)

end DeckTools
