import DeckTools.Geometry.Placement

/-!
# Factors that reach a target size

A resize gives a target for one axis or both.  The factors are relative to the
size an element shows now; with one target, both axes take its factor, so that
the aspect ratio stays.
-/

namespace DeckTools

variable {α : Type} [Scalar α]

inductive ResizeError where
  | noTarget
  | zeroWidth
  | zeroHeight
  deriving DecidableEq

namespace ResizeError

def message : ResizeError -> String
  | noTarget => "no target width or height given"
  | zeroWidth => "element has no measurable width"
  | zeroHeight => "element has no measurable height"

end ResizeError

/-- Whether an extent is large enough to divide by. -/
def isMeasurable (extent : α) : Bool :=
  Scalar.isFinite extent && Scalar.lt Scalar.epsilon (Scalar.abs extent)

def resizeFactors (width height : α) (targetWidth targetHeight : Option α) :
    Except ResizeError (α × α) :=
  if targetWidth.isNone && targetHeight.isNone then .error .noTarget
  else if targetWidth.isSome && !isMeasurable width then .error .zeroWidth
  else if targetHeight.isSome && !isMeasurable height then .error .zeroHeight
  else
    match targetWidth, targetHeight with
    | some w, some h => .ok (emuOfPoints w / width, emuOfPoints h / height)
    | some w, none => .ok (emuOfPoints w / width, emuOfPoints w / width)
    | none, some h => .ok (emuOfPoints h / height, emuOfPoints h / height)
    | none, none => .error .noTarget

end DeckTools
