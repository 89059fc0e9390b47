import DeckTools.Geometry.Scalar

/-!
# Changes to images and videos

Callers ask for changes, and changes that pass their checks become an edit.  Every field is
optional, and a field that is not given leaves the element as it is.
-/

namespace DeckTools

variable {α : Type}

structure Position (α : Type) where
  x : α
  y : α

/-- The size an element is to have, in points; either axis may be left open. -/
structure TargetSize (α : Type) where
  width : Option α
  height : Option α

def TargetSize.isEmpty (size : TargetSize α) : Bool :=
  size.width.isNone && size.height.isNone

/-- How much of each edge of an image is cut off, as a fraction. -/
structure Crop (α : Type) where
  left : Option α
  right : Option α
  top : Option α
  bottom : Option α

namespace Crop

def isEmpty (crop : Crop α) : Bool :=
  crop.left.isNone && crop.right.isNone && crop.top.isNone && crop.bottom.isNone

end Crop

inductive Recolor where
  | clear
  | preset (name : String)
  deriving DecidableEq

structure ImageChanges (α : Type) where
  position : Option (Position α)
  size : Option (TargetSize α)
  brightness : Option α
  contrast : Option α
  transparency : Option α
  crop : Option (Crop α)
  recolor : Option String

structure ImageEdit (α : Type) where
  position : Option (Position α)
  size : Option (TargetSize α)
  brightness : Option α
  contrast : Option α
  transparency : Option α
  crop : Option (Crop α)
  recolor : Option Recolor

namespace ImageEdit

def changesTransform (edit : ImageEdit α) : Bool :=
  edit.position.isSome || edit.size.isSome

def changesProperties (edit : ImageEdit α) : Bool :=
  edit.brightness.isSome || edit.contrast.isSome || edit.transparency.isSome ||
    edit.crop.isSome || edit.recolor.isSome

end ImageEdit

/-- Changes to a video as a caller asks for them, times in seconds. -/
structure VideoChanges (α : Type) where
  position : Option (Position α)
  size : Option (TargetSize α)
  startTime : Option α
  endTime : Option α
  autoplay : Option Bool
  mute : Option Bool

/-- What is changed on a video, times in milliseconds. -/
structure VideoEdit (α : Type) where
  position : Option (Position α)
  size : Option (TargetSize α)
  start : Option Nat
  stop : Option Nat
  autoplay : Option Bool
  mute : Option Bool

namespace VideoEdit

def changesTransform (edit : VideoEdit α) : Bool :=
  edit.position.isSome || edit.size.isSome

def changesProperties (edit : VideoEdit α) : Bool :=
  edit.start.isSome || edit.stop.isSome || edit.autoplay.isSome || edit.mute.isSome

end VideoEdit

end DeckTools
