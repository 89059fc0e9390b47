import DeckTools.Geometry.Scalar
import DeckTools.Text.Ascii
import DeckTools.Text.Blank
import DeckTools.ToolError

/-!
# Slide transitions

A transition has one of nine types, named without regard to case, and may have a
duration of at most five seconds.
-/

namespace DeckTools

inductive Transition where
  | none
  | fade
  | slideFromRight
  | slideFromLeft
  | flip
  | cube
  | gallery
  | zoom
  | dissolve
  deriving DecidableEq

namespace Transition

def all : List Transition :=
  [.none, .fade, .slideFromRight, .slideFromLeft, .flip, .cube, .gallery, .zoom, .dissolve]

def name : Transition -> String
  | none => "NONE"
  | fade => "FADE"
  | slideFromRight => "SLIDE_FROM_RIGHT"
  | slideFromLeft => "SLIDE_FROM_LEFT"
  | flip => "FLIP"
  | cube => "CUBE"
  | gallery => "GALLERY"
  | zoom => "ZOOM"
  | dissolve => "DISSOLVE"

def ofText (raw : String) : Except ToolError Transition :=
  let wanted := Text.asciiUpper (Text.trim raw)
  match all.find? (fun transition => transition.name == wanted) with
  | some transition => .ok transition
  | Option.none =>
      failWith .invalidTransitionType
        ("'" ++ raw ++ "' is not one of " ++ String.intercalate ", " (all.map name))

end Transition

def maxTransitionSeconds : Int := 5

def checkTransitionDuration {α : Type} [Scalar α] (seconds : α) : Except ToolError Unit :=
  if !Scalar.isFinite seconds || Scalar.le seconds (Scalar.ofInt 0) ||
      Scalar.lt (Scalar.ofInt maxTransitionSeconds) seconds then
    failWith .invalidTransitionDuration
      ("duration must be greater than 0 and at most " ++
        Text.intText maxTransitionSeconds ++ " seconds, got " ++ Scalar.text seconds)
  else .ok ()

end DeckTools
