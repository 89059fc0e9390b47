import DeckTools.Geometry.Placement

/-!
# Geometry in requests

Sizes and transforms are written with the member names that documents use.  A
missing axis of a size is left out.
-/

namespace DeckTools

variable {α : Type} [Scalar α]

def LengthUnit.name : LengthUnit -> String
  | .emu => "EMU"
  | .point => "PT"
  | .unspecified => "UNIT_UNSPECIFIED"

def Length.toJson (length : Length α) : Json :=
  Json.object
    [("magnitude", Scalar.toJson length.magnitude), ("unit", .str length.unit.name)]

def Size.toJson (size : Size α) : Json :=
  Json.object
    (Json.optional "width" Length.toJson size.width ++
      Json.optional "height" Length.toJson size.height)

def Transform.toJson (transform : Transform α) : Json :=
  Json.object
    [("scaleX", Scalar.toJson transform.scaleX),
      ("scaleY", Scalar.toJson transform.scaleY),
      ("shearX", Scalar.toJson transform.shearX),
      ("shearY", Scalar.toJson transform.shearY),
      ("translateX", Scalar.toJson transform.translateX),
      ("translateY", Scalar.toJson transform.translateY),
      ("unit", .str transform.unit.name)]

end DeckTools
