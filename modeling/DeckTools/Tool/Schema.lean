import DeckTools.Json.Value

/-!
# Parameter schemas

Schemas describe parameters to callers.  They are JSON values of a few shapes.
-/

namespace DeckTools
namespace Schema

def typed (type : String) (constraints : List (String × Json)) : Json :=
  Json.object (("type", .str type) :: constraints)

def text : Json :=
  typed "string" []

def textAbout (description : String) : Json :=
  typed "string" [("description", .str description)]

def textUpTo (length : Nat) : Json :=
  typed "string" [("maxLength", .ofNat length)]

def number : Json :=
  typed "number" []

def numberFrom (minimum : Int) : Json :=
  typed "number" [("minimum", .int minimum)]

def positive : Json :=
  typed "number" [("exclusiveMinimum", .int 0)]

def numberBetween (minimum maximum : Int) : Json :=
  typed "number" [("minimum", .int minimum), ("maximum", .int maximum)]

def count : Json :=
  typed "integer" [("minimum", .int 1)]

def flag (default : Bool) : Json :=
  typed "boolean" [("default", .bool default)]

def properties (members : List (String × Json)) : Json :=
  typed "object" [("properties", Json.object members)]

def record (members : List (String × Json)) (required : List String) : Json :=
  typed "object" [("properties", Json.object members), ("required", Json.strings required)]

end Schema
end DeckTools
