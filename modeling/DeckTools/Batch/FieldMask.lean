import DeckTools.Json.Value
import DeckTools.Text.Occurrence

/-!
# Field masks

A partial update lists the paths it changes and sends an object with their new
values.  A path that is listed without a value is reset.  Steps are kept in the
order they were made, and the values are placed in that order, so a later value
of a path overrides an earlier one.
-/

namespace DeckTools

/-- The steps of a partial update: paths, each with its new value or none. -/
structure FieldMask where
  entries : List (String × Option Json)

namespace FieldMask

def empty : FieldMask :=
  { entries := [] }

def set (mask : FieldMask) (path : String) (value : Json) : FieldMask :=
  { entries := mask.entries ++ [(path, some value)] }

def clear (mask : FieldMask) (path : String) : FieldMask :=
  { entries := mask.entries ++ [(path, none)] }

def isEmpty (mask : FieldMask) : Bool :=
  mask.entries.isEmpty

def paths (mask : FieldMask) : String :=
  String.intercalate "," (mask.entries.map Prod.fst)

def segments (path : String) : List String :=
  (Text.words (fun c => c != '.') path.toList).map String.ofList

/-- Put a value under nested keys; what is no object on the way becomes one. -/
def place : List String -> Json -> Json -> Json
  | [], value, _ => value
  | key :: rest, value, current =>
      let members := match current with
        | .obj members => members
        | _ => []
      let child := (Keyed.find? key members).getD (.obj [])
      .obj (Keyed.insert key (place rest value child) members)

def placeEntry (root : Json) (entry : String × Option Json) : Json :=
  match entry.2 with
  | some value => place (segments entry.1) value root
  | none => root

def values (mask : FieldMask) : Json :=
  mask.entries.foldl placeEntry (.obj [])

end FieldMask

end DeckTools
