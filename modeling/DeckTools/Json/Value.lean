import DeckTools.Keyed

/-!
# JSON values

Whole numbers and doubles are kept apart: a number written with a point or an
exponent is a double.  The members of an object are a list, so that a text can
be read as it stands; a value is canonical when the members of each of its
objects are in key order, each key once.  A text may also hold a value that is
well formed and has no reading, such as a number beyond the doubles; it keeps its
place, so that what does not look at it can pass over it.
-/

namespace DeckTools

inductive Json where
  | null
  | bool (b : Bool)
  | int (n : Int)
  | float (x : Float)
  | str (s : String)
  | arr (items : List Json)
  | obj (members : List (String × Json))
  | unreadable
  deriving Inhabited

namespace Json

/-- A double as a JSON value; one that is not finite has no spelling. -/
def ofFloat (x : Float) : Json :=
  if x.isFinite then .float x else .null

def ofNat (n : Nat) : Json :=
  .int (Int.ofNat n)

def ofOption {α : Type} (write : α -> Json) : Option α -> Json
  | some a => write a
  | none => .null

def strings (texts : List String) : Json :=
  .arr (texts.map .str)

/-- The object with the given members, in key order. -/
def object (members : List (String × Json)) : Json :=
  .obj (Keyed.ofList members)

def optional {α : Type} (key : String) (write : α -> Json) (value : Option α) :
    List (String × Json) :=
  match value with
  | some a => [(key, write a)]
  | none => []

def isObject : Json -> Bool
  | .obj _ => true
  | _ => false

def get? (key : String) : Json -> Option Json
  | .obj members => Keyed.find? key members
  | _ => none

def str? : Json -> Option String
  | .str s => some s
  | _ => none

mutual

/-- The same value with members in key order, the last of equal keys kept. -/
def canonical : Json -> Json
  | .arr items => .arr (canonicalItems items)
  | .obj members => .obj (Keyed.ofList (canonicalMembers members))
  | .null => .null
  | .bool b => .bool b
  | .int n => .int n
  | .float x => .float x
  | .str s => .str s
  | .unreadable => .unreadable

def canonicalItems : List Json -> List Json
  | [] => []
  | item :: rest => canonical item :: canonicalItems rest

def canonicalMembers : List (String × Json) -> List (String × Json)
  | [] => []
  | (key, value) :: rest => (key, canonical value) :: canonicalMembers rest

end

mutual

def isReadable : Json -> Bool
  | .arr items => itemsAreReadable items
  | .obj members => membersAreReadable members
  | .unreadable => false
  | _ => true

def itemsAreReadable : List Json -> Bool
  | [] => true
  | item :: rest => isReadable item && itemsAreReadable rest

def membersAreReadable : List (String × Json) -> Bool
  | [] => true
  | (_, value) :: rest => isReadable value && membersAreReadable rest

end

mutual

def depth : Json -> Nat
  | .arr items => 1 + depthOfItems items
  | .obj members => 1 + depthOfMembers members
  | _ => 0

def depthOfItems : List Json -> Nat
  | [] => 0
  | item :: rest => max (depth item) (depthOfItems rest)

def depthOfMembers : List (String × Json) -> Nat
  | [] => 0
  | (_, value) :: rest => max (depth value) (depthOfMembers rest)

end

end Json
end DeckTools
