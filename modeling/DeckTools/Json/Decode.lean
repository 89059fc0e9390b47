import DeckTools.Decimal.Notation
import DeckTools.Json.Value
import DeckTools.Text.Ascii
import DeckTools.Text.Quoted

/-!
# Decoding JSON values

A decoder reads a value of some type out of JSON or says why it cannot.  Records
are read from objects and from arrays.  In an object the members present are read
in their order and the first fault wins; fields that are required and missing are
reported after that, in the order of declaration.  Members of other names are
ignored, whether they have a reading or not.  In an array the fields stand in the
order of declaration.
-/

namespace DeckTools

/-! ## Faults -/

inductive Found where
  | null
  | bool (b : Bool)
  | int (n : Int)
  | float (x : Float)
  | text (s : String)
  | sequence
  | map
  | unreadable

inductive DecodeError where
  | missingField (name : String)
  | duplicateField (name : String)
  | wrongType (found : Found) (expected : String)
  | wrongValue (found : Found) (expected : String)
  | wrongLength (length : Nat) (expected : String)
  | unknownVariant (name : String) (variants : List String)

/--
How a reader of JSON words what is wrong with a text: it is no JSON, or its value cannot be
decoded.  The words tell where in the text the fault is.
-/
abbrev JsonWords : Type := Option DecodeError -> String -> String

def Json.found : Json -> Found
  | .null => .null
  | .bool b => .bool b
  | .int n => .int n
  | .float x => .float x
  | .str s => .text s
  | .arr _ => .sequence
  | .obj _ => .map
  | .unreadable => .unreadable

def Found.describe : Found -> String
  | .null => "null"
  | .bool true => "boolean `true`"
  | .bool false => "boolean `false`"
  | .int n => "integer `" ++ Text.intText n ++ "`"
  | .float x => "floating point `" ++ Decimal.jsonText x ++ "`"
  | .text s => "string " ++ Text.quote s
  | .sequence => "sequence"
  | .map => "map"
  | .unreadable => "unreadable value"

namespace DecodeError

def choices (variants : List String) : String :=
  match variants.map (fun name => "`" ++ name ++ "`") with
  | [a] => a
  | [a, b] => a ++ " or " ++ b
  | names => "one of " ++ String.intercalate ", " names

def message : DecodeError -> String
  | missingField name => "missing field `" ++ name ++ "`"
  | duplicateField name => "duplicate field `" ++ name ++ "`"
  | wrongType found expected =>
      "invalid type: " ++ found.describe ++ ", expected " ++ expected
  | wrongValue found expected =>
      "invalid value: " ++ found.describe ++ ", expected " ++ expected
  | wrongLength length expected =>
      "invalid length " ++ Text.natText length ++ ", expected " ++ expected
  | unknownVariant name variants =>
      "unknown variant `" ++ name ++ "`, expected " ++ choices variants

end DecodeError

/-! ## Decoders -/

abbrev Decoder (α : Type) : Type := Json -> Except DecodeError α

namespace Decoder

def refuse {α : Type} (expected : String) (value : Json) : Except DecodeError α :=
  .error (.wrongType value.found expected)

def text : Decoder String
  | .str s => .ok s
  | value => refuse "a string" value

def boolean : Decoder Bool
  | .bool b => .ok b
  | value => refuse "a boolean" value

def double : Decoder Float
  | .float x => .ok x
  | .int n => .ok (Float.ofInt n)
  | value => refuse "f64" value

def unsigned (name : String) (bits : Nat) : Decoder Nat
  | .int n =>
      if 0 ≤ n && n < Nat.pow 2 bits then .ok n.toNat
      else .error (.wrongValue (.int n) name)
  | value => refuse name value

def unsigned32 : Decoder Nat := unsigned "u32" 32

def unsigned64 : Decoder Nat := unsigned "u64" 64

def size : Decoder Nat := unsigned "usize" 64

def signed64 : Decoder Int
  | .int n =>
      if -Int.ofNat (Nat.pow 2 63) ≤ n && n < Nat.pow 2 63 then .ok n
      else .error (.wrongValue (.int n) "i64")
  | value => refuse "i64" value

/-- Any value that has a reading throughout, in canonical form. -/
def any : Decoder Json :=
  fun value => if value.isReadable then .ok value.canonical else refuse "any value" value

def nullable {α : Type} (decode : Decoder α) : Decoder (Option α)
  | .null => .ok none
  | value => (decode value).map some

def list {α : Type} (decode : Decoder α) : Decoder (List α)
  | .arr items => items.mapM decode
  | value => refuse "a sequence" value

def variantNamed {α : Type} (variants : List (String × α)) (other : Option α)
    (name : String) : Except DecodeError α :=
  match Keyed.find? name variants, other with
  | some a, _ => .ok a
  | none, some a => .ok a
  | none, none => .error (.unknownVariant name (variants.map Prod.fst))

/--
One of several names, written as a text or as the key of an object whose only
member is null.  Unknown names stand for `other`, if there is one.
-/
def variant {α : Type} (variants : List (String × α)) (other : Option α) : Decoder α
  | .str name => variantNamed variants other name
  | .obj [(name, value)] => do
      let a <- variantNamed variants other name
      match value with
      | .null => .ok a
      | value => refuse "unit" value
  | .obj _ => .error (.wrongValue .map "map with a single key")
  | value => refuse "string or map" value

end Decoder

/-! ## Records -/

/-- Why an array is not a record: it ends too early, or an item is at fault. -/
inductive ItemFault where
  | absent (index : Nat)
  | item (fault : DecodeError)

/--
A reader of some fields of a record.  A fault in an object comes with the position
of the member it is about, which is past the end for a missing one.
-/
structure Fields (α : Type) where
  count : Nat
  ofMembers : List (String × Json) -> Except (Nat × DecodeError) α
  ofItems : Nat -> List Json -> Except ItemFault (α × List Json)

namespace Fields

def occurrences (name : String) (members : List (String × Json)) : List (Nat × Json) :=
  members.zipIdx.filterMap (fun m => if m.1.1 == name then some (m.2, m.1.2) else none)

/-- Of two faults the one at the earlier member, or else the one declared first. -/
def earlier (a b : Nat × DecodeError) : Nat × DecodeError :=
  if b.1 < a.1 then b else a

def given {α : Type} (a : α) : Fields α where
  count := 0
  ofMembers _ := .ok a
  ofItems _ items := .ok (a, items)

def and {α β : Type} (f : Fields (α -> β)) (x : Fields α) : Fields β where
  count := f.count + x.count
  ofMembers members :=
    match f.ofMembers members, x.ofMembers members with
    | .ok g, .ok a => .ok (g a)
    | .error e, .ok _ => .error e
    | .ok _, .error e => .error e
    | .error e, .error e' => .error (earlier e e')
  ofItems index items := do
    let (g, items) <- f.ofItems index items
    let (a, items) <- x.ofItems (index + f.count) items
    .ok (g a, items)

instance : Applicative Fields where
  pure := given
  seq f x := f.and (x ())

/-- A field that stands for `absent` in an object that lacks it, if that is given. -/
def field {α : Type} (name : String) (decode : Decoder α) (absent inArray : Option α) :
    Fields α where
  count := 1
  ofMembers members :=
    match occurrences name members with
    | [] =>
        match absent with
        | some a => .ok a
        | none => .error (members.length, .missingField name)
    | (position, value) :: others =>
        match decode value, others with
        | .error e, _ => .error (position, e)
        | .ok a, [] => .ok a
        | .ok _, (again, _) :: _ => .error (again, .duplicateField name)
  ofItems index items :=
    match items, inArray with
    | value :: rest, _ =>
        match decode value with
        | .ok a => .ok (a, rest)
        | .error e => .error (.item e)
    | [], some a => .ok (a, [])
    | [], none => .error (.absent index)

def required {α : Type} (name : String) (decode : Decoder α) : Fields α :=
  field name decode none none

def withDefault {α : Type} (name : String) (decode : Decoder α) (default : α) : Fields α :=
  field name decode (some default) (some default)

def optional {α : Type} (name : String) (decode : Decoder α) : Fields (Option α) :=
  withDefault name (Decoder.nullable decode) none

/-- A field that may be missing or null in an object, and null in an array. -/
def nullable {α : Type} (name : String) (decode : Decoder α) : Fields (Option α) :=
  field name (Decoder.nullable decode) (some none) none

end Fields

def elementCount (n : Nat) : String :=
  if n == 1 then "1 element" else Text.natText n ++ " elements"

def Decoder.record {α : Type} (name : String) (fields : Fields α) : Decoder α
  | .obj members =>
      match fields.ofMembers members with
      | .ok a => .ok a
      | .error (_, e) => .error e
  | .arr items =>
      match fields.ofItems 0 items with
      | .ok (a, []) => .ok a
      | .ok (_, _) => .error (.wrongLength items.length "fewer elements in array")
      | .error (.item e) => .error e
      | .error (.absent index) =>
          .error (.wrongLength index
            ("struct " ++ name ++ " with " ++ elementCount fields.count))
  | value => Decoder.refuse ("struct " ++ name) value

end DeckTools
