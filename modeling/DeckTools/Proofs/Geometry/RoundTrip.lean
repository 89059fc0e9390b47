import DeckTools.Proofs.Batch.FieldMask
import DeckTools.Proofs.Decimal.Reading
import DeckTools.Proofs.Geometry.Written
import DeckTools.Proofs.Tool.Addition

/-!
# Geometry that is read back from texts

A request goes out as text and a document comes in as text.  Sizes and transforms keep their
axes, names and units on that way.  A number becomes the double that its digits are read as,
which need not be the one that was written.
-/

namespace DeckTools

open Fields

/-! ## Geometry in texts -/

/-- What a text is decoded to, unless it is refused. -/
def Decoder.ofText? {α : Type} (decode : Decoder α) (text : String) : Option α :=
  (Json.read? text).bind (fun json => (decode json).toOption)

theorem Decoder.ofText?_compact {α : Type} {decode : Decoder α} {value : Json} {a : α}
    (h : value.depth ≤ Json.nestingLimit) :
    decode.ofText? value.compact = some a <-> decode value.reread = .ok a := by
  rw [ofText?, Json.read?_compact h, Option.bind_some]
  cases decode value.reread <;> simp [Except.toOption]

namespace Decimal

theorem readsAs_reread :
    ReadsAs (fun x : Float => (Scalar.toJson x).reread) Decoder.double IsNumber reread :=
  fun _ _ => double_reread_eq_ok

end Decimal

section Spelled

variable (write : Float -> Json) (name : String)

theorem Length.reread_written (length : Length Float) :
    (length.written write name).reread = length.written (fun x => (write x).reread) name :=
  Json.reread_object _

theorem Transform.reread_written (transform : Transform Float) :
    (transform.written write name).reread =
      transform.written (fun x => (write x).reread) name :=
  Json.reread_object _

theorem Size.reread_written (size : Size Float) :
    (size.written write).reread = size.written (fun x => (write x).reread) := by
  rw [written, Json.reread_object]
  rcases size with ⟨_ | width, _ | height⟩ <;>
    simp [written, Json.optional, Length.reread_written]

end Spelled

theorem Scalar.depth_toJson (x : Float) : (Scalar.toJson x).depth = 0 := by
  have hjson : Scalar.toJson x = if x.isFinite then Json.float x else .null := rfl
  rw [hjson]
  split <;> rfl

theorem Length.depth_written (length : Length Float) (name : String) :
    (length.written Scalar.toJson name).depth ≤ 1 := by
  apply Json.depth_object_le
  simp [Scalar.depth_toJson, Json.depth]

theorem Transform.depth_written (transform : Transform Float) (name : String) :
    (transform.written Scalar.toJson name).depth ≤ 1 := by
  apply Json.depth_object_le
  simp [Scalar.depth_toJson, Json.depth]

theorem Size.depth_toJson (size : Size Float) : size.toJson.depth ≤ 2 := by
  apply Json.depth_object_le
  have haxis : forall length : Length Float, length.toJson.depth ≤ 1 :=
    fun length => length.depth_written length.unit.name
  rcases size with ⟨_ | width, _ | height⟩ <;> simp [Json.optional, haxis]

theorem Size.ofText?_compact (size other : Size Float) :
    decodeSize.ofText? size.toJson.compact = some other <->
      size.All Decimal.IsNumber ∧ size.map Decimal.reread = other := by
  have hdepth : size.toJson.depth ≤ Json.nestingLimit := Nat.le_trans size.depth_toJson (by decide)
  have hjson : size.toJson = size.written Scalar.toJson := rfl
  rw [Decoder.ofText?_compact hdepth, hjson, Size.reread_written]
  exact Size.readsAs_written Decimal.readsAs_reread size other

theorem Transform.ofText?_written {name : String} {unit : LengthUnit}
    (hunit : decodeUnit (.str name) = .ok unit) (transform other : Transform Float) :
    decodeTransform.ofText? (transform.written Scalar.toJson name).compact = some other <->
      transform.All Decimal.IsNumber ∧ { transform.map Decimal.reread with unit } = other := by
  rw [Decoder.ofText?_compact (Nat.le_trans (transform.depth_written name) (by decide)),
    Transform.reread_written]
  exact Transform.decode_written Decimal.readsAs_reread hunit transform other

theorem Length.ofText?_written {name : String} {unit : LengthUnit}
    (hunit : decodeUnit (.str name) = .ok unit) (length other : Length Float) :
    decodeLength.ofText? (length.written Scalar.toJson name).compact = some other <->
      length.All Decimal.IsNumber ∧ { length.map Decimal.reread with unit } = other := by
  rw [Decoder.ofText?_compact (Nat.le_trans (length.depth_written name) (by decide)),
    Length.reread_written]
  exact Length.decode_written Decimal.readsAs_reread hunit length other

theorem Transform.ofText?_compact (transform other : Transform Float) :
    decodeTransform.ofText? transform.toJson.compact = some other <->
      transform.All Decimal.IsNumber ∧ transform.map Decimal.reread = other :=
  ofText?_written (decodeUnit_name transform.unit) transform other

theorem Length.ofText?_compact (length other : Length Float) :
    decodeLength.ofText? length.toJson.compact = some other <->
      length.All Decimal.IsNumber ∧ length.map Decimal.reread = other :=
  ofText?_written (decodeUnit_name length.unit) length other

/-! ## Unknown units -/

namespace Rehearsal

end Rehearsal

end DeckTools
