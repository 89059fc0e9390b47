import DeckTools.Batch.Request
import DeckTools.Deck.Decode
import DeckTools.Proofs.Json.Fields

/-!
# Geometry written and read

Requests write sizes and transforms under the names that documents have them under.  Each
number and unit is written, so no default comes in when it is read, and an axis that is
not written is read as missing.  How numbers are written is left open: whatever is read for
each of them is what is read for the whole.
-/

namespace DeckTools

open Fields

/-! ## The numbers of geometry -/

def Decimal.IsNumber (x : Float) : Prop :=
  x.isFinite = true

instance (x : Float) : Decidable (Decimal.IsNumber x) :=
  inferInstanceAs (Decidable (x.isFinite = true))

namespace Length

def map (f : Float -> Float) (length : Length Float) : Length Float :=
  { length with magnitude := f length.magnitude }

def All (P : Float -> Prop) (length : Length Float) : Prop :=
  P length.magnitude

/-- A length with a number written in some way, under some name of a unit. -/
def written (write : Float -> Json) (name : String) (length : Length Float) : Json :=
  Json.object [("magnitude", write length.magnitude), ("unit", .str name)]

end Length

namespace Size

def map (f : Float -> Float) (size : Size Float) : Size Float :=
  { width := size.width.map (Length.map f), height := size.height.map (Length.map f) }

structure All (P : Float -> Prop) (size : Size Float) : Prop where
  width : forall length, size.width = some length -> length.All P
  height : forall length, size.height = some length -> length.All P

def written (write : Float -> Json) (size : Size Float) : Json :=
  let axis (length : Length Float) : Json := length.written write length.unit.name
  Json.object (Json.optional "width" axis size.width ++ Json.optional "height" axis size.height)

end Size

namespace Transform

def map (f : Float -> Float) (transform : Transform Float) : Transform Float where
  scaleX := f transform.scaleX
  scaleY := f transform.scaleY
  shearX := f transform.shearX
  shearY := f transform.shearY
  translateX := f transform.translateX
  translateY := f transform.translateY
  unit := transform.unit

structure All (P : Float -> Prop) (transform : Transform Float) : Prop where
  scaleX : P transform.scaleX
  scaleY : P transform.scaleY
  shearX : P transform.shearX
  shearY : P transform.shearY
  translateX : P transform.translateX
  translateY : P transform.translateY

/-- A transform with numbers written in some way, under some name of a unit. -/
def written (write : Float -> Json) (name : String) (transform : Transform Float) : Json :=
  Json.object
    [("scaleX", write transform.scaleX),
      ("scaleY", write transform.scaleY),
      ("shearX", write transform.shearX),
      ("shearY", write transform.shearY),
      ("translateX", write transform.translateX),
      ("translateY", write transform.translateY),
      ("unit", .str name)]

end Transform

structure NewImage.All (P : Float -> Prop) (image : NewImage Float) : Prop where
  size : forall size, image.size = some size -> size.All P
  transform : forall transform, image.transform = some transform -> transform.All P

/-! ## Units -/

theorem decodeUnit_of_unknown {name : String} (hemu : name ≠ "EMU") (hpt : name ≠ "PT") :
    decodeUnit (.str name) = .ok .unspecified := by
  have hfind : Keyed.find? name [("EMU", LengthUnit.emu), ("PT", .point)] = none := by
    unfold Keyed.find?
    simp [hemu.symm, hpt.symm]
  unfold decodeUnit Decoder.variant Decoder.variantNamed
  dsimp only
  rw [hfind]

theorem decodeUnit_name (unit : LengthUnit) : decodeUnit (.str unit.name) = .ok unit := by
  cases unit with
  | emu => rfl
  | point => rfl
  | unspecified => exact decodeUnit_of_unknown (by decide) (by decide)

/-! ## Unknown units -/

section Unknown

variable {json : Json} {name : String}

end Unknown

/-! ## Names, defaults and missing axes -/

theorem Json.object_ne_null (members : List (String × Json)) : object members ≠ .null := by
  intro h
  cases h

/-- An element of which nothing is known but its ID and its geometry. -/
def Element.bare (objectId : String) (size : Option (Size Float))
    (transform : Option (Transform Float)) : Element Float :=
  .other { objectId, size, transform, title := none, description := none } "unknown"

section Written

variable {write : Float -> Json} {Sound : Float -> Prop} {image : Float -> Float}
  (hwrite : ReadsAs write Decoder.double Sound image)
include hwrite

theorem Length.decode_written {name : String} {unit : LengthUnit}
    (hunit : decodeUnit (.str name) = .ok unit) (length other : Length Float) :
    decodeLength (length.written write name) = .ok other <->
      length.All Sound ∧ { length.map image with unit } = other := by
  unfold decodeLength written Json.object
  rw [record_obj_eq_ok]
  have hsorted := Keyed.sorted_ofList
    [("magnitude", write length.magnitude), ("unit", .str name)]
  refine Reads.congr (.seq (.map (hwrite.field hsorted ?magnitude) _)
    (.of_found hsorted ?unit hunit)) ?sound other
  case magnitude => exact Keyed.find?_ofList
  case unit => exact Keyed.find?_ofList
  case sound => exact and_iff_left trivial

theorem Length.readsAs_written :
    ReadsAs (fun length => length.written write length.unit.name) decodeLength
      (Length.All Sound) (Length.map image) := by
  intro length other
  exact decode_written hwrite (decodeUnit_name length.unit) length other

theorem Size.readsAs_written :
    ReadsAs (Size.written write) decodeSize (Size.All Sound) (Size.map image) := by
  refine ReadsAs.of_fields ?_
  intro size
  have hsorted := Keyed.sorted_ofList
    (Json.optional "width" (fun length => length.written write length.unit.name) size.width ++
      Json.optional "height" (fun length => length.written write length.unit.name) size.height)
  have hnull : forall length : Length Float, length.written write length.unit.name ≠ .null :=
    fun _ => Json.object_ne_null _
  have hlength := Length.readsAs_written hwrite
  refine .congr
    (.seq (.map (hlength.nullable hnull hsorted ?width) _)
      (hlength.nullable hnull hsorted ?height)) ?sound
  case width =>
      rw [Keyed.find?_ofList]
      cases size.width <;> cases size.height <;> rfl
  case height =>
      rw [Keyed.find?_ofList]
      cases size.width <;> cases size.height <;> rfl
  case sound =>
      constructor
      · intro h
        exact { width := h.1, height := h.2 }
      · intro h
        exact ⟨h.width, h.height⟩

theorem Transform.decode_written {name : String} {unit : LengthUnit}
    (hunit : decodeUnit (.str name) = .ok unit) (transform other : Transform Float) :
    decodeTransform (transform.written write name) = .ok other <->
      transform.All Sound ∧ { transform.map image with unit } = other := by
  unfold decodeTransform written Json.object
  rw [record_obj_eq_ok]
  generalize htable : Keyed.ofList _ = table
  have hsorted : Keyed.Sorted table := by
    rw [← htable]
    exact Keyed.sorted_ofList _
  refine Reads.congr
    (.seq (.seq (.seq (.seq (.seq (.seq (.map (hwrite.field hsorted ?scaleX) _)
      (hwrite.field hsorted ?scaleY)) (hwrite.field hsorted ?shearX))
      (hwrite.field hsorted ?shearY)) (hwrite.field hsorted ?translateX))
      (hwrite.field hsorted ?translateY))
      (.of_found hsorted ?unit hunit)) ?sound other
  case sound =>
      constructor
      · intro h
        rcases h with ⟨⟨⟨⟨⟨⟨hscaleX, hscaleY⟩, hshearX⟩, hshearY⟩, htranslateX⟩, htranslateY⟩, _⟩
        exact
          { scaleX := hscaleX
            scaleY := hscaleY
            shearX := hshearX
            shearY := hshearY
            translateX := htranslateX
            translateY := htranslateY }
      · intro h
        exact ⟨⟨⟨⟨⟨⟨h.scaleX, h.scaleY⟩, h.shearX⟩, h.shearY⟩, h.translateX⟩, h.translateY⟩,
          trivial⟩
  all_goals
    rw [← htable]
    exact Keyed.find?_ofList

theorem Transform.readsAs_written :
    ReadsAs (fun transform => transform.written write transform.unit.name) decodeTransform
      (Transform.All Sound) (Transform.map image) := by
  intro transform other
  exact decode_written hwrite (decodeUnit_name transform.unit) transform other

/-! ### Elements -/

section Elements

variable {members : List (String × Json)} {objectId : String} {size : Option (Size Float)}
  {transform : Option (Transform Float)}

end Elements

end Written

/-- Numbers stay as they are in a value, so geometry does as far as it is finite. -/
theorem readsAs_toJson :
    ReadsAs Scalar.toJson Decoder.double Decimal.IsNumber id := by
  intro x y
  have hjson : Scalar.toJson x = if x.isFinite then Json.float x else .null := rfl
  rw [hjson]
  cases hfinite : x.isFinite with
  | true => simp [Decoder.double, Decimal.IsNumber, hfinite]
  | false => simp [Decoder.double, Decoder.refuse, Decimal.IsNumber, hfinite]

theorem Size.readsAs_toJson :
    ReadsAs Size.toJson decodeSize (Size.All Decimal.IsNumber) (Size.map id) :=
  readsAs_written DeckTools.readsAs_toJson

theorem Transform.readsAs_toJson :
    ReadsAs Transform.toJson decodeTransform (Transform.All Decimal.IsNumber)
      (Transform.map id) :=
  readsAs_written DeckTools.readsAs_toJson

end DeckTools
