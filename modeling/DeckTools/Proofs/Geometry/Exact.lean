import Mathlib.Algebra.Order.Ring.Abs
import Mathlib.Data.Rat.Floor
import DeckTools.Geometry.Resize

/-!
# Exact geometry

Doubles round.  What geometry comes to without rounding is computed over the rationals,
with the same definitions.
-/

namespace DeckTools

/-- Rationals are exact and of finite size; what JSON cannot write as a number is a text. -/
instance : Scalar ℚ where
  ofInt n := n
  abs x := |x|
  lt x y := decide (x < y)
  le x y := decide (x ≤ y)
  isFinite _ := true
  epsilon := 1 / 2 ^ 52
  toCount x := min (2 ^ 64 - 1) ⌊x + 1 / 2⌋.toNat
  text x := toString x
  toJson x := .str (toString x)

namespace Exact

@[simp] theorem ofInt_eq (n : Int) : (Scalar.ofInt n : ℚ) = n := rfl

@[simp] theorem abs_eq (x : ℚ) : Scalar.abs x = |x| := rfl

@[simp] theorem lt_eq (x y : ℚ) : Scalar.lt x y = decide (x < y) := rfl

@[simp] theorem le_eq (x y : ℚ) : Scalar.le x y = decide (x ≤ y) := rfl

@[simp] theorem isFinite_eq (x : ℚ) : Scalar.isFinite x = true := rfl

@[simp] theorem epsilon_eq : (Scalar.epsilon : ℚ) = 1 / 2 ^ 52 := rfl

end Exact

@[simp] theorem emuOfPoints_eq (points : ℚ) : emuOfPoints points = points * 12700 := rfl

def LengthUnit.inEmu : LengthUnit -> ℚ
  | .point => 12700
  | .emu => 1
  | .unspecified => 1

theorem Length.emu_eq (length : Length ℚ) :
    length.emu = length.magnitude * length.unit.inEmu := by
  rcases length with ⟨magnitude, unit⟩
  cases unit with
  | point => rfl
  | emu => exact (mul_one magnitude).symm
  | unspecified => exact (mul_one magnitude).symm

theorem Length.emu_nonneg {length : Length ℚ} (h : 0 ≤ length.magnitude) : 0 ≤ length.emu := by
  have hunit : 0 ≤ length.unit.inEmu := by
    cases length.unit <;> simp [LengthUnit.inEmu]
  rw [emu_eq]
  exact mul_nonneg h hunit

/-- Both extents of a size that are given are at least zero. -/
structure Size.NonNegative (size : Size ℚ) : Prop where
  width : forall length, size.width = some length -> 0 ≤ length.magnitude
  height : forall length, size.height = some length -> 0 ≤ length.magnitude

theorem Size.emu_nonneg {size : Size ℚ} (h : size.NonNegative) :
    0 ≤ size.emu.1 ∧ 0 ≤ size.emu.2 := by
  rcases size with ⟨width, height⟩
  constructor
  · cases width with
    | none => exact le_refl 0
    | some length => exact Length.emu_nonneg (h.width length rfl)
  · cases height with
    | none => exact le_refl 0
    | some length => exact Length.emu_nonneg (h.height length rfl)

/-- The translation of a transform is brought into EMU, and nothing else changes. -/
theorem Transform.inEmu_eq (transform : Transform ℚ) :
    transform.inEmu =
      { transform with
        translateX := transform.translateX * transform.unit.inEmu
        translateY := transform.translateY * transform.unit.inEmu
        unit := .emu } := by
  rcases transform with ⟨scaleX, scaleY, shearX, shearY, translateX, translateY, unit⟩
  cases unit with
  | point => rfl
  | emu => simp [inEmu, LengthUnit.inEmu]
  | unspecified => simp [inEmu, LengthUnit.inEmu]

/-! ## Sizes on the page -/

theorem renderedSize_stretch {transform : Transform ℚ} {factorX factorY : ℚ}
    (hx : 0 < factorX) (hy : 0 < factorY) (size : Option (Size ℚ)) :
    renderedSize size (some (transform.stretch factorX factorY)) =
      (renderedSize size (some transform)).map
        (fun shown => (shown.1 * factorX, shown.2 * factorY)) := by
  cases size with
  | none => rfl
  | some size =>
    simp only [renderedSize, Transform.stretch, Option.map_some, Option.getD_some, Exact.abs_eq]
    rw [abs_mul, abs_mul, abs_of_pos hx, abs_of_pos hy]
    rw [mul_assoc, mul_assoc]

theorem renderedSize_nonneg {size : Option (Size ℚ)} {transform : Option (Transform ℚ)}
    {shown : ℚ × ℚ} (hsize : forall given, size = some given -> given.NonNegative)
    (h : renderedSize size transform = some shown) :
    0 ≤ shown.1 ∧ 0 ≤ shown.2 := by
  rcases Option.map_eq_some_iff.mp h with ⟨given, hgiven, rfl⟩
  rcases Size.emu_nonneg (hsize given hgiven) with ⟨hwidth, hheight⟩
  exact ⟨mul_nonneg hwidth (abs_nonneg _), mul_nonneg hheight (abs_nonneg _)⟩

theorem pos_of_isMeasurable {extent : ℚ} (h : isMeasurable extent = true) (hnonneg : 0 ≤ extent) :
    0 < extent := by
  have hlarge : (1 : ℚ) / 2 ^ 52 < |extent| := by
    simpa [isMeasurable] using h
  rw [abs_of_nonneg hnonneg] at hlarge
  exact lt_trans (by positivity) hlarge

/-! ## Other exact scalars -/

/-- Numbers of an ordered field as scalars that do not round; how they are written is left open. -/
class ExactScalar (α : Type) [LinearOrder α] extends Scalar α, Field α, IsStrictOrderedRing α where
  ofInt_eq (n : Int) : Scalar.ofInt n = (n : α)
  abs_eq (x : α) : Scalar.abs x = |x|
  lt_eq (x y : α) : Scalar.lt x y = decide (x < y)
  le_eq (x y : α) : Scalar.le x y = decide (x ≤ y)
  isFinite_eq (x : α) : Scalar.isFinite x = true
  epsilon_eq : (Scalar.epsilon : α) = 1 / 2 ^ 52

namespace ExactScalar

@[reducible] def rational : ExactScalar ℚ :=
  { (inferInstance : Scalar ℚ), (inferInstance : Field ℚ),
    (inferInstance : IsStrictOrderedRing ℚ) with
    ofInt_eq := fun _ => rfl
    abs_eq := fun _ => rfl
    lt_eq := fun _ _ => rfl
    le_eq := fun _ _ => rfl
    isFinite_eq := fun _ => rfl
    epsilon_eq := rfl }

variable {α : Type} [LinearOrder α] [ExactScalar α]

theorem isMeasurable_iff {extent : α} :
    isMeasurable extent = true <-> 1 / 2 ^ 52 < |extent| := by
  unfold isMeasurable
  rw [isFinite_eq, lt_eq, abs_eq, epsilon_eq, Bool.true_and, decide_eq_true_iff]

end ExactScalar

end DeckTools
