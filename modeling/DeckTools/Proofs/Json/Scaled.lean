import DeckTools.Json.Numeral
import DeckTools.Proofs.Decimal.Scientific
import Mathlib.Tactic.Ring

/-!
# Significands brought to size

A reader makes its digits a double and multiplies or divides that by a power of ten.  The
product stays finite for digits that are not above those of the largest doubles, and if both
factors are exact the outcome is the nearest double.
-/

namespace DeckTools
namespace Json

open Decimal

/-! ## Products that stay finite -/

theorem rounds_powerOfTen {e : Nat} (he : e < 309) : Rounds (powerOfTen e) (10 ^ e) := by
  have hrounds := rounds_ofScientific one_pos (show e ≤ 2048 by omega)
  rw [Nat.cast_one, one_mul] at hrounds
  exact hrounds

theorem power_lt_overflow {e : Nat} (he : e < 309) : (10 : ℚ) ^ e < overflow := by
  have hlargest : 10 ^ 308 < overflow := by decide +kernel
  have hle : 10 ^ e ≤ 10 ^ 308 := pow_le_pow_right₀ (by decide) (Nat.le_of_lt_succ he)
  have hcast : ((10 ^ e : Nat) : ℚ) < overflow := Nat.cast_lt.mpr (hle.trans_lt hlargest)
  rwa [Nat.cast_pow, Nat.cast_ofNat] at hcast

/-- Half a place below the largest double; the digits of smaller doubles are not above it. -/
def belowLargest : Nat :=
  (2 ^ 54 - 3) * 2 ^ 970

theorem cast_belowLargest : (belowLargest : ℚ) = (2 ^ 53 - 3 / 2) * 2 ^ (971 : Int) := by
  rw [belowLargest, cast_half_places]
  norm_num

def largestSignificand (exponent : Nat) : Nat :=
  min significandLimit (belowLargest / 10 ^ exponent)

/-- Large powers of ten are not exact, so their products are looked at one by one. -/
theorem product_lt_of_large :
    forall k, k < 20 ->
      units (Float.ofNat (largestSignificand (289 + k))) * units (powerOfTen (289 + k)) <
        overflow * 2 ^ 2148 := by
  decide +kernel

section Product

variable {n e : Nat} (hn : 0 < n)
include hn

theorem isFinite_product_of_small (hlimit : n < 2 ^ 64) (he : e ≤ 288) :
    (Float.ofNat n * powerOfTen e).isFinite = true := by
  have hsize : 4 * (2 ^ 64 * 10 ^ 288) < overflow := by decide +kernel
  have hpow : 10 ^ e ≤ 10 ^ 288 := pow_le_pow_right₀ (by decide) he
  have hpos : 0 < 10 ^ e := Nat.pow_pos (by decide)
  have hproduct : n * 10 ^ e ≤ 2 ^ 64 * 10 ^ 288 := Nat.mul_le_mul hlimit.le hpow
  generalize 2 ^ 64 * 10 ^ 288 = most at hsize hproduct
  have hleft : n ≤ n * 10 ^ e := Nat.le_mul_of_pos_right n hpos
  have hright : 10 ^ e ≤ n * 10 ^ e := Nat.le_mul_of_pos_left _ hn
  rcases (rounds_ofNat hn).exists_isExactly_le_two_mul (by exact_mod_cast hn)
    (Nat.cast_lt.mpr (by omega)) with ⟨a, ha, hale⟩
  rcases (rounds_powerOfTen (by omega : e < 309)).exists_isExactly_le_two_mul
    (by exact_mod_cast hpos) (power_lt_overflow (by omega)) with ⟨b, hb, hble⟩
  apply (rounds_mul ha hb).isFinite
  calc a * b ≤ 2 * n * (2 * 10 ^ e) := mul_le_mul hale hble hb.pos.le (by positivity)
    _ = ((4 * (n * 10 ^ e) : Nat) : ℚ) := by
        push_cast
        ring
    _ < overflow := Nat.cast_lt.mpr (by omega)

theorem isFinite_product_of_large (he : 289 ≤ e) (he' : e < 309) (hle : n ≤ largestSignificand e) :
    (Float.ofNat n * powerOfTen e).isFinite = true := by
  have hone : (1 : ℚ) ≤ n := by exact_mod_cast hn
  have hle' : (n : ℚ) ≤ largestSignificand e := by exact_mod_cast hle
  have hlargest : (largestSignificand e : ℚ) < overflow :=
    Nat.cast_lt.mpr (Nat.lt_of_le_of_lt (Nat.min_le_left _ _) (by decide +kernel))
  have hrounds := rounds_ofNat (hn.trans_le hle)
  rcases hrounds.exists_isExactly_le_two_mul (hone.trans hle') hlargest with ⟨b, hb, _⟩
  rcases (rounds_ofNat hn).exists_isExactly_le hrounds hone hle' hlargest hb with ⟨a, ha, hale⟩
  rcases (rounds_powerOfTen he').exists_isExactly_le_two_mul (one_le_pow₀ (by norm_num))
    (power_lt_overflow he') with ⟨p, hp, _⟩
  apply (rounds_mul ha hp).isFinite
  refine (mul_le_mul_of_nonneg_right hale hp.pos.le).trans_lt ?_
  have hlt := product_lt_of_large (e - 289) (by omega)
  rw [Nat.add_sub_of_le he] at hlt
  have hunits : b * p * 2 ^ 2148 < overflow * 2 ^ 2148 := by
    calc b * p * 2 ^ 2148 = b * 2 ^ 1074 * (p * 2 ^ 1074) := by
          rw [mul_mul_mul_comm, ← pow_add]
      _ = ((units (Float.ofNat (largestSignificand e)) * units (powerOfTen e) : Nat) : ℚ) := by
          rw [Nat.cast_mul, (isExactly_iff.mp hb).2, (isExactly_iff.mp hp).2]
      _ < (overflow * 2 ^ 2148 : Nat) := Nat.cast_lt.mpr hlt
      _ = overflow * 2 ^ 2148 := by
          rw [Nat.cast_mul, Nat.cast_pow, Nat.cast_ofNat]
  exact lt_of_mul_lt_mul_right hunits (pow_nonneg zero_le_two _)

/-- No significand that is small enough is brought beyond the largest double. -/
theorem isFinite_product (he : e < 309) (hle : n ≤ largestSignificand e) :
    (Float.ofNat n * powerOfTen e).isFinite = true := by
  rcases Nat.lt_or_ge e 289 with hsmall | hlarge
  · have hlimit : n ≤ significandLimit := hle.trans (Nat.min_le_left _ _)
    exact isFinite_product_of_small hn (Nat.lt_of_le_of_lt hlimit (by decide)) (by omega)
  · exact isFinite_product_of_large hn hlarge he hle

end Product

/-! ## Significands and powers of ten -/

/-- A significand and a power of ten that do not lead beyond the largest double. -/
def Contained (n : Nat) (e : Int) : Prop :=
  n ≠ 0 -> 0 ≤ e -> e < 309 ∧ n ≤ largestSignificand e.toNat

theorem isSome_scaled? {n : Nat} {e : Int} (h : Contained n e) : (scaled? n e).isSome = true := by
  unfold scaled?
  by_cases hn : n = 0
  · rw [hn]
    rfl
  · have hzero : (n == 0) = false := beq_eq_false_iff_ne.mpr hn
    simp only [hzero, Bool.false_eq_true, if_false]
    by_cases he : 0 ≤ e
    · rcases h hn he with ⟨hlt, hle⟩
      have hfinite := isFinite_product (Nat.pos_of_ne_zero hn) (by omega : e.toNat < 309) hle
      rw [if_neg (by omega), if_pos he, if_pos hfinite]
      rfl
    · rw [if_neg (by omega), if_neg he]
      split
      · rfl
      · split <;> rfl

end Json
end DeckTools
