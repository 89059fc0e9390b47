import DeckTools.Geometry.Scalar
import DeckTools.Json.Decode
import DeckTools.Proofs.Json.Scaled
import DeckTools.Proofs.Decimal.Shortest
import DeckTools.Proofs.Json.Significand
import DeckTools.Proofs.Json.Text

/-!
# Doubles read back from their digits

The text of a double has the fewest digits that no other double is nearest to.  A reader
that rounds once would get the double back from it.  This one rounds its digits to a double
and scales that, so what it reads may be a neighbour.
-/

namespace DeckTools
namespace Decimal

open Json

/-- The double that the text of a double is read as; one without a text of its own is kept. -/
def reread (x : Float) : Float :=
  match ofWord (jsonText x).toList with
  | .float y => y
  | _ => x

section Amount

variable {negative : Bool} {m : Nat} {e : Int}

theorem Owns.significand_pos {significand : Nat} {exponent : Int}
    (hv : Owns m e (significand * 10 ^ exponent)) (hm : m ≠ 0) : 0 < significand := by
  apply Nat.pos_of_ne_zero
  rintro rfl
  have hlow := hv.low
  rw [Nat.cast_zero, zero_mul, zero_div] at hlow
  have hone : (1 : ℚ) ≤ m := by exact_mod_cast Nat.one_le_iff_ne_zero.mpr hm
  linarith

theorem owns_numeral (h : IsDouble m e) :
    Owns m e ((numeral negative (shortest .even m e)).digits *
      10 ^ (numeral negative (shortest .even m e)).power) := by
  have howns := owns_shortest .even h
  have hpos := howns.significand_pos (Nat.ne_of_gt h.pos)
  rcases exists_digits_numeral negative _ hpos.ne' with ⟨zeros, hdigits, hpower⟩
  rwa [← hpower, zpow_add₀ (by norm_num), zpow_natCast, mul_comm (10 ^ _), ← mul_assoc,
    ← Nat.cast_ofNat (n := 10), ← Nat.cast_pow, ← Nat.cast_mul, ← hdigits] at howns

theorem exists_reads_numeral (negative : Bool) (d : Digits) :
    exists significand exponent, (numeral negative d).Reads significand exponent :=
  Numeral.exists_reads (isSome_numeral negative d) (whole_numeral_le negative d)

theorem Owns.le_belowLargest {v : ℚ} (hv : Owns m e v) (h : IsDouble m e)
    (hlargest : ¬ (m = 2 ^ 53 - 1 ∧ e = 971)) : v ≤ belowLargest := by
  have hhigh := hv.high
  rw [div_le_iff₀ (by positivity)] at hhigh
  have hlt := h.lt
  have hmost := h.most
  rw [cast_belowLargest]
  by_cases hlast : e = 971
  · have hm : (m : ℚ) ≤ 2 ^ 53 - 2 := by
      have hle : m + 2 ≤ 2 ^ 53 := by omega
      have hcast : (m : ℚ) + 2 ≤ 2 ^ 53 := by exact_mod_cast hle
      linarith
    rw [hlast] at hhigh
    exact hhigh.trans (mul_le_mul_of_nonneg_right (by linarith) (by positivity))
  · have hm : (m : ℚ) ≤ 2 ^ 53 := by exact_mod_cast hlt.le
    calc v ≤ (m + 1 / 2) * 2 ^ e := hhigh
      _ ≤ (2 ^ 53 + 1 / 2) * 2 ^ (970 : Int) :=
        mul_le_mul (by linarith) (zpow_le_zpow_right₀ one_le_two (by omega)) (by positivity)
          (by positivity)
      _ ≤ (2 ^ 53 - 3 / 2) * 2 * 2 ^ (970 : Int) :=
        mul_le_mul_of_nonneg_right (by norm_num) (by positivity)
      _ = (2 ^ 53 - 3 / 2) * 2 ^ (971 : Int) := by
        rw [mul_assoc]
        exact congrArg _ (zpow_one_add₀ two_ne_zero 970).symm

/-- But for the largest double, digits of doubles do not come near to what is infinite. -/
theorem contained_numeral {significand : Nat} {exponent : Int} (h : IsDouble m e)
    (hlargest : ¬ (m = 2 ^ 53 - 1 ∧ e = 971))
    (hreads : (numeral negative (shortest .even m e)).Reads significand exponent) :
    Contained significand exponent := by
  intro hpos hexponent
  obtain ⟨k, rfl⟩ := Int.eq_ofNat_of_zero_le hexponent
  have hle : ((significand * 10 ^ k : Nat) : ℚ) ≤ belowLargest := by
    rw [Nat.cast_mul, Nat.cast_pow, Nat.cast_ofNat, ← zpow_natCast]
    exact hreads.le.trans ((owns_numeral h).le_belowLargest h hlargest)
  have hle' : significand * 10 ^ k ≤ belowLargest := by exact_mod_cast hle
  have hpower : 10 ^ k ≤ belowLargest :=
    (Nat.le_mul_of_pos_left _ (Nat.pos_of_ne_zero hpos)).trans hle'
  constructor
  · by_contra hge
    have hle : 10 ^ 309 ≤ 10 ^ k := pow_le_pow_right₀ (by decide) (by omega)
    have hlt : belowLargest < 10 ^ 309 := by decide +kernel
    omega
  · rw [Int.toNat_natCast, largestSignificand]
    exact le_min hreads.fits ((Nat.le_div_iff_mul_le (Nat.pow_pos (by decide))).mpr hle')

end Amount

/-! ## Numbers that are read -/

theorem value?_largest (negative : Bool) :
    (numeral negative (shortest .even (2 ^ 53 - 1) 971)).value?.isSome = true := by
  cases negative <;> decide +kernel

theorem isSome_value?_numeral {x : Float} {negative : Bool} {m : Nat} {e : Int}
    (h : Value.ofFloat x = .finite negative m e) :
    (numeral negative (shortest .even m e)).value?.isSome = true := by
  by_cases hlargest : m = 2 ^ 53 - 1 ∧ e = 971
  · rw [hlargest.1, hlargest.2]
    exact value?_largest negative
  · rcases exists_reads_numeral negative (shortest .even m e) with ⟨significand, exponent, hreads⟩
    have hcontained : Contained significand exponent := by
      by_cases hm : m = 0
      · subst hm
        have hzero : (numeral negative (shortest .even 0 e)).digits = 0 := rfl
        have hexact := (hreads.exact (by rw [hzero]; exact Nat.zero_le _)).1
        exact fun hpos => absurd (hexact.trans hzero) hpos
      · exact contained_numeral (Value.isDouble h hm) hlargest hreads
    rw [hreads.value, Option.isSome_map]
    exact isSome_scaled? hcontained

theorem ofWord_of_value {x : Float} {negative : Bool} {m : Nat} {e : Int}
    (h : Value.ofFloat x = .finite negative m e) :
    ofWord (jsonText x).toList =
      (numeral negative (shortest .even m e)).value?.getD .unreadable := by
  have hword := Numeral.ofWord?_chars (wellFormed_numeral negative (shortest .even m e))
  rw [← exists_numeral h] at hword
  rw [ofWord, hword]

/-- The text of a number that is finite is read as a double. -/
theorem ofWord_jsonText {x : Float} (h : x.isFinite = true) :
    ofWord (jsonText x).toList = .float (reread x) := by
  rcases isFinite_iff.mp h with ⟨negative, m, e, hvalue⟩
  have hsome := isSome_value?_numeral hvalue
  have hread := ofWord_of_value hvalue
  rcases Numeral.value?_of_isSome (isSome_numeral negative (shortest .even m e)) with
    hnone | ⟨y, hy⟩
  · rw [hnone] at hsome
    cases hsome
  · rw [hy, Option.getD_some] at hread
    rw [reread, hread]

/-- What is written for a double that is a number is read as the double of its digits. -/
theorem double_reread_eq_ok {x y : Float} :
    Decoder.double (Scalar.toJson x).reread = .ok y <-> x.isFinite = true ∧ reread x = y := by
  have hjson : Scalar.toJson x = if x.isFinite then Json.float x else .null := rfl
  rw [hjson]
  cases hfinite : x.isFinite with
  | false =>
      have hnull : Json.null.reread = .null := rfl
      rw [if_neg Bool.false_ne_true, hnull]
      exact iff_of_false (fun h => by cases h) (fun h => by cases h.1)
  | true =>
      have hreread : (Json.float x).reread = ofWord (jsonText x).toList := rfl
      rw [if_pos rfl, hreread, ofWord_jsonText hfinite]
      simp [Decoder.double]

/-! ## Numbers that are read as they were -/

end Decimal
end DeckTools
