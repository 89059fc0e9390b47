import DeckTools.Proofs.Decimal.Arithmetic

/-!
# Digits and powers of ten made doubles

A whole number that a mantissa can hold is a double, and so is a power of ten up to the
twenty-second.  Any digits with a power of ten are made the double nearest to them.
-/

namespace DeckTools
namespace Decimal

open Float.Model Float.Model.UnpackedFloat

/-! ## Whole numbers -/

section Whole

variable {n : Nat} (hn : 0 < n)
include hn

theorem lastPlace_natCast : LastPlace (n : ℚ) (n.log2 - 52) where
  high := by
    have hlt : (n : ℚ) < 2 ^ ((n.log2 : Int) + 1) := by exact_mod_cast Nat.lt_log2_self (n := n)
    rwa [show 53 + ((n.log2 : Int) - 52) = n.log2 + 1 by omega]
  low := by
    have hle : (2 : ℚ) ^ (n.log2 : Int) ≤ n := by exact_mod_cast Nat.log2_self_le hn.ne'
    rw [show 52 + ((n.log2 : Int) - 52) = n.log2 by omega]
    exact .inl hle
  least := by omega

/-- A whole number that a mantissa can hold, shifted to the place of a mantissa. -/
theorem isDouble_shifted (hlt : n < 2 ^ 53) : IsDouble (n * 2 ^ (52 - n.log2)) (n.log2 - 52) := by
  have hlog := (Nat.log2_lt hn.ne').mpr hlt
  have hlow := Nat.log2_self_le hn.ne'
  have hhigh := Nat.lt_log2_self (n := n)
  have hpow : 2 ^ n.log2 * 2 ^ (52 - n.log2) = 2 ^ 52 := by
    rw [← pow_add]
    congr 1
    omega
  have hpos : 0 < 2 ^ (52 - n.log2) := Nat.two_pow_pos _
  have hle : 2 ^ 52 ≤ n * 2 ^ (52 - n.log2) := by
    rw [← hpow]
    exact Nat.mul_le_mul_right _ hlow
  refine ⟨Nat.mul_pos hn hpos, ?_, by omega, by omega, .inl hle⟩
  calc n * 2 ^ (52 - n.log2) < 2 ^ (n.log2 + 1) * 2 ^ (52 - n.log2) :=
        Nat.mul_lt_mul_of_pos_right hhigh hpos
    _ = 2 ^ 53 := by
        rw [pow_succ, mul_right_comm, hpow]
        rfl

theorem natCast_shifted (hlt : n < 2 ^ 53) :
    (n : ℚ) = (n * 2 ^ (52 - n.log2) : Nat) * 2 ^ ((n.log2 : Int) - 52) := by
  have hlog := (Nat.log2_lt hn.ne').mpr hlt
  push_cast
  rw [mul_assoc, ← zpow_natCast, ← zpow_add₀ two_ne_zero,
    show ((52 - n.log2 : Nat) : Int) + (n.log2 - 52) = 0 by omega, zpow_zero, mul_one]

theorem ofNat_eq (hlt : n < 2 ^ 53) :
    UnpackedFloat.ofNat Format.binary64 n =
      roundWithAccuracy Format.binary64 .positive (n * 2 ^ (52 - n.log2)) (n.log2 - 52) .exact := by
  have hlog := (Nat.log2_lt hn.ne').mpr hlt
  have hsign : compare (n : Int) 0 = .gt := compare_gt_iff_gt.mpr (by exact_mod_cast hn)
  have hplace : (0 - Format.binary64.targetExponent (totalExponent n 0)).toNat = 52 - n.log2 := by
    rw [targetExponent_eq]
    omega
  have hexponent : (0 : Int) - (52 - n.log2 : Nat) = n.log2 - 52 := by omega
  rw [UnpackedFloat.ofNat, UnpackedFloat.ofInt, UnpackedFloat.normalize, hsign]
  dsimp only
  rw [UnpackedFloat.round, Int.toNat_natCast, decreaseExponent, hplace, hexponent, Nat.shiftLeft_eq]

theorem isExactly_toFloat (hlt : n < 2 ^ 53) : IsExactly n.toUInt64.toFloat n := by
  have hround : n.toUInt64.toFloat =
      .ofModel (.pack (UnpackedFloat.ofNat Format.binary64 n.toUInt64.toNat)) := rfl
  have htoNat : n.toUInt64.toNat = n := Nat.mod_eq_of_lt (hlt.trans (by decide))
  have hexact : Tells .exact (n * 2 ^ (52 - n.log2)) ((n : ℚ) / 2 ^ ((n.log2 : Int) - 52)) := by
    rw [Tells]
    nth_rewrite 1 [natCast_shifted hn hlt]
    rw [mul_div_cancel_right₀ _ (by positivity)]
  have hplace := lastPlace_natCast hn
  have hnearest : Nearest ((n : ℚ) / 2 ^ ((n.log2 : Int) - 52)) (n * 2 ^ (52 - n.log2)) :=
    (tells_ofMantissaAndAccuracy hexact).nearest
  have hrounds : Rounds n.toUInt64.toFloat n := by
    refine ⟨_, _, hplace, hnearest, ?_⟩
    rw [hround, htoNat, ofNat_eq hn hlt, roundWithAccuracy_eq hexact le_rfl hplace hnearest]
  exact hrounds.isExactly (natCast_shifted hn hlt) (isDouble_shifted hn hlt)

end Whole

/-! ## Powers of ten -/

/-- A positive double as a multiple of the least one; nothing for other doubles. -/
def units (x : Float) : Nat :=
  match Value.ofFloat x with
  | .finite false m e => m * 2 ^ (e + 1074).toNat
  | _ => 0

theorem units_of_value {x : Float} {m : Nat} {e : Int}
    (h : Value.ofFloat x = .finite false m e) (hm : m ≠ 0) :
    (units x : ℚ) = m * 2 ^ e * 2 ^ 1074 := by
  have hleast := (Value.isDouble h hm).least
  have hplace : (2 : ℚ) ^ (e + 1074).toNat = 2 ^ e * 2 ^ 1074 := by
    rw [← zpow_natCast, Int.toNat_of_nonneg (by omega), zpow_add₀ two_ne_zero]
    rfl
  rw [units, h, Nat.cast_mul, Nat.cast_pow, Nat.cast_ofNat, hplace, mul_assoc]

theorem isExactly_iff {x : Float} {v : ℚ} :
    IsExactly x v <-> v ≠ 0 ∧ (units x : ℚ) = v * 2 ^ 1074 := by
  constructor
  · intro h
    refine ⟨h.pos.ne', ?_⟩
    rcases h with ⟨m, e, hvalue, hm, rfl⟩
    exact units_of_value hvalue hm
  · rintro ⟨hv, hunits⟩
    have hpos : ((0 : Nat) : ℚ) ≠ v * 2 ^ 1074 := by
      rw [Nat.cast_zero]
      exact (mul_ne_zero hv (pow_ne_zero _ two_ne_zero)).symm
    have hunits' := hunits
    unfold units at hunits
    split at hunits
    case h_1 m e hvalue =>
        have hm : m ≠ 0 := by
          rintro rfl
          rw [Nat.zero_mul] at hunits
          exact hpos hunits
        rw [units_of_value hvalue hm] at hunits'
        exact ⟨m, e, hvalue, hm, (mul_right_cancel₀ (pow_ne_zero _ two_ne_zero) hunits').symm⟩
    case h_2 => exact absurd hunits hpos

theorem isExactly_of_units {x : Float} {e : Nat} (h : units x = 10 ^ e * 2 ^ 1074) :
    IsExactly x (10 ^ e) := by
  rw [isExactly_iff, h, Nat.cast_mul, Nat.cast_pow, Nat.cast_pow]
  exact ⟨by positivity, rfl⟩

theorem isExactly_exactlyRepresentablePowersOfTen (e : Fin 23) :
    IsExactly Float.exactlyRepresentablePowersOfTen[e] (10 ^ (e : Nat)) := by
  have hunits : forall e : Fin 23,
      units Float.exactlyRepresentablePowersOfTen[e] = 10 ^ (e : Nat) * 2 ^ 1074 := by
    decide +kernel
  exact isExactly_of_units (hunits e)

/-- Digits times a power of ten are made the nearest double. -/
theorem rounds_ofScientific {n e : Nat} (hn : 0 < n) (he : e ≤ 2048) :
    Rounds (Float.ofScientific n false e) (n * 10 ^ e) := by
  by_cases hfast : n < 2 ^ 53 ∧ e ≤ 22
  · have hproduct : Float.ofScientific n false e = n.toUInt64.toFloat *
        Float.exactlyRepresentablePowersOfTen[(⟨e, by omega⟩ : Fin 23)] := dif_pos hfast
    rw [hproduct]
    exact rounds_mul (isExactly_toFloat hn hfast.1)
      (isExactly_exactlyRepresentablePowersOfTen ⟨e, by omega⟩)
  · have hslow : Float.ofScientific n false e =
        .ofModel (.pack (UnpackedFloat.ofScientific Format.binary64 n e)) := dif_neg hfast
    have hpos : 0 < n <<< 53 := by
      rw [Nat.shiftLeft_eq]
      exact Nat.mul_pos hn (Nat.two_pow_pos 53)
    have hproduct : UnpackedFloat.ofScientific Format.binary64 n e =
        UnpackedFloat.mul Format.binary64 (.finite .positive (n <<< 53) (-53) hpos)
          (.finite .positive (10 ^ e) 0 (Nat.pow_pos (by decide))) := by
      have hlarge : ¬ (e : Int) > 2 ^ 11 := by omega
      have hsmall : ¬ (e : Int) < -(2 ^ 11 + n.log2) := by omega
      rw [UnpackedFloat.ofScientific, dif_neg hn.ne', if_neg hlarge, if_neg hsmall,
        if_pos (Int.natCast_nonneg e)]
      rfl
    have hvalue : (n : ℚ) * 10 ^ e =
        (n <<< 53 : Nat) * 2 ^ (-53 : Int) * ((10 ^ e : Nat) * 2 ^ (0 : Int)) := by
      rw [Nat.shiftLeft_eq]
      push_cast
      norm_num [mul_assoc]
    have hone : (1 : ℚ) ≤ n * 10 ^ e := by
      exact_mod_cast Nat.mul_pos hn (Nat.pow_pos (by decide))
    rcases exists_place (one_pos.trans_le hone) with ⟨t, k, ht, hk⟩
    have hplace := ht.gt_of_one_le hone
    refine ⟨t, k, ht, hk, ?_⟩
    rw [hslow, hproduct, mul_finite hvalue (by omega) ht hk]
    rfl

theorem rounds_ofNat {n : Nat} (hn : 0 < n) : Rounds (Float.ofNat n) n := by
  have hrounds := rounds_ofScientific hn (Nat.zero_le 2048)
  rw [pow_zero, mul_one] at hrounds
  exact hrounds

end Decimal
end DeckTools
