import DeckTools.Decimal.Binary
import Mathlib.Algebra.Group.Nat.Defs

/-!
# Doubles and their parts

The value of a double is read off the same three bit fields that arithmetic unpacks it into,
so what holds of the unpacked parts can be said of the value.
-/

namespace DeckTools
namespace Decimal

open Float.Model Float.Model.UnpackedFloat

/-! ## Bit fields -/

section Fields

variable (bits : BitVec 64)

theorem toNat_unpackExponent :
    (@unpackExponent Format.binary64 bits).toNat =
      bits.toNat / Nat.pow 2 52 % Nat.pow 2 11 := by
  unfold unpackExponent
  simp [BitVec.extractLsb, Nat.shiftRight_eq_div_pow]

theorem toNat_unpackMantissa :
    (@unpackMantissa Format.binary64 bits).toNat = bits.toNat % Nat.pow 2 52 := by
  unfold unpackMantissa
  simp [BitVec.extractLsb]

theorem toNat_unpackSign :
    (@unpackSign Format.binary64 bits).toNat = bits.toNat / Nat.pow 2 63 := by
  unfold unpackSign
  have hbits : bits.toNat < 2 ^ 64 := bits.isLt
  simp [BitVec.extractLsb, Nat.shiftRight_eq_div_pow]
  omega

theorem ofBitVec_unpackSign :
    (Sign.ofBitVec (@unpackSign Format.binary64 bits) == .negative) =
      decide (Nat.pow 2 63 ≤ bits.toNat) := by
  have hbits : bits.toNat < 2 ^ 64 := bits.isLt
  have hsign := toNat_unpackSign bits
  generalize @unpackSign Format.binary64 bits = sign at hsign ⊢
  have htwo : forall bit : BitVec 1, bit = 0#1 ∨ bit = 1#1 := by decide
  rcases htwo sign with rfl | rfl
  · have hlt : ¬ Nat.pow 2 63 ≤ bits.toNat := by simp at hsign ⊢; omega
    rw [decide_eq_false hlt]
    rfl
  · have hle : Nat.pow 2 63 ≤ bits.toNat := by simp at hsign ⊢; omega
    rw [decide_eq_true hle]
    rfl

theorem toNat_append_one {bits : BitVec 52} : (1#1 ++ bits).toNat = Nat.pow 2 52 + bits.toNat := by
  have hbits : bits.toNat < 2 ^ 52 := bits.isLt
  rw [BitVec.toNat_append, Nat.shiftLeft_eq]
  exact (Nat.two_pow_add_eq_or_of_lt hbits 1).symm

end Fields

def Value.ofUnpacked : UnpackedFloat -> Value
  | .notANumber => .nan
  | .infinity sign => .infinite (sign == .negative)
  | .zero sign => .finite (sign == .negative) 0 (-1074)
  | .finite sign significand exponent _ => .finite (sign == .negative) significand exponent

theorem beq_toNat {width n : Nat} (bits other : BitVec width) (h : other.toNat = n) :
    (bits.toNat == n) = decide (bits = other) := by
  rw [Bool.eq_iff_iff, beq_iff_eq, decide_eq_true_iff, ← BitVec.toNat_inj, h]

theorem Value.ofFloat_eq (x : Float) : Value.ofFloat x = .ofUnpacked x.toModel.unpack := by
  have hscale := toNat_unpackExponent x.toBits.toBitVec
  have hfraction := toNat_unpackMantissa x.toBits.toBitVec
  have hsign := ofBitVec_unpackSign x.toBits.toBitVec
  change _ = x.toBits.toNat / _ % _ at hscale
  change _ = x.toBits.toNat % _ at hfraction
  change _ = decide (_ ≤ x.toBits.toNat) at hsign
  have hbits : x.toModel.unpack = UnpackedFloat.unpack Format.binary64 x.toBits.toBitVec := rfl
  rw [hbits, ofFloat]
  have hnan : (-1#11).toNat = 2047 := rfl
  have hnone : (0#11).toNat = 0 := rfl
  have hnull : (0#52).toNat = 0 := rfl
  rw [← hscale, ← hfraction, ← hsign, beq_toNat _ _ hnan, beq_toNat _ _ hnone, beq_toNat _ _ hnull]
  simp only [decide_eq_true_eq]
  unfold UnpackedFloat.unpack
  dsimp only
  by_cases hspecial : @unpackExponent Format.binary64 x.toBits.toBitVec = -1#11
  · rw [if_pos hspecial, if_pos hspecial]
    split <;> rfl
  · rw [if_neg hspecial, if_neg hspecial]
    by_cases hsmall : @unpackExponent Format.binary64 x.toBits.toBitVec = 0#11
    · rw [if_pos hsmall, if_pos hsmall, hsmall]
      by_cases hzero : @unpackMantissa Format.binary64 x.toBits.toBitVec = 0#52
      · rw [dif_pos hzero, hzero]
        rfl
      · rw [dif_neg hzero]
        rfl
    · rw [if_neg hsmall, if_neg hsmall, ← toNat_append_one]
      rfl

theorem isFinite_iff {x : Float} :
    x.isFinite = true <-> exists negative significand exponent,
      Value.ofFloat x = .finite negative significand exponent := by
  have hfinite : x.isFinite = x.toModel.unpack.isFinite := rfl
  rw [hfinite, Value.ofFloat_eq]
  cases x.toModel.unpack with
  | notANumber => exact iff_of_false Bool.false_ne_true (fun ⟨_, _, _, h⟩ => nomatch h)
  | infinity => exact iff_of_false Bool.false_ne_true (fun ⟨_, _, _, h⟩ => nomatch h)
  | zero => exact iff_of_true rfl ⟨_, _, _, rfl⟩
  | finite => exact iff_of_true rfl ⟨_, _, _, rfl⟩

/-! ## Doubles put together again -/

/-- The bits of a double that is a number. -/
theorem Value.bits_of_finite {x : Float} {negative : Bool} {m : Nat} {e : Int}
    (h : ofFloat x = .finite negative m e) :
    (negative = true <-> 2 ^ 63 ≤ x.toBits.toNat) ∧
      ((x.toBits.toNat / 2 ^ 52 % 2 ^ 11 = 0 ∧ m = x.toBits.toNat % 2 ^ 52 ∧ e = -1074) ∨
        (x.toBits.toNat / 2 ^ 52 % 2 ^ 11 ≠ 0 ∧ x.toBits.toNat / 2 ^ 52 % 2 ^ 11 ≠ 2047 ∧
          m = 2 ^ 52 + x.toBits.toNat % 2 ^ 52 ∧
            e = (x.toBits.toNat / 2 ^ 52 % 2 ^ 11 : Nat) - 1075)) := by
  have hpow : forall n, Nat.pow 2 n = 2 ^ n := fun _ => rfl
  unfold ofFloat at h
  simp only [hpow, beq_iff_eq] at h
  split at h
  case isTrue => split at h <;> cases h
  case isFalse hspecial =>
      split at h
      case isTrue hzero =>
          cases h
          exact ⟨decide_eq_true_iff, .inl ⟨hzero, rfl, rfl⟩⟩
      case isFalse hnormal =>
          cases h
          exact ⟨decide_eq_true_iff, .inr ⟨hnormal, hspecial, rfl, rfl⟩⟩

/-- A mantissa and an exponent that some double has. -/
structure IsDouble (m : Nat) (e : Int) : Prop where
  pos : 0 < m
  lt : m < 2 ^ 53
  least : -1074 ≤ e
  most : e ≤ 971
  normal : 2 ^ 52 ≤ m ∨ e = -1074

theorem Value.isDouble {x : Float} {negative : Bool} {m : Nat} {e : Int}
    (h : ofFloat x = .finite negative m e) (hm : m ≠ 0) : IsDouble m e := by
  rcases bits_of_finite h with ⟨_, hbits⟩
  constructor <;> omega

section Pack

variable (sign : Sign)

theorem toNat_append {n k : Nat} (high : BitVec n) (low : BitVec k) :
    (high ++ low).toNat = high.toNat * 2 ^ k + low.toNat := by
  rw [BitVec.toNat_append, ← Nat.shiftLeft_add_eq_or_of_lt low.isLt, Nat.shiftLeft_eq]

theorem toNat_packComponents (exponent : BitVec 11) (mantissa : BitVec 52) :
    (packComponents Format.binary64 sign exponent mantissa).toNat =
      (sign.toBitVec.toNat * 2 ^ 11 + exponent.toNat) * 2 ^ 52 + mantissa.toNat := by
  rw [packComponents, toNat_append, toNat_append]

/-- The exponent field of a double. -/
structure ExponentField (m : Nat) (e : Int) (field : Nat) : Prop where
  lt : field < 2047
  normal : 2 ^ 52 ≤ m -> (field : Int) = e + 1075
  subnormal : m < 2 ^ 52 -> field = 0

theorem IsDouble.exists_field {m : Nat} {e : Int} (h : IsDouble m e) :
    exists field, ExponentField m e field := by
  rcases h with ⟨_, _, hleast, hmost, _⟩
  by_cases hnormal : 2 ^ 52 ≤ m
  · refine ⟨(e + 1075).toNat, ?_, ?_, ?_⟩ <;> omega
  · exact ⟨0, by decide, by omega, fun _ => rfl⟩

theorem pack_finite {m : Nat} {e : Int} {field : Nat} (h : IsDouble m e)
    (hfield : ExponentField m e field) :
    UnpackedFloat.pack Format.binary64 (.finite sign m e h.pos) =
      packComponents Format.binary64 sign (BitVec.ofNat 11 field) (BitVec.ofNat 52 m) := by
  have hpack : UnpackedFloat.pack Format.binary64 (.finite sign m e h.pos) =
      if 2 ^ 11 ≤ (e + (1023 : Nat) + (52 : Nat)).toNat + 1 then packedInfinity Format.binary64 sign
      else if m.log2 + 1 = 53 then
        packComponents Format.binary64 sign (BitVec.ofNat 11 (e + (1023 : Nat) + (52 : Nat)).toNat)
          (BitVec.ofNat 52 m)
      else packComponents Format.binary64 sign 0 (BitVec.ofNat 52 m) := rfl
  have hlog := (Nat.log2_lt (Nat.ne_of_gt h.pos)).mpr h.lt
  have hle := Nat.le_log2 (Nat.ne_of_gt h.pos) (k := 52)
  rcases h with ⟨_, _, hleast, hmost, _⟩
  rcases hfield with ⟨_, hnormal, hsubnormal⟩
  rw [hpack, if_neg (by omega)]
  by_cases hm : 2 ^ 52 ≤ m
  · have hplace : (e + (1023 : Nat) + (52 : Nat)).toNat = field := by
      have hnormal := hnormal hm
      omega
    rw [if_pos (by omega), hplace]
  · have hplace : field = 0 := hsubnormal (by omega)
    rw [if_neg (by omega), hplace]
    rfl

/-- Packing keeps a mantissa and an exponent that some double has. -/
theorem Value.ofFloat_pack {m : Nat} {e : Int} (h : IsDouble m e) :
    ofFloat (.ofModel (.pack (.finite sign m e h.pos))) = .finite (sign == .negative) m e := by
  generalize hx : Float.ofModel (.pack (.finite sign m e h.pos)) = x
  rcases h.exists_field with ⟨field, hfield⟩
  have hbits : x.toBits.toNat = (sign.toBitVec.toNat * 2 ^ 11 + field) * 2 ^ 52 + m % 2 ^ 52 := by
    have htoNat := (congrArg BitVec.toNat (pack_finite sign h hfield)).trans
      (toNat_packComponents sign _ _)
    have hfield' : field < 2 ^ 11 := Nat.lt_trans hfield.lt (by decide)
    rw [BitVec.toNat_ofNat, BitVec.toNat_ofNat, Nat.mod_eq_of_lt hfield'] at htoNat
    rw [← hx]
    exact htoNat
  have hsign : decide (2 ^ 63 ≤ x.toBits.toNat) = (sign == .negative) := by
    have hlt := hfield.lt
    cases sign with
    | positive => exact decide_eq_false (by rw [hbits, Sign.toBitVec, BitVec.toNat_ofNat]; omega)
    | negative => exact decide_eq_true (by rw [hbits, Sign.toBitVec, BitVec.toNat_ofNat]; omega)
  have hpow : forall n, Nat.pow 2 n = 2 ^ n := fun _ => rfl
  have hscale : x.toBits.toNat / 2 ^ 52 % 2 ^ 11 = field := by
    have hlt := hfield.lt
    omega
  have hfraction : x.toBits.toNat % 2 ^ 52 = m % 2 ^ 52 := by omega
  unfold ofFloat
  simp only [hpow, hscale, hfraction, hsign, beq_iff_eq, if_neg (Nat.ne_of_lt hfield.lt)]
  rcases h with ⟨_, hlt, hleast, _, hnormal⟩
  rcases hfield with ⟨_, hnormal', hsubnormal⟩
  by_cases hm : 2 ^ 52 ≤ m
  · have hplace := hnormal' hm
    have hmantissa : 2 ^ 52 + m % 2 ^ 52 = m := by omega
    have hexponent : (field : Int) - 1075 = e := by omega
    rw [if_neg (by omega), hmantissa, Int.ofNat_eq_natCast, hexponent]
  · have hexponent : e = -1074 := by omega
    rw [if_pos (hsubnormal (by omega)), Nat.mod_eq_of_lt (by omega), hexponent]

end Pack

theorem exists_unpack_of_value {x : Float} {m : Nat} {e : Int}
    (h : Value.ofFloat x = .finite false m e) (hm : m ≠ 0) :
    exists hpos, x.toModel.unpack = .finite .positive m e hpos := by
  rw [Value.ofFloat_eq] at h
  cases hunpack : x.toModel.unpack with
  | notANumber =>
      rw [hunpack] at h
      cases h
  | infinity sign =>
      rw [hunpack] at h
      cases h
  | zero sign =>
      rw [hunpack] at h
      exact absurd (Value.finite.inj h).2.1.symm hm
  | finite sign significand exponent hpos =>
      rw [hunpack] at h
      rcases Value.finite.inj h with ⟨hsign, rfl, rfl⟩
      cases sign with
      | positive => exact ⟨hpos, rfl⟩
      | negative => exact absurd hsign (by decide)

end Decimal
end DeckTools
