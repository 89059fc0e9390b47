import DeckTools.Proofs.Json.Numeral
import Mathlib.Algebra.Order.Field.Power
import Mathlib.Data.Rat.Cast.Order
import Mathlib.Tactic.Linarith

/-!
# What a numeral amounts to

A numeral amounts to its digits without the point, times a power of ten.  The reader takes as
many of the digits as fit in 64 bits, so it comes to that amount if they all do and to no more
than that otherwise.
-/

namespace DeckTools
namespace Json

open Text

theorem appendDigits_cons (s : Nat) (d : Char) (rest : List Char) :
    appendDigits s (d :: rest) =
      if 10 * s + (d.toNat - '0'.toNat) ≤ significandLimit then
        appendDigits (10 * s + (d.toNat - '0'.toNat)) rest
      else (s, d :: rest) := by
  rw [appendDigits, Nat.mul_comm]

/-- Digits are taken from the front while they fit. -/
theorem exists_appendDigits {s : Nat} {ds : List Char} (hs : s ≤ significandLimit) :
    exists read rest, ds = read ++ rest ∧
      appendDigits s ds = (Nat.ofDigitChars 10 read s, rest) ∧
      Nat.ofDigitChars 10 read s ≤ significandLimit ∧
      (Nat.ofDigitChars 10 ds s ≤ significandLimit -> rest = []) := by
  induction ds generalizing s with
  | nil => exact ⟨[], [], rfl, by rw [Nat.ofDigitChars_nil, appendDigits], hs, fun _ => rfl⟩
  | cons d ds ih =>
      rw [appendDigits_cons]
      by_cases hnext : 10 * s + (d.toNat - '0'.toNat) ≤ significandLimit
      · rcases ih hnext with ⟨read, rest, rfl, happend, hle, hall⟩
        refine ⟨d :: read, rest, rfl, ?_, ?_, ?_⟩
        · rw [if_pos hnext, happend, Nat.ofDigitChars_cons]
        · rwa [Nat.ofDigitChars_cons]
        · rwa [Nat.ofDigitChars_cons]
      · refine ⟨[], d :: ds, rfl, ?_, hs, ?_⟩
        · rw [if_neg hnext, Nat.ofDigitChars_nil]
        · intro hall
          rw [Nat.ofDigitChars_cons, Nat.ofDigitChars_eq_ofDigitChars_zero] at hall
          have hpos : 1 ≤ 10 ^ ds.length := Nat.one_le_pow _ _ (by decide)
          have hmul := Nat.mul_le_mul_right (10 * s + (d.toNat - '0'.toNat)) hpos
          omega

namespace Numeral

variable (n : Numeral)

/-- The digits of a numeral as they stand, without the point. -/
def digits : Nat :=
  digitsToNat (n.whole ++ n.fraction.getD [])

def shift : Int :=
  match n.exponent with
  | some (true, ds) => -(digitsToNat ds)
  | some (false, ds) => digitsToNat ds
  | none => 0

/-- The power of ten that the last digit of a numeral stands for. -/
def power : Int :=
  n.shift - (n.fraction.getD []).length

theorem digits_eq : n.digits = Nat.ofDigitChars 10 (n.fraction.getD []) (digitsToNat n.whole) := by
  rw [digits, digitsToNat_eq_ofDigitChars, Nat.ofDigitChars_append, digitsToNat_eq_ofDigitChars]

/-- What a reader makes of the digits of a numeral that is no whole number. -/
structure Reads (n : Numeral) (significand : Nat) (exponent : Int) : Prop where
  value : n.value? =
    (scaled? significand exponent).map (fun x => Json.float (if n.negative then -x else x))
  fits : significand ≤ significandLimit
  le : (significand : ℚ) * 10 ^ exponent ≤ n.digits * 10 ^ n.power
  exact : n.digits ≤ significandLimit -> significand = n.digits ∧ exponent = n.power

variable {n}

theorem exists_reads (hpoint : n.fraction.isSome || n.exponent.isSome)
    (hwhole : digitsToNat n.whole ≤ significandLimit) :
    exists significand exponent, n.Reads significand exponent := by
  have happend : appendDigits 0 n.whole = (digitsToNat n.whole, []) := by
    rw [digitsToNat_eq_ofDigitChars] at hwhole ⊢
    rcases @exists_appendDigits 0 n.whole (Nat.zero_le _) with
      ⟨read, rest, hsplit, happend, _, hall⟩
    rw [hall hwhole, List.append_nil] at hsplit
    rw [happend, hall hwhole, hsplit]
  rcases @exists_appendDigits _ (n.fraction.getD []) hwhole with
    ⟨read, rest, hsplit, hfraction, hfits, hall⟩
  rw [← digits_eq] at hall
  refine ⟨Nat.ofDigitChars 10 read (digitsToNat n.whole), n.power + rest.length, ?_, hfits, ?_, ?_⟩
  · have hexponent : Int.ofNat ([] : List Char).length -
        Int.ofNat ((n.fraction.getD []).length - rest.length) + n.shift =
          n.power + rest.length := by
      rw [power, hsplit, List.length_append]
      simp
      omega
    unfold value?
    rw [happend]
    dsimp only
    rw [hfraction]
    simp only [isWhole_eq_false hpoint, Bool.false_and, Bool.false_eq_true, if_false]
    exact congrArg (fun e => (scaled? _ e).map _) hexponent
  · have hrest : Nat.ofDigitChars 10 read (digitsToNat n.whole) * 10 ^ rest.length ≤ n.digits := by
      rw [digits_eq, hsplit, Nat.ofDigitChars_append,
        Nat.ofDigitChars_eq_ofDigitChars_zero (l := rest), Nat.mul_comm]
      exact Nat.le_add_right _ _
    have hcast : (Nat.ofDigitChars 10 read (digitsToNat n.whole) : ℚ) * 10 ^ rest.length ≤
        n.digits := by
      exact_mod_cast hrest
    rw [zpow_add₀ (by norm_num), zpow_natCast, mul_left_comm, mul_comm]
    gcongr
  · intro hle
    rw [digits_eq, hsplit, hall hle, List.append_nil, List.length_nil, Nat.cast_zero, add_zero]
    exact ⟨rfl, rfl⟩

end Numeral

end Json

namespace Decimal

open Json Text

theorem digitsToNat_digitChars (n : Nat) : digitsToNat (digitChars n) = n := by
  rw [digitsToNat_eq_ofDigitChars]
  exact Nat.ofDigitChars_ten_toDigits

theorem digitsToNat_append_zeros (ds : List Char) (zeros : Nat) :
    digitsToNat (ds ++ List.replicate zeros '0') = digitsToNat ds * 10 ^ zeros := by
  rw [digitsToNat_eq_ofDigitChars, digitsToNat_eq_ofDigitChars, Nat.ofDigitChars_append,
    Nat.ofDigitChars_replicate_zero, Nat.mul_comm]

theorem digitsToNat_lt {ds : List Char} (h : ds.all Char.isDigit = true) :
    digitsToNat ds < 10 ^ ds.length := by
  induction ds with
  | nil => decide
  | cons d ds ih =>
      rw [List.all_cons, Bool.and_eq_true] at h
      rcases exists_eq_digitChar h.1 with ⟨v, hv, rfl⟩
      have hrest := ih h.2
      rw [digitsToNat_eq_ofDigitChars] at hrest ⊢
      rw [Nat.ofDigitChars_cons_digitChar_of_lt_ten hv, Nat.ofDigitChars_eq_ofDigitChars_zero,
        List.length_cons, Nat.pow_succ]
      have hle : 10 ^ ds.length * (10 * 0 + v) ≤ 10 ^ ds.length * 9 :=
        Nat.mul_le_mul_left _ (by omega)
      omega

theorem length_whole_numeral (negative : Bool) (d : Digits) :
    (numeral negative d).whole.length ≤ 16 := by
  unfold numeral
  dsimp only
  generalize digitChars d.digits = ds
  have hone : 1 ≤ 16 := by decide
  split
  · exact hone
  · split
    case isTrue hlarge =>
        have hexponent : 0 ≤ d.exponent ∧ ds.length + d.exponent ≤ 16 := by simp_all
        rw [List.length_append, List.length_replicate]
        omega
    case isFalse hlarge =>
        split
        case isTrue hmiddle =>
            have htop : ds.length + d.exponent ≤ 16 := by simp_all
            split
            · exact hone
            · rw [List.length_take]
              omega
        case isFalse hsmall =>
            rw [List.length_take]
            omega

/-- The digits before the point of a double all fit in 64 bits. -/
theorem whole_numeral_le (negative : Bool) (d : Digits) :
    digitsToNat (numeral negative d).whole ≤ significandLimit := by
  have hlt := digitsToNat_lt (wellFormed_numeral negative d).whole
  have hpow : 10 ^ (numeral negative d).whole.length ≤ 10 ^ 16 :=
    Nat.pow_le_pow_right (by decide) (length_whole_numeral negative d)
  exact (hlt.trans_le hpow).le.trans (by decide)

/-! ## The four ways to write digits -/

section Shapes

variable (negative : Bool) (ds : List Char) (k : Nat)

theorem amount_whole :
    (Numeral.mk negative (ds ++ List.replicate k '0') (some ['0']) none).digits =
        digitsToNat ds * 10 ^ (k + 1) ∧
      (Numeral.mk negative (ds ++ List.replicate k '0') (some ['0']) none).power = -1 := by
  refine ⟨?_, rfl⟩
  rw [← digitsToNat_append_zeros, List.replicate_succ', ← List.append_assoc]
  rfl

theorem amount_below_one :
    (Numeral.mk negative ['0'] (some (List.replicate k '0' ++ ds)) none).digits =
        digitsToNat ds ∧
      (Numeral.mk negative ['0'] (some (List.replicate k '0' ++ ds)) none).power =
        -(k + ds.length) := by
  constructor
  · exact digitsToNat_zeros_append (k + 1) ds
  · rw [Numeral.power, Option.getD_some, List.length_append, List.length_replicate]
    exact Int.zero_sub _

theorem amount_pointed :
    (Numeral.mk negative (ds.take k) (some (ds.drop k)) none).digits = digitsToNat ds ∧
      (Numeral.mk negative (ds.take k) (some (ds.drop k)) none).power = -(ds.length - k : Nat) := by
  constructor
  · exact congrArg digitsToNat (List.take_append_drop k ds)
  · rw [Numeral.power, Option.getD_some, List.length_drop]
    exact Int.zero_sub _

theorem amount_scientific (e : Int) :
    (Numeral.mk negative (ds.take 1) (if ds.length = 1 then none else some (ds.drop 1))
        (some (decide (e < 0), digitChars e.natAbs))).digits = digitsToNat ds ∧
      (Numeral.mk negative (ds.take 1) (if ds.length = 1 then none else some (ds.drop 1))
        (some (decide (e < 0), digitChars e.natAbs))).power = e - (ds.length - 1 : Nat) := by
  have hfraction : (if ds.length = 1 then none else some (ds.drop 1)).getD [] = ds.drop 1 := by
    split
    case isTrue hone => exact (List.drop_eq_nil_of_le hone.le).symm
    case isFalse => rfl
  have hshift : (if e < 0 then -(e.natAbs : Int) else e.natAbs) = e := by omega
  constructor
  · rw [Numeral.digits, hfraction, List.take_append_drop]
  · rw [Numeral.power, hfraction, List.length_drop, Numeral.shift]
    by_cases hnegative : e < 0
    · rw [if_pos hnegative] at hshift
      rw [decide_eq_true hnegative]
      dsimp only
      rw [digitsToNat_digitChars, hshift]
    · rw [if_neg hnegative] at hshift
      rw [decide_eq_false hnegative]
      dsimp only
      rw [digitsToNat_digitChars, hshift]

end Shapes

/-- The numeral of digits spells them with zeros after them, if anything. -/
theorem exists_digits_numeral (negative : Bool) (d : Digits) (hd : d.digits ≠ 0) :
    exists zeros : Nat, (numeral negative d).digits = d.digits * 10 ^ zeros ∧
      (numeral negative d).power + zeros = d.exponent := by
  have hdigits := digitsToNat_digitChars d.digits
  have hzero : (d.digits == 0) = false := beq_eq_false_iff_ne.mpr hd
  have hpos : 0 < (digitChars d.digits).length := List.length_pos_iff.mpr Nat.toDigits_ne_nil
  unfold numeral
  dsimp only
  rw [hzero, if_neg Bool.false_ne_true]
  generalize digitChars d.digits = ds at *
  split
  case isTrue hlarge =>
      have hexponent : 0 ≤ d.exponent := by simp_all
      have hamount := amount_whole negative ds d.exponent.toNat
      rw [hdigits] at hamount
      exact ⟨d.exponent.toNat + 1, hamount.1, by rw [hamount.2]; omega⟩
  case isFalse hlarge =>
      refine ⟨0, ?_⟩
      rw [pow_zero, mul_one, Nat.cast_zero, add_zero, ← hdigits]
      split
      case isTrue hmiddle =>
          have hexponent : d.exponent < 0 := by simp_all; omega
          split
          case isTrue hshort =>
              have hamount := amount_below_one negative ds ((-d.exponent).toNat - ds.length)
              exact ⟨hamount.1, by rw [hamount.2]; omega⟩
          case isFalse hlong =>
              have hamount := amount_pointed negative ds (ds.length - (-d.exponent).toNat)
              exact ⟨hamount.1, by rw [hamount.2]; omega⟩
      case isFalse hsmall =>
          have hamount := amount_scientific negative ds (ds.length + d.exponent - 1)
          exact ⟨hamount.1, by rw [hamount.2]; omega⟩

end Decimal

end DeckTools
