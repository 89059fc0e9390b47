import DeckTools.Proofs.Decimal.Binary
import Mathlib.Algebra.Order.Field.Power
import Mathlib.Data.Int.Log
import Mathlib.Data.Rat.Floor
import Mathlib.Tactic.FieldSimp
import Mathlib.Tactic.Linarith

/-!
# Rounding to doubles

Arithmetic cuts an exact number down to a mantissa and keeps what the number has in excess of
it in two bits.  Those two bits are enough to find the nearest mantissa, an even one if two
are equally near.
-/

namespace DeckTools
namespace Decimal

open Float.Model Float.Model.UnpackedFloat

/-! ## Mantissas and what was cut off -/

/-- What an accuracy says of the number that a mantissa was cut from. -/
def Tells : Accuracy -> Nat -> ℚ -> Prop
  | .exact, m, v => v = m
  | .inexact .lt, m, v => m < v ∧ v < m + 1 / 2
  | .inexact .eq, m, v => v = m + 1 / 2
  | .inexact .gt, m, v => m + 1 / 2 < v ∧ v < m + 1

theorem Tells.floor {accuracy : Accuracy} {m : Nat} {v : ℚ} (h : Tells accuracy m v) :
    m ≤ v ∧ v < m + 1 := by
  rcases accuracy with _ | _ | _ | _ <;> simp only [Tells] at h <;> constructor <;> linarith

theorem tells_ofMantissaAndAccuracy {accuracy : Accuracy} {m : Nat} {v : ℚ}
    (h : Tells accuracy m v) :
    Tells (ExtendedMantissa.ofMantissaAndAccuracy m accuracy).accuracy
      (ExtendedMantissa.ofMantissaAndAccuracy m accuracy).mantissa v := by
  rcases accuracy with _ | _ | _ | _ <;> exact h

theorem tells_shiftRightOne {em : ExtendedMantissa} {v : ℚ}
    (h : Tells em.accuracy em.mantissa v) :
    Tells em.shiftRightOne.accuracy em.shiftRightOne.mantissa (v / 2) := by
  rcases em with ⟨m, round, sticky⟩
  have hhalf : (m : ℚ) = 2 * (m / 2 : Nat) + (m % 2 : Nat) := by
    exact_mod_cast (Nat.div_add_mod m 2).symm
  rcases Nat.mod_two_eq_zero_or_one m with hmod | hmod
  · cases round <;> cases sticky <;>
      simp_all [ExtendedMantissa.shiftRightOne, ExtendedMantissa.accuracy, Tells] <;>
      constructor <;> linarith
  · cases round <;> cases sticky <;>
      simp_all [ExtendedMantissa.shiftRightOne, ExtendedMantissa.accuracy, Tells] <;>
      first | linarith | constructor <;> linarith

theorem tells_shiftRight {em : ExtendedMantissa} {v : ℚ} (h : Tells em.accuracy em.mantissa v)
    (n : Nat) : Tells (em >>> n).accuracy (em >>> n).mantissa (v / 2 ^ n) := by
  change Tells (n.repeat ExtendedMantissa.shiftRightOne em).accuracy
    (n.repeat ExtendedMantissa.shiftRightOne em).mantissa _
  induction n with
  | zero => simpa [Nat.repeat] using h
  | succ n ih =>
      rw [Nat.repeat, pow_succ, ← div_div]
      exact tells_shiftRightOne ih

/-! ## The nearest whole number -/

/-- A whole number that none is nearer to than to this one, the even one of two. -/
structure Nearest (v : ℚ) (n : Nat) : Prop where
  low : n - 1 / 2 ≤ v
  high : v ≤ n + 1 / 2
  even : v = n - 1 / 2 ∨ v = n + 1 / 2 -> n % 2 = 0

theorem Tells.nearest {em : ExtendedMantissa} {v : ℚ} (h : Tells em.accuracy em.mantissa v) :
    Nearest v em.roundedMantissa := by
  rw [ExtendedMantissa.roundedMantissa]
  generalize em.accuracy = accuracy at h
  generalize em.mantissa = m at h
  rcases accuracy with _ | _ | _ | _
  case exact | inexact.lt =>
      rw [Tells] at h
      rw [Accuracy.roundToNearestEven]
      constructor
      · linarith
      · linarith
      · rintro (hv | hv) <;> linarith
  case inexact.eq =>
      rw [Tells] at h
      rw [Accuracy.roundToNearestEven]
      have hmod : ((m % 2 : Nat) : ℚ) ≤ 1 := by exact_mod_cast Nat.le_of_lt_succ (m.mod_lt two_pos)
      have hmod' : (0 : ℚ) ≤ (m % 2 : Nat) := by exact_mod_cast Nat.zero_le _
      refine ⟨?_, ?_, fun _ => by omega⟩ <;> push_cast at * <;> linarith
  case inexact.gt =>
      rw [Tells] at h
      rw [Accuracy.roundToNearestEven]
      refine ⟨?_, ?_, ?_⟩ <;> push_cast
      · linarith
      · linarith
      · rintro (hv | hv) <;> linarith

theorem Nearest.le {v : ℚ} {n m : Nat} (hn : Nearest v n) (hm : Nearest v m) : n ≤ m := by
  by_contra hlt
  have hle : (m : ℚ) + 1 ≤ n := by exact_mod_cast Nat.lt_of_not_le hlt
  have hlow := hn.low
  have hhigh := hm.high
  have hnext : (n : ℚ) = (m + 1 : Nat) := by
    push_cast
    linarith
  have heven := hn.even (.inl (by linarith))
  have heven' := hm.even (.inr (by linarith))
  have hsucc : n = m + 1 := by exact_mod_cast hnext
  omega

theorem Nearest.unique {v : ℚ} {n m : Nat} (hn : Nearest v n) (hm : Nearest v m) : n = m :=
  Nat.le_antisymm (hn.le hm) (hm.le hn)

theorem Nearest.mono {v w : ℚ} {n k : Nat} (hn : Nearest v n) (hk : Nearest w k) (hle : v ≤ w) :
    n ≤ k := by
  rcases hle.eq_or_lt with rfl | hlt
  · exact hn.le hk
  · by_contra hgt
    have hnext : (k : ℚ) + 1 ≤ n := by exact_mod_cast Nat.lt_of_not_le hgt
    have hlow := hn.low
    have hhigh := hk.high
    linarith

theorem exists_tells {v : ℚ} (hv : 0 ≤ v) : exists accuracy, Tells accuracy (Nat.floor v) v := by
  have hfloor := Nat.floor_le hv
  have hlt := Nat.lt_floor_add_one v
  rcases hfloor.eq_or_lt with hexact | hinexact
  · exact ⟨.exact, hexact.symm⟩
  · rcases lt_trichotomy v (Nat.floor v + 1 / 2) with hhalf | hhalf | hhalf
    · exact ⟨.inexact .lt, hinexact, hhalf⟩
    · exact ⟨.inexact .eq, hhalf⟩
    · exact ⟨.inexact .gt, hhalf, hlt⟩

theorem exists_nearest {v : ℚ} (hv : 0 ≤ v) : exists n, Nearest v n := by
  rcases exists_tells hv with ⟨accuracy, htells⟩
  exact ⟨_, (tells_ofMantissaAndAccuracy htells).nearest⟩

/-! ## The last place of a double -/

/-- The power of two that doubles next to `v` are multiples of. -/
structure LastPlace (v : ℚ) (t : Int) : Prop where
  high : v < 2 ^ (53 + t)
  low : 2 ^ (52 + t) ≤ v ∨ t = -1074
  least : -1074 ≤ t

theorem targetExponent_eq (m : Nat) (e : Int) :
    Format.binary64.targetExponent (totalExponent m e) = max (m.log2 + 1 + e - 53) (-1074) :=
  rfl

theorem div_two_zpow_lt {v : ℚ} {e n : Int} : v / 2 ^ e < 2 ^ n <-> v < 2 ^ (n + e) := by
  rw [div_lt_iff₀ (by positivity), zpow_add₀ two_ne_zero]

theorem le_div_two_zpow {v : ℚ} {e n : Int} : 2 ^ n ≤ v / 2 ^ e <-> 2 ^ (n + e) ≤ v := by
  rw [le_div_iff₀ (by positivity), zpow_add₀ two_ne_zero]

theorem exists_lastPlace {v : ℚ} (hv : 0 < v) : exists t, LastPlace v t := by
  have hlow := Int.zpow_log_le_self (b := 2) one_lt_two hv
  have hhigh := Int.lt_zpow_succ_log_self (b := 2) one_lt_two v
  push_cast at hlow hhigh
  by_cases hleast : -1074 ≤ Int.log 2 v - 52
  · refine ⟨Int.log 2 v - 52, ?_, .inl ?_, hleast⟩
    · rwa [show 53 + (Int.log 2 v - 52) = Int.log 2 v + 1 by omega]
    · rwa [show 52 + (Int.log 2 v - 52) = Int.log 2 v by omega]
  · refine ⟨-1074, hhigh.trans_le ?_, .inr rfl, le_rfl⟩
    exact zpow_le_zpow_right₀ one_le_two (by omega)

theorem LastPlace.le {v w : ℚ} {t u : Int} (ht : LastPlace v t) (hu : LastPlace w u)
    (hle : v ≤ w) : t ≤ u := by
  by_contra hlt
  rcases ht.low with hlow | hleast
  · have hpow := (zpow_lt_zpow_iff_right₀ (one_lt_two : (1 : ℚ) < 2)).mp
      (hlow.trans_lt (hle.trans_lt hu.high))
    omega
  · have hleast' := hu.least
    omega

theorem LastPlace.unique {v : ℚ} {t u : Int} (ht : LastPlace v t) (hu : LastPlace v u) : t = u :=
  le_antisymm (ht.le hu le_rfl) (hu.le ht le_rfl)

theorem LastPlace.targetExponent {v : ℚ} {m : Nat} {e t : Int} {accuracy : Accuracy}
    (ht : LastPlace v t) (hm : Tells accuracy m (v / 2 ^ e)) (he : e ≤ t) :
    Format.binary64.targetExponent (totalExponent m e) = t := by
  obtain ⟨k, rfl⟩ := Int.le.dest he
  rcases hm.floor with ⟨hfloor, hceil⟩
  have hlt : m < 2 ^ (53 + k) := by
    have hv : v / 2 ^ e < 2 ^ ((53 : Int) + k) := by
      rw [div_two_zpow_lt, show (53 : Int) + k + e = 53 + (e + k) by omega]
      exact ht.high
    exact_mod_cast hfloor.trans_lt hv
  rw [targetExponent_eq]
  have hleast := ht.least
  rcases ht.low with hlow | hlow
  · have hle : 2 ^ (52 + k) ≤ m := by
      have hv : (2 : ℚ) ^ ((52 : Int) + k) ≤ v / 2 ^ e := by
        rw [le_div_two_zpow, show (52 : Int) + k + e = 52 + (e + k) by omega]
        exact hlow
      have hlt : (2 ^ (52 + k) : Nat) < m + 1 := by exact_mod_cast hv.trans_lt hceil
      exact Nat.le_of_lt_succ hlt
    have hpos : m ≠ 0 := fun h => absurd hle (by rw [h]; exact Nat.not_le.mpr (Nat.two_pow_pos _))
    have hlog := (Nat.le_log2 hpos).mpr hle
    have hlog' := (Nat.log2_lt hpos).mpr hlt
    omega
  · have hlog : m.log2 < 53 + k := by
      by_cases hzero : m = 0
      · rw [hzero, Nat.log2_zero]
        omega
      · exact (Nat.log2_lt hzero).mpr hlt
    omega

theorem LastPlace.nearest_le {v : ℚ} {t : Int} {n : Nat} (ht : LastPlace v t)
    (hn : Nearest (v / 2 ^ t) n) : n ≤ 2 ^ 53 := by
  have hv : v / 2 ^ t < 2 ^ (53 : Int) := div_two_zpow_lt.mpr ht.high
  have hlow := hn.low
  by_contra hlt
  have hle : (2 : ℚ) ^ 53 + 1 ≤ n := by exact_mod_cast Nat.lt_of_not_le hlt
  have hpow : (2 : ℚ) ^ (53 : Int) = 2 ^ 53 := rfl
  rw [hpow] at hv
  linarith

/-- The double with a mantissa of at most `2 ^ 53` at a last place. -/
def rounded (sign : Sign) (n : Nat) (t : Int) : UnpackedFloat :=
  if h : n = 0 then .zero sign
  else if n < 2 ^ 53 then .finite sign n t (Nat.pos_of_ne_zero h)
  else .finite sign (2 ^ 52) (t + 1) (by decide)

theorem shiftToTargetExponent_of_lt {n : Nat} {t : Int} (hn : n < 2 ^ 53) (ht : -1074 ≤ t) :
    shiftToTargetExponent Format.binary64 n t .exact = (⟨n, false, false⟩, t) := by
  have hlog : n.log2 < 53 := by
    by_cases hzero : n = 0
    · rw [hzero, Nat.log2_zero]
      decide
    · exact (Nat.log2_lt hzero).mpr hn
  have hplace : (Format.binary64.targetExponent (totalExponent n t) - t).toNat = 0 := by
    rw [targetExponent_eq]
    omega
  simp only [shiftToTargetExponent, shiftToExponent, hplace]
  exact congrArg (Prod.mk _) (Int.add_zero t)

theorem shiftToTargetExponent_two_pow {t : Int} (ht : -1074 ≤ t) :
    shiftToTargetExponent Format.binary64 (2 ^ 53) t .exact =
      (⟨2 ^ 52, false, false⟩, t + 1) := by
  have hplace : (Format.binary64.targetExponent (totalExponent (2 ^ 53) t) - t).toNat = 1 := by
    rw [targetExponent_eq, Nat.log2_two_pow]
    omega
  simp only [shiftToTargetExponent, shiftToExponent, hplace]
  rfl

/-- A number that is told by a mantissa is rounded to its nearest double. -/
theorem roundWithAccuracy_eq {sign : Sign} {m n : Nat} {e t : Int} {accuracy : Accuracy} {v : ℚ}
    (hm : Tells accuracy m (v / 2 ^ e)) (he : e ≤ t) (ht : LastPlace v t)
    (hn : Nearest (v / 2 ^ t) n) :
    roundWithAccuracy Format.binary64 sign m e accuracy = rounded sign n t := by
  obtain ⟨k, rfl⟩ := Int.le.dest he
  have hshift : shiftToTargetExponent Format.binary64 m e accuracy =
      (ExtendedMantissa.ofMantissaAndAccuracy m accuracy >>> k, e + k) := by
    have hk : (e + k - e).toNat = k := by omega
    rw [shiftToTargetExponent, ht.targetExponent hm he, shiftToExponent, hk]
  have htells := tells_shiftRight (tells_ofMantissaAndAccuracy hm) k
  rw [div_div, ← zpow_natCast, ← zpow_add₀ two_ne_zero] at htells
  have hmantissa := htells.nearest.unique hn
  rw [roundWithAccuracy, hshift]
  dsimp only
  rw [hmantissa, rounded]
  rcases Nat.lt_or_eq_of_le (ht.nearest_le hn) with hlt | rfl
  · rw [shiftToTargetExponent_of_lt hlt ht.least]
    by_cases hzero : n = 0
    · rw [dif_pos hzero, dif_pos hzero]
    · rw [dif_neg hzero, dif_neg hzero, if_pos hlt]
  · rw [shiftToTargetExponent_two_pow ht.least]
    rfl

/-! ## Products and quotients -/

section Operations

variable {sign₁ sign₂ : Sign} {m₁ m₂ n : Nat} {e₁ e₂ t : Int} {h₁ : 0 < m₁} {h₂ : 0 < m₂}
  {v : ℚ}

theorem mul_finite (hv : v = m₁ * 2 ^ e₁ * (m₂ * 2 ^ e₂)) (he : e₁ + e₂ ≤ t)
    (ht : LastPlace v t) (hn : Nearest (v / 2 ^ t) n) :
    UnpackedFloat.mul Format.binary64 (.finite sign₁ m₁ e₁ h₁) (.finite sign₂ m₂ e₂ h₂) =
      rounded (sign₁ * sign₂) n t := by
  have hexact : v / 2 ^ (e₁ + e₂) = (m₁ * m₂ : Nat) := by
    rw [hv, zpow_add₀ two_ne_zero]
    push_cast
    field_simp
  exact roundWithAccuracy_eq hexact he ht hn

end Operations

end Decimal
end DeckTools
