import DeckTools.Proofs.Decimal.Rounding

/-!
# Arithmetic on doubles

A double is exactly one number and is the nearest to many.  Products and quotients of doubles
are the doubles nearest to those of the exact numbers, unless these are too large.
-/

namespace DeckTools
namespace Decimal

open Float.Model Float.Model.UnpackedFloat

/-! ## The numbers that a double stands for -/

/-- The numbers whose nearest double has a mantissa and an exponent. -/
structure Owns (m : Nat) (e : Int) (v : ℚ) : Prop where
  low : m - 1 / 2 ≤ v / 2 ^ e
  high : v / 2 ^ e ≤ m + 1 / 2
  open_of_odd : m % 2 = 1 -> m - 1 / 2 < v / 2 ^ e ∧ v / 2 ^ e < m + 1 / 2
  /-- Doubles are twice as dense below a power of two. -/
  low_of_power : m = 2 ^ 52 -> e ≠ -1074 -> m - 1 / 4 ≤ v / 2 ^ e

section Owns

variable {m : Nat} {e : Int} {v : ℚ}

theorem owns_self (hv : v = m * 2 ^ e) : Owns m e v := by
  have hdiv : v / 2 ^ e = m := by
    rw [hv, mul_div_cancel_right₀ _ (by positivity)]
  constructor <;> rw [hdiv] <;> intros <;> (try constructor) <;> linarith

theorem Owns.nearest (h : Owns m e v) : Nearest (v / 2 ^ e) m where
  low := h.low
  high := h.high
  even := by
    intro htie
    by_contra hodd
    have hopen := h.open_of_odd (by omega)
    rcases htie with heq | heq
    · exact hopen.1.ne heq.symm
    · exact hopen.2.ne heq

theorem Owns.lastPlace (h : Owns m e v) (hdouble : IsDouble m e)
    (hsame : 2 ^ (52 : Int) ≤ v / 2 ^ e ∨ e = -1074) : LastPlace v e where
  high := by
    have hm : (m : ℚ) + 1 ≤ 2 ^ (53 : Int) := by exact_mod_cast hdouble.lt
    have hhigh := h.high
    rw [← div_two_zpow_lt]
    linarith
  low := hsame.imp_left le_div_two_zpow.mp
  least := hdouble.least

theorem div_two_zpow_sub_one (v : ℚ) (e : Int) : v / 2 ^ (e - 1) = 2 * (v / 2 ^ e) := by
  rw [zpow_sub_one₀ two_ne_zero]
  field_simp

/-- Just below a power of two the last place is one lower, and rounding carries. -/
theorem Owns.below_power (h : Owns m e v) (hdouble : IsDouble m e)
    (hbelow : v / 2 ^ e < 2 ^ 52) (hleast : e ≠ -1074) :
    m = 2 ^ 52 ∧ LastPlace v (e - 1) ∧ Nearest (v / 2 ^ (e - 1)) (2 ^ 53) := by
  have hlow := h.low
  have hnormal : 2 ^ 52 ≤ m := hdouble.normal.resolve_right hleast
  have hpower : m = 2 ^ 52 := by
    by_contra hne
    have hnext : (2 : ℚ) ^ 52 + 1 ≤ m := by exact_mod_cast lt_of_le_of_ne hnormal (Ne.symm hne)
    linarith
  subst hpower
  have hquarter := h.low_of_power rfl hleast
  push_cast at hquarter
  refine ⟨rfl, ⟨?high, .inl ?low, ?least⟩, ⟨?near, ?near', fun _ => rfl⟩⟩
  case high =>
      have hpow : (2 : ℚ) ^ (53 : Int) = 2 * 2 ^ 52 := by norm_num
      rw [← div_two_zpow_lt, div_two_zpow_sub_one, hpow]
      linarith
  case low =>
      have hpow : (2 : ℚ) ^ (52 : Int) = 2 ^ 52 := rfl
      rw [← le_div_two_zpow, div_two_zpow_sub_one, hpow]
      linarith
  case least =>
      have hleast' := hdouble.least
      omega
  case near =>
      rw [div_two_zpow_sub_one]
      push_cast
      linarith
  case near' =>
      rw [div_two_zpow_sub_one]
      push_cast
      linarith

/-- What a double owns is rounded to it. -/
theorem Owns.exists_rounded (h : Owns m e v) (hdouble : IsDouble m e) :
    exists t n, LastPlace v t ∧ Nearest (v / 2 ^ t) n ∧
      forall sign, rounded sign n t = .finite sign m e hdouble.pos := by
  by_cases hsame : 2 ^ (52 : Int) ≤ v / 2 ^ e ∨ e = -1074
  · refine ⟨e, m, h.lastPlace hdouble hsame, h.nearest, fun sign => ?_⟩
    rw [rounded, dif_neg (Nat.ne_of_gt hdouble.pos), if_pos hdouble.lt]
  · rcases not_or.mp hsame with ⟨hbelow, hleast⟩
    rcases h.below_power hdouble (lt_of_not_ge hbelow) hleast with ⟨rfl, hplace, hnearest⟩
    refine ⟨e - 1, 2 ^ 53, hplace, hnearest, fun sign => ?_⟩
    rw [rounded, dif_neg (by decide), if_neg (by decide), Int.sub_add_cancel]

end Owns

/-! ## Arithmetic on doubles -/

/-- A positive double that is exactly `v`. -/
def IsExactly (x : Float) (v : ℚ) : Prop :=
  exists m e, Value.ofFloat x = .finite false m e ∧ m ≠ 0 ∧ v = m * 2 ^ e

/-- The positive double that is nearest to `v`, if `v` is not too large. -/
def Rounds (x : Float) (v : ℚ) : Prop :=
  exists t n, LastPlace v t ∧ Nearest (v / 2 ^ t) n ∧ x = .ofModel (.pack (rounded .positive n t))

theorem exists_place {v : ℚ} (hv : 0 < v) :
    exists t n, LastPlace v t ∧ Nearest (v / 2 ^ t) n := by
  rcases exists_lastPlace hv with ⟨t, ht⟩
  rcases exists_nearest (v := v / 2 ^ t) (by positivity) with ⟨n, hn⟩
  exact ⟨t, n, ht, hn⟩

theorem IsExactly.pos {x : Float} {v : ℚ} (h : IsExactly x v) : 0 < v := by
  rcases h with ⟨m, e, _, hm, rfl⟩
  have hpos : (0 : ℚ) < m := by exact_mod_cast Nat.pos_of_ne_zero hm
  positivity

theorem Rounds.eq_of_owns {x : Float} {v : ℚ} {m : Nat} {e : Int} (h : Rounds x v)
    (hv : Owns m e v) (hdouble : IsDouble m e) : Value.ofFloat x = .finite false m e := by
  rcases h with ⟨t, n, ht, hn, rfl⟩
  rcases hv.exists_rounded hdouble with ⟨u, k, hu, hk, hrounded⟩
  obtain rfl := ht.unique hu
  obtain rfl := hn.unique hk
  rw [hrounded]
  exact Value.ofFloat_pack .positive hdouble

theorem Rounds.isExactly {x : Float} {m : Nat} {e : Int} {v : ℚ} (h : Rounds x v)
    (hv : v = m * 2 ^ e) (hdouble : IsDouble m e) : IsExactly x v :=
  ⟨m, e, h.eq_of_owns (owns_self hv) hdouble, Nat.ne_of_gt hdouble.pos, hv⟩

theorem product_place_le {m₁ m₂ : Nat} {e₁ e₂ t : Int} (h₁ : IsDouble m₁ e₁) (h₂ : IsDouble m₂ e₂)
    (ht : LastPlace (m₁ * 2 ^ e₁ * (m₂ * 2 ^ e₂)) t) : e₁ + e₂ ≤ t := by
  by_cases hnormal : 2 ^ 52 ≤ m₁ * m₂
  · have hlow : (2 : ℚ) ^ (52 + (e₁ + e₂)) ≤ m₁ * 2 ^ e₁ * (m₂ * 2 ^ e₂) := by
      have hcast : (2 : ℚ) ^ (52 : Int) ≤ m₁ * m₂ := by exact_mod_cast hnormal
      rw [mul_mul_mul_comm, zpow_add₀ two_ne_zero, zpow_add₀ two_ne_zero]
      gcongr
    have hlt := (zpow_lt_zpow_iff_right₀ (one_lt_two : (1 : ℚ) < 2)).mp (hlow.trans_lt ht.high)
    omega
  · have hleast := ht.least
    have hsmall₁ : m₁ < 2 ^ 52 := by
      by_contra hle
      exact hnormal ((Nat.not_lt.mp hle).trans (Nat.le_mul_of_pos_right _ h₂.pos))
    have hsmall₂ : m₂ < 2 ^ 52 := by
      by_contra hle
      exact hnormal ((Nat.not_lt.mp hle).trans (Nat.le_mul_of_pos_left _ h₁.pos))
    rcases h₁.normal with h | h <;> rcases h₂.normal with h' | h' <;> omega

theorem rounds_mul {x y : Float} {v w : ℚ} (hx : IsExactly x v) (hy : IsExactly y w) :
    Rounds (x * y) (v * w) := by
  rcases exists_place (mul_pos hx.pos hy.pos) with ⟨t, n, ht, hn⟩
  rcases hx with ⟨m₁, e₁, hx, hm₁, rfl⟩
  rcases hy with ⟨m₂, e₂, hy, hm₂, rfl⟩
  refine ⟨t, n, ht, hn, ?_⟩
  have hle := product_place_le (Value.isDouble hx hm₁) (Value.isDouble hy hm₂) ht
  rcases exists_unpack_of_value hx hm₁ with ⟨h₁, hx⟩
  rcases exists_unpack_of_value hy hm₂ with ⟨h₂, hy⟩
  have hmul : x * y = .ofModel (.pack (UnpackedFloat.mul Format.binary64 x.toModel.unpack
    y.toModel.unpack)) := rfl
  rw [hmul, hx, hy, mul_finite rfl hle ht hn]
  rfl

/-- Half a place above the largest double; what lies below is rounded to a double. -/
def overflow : Nat :=
  (2 ^ 54 - 1) * 2 ^ 970

/-- Half places of the largest doubles, in places. -/
theorem cast_half_places (n : Nat) : ((n * 2 ^ 970 : Nat) : ℚ) = n / 2 * 2 ^ (971 : Int) := by
  have hplace : (2 : ℚ) ^ (971 : Int) = (2 ^ 970 : Nat) * 2 := by
    rw [Nat.cast_pow, ← zpow_natCast]
    exact zpow_add_one₀ two_ne_zero 970
  rw [hplace, Nat.cast_mul]
  generalize ((2 ^ 970 : Nat) : ℚ) = place
  linarith

theorem cast_overflow : (overflow : ℚ) = (2 ^ 53 - 1 / 2) * 2 ^ (971 : Int) := by
  rw [overflow, cast_half_places]
  norm_num

section Overflow

variable {v w : ℚ} {t u : Int} {n k : Nat}

theorem LastPlace.le_nearest (ht : LastPlace v t) (hn : Nearest (v / 2 ^ t) n) :
    2 ^ 52 ≤ n ∨ t = -1074 := by
  refine ht.low.imp_left (fun hlow => ?_)
  have hlow' : (2 : ℚ) ^ (52 : Int) ≤ v / 2 ^ t := le_div_two_zpow.mpr hlow
  have hhigh := hn.high
  have hpow : (2 : ℚ) ^ (52 : Int) = 2 ^ 52 := rfl
  rw [hpow] at hlow'
  have hlt : 2 ^ 52 < n + 1 := by exact_mod_cast (by linarith : (2 : ℚ) ^ 52 < n + 1)
  exact Nat.le_of_lt_succ hlt

theorem LastPlace.gt_of_one_le (ht : LastPlace v t) (hone : 1 ≤ v) : -53 < t := by
  have hlt := hone.trans_lt ht.high
  rw [one_lt_zpow_iff_right₀ one_lt_two] at hlt
  omega

theorem LastPlace.rounded_mono (ht : LastPlace v t) (hn : Nearest (v / 2 ^ t) n)
    (hu : LastPlace w u) (hk : Nearest (w / 2 ^ u) k) (hle : v ≤ w) :
    (n : ℚ) * 2 ^ t ≤ k * 2 ^ u := by
  rcases (ht.le hu hle).eq_or_lt with rfl | hlt
  · have hnk : (n : ℚ) ≤ k := by exact_mod_cast hn.mono hk (by gcongr)
    gcongr
  · have hleast := ht.least
    have hk' : (2 : ℚ) ^ (52 : Int) ≤ k := by
      exact_mod_cast (hu.le_nearest hk).resolve_right (by omega)
    have hn' : (n : ℚ) ≤ 2 ^ (53 : Int) := by exact_mod_cast ht.nearest_le hn
    calc (n : ℚ) * 2 ^ t ≤ 2 ^ (53 : Int) * 2 ^ t := by gcongr
      _ = 2 ^ (53 + t) := (zpow_add₀ two_ne_zero _ _).symm
      _ ≤ 2 ^ (52 + u) := zpow_le_zpow_right₀ one_le_two (by omega)
      _ = 2 ^ (52 : Int) * 2 ^ u := zpow_add₀ two_ne_zero _ _
      _ ≤ k * 2 ^ u := by gcongr

theorem LastPlace.le_of_lt_overflow (ht : LastPlace v t) (hv : v < overflow) : t ≤ 971 := by
  by_contra hlt
  have hlow := ht.low.resolve_right (by omega)
  have hpow : (2 : ℚ) ^ ((53 : Int) + 971) ≤ 2 ^ (52 + t) :=
    zpow_le_zpow_right₀ one_le_two (by omega)
  have hlarge : (overflow : ℚ) < 2 ^ ((53 : Int) + 971) := by
    rw [cast_overflow, zpow_add₀ two_ne_zero]
    gcongr
    norm_num
  linarith

theorem LastPlace.carry_le (ht : LastPlace v t) (hn : Nearest (v / 2 ^ t) (2 ^ 53))
    (hv : v < overflow) : t + 1 ≤ 971 := by
  have hmost := ht.le_of_lt_overflow hv
  by_contra hgt
  obtain rfl : t = 971 := by omega
  have hlow := hn.low
  rw [le_div_iff₀ (by positivity), Nat.cast_pow, Nat.cast_ofNat, ← cast_overflow] at hlow
  exact absurd (hlow.trans_lt hv) (lt_irrefl _)

theorem LastPlace.exists_isDouble (ht : LastPlace v t) (hn : Nearest (v / 2 ^ t) n) (hpos : n ≠ 0)
    (hv : v < overflow) :
    exists m e, exists hdouble : IsDouble m e,
      (forall sign, rounded sign n t = .finite sign m e hdouble.pos) ∧
        (m : ℚ) * 2 ^ e = n * 2 ^ t := by
  have hleast := ht.least
  rcases (ht.nearest_le hn).lt_or_eq with hlt | rfl
  · have hdouble : IsDouble n t :=
      { pos := Nat.pos_of_ne_zero hpos
        lt := hlt
        least := hleast
        most := ht.le_of_lt_overflow hv
        normal := ht.le_nearest hn }
    refine ⟨n, t, hdouble, fun sign => ?_, rfl⟩
    rw [rounded, dif_neg hpos, if_pos hlt]
  · have hdouble : IsDouble (2 ^ 52) (t + 1) :=
      { pos := by decide
        lt := by decide
        least := by omega
        most := ht.carry_le hn hv
        normal := .inl le_rfl }
    refine ⟨2 ^ 52, t + 1, hdouble, fun sign => ?_, ?_⟩
    · rw [rounded, dif_neg (by decide), if_neg (by decide)]
    · rw [zpow_add_one₀ two_ne_zero]
      push_cast
      rw [mul_comm ((2 : ℚ) ^ t), ← mul_assoc]
      norm_num

theorem Rounds.isFinite {x : Float} (h : Rounds x v) (hv : v < overflow) : x.isFinite = true := by
  rcases h with ⟨t, n, ht, hn, rfl⟩
  by_cases hzero : n = 0
  · have hrounded : rounded .positive n t = .zero .positive := dif_pos hzero
    rw [hrounded]
    rfl
  · rcases ht.exists_isDouble hn hzero hv with ⟨m, e, hdouble, hrounded, _⟩
    rw [hrounded]
    exact isFinite_iff.mpr ⟨_, m, e, Value.ofFloat_pack .positive hdouble⟩

theorem IsExactly.unique {x : Float} (hv : IsExactly x v) (hw : IsExactly x w) : v = w := by
  rcases hv with ⟨m, e, hx, _, rfl⟩
  rcases hw with ⟨m', e', hx', _, rfl⟩
  rw [hx] at hx'
  cases hx'
  rfl

theorem LastPlace.isExactly (ht : LastPlace v t) (hn : Nearest (v / 2 ^ t) n) (hone : 1 ≤ v)
    (hv : v < overflow) : IsExactly (.ofModel (.pack (rounded .positive n t))) (n * 2 ^ t) := by
  have hpos : n ≠ 0 := by
    have hlarge := ht.le_nearest hn
    have hplace := ht.gt_of_one_le hone
    omega
  rcases ht.exists_isDouble hn hpos hv with ⟨m, e, hdouble, hrounded, hvalue⟩
  rw [hrounded, ← hvalue]
  exact ⟨m, e, Value.ofFloat_pack .positive hdouble, Nat.ne_of_gt hdouble.pos, rfl⟩

theorem Rounds.exists_isExactly_le {x y : Float} {b : ℚ} (hx : Rounds x v) (hy : Rounds y w)
    (hone : 1 ≤ v) (hle : v ≤ w) (hw : w < overflow) (hb : IsExactly y b) :
    exists a, IsExactly x a ∧ a ≤ b := by
  rcases hx with ⟨t, n, ht, hn, rfl⟩
  rcases hy with ⟨u, k, hu, hk, rfl⟩
  refine ⟨_, ht.isExactly hn hone (hle.trans_lt hw), ?_⟩
  rw [hb.unique (hu.isExactly hk (hone.trans hle) hw)]
  exact ht.rounded_mono hn hu hk hle

theorem Rounds.exists_isExactly_le_two_mul {x : Float} (hx : Rounds x v) (hone : 1 ≤ v)
    (hv : v < overflow) : exists a, IsExactly x a ∧ a ≤ 2 * v := by
  rcases hx with ⟨t, n, ht, hn, rfl⟩
  refine ⟨_, ht.isExactly hn hone hv, ?_⟩
  have hplace : (2 : ℚ) ^ t ≤ v := by
    have hgt := ht.gt_of_one_le hone
    exact (zpow_le_zpow_right₀ one_le_two (by omega)).trans (ht.low.resolve_right (by omega))
  have hlow := hn.low
  rw [le_div_iff₀ (by positivity)] at hlow
  linarith

end Overflow

end Decimal
end DeckTools
