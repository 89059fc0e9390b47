import DeckTools.Decimal.Shortest
import DeckTools.Proofs.Decimal.Arithmetic

/-!
# The fewest digits of a double

The search for digits goes to finer and finer grids.  A grid no wider than a quarter of the
last place has a point that is read back as the double, and the search starts so near to the
size of the double that it comes to such a grid before it gives up.
-/

namespace DeckTools
namespace Decimal

variable {m : Nat} {e place : Int}

namespace Interval

theorem grid_pos : 0 < (Interval.of m e place).grid :=
  Nat.mul_pos (Nat.pow_pos (by decide)) (Nat.pow_pos (by decide))

theorem two_zpow_mul_toNat (n : Int) : (2 : ℚ) ^ n * 2 ^ (-n).toNat = 2 ^ n.toNat := by
  rw [← zpow_natCast, ← zpow_natCast, ← zpow_add₀ two_ne_zero]
  congr 1
  omega

theorem ten_zpow_mul_toNat (n : Int) : (10 : ℚ) ^ n * 10 ^ (-n).toNat = 10 ^ n.toNat := by
  rw [← zpow_natCast, ← zpow_natCast, ← zpow_add₀ (by norm_num)]
  congr 1
  omega

/-- Points of the grid and quarters of the last place, in the unit of the interval. -/
theorem grid_quarter :
    ((Interval.of m e place).grid : ℚ) * 2 ^ (e - 2) =
      (Interval.of m e place).quarter * 10 ^ place := by
  have hgrid : (Interval.of m e place).grid = 10 ^ place.toNat * 2 ^ (-(e - 2)).toNat := rfl
  have hquarter : (Interval.of m e place).quarter = 2 ^ (e - 2).toNat * 10 ^ (-place).toNat := rfl
  rw [hgrid, hquarter]
  push_cast
  rw [← two_zpow_mul_toNat (e - 2), ← ten_zpow_mul_toNat place]
  ring

section Compare

variable {quarters point : Nat}

theorem quarters_mul (quarters : Nat) :
    ((quarters * (Interval.of m e place).quarter : Nat) : ℚ) * 10 ^ place =
      (Interval.of m e place).grid * (quarters * 2 ^ (e - 2)) := by
  rw [Nat.cast_mul, mul_assoc, ← grid_quarter]
  ring

theorem points_mul (point : Nat) :
    ((point * (Interval.of m e place).grid : Nat) : ℚ) * 10 ^ place =
      (Interval.of m e place).grid * (point * 10 ^ place) := by
  rw [Nat.cast_mul]
  ring

theorem quarters_eq (quarters : Nat) : (quarters : ℚ) * 2 ^ (e - 2) = quarters / 4 * 2 ^ e := by
  rw [zpow_sub₀ two_ne_zero]
  norm_num
  ring

theorem le_point_iff :
    quarters * (Interval.of m e place).quarter ≤ point * (Interval.of m e place).grid <->
      (quarters : ℚ) / 4 ≤ point * 10 ^ place / 2 ^ e := by
  have hgrid : (0 : ℚ) < (Interval.of m e place).grid := by exact_mod_cast grid_pos
  have hten : (0 : ℚ) < 10 ^ place := by positivity
  rw [← @Nat.cast_le ℚ, ← mul_le_mul_iff_left₀ hten, quarters_mul, points_mul,
    mul_le_mul_iff_right₀ hgrid, quarters_eq, le_div_iff₀ (by positivity)]

theorem point_le_iff :
    point * (Interval.of m e place).grid ≤ quarters * (Interval.of m e place).quarter <->
      (point : ℚ) * 10 ^ place / 2 ^ e ≤ quarters / 4 := by
  have hgrid : (0 : ℚ) < (Interval.of m e place).grid := by exact_mod_cast grid_pos
  have hten : (0 : ℚ) < 10 ^ place := by positivity
  rw [← @Nat.cast_le ℚ, ← mul_le_mul_iff_left₀ hten, quarters_mul, points_mul,
    mul_le_mul_iff_right₀ hgrid, quarters_eq, div_le_iff₀ (by positivity)]

end Compare

/-- Below a power of two the interval is half as wide. -/
theorem cast_low (hm : m ≠ 0) :
    ((Interval.of m e place).low : ℚ) / 4 =
      if m = 2 ^ 52 ∧ e ≠ -1074 then (m : ℚ) - 1 / 4 else m - 1 / 2 := by
  have hlow : (Interval.of m e place).low =
      4 * m - if m == Nat.pow 2 52 && e != -1074 then 1 else 2 := rfl
  have hpower : (m == Nat.pow 2 52 && e != -1074) = true <-> m = 2 ^ 52 ∧ e ≠ -1074 := by
    rw [Bool.and_eq_true, beq_iff_eq, bne_iff_ne]
    rfl
  simp only [hlow, hpower]
  split
  · rw [Nat.cast_sub (by omega)]
    push_cast
    ring
  · rw [Nat.cast_sub (by omega)]
    push_cast
    ring

theorem cast_high : ((Interval.of m e place).high : ℚ) / 4 = m + 1 / 2 := by
  have hhigh : (Interval.of m e place).high = 4 * m + 2 := rfl
  rw [hhigh]
  push_cast
  ring

section Points

variable {point : Nat}

theorem holds_closed (hm : m % 2 = 0) :
    (Interval.of m e place).holds point = true <->
      ((Interval.of m e place).low : ℚ) / 4 ≤ point * 10 ^ place / 2 ^ e ∧
        (point : ℚ) * 10 ^ place / 2 ^ e ≤ m + 1 / 2 := by
  have hclosed : (Interval.of m e place).closed = true := beq_iff_eq.mpr hm
  rw [holds, hclosed, if_pos rfl, Bool.and_eq_true, decide_eq_true_iff, decide_eq_true_iff,
    le_point_iff, point_le_iff, cast_high]

theorem holds_open (hm : m % 2 = 1) :
    (Interval.of m e place).holds point = true <->
      ((Interval.of m e place).low : ℚ) / 4 < point * 10 ^ place / 2 ^ e ∧
        (point : ℚ) * 10 ^ place / 2 ^ e < m + 1 / 2 := by
  have hopen : (Interval.of m e place).closed = false := beq_eq_false_iff_ne.mpr (by omega)
  rw [holds, hopen, if_neg Bool.false_ne_true, Bool.and_eq_true, decide_eq_true_iff,
    decide_eq_true_iff, ← not_le, ← not_le, point_le_iff, le_point_iff, cast_high, not_le, not_le]

/-- A point in the interval is a number that is read back as the double. -/
theorem owns_of_holds (hm : m ≠ 0) (h : (Interval.of m e place).holds point = true) :
    Owns m e (point * 10 ^ place) := by
  have hhalf : (m : ℚ) - 1 / 2 ≤ (Interval.of m e place).low / 4 := by
    rw [cast_low hm]
    split <;> linarith
  have hpower : m = 2 ^ 52 -> e ≠ -1074 ->
      (m : ℚ) - 1 / 4 = (Interval.of m e place).low / 4 := by
    intro hm' he
    rw [cast_low hm, if_pos ⟨hm', he⟩]
  rcases Nat.mod_two_eq_zero_or_one m with heven | hodd
  · rcases (holds_closed heven).mp h with ⟨hlow, hhigh⟩
    exact
      { low := hhalf.trans hlow
        high := hhigh
        open_of_odd := fun hodd => by omega
        low_of_power := fun hm' he => (hpower hm' he).trans_le hlow }
  · rcases (holds_open hodd).mp h with ⟨hlow, hhigh⟩
    exact
      { low := hhalf.trans hlow.le
        high := hhigh.le
        open_of_odd := fun _ => ⟨hhalf.trans_lt hlow, hhigh⟩
        low_of_power := fun hm' he => (hpower hm' he).trans_le hlow.le }

/-- On a grid no wider than a quarter of the last place, the point below the double holds. -/
theorem holds_floor (hm : m ≠ 0) (hgrid : (10 : ℚ) ^ place ≤ 2 ^ (e - 2)) :
    (Interval.of m e place).holds (Interval.of m e place).floor = true := by
  have hfour : ((4 * m : Nat) : ℚ) / 4 = m := by
    push_cast
    ring
  have hbelow := point_le_iff.mp (Nat.div_mul_le_self (4 * m * (Interval.of m e place).quarter)
    (Interval.of m e place).grid)
  have hnext := mt point_le_iff.mpr (Nat.not_le.mpr
    (Nat.lt_mul_of_div_lt (Nat.lt_succ_self (4 * m * (Interval.of m e place).quarter /
      (Interval.of m e place).grid)) grid_pos))
  change ((Interval.of m e place).floor : ℚ) * 10 ^ place / 2 ^ e ≤ _ at hbelow
  change ¬ ((Interval.of m e place).floor.succ : ℚ) * 10 ^ place / 2 ^ e ≤ _ at hnext
  rw [hfour] at hbelow
  rw [hfour, not_le, Nat.cast_succ, add_mul, one_mul, add_div] at hnext
  have hstep : (10 : ℚ) ^ place / 2 ^ e ≤ 1 / 4 := by
    rw [div_le_iff₀ (by positivity)]
    calc (10 : ℚ) ^ place ≤ 2 ^ (e - 2) := hgrid
      _ = 1 / 4 * 2 ^ e := by
        rw [zpow_sub₀ two_ne_zero]
        norm_num
        ring
  have habove : (m : ℚ) - 1 / 4 < (Interval.of m e place).floor * 10 ^ place / 2 ^ e := by linarith
  have hlow : ((Interval.of m e place).low : ℚ) / 4 ≤ m - 1 / 4 := by
    rw [cast_low hm]
    split <;> linarith
  rcases Nat.mod_two_eq_zero_or_one m with heven | hodd
  · exact (holds_closed heven).mpr ⟨hlow.trans habove.le, by linarith⟩
  · exact (holds_open hodd).mpr ⟨hlow.trans_lt habove, by linarith⟩

end Points

section Pick

variable {tie : Tie} {interval : Interval} {point : Nat}

theorem isSome_pick? (h : interval.holds interval.floor = true) :
    (interval.pick? tie).isSome = true := by
  simp only [pick?, h]
  cases interval.holds (interval.floor + 1) with
  | false => rfl
  | true =>
      dsimp only
      repeat' split
      all_goals rfl

theorem holds_of_pick? (h : interval.pick? tie = some point) : interval.holds point = true := by
  unfold pick? at h
  dsimp only at h
  cases hbelow : interval.holds interval.floor <;>
    cases habove : interval.holds (interval.floor + 1) <;> rw [hbelow, habove] at h <;>
    dsimp only at h
  case false.false => cases h
  case true.false =>
      cases h
      exact hbelow
  case false.true =>
      cases h
      exact habove
  case true.true =>
      -- Whichever of the two points is chosen, it is in the interval.
      have hchoice : point = interval.floor ∨ point = interval.floor + 1 := by
        repeat' split at h
        all_goals
          cases h
          simp
      rcases hchoice with rfl | rfl
      · exact hbelow
      · exact habove

end Pick

end Interval

/-! ## The search -/

/-- A search that comes to a fine grid ends with digits that are read back as the double. -/
theorem owns_refine (tie : Tie) {tries : Nat} (hm : m ≠ 0)
    (hlast : (10 : ℚ) ^ (place - tries) ≤ 2 ^ (e - 2)) :
    Owns m e ((refine tie m e (tries + 1) place).digits *
      10 ^ (refine tie m e (tries + 1) place).exponent) := by
  induction tries generalizing place with
  | zero =>
      rw [Nat.cast_zero, sub_zero] at hlast
      have hsome : ((Interval.of m e place).pick? tie).isSome = true :=
        Interval.isSome_pick? (Interval.holds_floor hm hlast)
      rcases Option.isSome_iff_exists.mp hsome with ⟨point, hpoint⟩
      rw [refine, hpoint]
      exact Interval.owns_of_holds hm (Interval.holds_of_pick? hpoint)
  | succ tries ih =>
      rw [refine]
      cases hpick : (Interval.of m e place).pick? tie with
      | some point => exact Interval.owns_of_holds hm (Interval.holds_of_pick? hpick)
      | none =>
          apply ih
          rwa [Nat.cast_succ, ← sub_sub, sub_right_comm] at hlast

/-- A fraction not far above the logarithm of two leads to a power of ten not far above. -/
theorem ten_zpow_le {n : Int} {above below : Nat} (hpos : 0 < below)
    (hlow : 2 ^ below ≤ 10 ^ above) (hhigh : 10 ^ above ≤ 2 ^ (below + 1)) (hn : n ≤ below) :
    (10 : ℚ) ^ (n * above / below) ≤ 2 ^ (n + 1) := by
  have hlow' : (2 : ℚ) ^ (below : Int) ≤ 10 ^ (above : Int) := by exact_mod_cast hlow
  have hhigh' : (10 : ℚ) ^ (above : Int) ≤ 2 ^ ((below : Int) + 1) := by exact_mod_cast hhigh
  have hten : (1 : ℚ) ≤ 10 := by norm_num
  have hfloor : n * above / below * below ≤ above * n := by
    rw [mul_comm (above : Int)]
    exact Int.ediv_mul_le _ (by omega)
  have hpower : (10 : ℚ) ^ (above * n) ≤ 2 ^ ((n + 1) * below) := by
    rw [zpow_mul]
    rcases le_or_gt 0 n with hsign | hsign
    · obtain ⟨k, rfl⟩ := Int.eq_ofNat_of_zero_le hsign
      calc ((10 : ℚ) ^ (above : Int)) ^ (k : Int) ≤ (2 ^ ((below : Int) + 1)) ^ (k : Int) :=
            zpow_le_zpow_left₀ hsign (by positivity) hhigh'
        _ = 2 ^ (((below : Int) + 1) * k) := (zpow_mul _ _ _).symm
        _ ≤ 2 ^ (((k : Int) + 1) * below) := zpow_le_zpow_right₀ one_le_two (by linarith)
    · obtain ⟨k, rfl⟩ := Int.exists_eq_neg_ofNat hsign.le
      calc ((10 : ℚ) ^ (above : Int)) ^ (-(k : Int)) ≤ (2 ^ (below : Int)) ^ (-(k : Int)) := by
            rw [zpow_neg, zpow_neg]
            exact inv_anti₀ (by positivity)
              (zpow_le_zpow_left₀ (Int.natCast_nonneg k) (by positivity) hlow')
        _ = 2 ^ ((below : Int) * -k) := (zpow_mul _ _ _).symm
        _ ≤ 2 ^ ((-(k : Int) + 1) * below) := zpow_le_zpow_right₀ one_le_two (by linarith)
  rw [← pow_le_pow_iff_left₀ (by positivity) (by positivity) hpos.ne', ← zpow_natCast,
    ← zpow_natCast, ← zpow_mul, ← zpow_mul]
  exact (zpow_le_zpow_right₀ hten hfloor).trans hpower

/-- No other double is nearest to the digits of a double. -/
theorem owns_shortest (tie : Tie) (h : IsDouble m e) :
    Owns m e ((shortest tie m e).digits * 10 ^ (shortest tie m e).exponent) := by
  have hm : m ≠ 0 := Nat.ne_of_gt h.pos
  have hlog := (Nat.log2_lt hm).mpr h.lt
  have hmost := h.most
  have hshortest : shortest tie m e = refine tie m e 24 (topPlace m e) :=
    if_neg (by rw [beq_iff_eq]; exact hm)
  rw [hshortest]
  apply owns_refine tie hm
  rw [topPlace]
  generalize hn : (m.log2 : Int) + 1 + e = n
  have hstart : (10 : ℚ) ^ (n * 30103 / 100000) ≤ 2 ^ (n + 1) :=
    @ten_zpow_le n 30103 100000 (by decide) (by decide +kernel) (by decide +kernel) (by omega)
  calc (10 : ℚ) ^ (n * 30103 / 100000 + 2 - (23 : Nat)) =
        10 ^ (n * 30103 / 100000) * 10 ^ (-21 : Int) := by
        rw [← zpow_add₀ (by norm_num)]
        congr 1
        omega
    _ ≤ 2 ^ (n + 1) * 10 ^ (-21 : Int) := by gcongr
    _ ≤ 2 ^ (e - 2 + 56) * 10 ^ (-21 : Int) :=
        mul_le_mul_of_nonneg_right (zpow_le_zpow_right₀ one_le_two (by omega)) (by positivity)
    _ ≤ 2 ^ (e - 2) := by
        rw [zpow_add₀ two_ne_zero, mul_assoc]
        apply mul_le_of_le_one_right (by positivity)
        norm_num

end Decimal
end DeckTools
