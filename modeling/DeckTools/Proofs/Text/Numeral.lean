import DeckTools.Text.Ascii

/-!
# Spellings of a number

Every number has one plain numeral.  A reader of digits also takes zeros before it, and a
plus sign before those; these are all the spellings of a number there are.
-/

namespace DeckTools

namespace Text

/-! ## Digits -/

theorem exists_eq_digitChar {d : Char} (h : d.isDigit = true) :
    exists v, v < 10 ∧ d = v.digitChar := by
  rcases Char.isDigit_iff_toNat.mp h with ⟨hlow, hhigh⟩
  have hzero : 48 ≤ d.toNat := hlow
  have hnine : d.toNat ≤ 57 := hhigh
  refine ⟨d.toNat - 48, by omega, ?_⟩
  apply Char.toNat_inj.mp
  rw [Nat.toNat_digitChar_of_lt_ten (by omega)]
  omega

theorem digitsToNat_eq_ofDigitChars (ds : List Char) :
    digitsToNat ds = Nat.ofDigitChars 10 ds 0 := by
  unfold digitsToNat Nat.ofDigitChars
  simp only [Nat.mul_comm]

theorem digitsToNat_natText (n : Nat) : digitsToNat (natText n).toList = n := by
  rw [digitsToNat_eq_ofDigitChars, natText, String.toList_ofList, Nat.ofDigitChars_ten_toDigits]

theorem natText_ne_nil (n : Nat) : (natText n).toList ≠ [] := by
  rw [natText, String.toList_ofList]
  exact Nat.toDigits_ne_nil

theorem all_isDigit_toDigits (n : Nat) : (Nat.toDigits 10 n).all Char.isDigit = true :=
  List.all_eq_true.mpr fun _ hd => Nat.isDigit_of_mem_toDigits (by decide) (by decide) hd

theorem all_isDigit_of_subset {ds part : List Char} (hds : ds.all Char.isDigit = true)
    (hpart : part ⊆ ds) : part.all Char.isDigit = true :=
  List.all_eq_true.mpr fun _ hd => List.all_eq_true.mp hds _ (hpart hd)

theorem head?_toDigits_ne_zero {n : Nat} (hn : n ≠ 0) :
    (Nat.toDigits 10 n).head? ≠ some '0' := by
  induction n using Nat.strongRecOn with
  | ind n ih =>
      rw [Nat.toDigits_eq_if (by decide)]
      split
      case isTrue hlt =>
          intro h
          exact hn (Nat.digitChar_eq_zero.mp (Option.some.inj h))
      case isFalse hlt =>
          rw [List.head?_append, Option.or_of_isSome (List.isSome_head?.mpr Nat.toDigits_ne_nil)]
          exact ih (n / 10) (by omega) (by omega)

theorem head?_natText_ne_zero {n : Nat} (hn : n ≠ 0) :
    (natText n).toList.head? ≠ some '0' := by
  rw [natText, String.toList_ofList]
  exact head?_toDigits_ne_zero hn

/-- Digits that follow a numeral extend it, unless it is that of zero. -/
theorem toDigits_ofDigitChars {n : Nat} {ds : List Char} (hn : 0 < n)
    (hds : forall d, d ∈ ds -> d.isDigit = true) :
    Nat.toDigits 10 (Nat.ofDigitChars 10 ds n) = Nat.toDigits 10 n ++ ds := by
  induction ds generalizing n with
  | nil => rw [Nat.ofDigitChars_nil, List.append_nil]
  | cons d rest ih =>
      rcases List.forall_mem_cons.mp hds with ⟨hd, hrest⟩
      rcases exists_eq_digitChar hd with ⟨v, hv, rfl⟩
      have hpos : 0 < 10 * n + v := by omega
      calc
        Nat.toDigits 10 (Nat.ofDigitChars 10 (v.digitChar :: rest) n) =
            Nat.toDigits 10 (10 * n + v) ++ rest := by
          rw [Nat.ofDigitChars_cons_digitChar_of_lt_ten hv, ih hpos hrest]
        _ = Nat.toDigits 10 n ++ [v.digitChar] ++ rest := by
          rw [← Nat.toDigits_append_toDigits (by decide) hn hv, Nat.toDigits_of_lt_base hv]
        _ = Nat.toDigits 10 n ++ v.digitChar :: rest := by
          rw [List.append_assoc, List.singleton_append]

/-- Digits are the numeral of what they spell, but for zeros before it. -/
theorem exists_zeros_of_isDigit {ds : List Char} (hne : ds ≠ [])
    (hds : forall d, d ∈ ds -> d.isDigit = true) :
    exists zeros, ds = List.replicate zeros '0' ++ (natText (digitsToNat ds)).toList := by
  induction ds with
  | nil => exact absurd rfl hne
  | cons d rest ih =>
      rcases List.forall_mem_cons.mp hds with ⟨hd, hrest⟩
      by_cases hzero : d = '0'
      · subst hzero
        by_cases hlast : rest = []
        · subst hlast
          exact ⟨0, rfl⟩
        · rcases ih hlast hrest with ⟨zeros, heq⟩
          have hsame : digitsToNat ('0' :: rest) = digitsToNat rest := rfl
          refine ⟨zeros + 1, ?_⟩
          rw [hsame, List.replicate_succ, List.cons_append, ← heq]
      · rcases exists_eq_digitChar hd with ⟨v, hv, rfl⟩
        have hpos : 0 < v := Nat.pos_of_ne_zero (fun h => hzero (Nat.digitChar_eq_zero.mpr h))
        refine ⟨0, ?_⟩
        rw [List.replicate_zero, List.nil_append, natText, String.toList_ofList,
          digitsToNat_eq_ofDigitChars, Nat.ofDigitChars_cons_digitChar_of_lt_ten hv,
          Nat.mul_zero, Nat.zero_add, toDigits_ofDigitChars hpos hrest,
          Nat.toDigits_of_lt_base hv, List.singleton_append]

theorem digitsToNat_zeros_append (zeros : Nat) (ds : List Char) :
    digitsToNat (List.replicate zeros '0' ++ ds) = digitsToNat ds := by
  rw [digitsToNat_eq_ofDigitChars, digitsToNat_eq_ofDigitChars, Nat.ofDigitChars_append,
    Nat.ofDigitChars_replicate_zero, Nat.mul_zero]

/-! ## Numbers without a minus sign -/

/-- What is read where no sign may stand. -/
def plainUnsigned? (ds : List Char) : Option Nat :=
  if ds.isEmpty || !ds.all Char.isDigit then none else some (digitsToNat ds)

theorem plainUnsigned?_eq_some_iff {ds : List Char} {n : Nat} :
    plainUnsigned? ds = some n <->
      exists zeros, ds = List.replicate zeros '0' ++ (natText n).toList := by
  unfold plainUnsigned?
  constructor
  · intro h
    split at h
    case isTrue => cases h
    case isFalse hread =>
        rw [Bool.or_eq_true, not_or, List.isEmpty_iff, Bool.not_eq_true', Bool.not_eq_false]
          at hread
        rw [← Option.some.inj h]
        exact exists_zeros_of_isDigit hread.1 (List.all_eq_true.mp hread.2)
  · intro h
    rcases h with ⟨zeros, rfl⟩
    have hdigits : (List.replicate zeros '0' ++ (natText n).toList).all Char.isDigit = true := by
      rw [List.all_append, Bool.and_eq_true]
      constructor
      · rw [List.all_replicate]
        split <;> rfl
      · exact List.all_eq_true.mpr (fun _ => isDigit_of_mem_natText)
    rw [hdigits, digitsToNat_zeros_append, digitsToNat_natText, if_neg]
    rw [Bool.not_true, Bool.or_false, List.isEmpty_iff, List.append_eq_nil_iff, not_and]
    intro _
    exact natText_ne_nil n

theorem unsigned?_plus (ds : List Char) : unsigned? ('+' :: ds) = plainUnsigned? ds :=
  rfl

theorem unsigned?_of_head {cs : List Char} (h : cs.head? ≠ some '+') :
    unsigned? cs = plainUnsigned? cs := by
  unfold unsigned? plainUnsigned?
  split
  case h_1 => exact absurd rfl h
  case h_2 => rfl

theorem head?_ne_plus (zeros n : Nat) :
    (List.replicate zeros '0' ++ (natText n).toList).head? ≠ some '+' := by
  intro h
  rcases List.mem_append.mp (List.mem_of_head? h) with hzero | hdigit
  · cases List.eq_of_mem_replicate hzero
  · cases isDigit_of_mem_natText hdigit

/-- What is read as a number is its numeral, with zeros before it and at most one plus sign. -/
theorem unsigned?_eq_some_iff {cs : List Char} {n : Nat} :
    unsigned? cs = some n <->
      exists zeros,
        cs = List.replicate zeros '0' ++ (natText n).toList ∨
          cs = '+' :: (List.replicate zeros '0' ++ (natText n).toList) := by
  constructor
  · intro h
    by_cases hplus : cs.head? = some '+'
    · rcases List.head?_eq_some_iff.mp hplus with ⟨ds, rfl⟩
      rw [unsigned?_plus] at h
      rcases plainUnsigned?_eq_some_iff.mp h with ⟨zeros, rfl⟩
      exact ⟨zeros, Or.inr rfl⟩
    · rw [unsigned?_of_head hplus] at h
      rcases plainUnsigned?_eq_some_iff.mp h with ⟨zeros, heq⟩
      exact ⟨zeros, Or.inl heq⟩
  · intro h
    rcases h with ⟨zeros, rfl | rfl⟩
    · rw [unsigned?_of_head (head?_ne_plus zeros n)]
      exact plainUnsigned?_eq_some_iff.mpr ⟨zeros, rfl⟩
    · rw [unsigned?_plus]
      exact plainUnsigned?_eq_some_iff.mpr ⟨zeros, rfl⟩

end Text

end DeckTools
