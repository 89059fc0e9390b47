import DeckTools.Decimal.Notation
import DeckTools.Json.Token
import DeckTools.Proofs.Text.Numeral

/-!
# Numerals and how they are spelled

A numeral is spelled by its parts one after the other, and is split into these parts again.
The text of a finite double is the spelling of a numeral with a point or an exponent, so
what is read from it is a double, if anything.
-/

namespace DeckTools

namespace Json
namespace Numeral

open Text

/-! ## The parts of a numeral -/

def fractionChars : Option (List Char) -> List Char
  | some ds => '.' :: ds
  | none => []

def exponentChars : Option (Bool × List Char) -> List Char
  | some (negative, ds) => 'e' :: (if negative then '-' else '+') :: ds
  | none => []

def unsignedChars (n : Numeral) : List Char :=
  n.whole ++ (fractionChars n.fraction ++ exponentChars n.exponent)

def chars (n : Numeral) : List Char :=
  if n.negative then '-' :: n.unsignedChars else n.unsignedChars

/-- What the parts of a numeral have to be. -/
structure WellFormed (n : Numeral) : Prop where
  whole : n.whole.all Char.isDigit = true
  nonempty : n.whole ≠ []
  leading : n.whole.head? = some '0' -> n.whole.length = 1
  fraction : forall ds, n.fraction = some ds -> ds ≠ [] ∧ ds.all Char.isDigit = true
  exponent : forall e, n.exponent = some e -> e.2 ≠ [] ∧ e.2.all Char.isDigit = true

section Parts

variable {ds rest : List Char}

theorem takeWhile_digits (hds : ds.all Char.isDigit = true)
    (hrest : forall c, rest.head? = some c -> c.isDigit = false) :
    (ds ++ rest).takeWhile Char.isDigit = ds := by
  rw [List.takeWhile_append_of_pos (List.all_eq_true.mp hds)]
  cases rest with
  | nil => rw [List.takeWhile_nil, List.append_nil]
  | cons c rest => simp [hrest c rfl]

theorem dropWhile_digits (hds : ds.all Char.isDigit = true)
    (hrest : forall c, rest.head? = some c -> c.isDigit = false) :
    (ds ++ rest).dropWhile Char.isDigit = rest := by
  rw [List.dropWhile_append_of_pos (List.all_eq_true.mp hds)]
  cases rest with
  | nil => rfl
  | cons c rest => simp [hrest c rfl]

theorem takeMinus_digits (hne : ds ≠ []) (hds : ds.all Char.isDigit = true) :
    takeMinus (ds ++ rest) = (false, ds ++ rest) := by
  cases ds with
  | nil => exact absurd rfl hne
  | cons d ds =>
      have hd : d.isDigit = true := List.all_eq_true.mp hds d List.mem_cons_self
      rw [List.cons_append]
      unfold takeMinus
      split
      case h_1 heq =>
          cases (List.cons.inj heq).1
          cases hd
      case h_2 => rfl

theorem exponentOf?_signed (negative : Bool) (hne : ds ≠ []) (hds : ds.all Char.isDigit = true) :
    exponentOf? ((if negative then '-' else '+') :: ds) = some (negative, ds) := by
  have hempty : ds.isEmpty = false := List.isEmpty_eq_false_iff.mpr hne
  cases negative <;> simp [exponentOf?, hempty, hds]

end Parts

section Chars

variable {n : Numeral}

theorem takeMinus_chars (h : n.WellFormed) : takeMinus n.chars = (n.negative, n.unsignedChars) := by
  unfold chars
  cases n.negative with
  | true => rfl
  | false => exact takeMinus_digits h.nonempty h.whole

theorem head?_exponentChars (exponent : Option (Bool × List Char)) :
    forall c, (exponentChars exponent).head? = some c -> c.isDigit = false := by
  intro c hc
  cases exponent with
  | none => cases hc
  | some e =>
      cases hc
      rfl

theorem head?_fractionChars (fraction : Option (List Char))
    (exponent : Option (Bool × List Char)) :
    forall c, (fractionChars fraction ++ exponentChars exponent).head? = some c ->
      c.isDigit = false := by
  intro c hc
  cases fraction with
  | none => exact head?_exponentChars exponent c hc
  | some ds =>
      cases hc
      rfl

theorem takeFraction_chars (h : n.WellFormed) :
    takeFraction (fractionChars n.fraction ++ exponentChars n.exponent) =
      (n.fraction, exponentChars n.exponent) := by
  cases hfraction : n.fraction with
  | none => cases n.exponent <;> rfl
  | some ds =>
      have hds := (h.fraction ds hfraction).2
      simp only [fractionChars, List.cons_append, takeFraction,
        takeWhile_digits hds (head?_exponentChars _), dropWhile_digits hds (head?_exponentChars _)]

theorem ending?_chars (h : n.WellFormed) :
    ending? (exponentChars n.exponent) = some n.exponent := by
  cases hexponent : n.exponent with
  | none => rfl
  | some e =>
      rcases h.exponent e hexponent with ⟨hne, hds⟩
      simp [exponentChars, ending?, exponentOf?_signed e.1 hne hds]

/-- A numeral is split into its parts again. -/
theorem ofChars?_chars (h : n.WellFormed) : ofChars? n.chars = some n := by
  have hstart := head?_fractionChars n.fraction n.exponent
  have hempty : n.whole.isEmpty = false := List.isEmpty_eq_false_iff.mpr h.nonempty
  have hleading : (n.whole.head? == some '0' && decide (1 < n.whole.length)) = false := by
    rw [Bool.and_eq_false_imp]
    intro hzero
    have hlength := h.leading (eq_of_beq hzero)
    simp [hlength]
  have hfraction : (n.fraction == some []) = false := by
    rw [beq_eq_false_iff_ne]
    intro hnil
    exact (h.fraction [] hnil).1 rfl
  simp only [ofChars?, takeMinus_chars h, unsignedChars, takeWhile_digits h.whole hstart,
    dropWhile_digits h.whole hstart, takeFraction_chars h, ending?_chars h, hempty, hleading,
    hfraction]
  rfl

/-! ## Numerals among words -/

theorem isWordChar_of_isDigit {c : Char} (h : c.isDigit = true) : Token.isWordChar c = true := by
  simp [Token.isWordChar, Char.isAlphanum, h]

theorem all_isWordChar_digits {ds : List Char} (h : ds.all Char.isDigit = true) :
    ds.all Token.isWordChar = true :=
  List.all_eq_true.mpr fun c hc => isWordChar_of_isDigit (List.all_eq_true.mp h c hc)

theorem all_isWordChar_chars (h : n.WellFormed) : n.chars.all Token.isWordChar = true := by
  have hfraction : (fractionChars n.fraction).all Token.isWordChar = true := by
    cases hsome : n.fraction with
    | none => rfl
    | some ds =>
        have hds := all_isWordChar_digits (h.fraction ds hsome).2
        exact hds
  have hexponent : (exponentChars n.exponent).all Token.isWordChar = true := by
    cases hsome : n.exponent with
    | none => rfl
    | some e =>
        have hds := all_isWordChar_digits (h.exponent e hsome).2
        rcases e with ⟨_ | _, ds⟩ <;> exact hds
  have hunsigned : n.unsignedChars.all Token.isWordChar = true := by
    rw [unsignedChars, List.all_append, List.all_append, all_isWordChar_digits h.whole, hfraction,
      hexponent]
    rfl
  unfold chars
  cases n.negative <;> exact hunsigned

theorem chars_ne_nil (h : n.WellFormed) : n.chars ≠ [] := by
  have hunsigned : n.unsignedChars ≠ [] := List.append_ne_nil_of_left_ne_nil h.nonempty _
  unfold chars
  cases n.negative with
  | true => exact List.cons_ne_nil _ _
  | false => exact hunsigned

/-- A numeral starts with a minus sign or a digit, so it is none of the names. -/
theorem ofWord?_chars (h : n.WellFormed) :
    Token.ofWord? n.chars = some (.scalar (n.value?.getD .unreadable)) := by
  have hnames : forall name, Numeral.ofChars? name = none -> (n.chars == name) = false := by
    intro name hname
    rw [beq_eq_false_iff_ne]
    intro heq
    rw [← heq, ofChars?_chars h] at hname
    cases hname
  unfold Token.ofWord?
  rw [hnames _ rfl, hnames _ rfl, hnames _ rfl, ofChars?_chars h]
  rfl

/-- A numeral with a point or an exponent is read as no whole number. -/
theorem isWhole_eq_false (h : n.fraction.isSome || n.exponent.isSome) (unread : List Char) :
    (unread.isEmpty && n.fraction.isNone && n.exponent.isNone) = false := by
  cases hfraction : n.fraction <;> cases hexponent : n.exponent <;> simp_all

/-- A numeral with a point or an exponent is a double, unless it has no value. -/
theorem value?_of_isSome (h : n.fraction.isSome || n.exponent.isSome) :
    n.value? = none ∨ exists x, n.value? = some (.float x) := by
  unfold value?
  simp only [isWhole_eq_false h, Bool.false_and, Bool.false_eq_true, if_false]
  cases scaled? _ _ with
  | none => exact .inl rfl
  | some x => exact .inr ⟨_, rfl⟩

end Chars

end Numeral
end Json

/-! ## The text of a double -/

namespace Decimal

open Json Text

/-- The numeral in which digits are written as JSON. -/
def numeral (negative : Bool) (d : Digits) : Numeral :=
  let ds := digitChars d.digits
  let top : Int := ds.length + d.exponent
  let places := (-d.exponent).toNat
  if d.digits == 0 then
    { negative, whole := ['0'], fraction := some ['0'], exponent := none }
  else if 0 ≤ d.exponent && top ≤ 16 then
    { negative, whole := ds ++ List.replicate d.exponent.toNat '0', fraction := some ['0'],
      exponent := none }
  else if -5 < top && top ≤ 16 then
    if ds.length ≤ places then
      { negative, whole := ['0'],
        fraction := some (List.replicate (places - ds.length) '0' ++ ds), exponent := none }
    else
      { negative, whole := ds.take (ds.length - places),
        fraction := some (ds.drop (ds.length - places)), exponent := none }
  else
    { negative, whole := ds.take 1,
      fraction := if ds.length = 1 then none else some (ds.drop 1),
      exponent := some (decide (top - 1 < 0), digitChars (top - 1).natAbs) }

theorem jsonDigits_eq (negative : Bool) (d : Digits) :
    jsonDigits d = (numeral negative d).unsignedChars := by
  unfold jsonDigits numeral positional withPoint
  dsimp only
  split
  case isTrue => rfl
  case isFalse hzero =>
      split
      case isTrue hlarge =>
          have hexponent : 0 ≤ d.exponent := by simp_all
          rw [if_pos hexponent]
          simp [Numeral.unsignedChars, Numeral.fractionChars, Numeral.exponentChars]
      case isFalse hlarge =>
          split
          case isTrue hmiddle =>
              have hexponent : ¬ 0 ≤ d.exponent := by simp_all; omega
              have hplaces : ((-d.exponent).toNat == 0) = false := by simp; omega
              rw [if_neg hexponent, hplaces, if_neg Bool.false_ne_true]
              split <;>
                simp [Numeral.unsignedChars, Numeral.fractionChars, Numeral.exponentChars]
          case isFalse hsmall =>
              cases hds : digitChars d.digits with
              | nil => exact absurd hds Nat.toDigits_ne_nil
              | cons c rest =>
                  cases rest <;>
                    simp [Numeral.unsignedChars, Numeral.fractionChars, Numeral.exponentChars,
                      Decimal.exponentChars]

theorem numeral_negative (negative : Bool) (d : Digits) :
    (numeral negative d).negative = negative := by
  unfold numeral
  dsimp only
  repeat' split
  all_goals rfl

theorem toList_signed_jsonDigits (negative : Bool) (d : Digits) :
    (signed negative (jsonDigits d)).toList = (numeral negative d).chars := by
  rw [signed, String.toList_ofList, jsonDigits_eq negative d, Numeral.chars, numeral_negative]

theorem wellFormed_numeral (negative : Bool) (d : Digits) : (numeral negative d).WellFormed := by
  unfold numeral
  dsimp only
  split
  case isTrue => constructor <;> simp
  case isFalse hzero =>
      have hdigits : (digitChars d.digits).all Char.isDigit = true := all_isDigit_toDigits d.digits
      have hhead : (digitChars d.digits).head? ≠ some '0' :=
        head?_toDigits_ne_zero (by simpa using hzero)
      rcases List.exists_cons_of_ne_nil (Nat.toDigits_ne_nil (n := d.digits) (b := 10)) with
        ⟨c, rest, hcons⟩
      change digitChars d.digits = c :: rest at hcons
      rw [hcons] at hdigits hhead ⊢
      have hc : c ≠ '0' := fun h => hhead (congrArg some h)
      split
      case isTrue => constructor <;> simp_all
      case isFalse hlarge =>
          split
          case isTrue hmiddle =>
              split
              case isTrue hshort =>
                  refine
                    { whole := rfl
                      nonempty := List.cons_ne_nil _ _
                      leading := fun _ => rfl
                      fraction := ?_
                      exponent := by simp }
                  intro ds hds
                  cases hds
                  rw [List.all_append, hdigits, Bool.and_true, List.all_replicate]
                  refine ⟨by simp, ?_⟩
                  split <;> rfl
              case isFalse hlong =>
                  have hplaces : 0 < (-d.exponent).toNat := by simp_all; omega
                  generalize hwhole : (c :: rest).length - (-d.exponent).toNat = whole
                  have hlt : whole < (c :: rest).length := by simp at hwhole ⊢; omega
                  rcases Nat.exists_eq_succ_of_ne_zero (show whole ≠ 0 by omega) with ⟨more, rfl⟩
                  refine
                    { whole := all_isDigit_of_subset hdigits (List.take_subset _ _)
                      nonempty := List.cons_ne_nil _ _
                      leading := fun h => absurd (Option.some.inj h) hc
                      fraction := ?_
                      exponent := by simp }
                  intro ds hds
                  cases hds
                  exact ⟨List.ne_nil_of_length_pos (by rw [List.length_drop]; omega),
                    all_isDigit_of_subset hdigits (List.drop_subset _ _)⟩
          case isFalse hsmall =>
              refine
                { whole := all_isDigit_of_subset hdigits (List.take_subset _ _)
                  nonempty := List.cons_ne_nil _ _
                  leading := fun _ => rfl
                  fraction := ?afterPoint
                  exponent := ?power }
              case afterPoint =>
                  intro ds hds
                  cases rest <;> cases hds
                  exact ⟨List.cons_ne_nil _ _, all_isDigit_of_subset hdigits (List.drop_subset 1 _)⟩
              case power =>
                  intro e he
                  cases he
                  exact ⟨Nat.toDigits_ne_nil, all_isDigit_toDigits _⟩

/-- The text of a double that is a number is a numeral with a point or an exponent. -/
theorem exists_numeral {x : Float} {negative : Bool} {significand : Nat} {exponent : Int}
    (h : Value.ofFloat x = .finite negative significand exponent) :
    (jsonText x).toList = (numeral negative (shortest .even significand exponent)).chars := by
  rw [jsonText, h]
  exact toList_signed_jsonDigits negative _

theorem isSome_numeral (negative : Bool) (d : Digits) :
    ((numeral negative d).fraction.isSome || (numeral negative d).exponent.isSome) = true := by
  unfold numeral
  dsimp only
  repeat' split
  all_goals simp

end Decimal
end DeckTools
