import DeckTools.Proofs.Edit.Checked
import DeckTools.Proofs.Text.Numeral
import Mathlib.Data.List.Basic

/-!
# Names of colour effects

A colour effect is named without regard to case and to blanks around it: by `none`, by one
of three words, or by a tone with a step from 1 to 10.  The step is read as a number, so
that a plus sign, and zeros after the sign, are let through as well.  Nothing else is.
-/

namespace DeckTools

/-! ## Letters without case -/

namespace Text

theorem toLower_toUpper (c : Char) : c.toUpper.toLower = c.toLower := by
  by_cases hascii : c.toNat < 128
  · have hall : forall n, n < 128 ->
        (Char.ofNat n).toUpper.toLower = (Char.ofNat n).toLower := by decide
    rw [← Char.ofNat_toNat c]
    exact hall c.toNat hascii
  · have hupper : c.toUpper = c := by
      apply dif_neg
      intro h
      exact hascii (Nat.lt_of_le_of_lt h.2 (by decide))
    rw [hupper]

theorem toUpper_toLower (c : Char) : c.toLower.toUpper = c.toUpper := by
  by_cases hascii : c.toNat < 128
  · have hall : forall n, n < 128 ->
        (Char.ofNat n).toLower.toUpper = (Char.ofNat n).toUpper := by decide
    rw [← Char.ofNat_toNat c]
    exact hall c.toNat hascii
  · have hlower : c.toLower = c := by
      apply dif_neg
      intro h
      exact hascii (Nat.lt_of_le_of_lt h.2 (by decide))
    rw [hlower]

theorem asciiLower_asciiUpper (s : String) : asciiLower (asciiUpper s) = asciiLower s := by
  unfold asciiLower asciiUpper
  rw [String.toList_ofList, List.map_map]
  congr 2
  funext c
  exact toLower_toUpper c

theorem asciiUpper_asciiLower (s : String) : asciiUpper (asciiLower s) = asciiUpper s := by
  unfold asciiLower asciiUpper
  rw [String.toList_ofList, List.map_map]
  congr 2
  funext c
  exact toUpper_toLower c

end Text

namespace Recolor

/-! ## Presets -/

def tones : List String :=
  ["LIGHT", "DARK"]

/-- A preset is one of three words, or a tone with the numeral of a step from 1 to 10. -/
def NamesPreset (name : String) : Prop :=
  name ∈ ["GRAYSCALE", "SEPIA", "NEGATIVE"] ∨
    exists tone n, tone ∈ tones ∧ 1 ≤ n ∧ n ≤ 10 ∧ name = tone ++ Text.natText n

/-- A tone, a plus sign, and the numeral of a step with any number of zeros before it. -/
def NamesSigned (name : String) : Prop :=
  exists tone zeros n, tone ∈ tones ∧ 1 ≤ n ∧ n ≤ 10 ∧
    name = tone ++ ("+" ++ String.ofList (List.replicate zeros '0') ++ Text.natText n)

/-- The characters of a step as it may be spelled. -/
def SpellsStep (step : List Char) : Prop :=
  exists n, 1 ≤ n ∧ n ≤ 10 ∧
    (step = (Text.natText n).toList ∨
      exists zeros, step = '+' :: (List.replicate zeros '0' ++ (Text.natText n).toList))

theorem isPresetStep_iff {step : List Char} : isPresetStep step = true <-> SpellsStep step := by
  unfold isPresetStep SpellsStep
  constructor
  · intro h
    split at h
    case h_2 => cases h
    case h_1 n hn =>
        simp only [Bool.and_eq_true, decide_eq_true_eq, bne_iff_ne] at h
        rcases h with ⟨⟨hlow, hhigh⟩, hzero⟩
        refine ⟨n, hlow, hhigh, ?_⟩
        rcases Text.unsigned?_eq_some_iff.mp hn with ⟨zeros, heq | heq⟩
        · -- Without the sign there is no zero, as the first character is none.
          cases zeros with
          | zero => exact Or.inl heq
          | succ zeros =>
              rw [heq] at hzero
              exact absurd rfl hzero
        · exact Or.inr ⟨zeros, heq⟩
  · intro h
    rcases h with ⟨n, hlow, hhigh, hstep⟩
    have hread : Text.unsigned? step = some n := by
      apply Text.unsigned?_eq_some_iff.mpr
      rcases hstep with heq | ⟨zeros, heq⟩
      · exact ⟨0, Or.inl heq⟩
      · exact ⟨zeros, Or.inr heq⟩
    have hzero : step.head? ≠ some '0' := by
      rcases hstep with heq | ⟨zeros, heq⟩
      · rw [heq]
        exact Text.head?_natText_ne_zero (Nat.ne_of_gt hlow)
      · rw [heq, List.head?_cons]
        decide
    rw [hread]
    simp only [Bool.and_eq_true, decide_eq_true_eq, bne_iff_ne]
    exact ⟨⟨hlow, hhigh⟩, hzero⟩

theorem presetStep?_eq_some_iff {name step : List Char} :
    presetStep? name = some step <-> exists tone, tone ∈ tones ∧ name = tone.toList ++ step := by
  unfold presetStep? tones
  constructor
  · intro h
    split at h
    case h_1 light hlight =>
        cases h
        exact ⟨"LIGHT", by simp, Text.dropStart?_eq_some_iff.mp hlight⟩
    case h_2 => exact ⟨"DARK", by simp, Text.dropStart?_eq_some_iff.mp h⟩
  · intro h
    rcases h with ⟨tone, htone, rfl⟩
    rcases List.mem_pair.mp htone with rfl | rfl
    · rw [Text.dropStart?_eq_some_iff.mpr rfl]
    · have hlight : Text.dropStart? "LIGHT".toList ("DARK".toList ++ step) = none := rfl
      rw [hlight]
      exact Text.dropStart?_eq_some_iff.mpr rfl

theorem isPreset_eq (name : String) :
    isPreset name =
      (namedPresets.contains name || (presetStep? name.toList).any isPresetStep) := by
  unfold isPreset
  cases presetStep? name.toList <;> rfl

theorem any_isPresetStep_iff {name : List Char} :
    (presetStep? name).any isPresetStep = true <->
      exists tone step, tone ∈ tones ∧ name = tone.toList ++ step ∧ SpellsStep step := by
  rw [Option.any_eq_true]
  constructor
  · intro h
    rcases h with ⟨step, hname, hstep⟩
    rcases presetStep?_eq_some_iff.mp hname with ⟨tone, htone, heq⟩
    exact ⟨tone, step, htone, heq, isPresetStep_iff.mp hstep⟩
  · intro h
    rcases h with ⟨tone, step, htone, heq, hspells⟩
    exact ⟨step, presetStep?_eq_some_iff.mpr ⟨tone, htone, heq⟩, isPresetStep_iff.mpr hspells⟩

theorem isPreset_iff {name : String} :
    isPreset name = true <-> NamesPreset name ∨ NamesSigned name := by
  unfold NamesPreset NamesSigned
  rw [isPreset_eq, Bool.or_eq_true, List.contains_iff_mem, any_isPresetStep_iff, or_assoc]
  apply or_congr Iff.rfl
  constructor
  · intro h
    rcases h with ⟨tone, step, htone, hname, n, hlow, hhigh, hstep | ⟨zeros, hstep⟩⟩
    · refine Or.inl ⟨tone, n, htone, hlow, hhigh, ?_⟩
      apply String.toList_inj.mp
      rw [hname, hstep, String.toList_append]
    · refine Or.inr ⟨tone, zeros, n, htone, hlow, hhigh, ?_⟩
      apply String.toList_inj.mp
      rw [hname, hstep]
      simp
  · intro h
    rcases h with ⟨tone, n, htone, hlow, hhigh, rfl⟩ | ⟨tone, zeros, n, htone, hlow, hhigh, rfl⟩
    · exact ⟨tone, _, htone, String.toList_append, n, hlow, hhigh, Or.inl rfl⟩
    · refine ⟨tone, _, htone, String.toList_append, n, hlow, hhigh, Or.inr ⟨zeros, ?_⟩⟩
      simp

/-! ## Reading a colour effect -/

theorem asciiUpper_eq_none_iff {text : String} :
    Text.asciiUpper text = "NONE" <-> Text.asciiLower text = "none" := by
  constructor
  · intro h
    rw [← Text.asciiLower_asciiUpper, h]
    rfl
  · intro h
    rw [← Text.asciiUpper_asciiLower, h]
    rfl

theorem not_isPreset_none : isPreset "NONE" = false := rfl

/--
A text is read as no effect if it says `none`, and as a preset if it names one or spells its
step with a plus sign.  Every other text is refused.
-/
theorem ofText_accepts (raw : String) :
    (ofText raw = .ok .clear <-> Text.asciiLower (Text.trim raw) = "none") ∧
    (forall name, ofText raw = .ok (.preset name) <->
      name = Text.asciiUpper (Text.trim raw) ∧ (NamesPreset name ∨ NamesSigned name)) ∧
    forall e, ofText raw = .error e -> e.kind = .invalidRecolor := by
  rw [← asciiUpper_eq_none_iff]
  unfold ofText
  dsimp only
  generalize Text.asciiUpper (Text.trim raw) = upper
  by_cases hnone : upper = "NONE"
  · subst hnone
    refine ⟨?_, ?_, ?_⟩
    · exact iff_of_true rfl rfl
    · intro name
      apply iff_of_false
      · intro h
        cases h
      · intro h
        rcases h with ⟨rfl, hpreset⟩
        exact Bool.false_ne_true (not_isPreset_none.symm.trans (isPreset_iff.mpr hpreset))
    · intro e h
      cases h
  · have hother : ¬ (upper == "NONE") = true := fun h => hnone (beq_iff_eq.mp h)
    rw [if_neg hother]
    by_cases hpreset : isPreset upper = true
    · rw [if_pos hpreset]
      refine ⟨?_, ?_, ?_⟩
      · apply iff_of_false _ hnone
        intro h
        cases h
      · intro name
        constructor
        · intro h
          cases h
          exact ⟨rfl, isPreset_iff.mp hpreset⟩
        · intro h
          rw [h.1]
      · intro e h
        cases h
    · rw [if_neg hpreset]
      refine ⟨?_, ?_, ?_⟩
      · exact iff_of_false failWith_ne_ok hnone
      · intro name
        apply iff_of_false failWith_ne_ok
        intro h
        rw [h.1, ← isPreset_iff] at h
        exact hpreset h.2
      · intro e h
        cases h
        rfl

/-- A plus sign before the step is let through, though no preset is so named. -/
theorem signed_step_accepted :
    ofText "light+5" = .ok (.preset "LIGHT+5") ∧ ¬ NamesPreset "LIGHT+5" := by
  refine ⟨rfl, ?_⟩
  intro h
  rcases h with hword | ⟨tone, n, htone, _, _, heq⟩
  · revert hword
    decide
  · -- No character of a numeral is a plus sign.
    have hplus : '+' ∈ (tone ++ Text.natText n).toList := by
      rw [← heq]
      decide
    rw [String.toList_append] at hplus
    rcases List.mem_append.mp hplus with htone' | hdigit
    · rcases List.mem_pair.mp htone with rfl | rfl <;> revert htone' <;> decide
    · cases Text.isDigit_of_mem_natText hdigit

end Recolor

end DeckTools
