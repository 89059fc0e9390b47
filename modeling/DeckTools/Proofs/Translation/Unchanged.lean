import DeckTools.Proofs.Deck.Walk
import DeckTools.Rehearsal.SampleDeck

/-!
# Translations that change nothing

What is sent of a text lacks its final line feed, and so does what comes back before
the two are compared.  A text that still ends in a line feed when it is sent, because
it ended in an empty paragraph, loses that one as well: it is rewritten although its
translation is the same.  Every other text is left as it is.
-/

namespace DeckTools

namespace Text

/-! ## Final line feeds -/

/-- The last character is a line feed. -/
def EndsInLineFeed (s : String) : Prop :=
  s.toList.getLast? = some '\n'

instance (s : String) : Decidable (EndsInLineFeed s) :=
  inferInstanceAs (Decidable (_ = _))

theorem toList_eq_of_endsInLineFeed {s : String} (h : EndsInLineFeed s) :
    s.toList = (dropFinalNewline s).toList ++ ['\n'] := by
  unfold dropFinalNewline
  split
  case h_1 rest hreverse =>
      have hs : s.toList = ('\n' :: rest).reverse := by rw [← hreverse, List.reverse_reverse]
      rw [String.toList_ofList, hs, List.reverse_cons]
  case h_2 hother =>
      rcases List.getLast?_eq_some_iff.mp h with ⟨front, hfront⟩
      have hreverse : s.toList.reverse = '\n' :: front.reverse := by
        rw [hfront, List.reverse_append, List.reverse_singleton, List.singleton_append]
      exact absurd hreverse (hother front.reverse)

theorem dropFinalNewline_eq_self {s : String} (h : ¬ EndsInLineFeed s) :
    dropFinalNewline s = s := by
  unfold dropFinalNewline
  split
  case h_1 rest hreverse =>
      have hlast : s.toList.reverse.head? = some '\n' := by rw [hreverse]; rfl
      rw [List.head?_reverse] at hlast
      exact absurd hlast h
  case h_2 => rfl

theorem dropFinalNewline_ne_self {s : String} (h : EndsInLineFeed s) :
    dropFinalNewline s ≠ s := by
  intro heq
  have hlength := congrArg List.length (toList_eq_of_endsInLineFeed h)
  rw [heq, List.length_append] at hlength
  simp at hlength

/-- A line feed is blank, so a text without its final one is as blank as before. -/
theorem isBlankText_dropFinalNewline (s : String) :
    isBlankText (dropFinalNewline s) = isBlankText s := by
  by_cases h : EndsInLineFeed s
  · unfold isBlankText
    rw [toList_eq_of_endsInLineFeed h, List.all_append]
    have hblank : ['\n'].all isBlank = true := by decide
    rw [hblank, Bool.and_true]
  · rw [dropFinalNewline_eq_self h]

end Text

open Text

variable {α : Type}

/-! ## Targets -/

namespace TextTarget

theorem isBlankText_of_ofUnit? {unit : TextUnit} {target : TextTarget}
    (h : ofUnit? unit = some target) :
    isBlankText target.text = false := by
  simp only [ofUnit?] at h
  split at h
  case isTrue => cases h
  case isFalse hkept =>
      cases h
      rw [Bool.or_eq_true, not_or] at hkept
      exact Bool.eq_false_iff.mpr hkept.2

theorem isBlankText_of_mem_collect {elements : List (Element α)} {target : TextTarget}
    (h : target ∈ collect elements) :
    isBlankText target.text = false := by
  rw [collect_eq_flatMap_walk] at h
  rcases List.mem_flatMap.mp h with ⟨element, _, hmem⟩
  rcases List.mem_filterMap.mp hmem with ⟨unit, _, hunit⟩
  exact isBlankText_of_ofUnit? hunit

/-- A text that comes back as it was sent is replaced only to take its final line feed off. -/
theorem replacement?_text {target : TextTarget} (hblank : isBlankText target.text = false) :
    target.replacement? target.text =
      if EndsInLineFeed target.text then some (dropFinalNewline target.text) else none := by
  unfold replacement?
  dsimp only
  rw [isBlankText_dropFinalNewline, hblank, Bool.false_or]
  by_cases h : EndsInLineFeed target.text
  · rw [if_pos h, if_neg]
    intro heq
    exact dropFinalNewline_ne_self h (beq_iff_eq.mp heq)
  · rw [if_neg h, dropFinalNewline_eq_self h, beq_self_eq_true, if_pos rfl]

end TextTarget

/-! ## Plans -/

namespace TranslationPlan

/-- Every translation there is equals the text that was sent. -/
def Unchanged (targets : List TextTarget) (translations : List String) : Prop :=
  forall pair, pair ∈ targets.zip translations -> pair.2 = pair.1.text

/-- The targets with a translation whose text ends in a line feed. -/
def trailing (targets : List TextTarget) (translations : List String) : List TextTarget :=
  (targets.take translations.length).filter (fun target => EndsInLineFeed target.text)

theorem changes_unchanged {targets : List TextTarget} {translations : List String}
    (hunchanged : Unchanged targets translations)
    (hblank : forall target, target ∈ targets -> isBlankText target.text = false) :
    changes targets translations =
      (trailing targets translations).map
        (fun target => (target, dropFinalNewline target.text)) := by
  induction targets generalizing translations with
  | nil => simp [changes, trailing]
  | cons target rest ih =>
      cases translations with
      | nil => rfl
      | cons translation others =>
          have hfirst : translation = target.text :=
            hunchanged (target, translation) List.mem_cons_self
          have hothers : Unchanged rest others :=
            fun pair hpair => hunchanged pair (List.mem_cons_of_mem _ hpair)
          have hrest := ih hothers
            (fun other hother => hblank other (List.mem_cons_of_mem _ hother))
          have hreplacement := TextTarget.replacement?_text
            (hblank target List.mem_cons_self)
          unfold changes at hrest ⊢
          unfold trailing at hrest ⊢
          rw [List.zip_cons_cons, List.filterMap_cons, hfirst, hreplacement, hrest,
            List.length_cons, List.take_succ_cons, List.filter_cons]
          by_cases h : EndsInLineFeed target.text
          · simp [h]
          · simp [h]

theorem trailing_eq_nil_iff {targets : List TextTarget} {translations : List String} :
    trailing targets translations = [] <->
      forall target, target ∈ targets.take translations.length ->
        ¬ EndsInLineFeed target.text := by
  unfold trailing
  rw [List.filter_eq_nil_iff]
  simp only [decide_eq_true_eq]

/--
When every translation equals the text that was sent, the texts rewritten are those
that were sent with a line feed at their end, and that line feed is what they lose.
So nothing is edited exactly when no text was sent with one.
-/
theorem ofTranslations_unchanged {elements : List (Element α)} {translations : List String}
    (hunchanged : Unchanged (TextTarget.collect elements) translations) :
    (ofTranslations (TextTarget.collect elements) translations : TranslationPlan α) =
      { requests :=
          (trailing (TextTarget.collect elements) translations).flatMap
            (fun target => target.replaceText (dropFinalNewline target.text))
        translated := (trailing (TextTarget.collect elements) translations).length
        skipped :=
          (TextTarget.collect elements).length -
            (trailing (TextTarget.collect elements) translations).length } ∧
    ((ofTranslations (TextTarget.collect elements) translations : TranslationPlan α) =
        { requests := [], translated := 0, skipped := (TextTarget.collect elements).length } <->
      forall target, target ∈ (TextTarget.collect elements).take translations.length ->
        ¬ EndsInLineFeed target.text) := by
  have hchanges := changes_unchanged hunchanged
    (fun target htarget => TextTarget.isBlankText_of_mem_collect htarget)
  have hplan :
      (ofTranslations (TextTarget.collect elements) translations : TranslationPlan α) =
        { requests :=
            (trailing (TextTarget.collect elements) translations).flatMap
              (fun target => target.replaceText (dropFinalNewline target.text))
          translated := (trailing (TextTarget.collect elements) translations).length
          skipped :=
            (TextTarget.collect elements).length -
              (trailing (TextTarget.collect elements) translations).length } := by
    rw [ofTranslations_eq, hchanges, List.flatMap_map, List.length_map]
  refine ⟨hplan, ?_⟩
  rw [hplan, ← trailing_eq_nil_iff]
  constructor
  · intro h
    exact List.length_eq_zero_iff.mp (congrArg TranslationPlan.translated h)
  · intro h
    rw [h]
    rfl

def sampleShapes : List (Element Float) :=
  [.shape (Rehearsal.named "a") (Rehearsal.textShape none none "one\n"),
    .shape (Rehearsal.named "b") (Rehearsal.textShape none none "two\n\n")]

theorem ofTranslations_unchanged_sampleShapes :
    Unchanged (TextTarget.collect sampleShapes) ["one", "two\n"] ∧
      (ofTranslations (TextTarget.collect sampleShapes) ["one", "two\n"] :
          TranslationPlan Float) =
        { requests :=
            [.deleteText { objectId := "b", cell := none },
              .insertText { objectId := "b", cell := none } "two"]
          translated := 1
          skipped := 1 } := by
  have hunchanged : Unchanged (TextTarget.collect sampleShapes) ["one", "two\n"] := by
    unfold Unchanged
    decide
  exact ⟨hunchanged, (ofTranslations_unchanged hunchanged).1⟩

/-- A translation that changes nothing may edit: the empty paragraph is taken off. -/
theorem unchanged_translation_edits :
    Unchanged (TextTarget.collect (sampleShapes.drop 1)) ["two\n"] ∧
      (ofTranslations (TextTarget.collect (sampleShapes.drop 1)) ["two\n"] :
          TranslationPlan Float) =
        { requests :=
            [.deleteText { objectId := "b", cell := none },
              .insertText { objectId := "b", cell := none } "two"]
          translated := 1
          skipped := 0 } := by
  constructor
  · unfold Unchanged
    decide
  · rfl

end TranslationPlan

end DeckTools
