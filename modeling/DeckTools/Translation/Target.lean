import DeckTools.Batch.Request
import DeckTools.Deck.Element
import DeckTools.Text.Blank
import DeckTools.Text.Occurrence
import DeckTools.ToolError

/-!
# Texts to translate

Every text of a list of elements is translated, unless it is blank or holds a
live field, which rewriting would freeze.  The line feed that ends the text of
an element is not sent.  A translation that is blank or changes nothing is
dropped; any other replaces the whole text.
-/

namespace DeckTools

variable {α : Type}

/-- A text that can be rewritten, without its final line feed. -/
structure TextTarget where
  address : TextAddress
  text : String
  deriving DecidableEq

def CellAddress.location (cell : CellAddress) : CellLocation :=
  { row := UInt32.ofNat cell.row, column := UInt32.ofNat cell.column }

namespace TextTarget

def ofUnit? (unit : TextUnit) : Option TextTarget :=
  let text := Text.dropFinalNewline unit.content.plain
  if unit.content.hasAuto || Text.isBlankText text then none
  else
    some
      { address :=
          { objectId := unit.objectId, cell := unit.cell.map CellAddress.location }
        text }

mutual

def collectIn (depth : Nat) : Element α -> List TextTarget
  | .group _ members => collectAmong (depth + 1) members
  | element => element.ownTexts.filterMap ofUnit?

def collectAmong (depth : Nat) : List (Element α) -> List TextTarget
  | [] => []
  | element :: rest =>
      if maxDepth < depth then [] else collectIn depth element ++ collectAmong depth rest

end

def collect (elements : List (Element α)) : List TextTarget :=
  collectAmong 0 elements

def replaceText (target : TextTarget) (text : String) : List (Request α) :=
  [.deleteText target.address, .insertText target.address text]

def replacement? (target : TextTarget) (translation : String) : Option String :=
  let text := Text.dropFinalNewline translation
  if Text.isBlankText text || text == target.text then none else some text

end TextTarget

structure TranslationPlan (α : Type) where
  requests : List (Request α)
  translated : Nat
  skipped : Nat

namespace TranslationPlan

def empty : TranslationPlan α :=
  { requests := [], translated := 0, skipped := 0 }

def next (plan : TranslationPlan α) (target : TextTarget) (translation : String) :
    TranslationPlan α :=
  match target.replacement? translation with
  | some text =>
      { plan with
        requests := plan.requests ++ target.replaceText text
        translated := plan.translated + 1 }
  | none => { plan with skipped := plan.skipped + 1 }

/-- Pair targets with their translations; the targets that are left over are skipped. -/
def ofTranslations (targets : List TextTarget) (translations : List String) :
    TranslationPlan α :=
  let plan := (targets.zip translations).foldl (fun plan pair => plan.next pair.1 pair.2) empty
  { plan with skipped := plan.skipped + (targets.length - translations.length) }

/-! ### What a plan holds -/

def changes (targets : List TextTarget) (translations : List String) :
    List (TextTarget × String) :=
  (targets.zip translations).filterMap fun pair =>
    (pair.1.replacement? pair.2).map (fun text => (pair.1, text))

/-- Each pair is counted once: as a change with its requests, or as skipped. -/
theorem foldl_next (pairs : List (TextTarget × String)) (plan : TranslationPlan α) :
    pairs.foldl (fun plan pair => plan.next pair.1 pair.2) plan =
      let changed := pairs.filterMap fun pair =>
        (pair.1.replacement? pair.2).map (fun text => (pair.1, text))
      { requests := plan.requests ++ changed.flatMap (fun c => c.1.replaceText c.2)
        translated := plan.translated + changed.length
        skipped := plan.skipped + (pairs.length - changed.length) } := by
  induction pairs generalizing plan with
  | nil => simp
  | cons pair rest ih =>
      have hle := List.length_filterMap_le
        (fun pair : TextTarget × String =>
          (pair.1.replacement? pair.2).map (fun text => (pair.1, text))) rest
      rw [List.foldl_cons, ih, next]
      cases hreplacement : pair.1.replacement? pair.2 with
      | none => simp [hreplacement]; omega
      | some text => simp [hreplacement]; omega

theorem length_changes_le (targets : List TextTarget) (translations : List String) :
    (changes targets translations).length ≤ min targets.length translations.length := by
  rw [← List.length_zip]
  exact List.length_filterMap_le _ _

/-- What is skipped is what has no replacement, for want of a translation or in spite of it. -/
theorem ofTranslations_eq (targets : List TextTarget) (translations : List String) :
    (ofTranslations targets translations : TranslationPlan α) =
      { requests := (changes targets translations).flatMap (fun c => c.1.replaceText c.2)
        translated := (changes targets translations).length
        skipped := targets.length - (changes targets translations).length } := by
  have hle := length_changes_le targets translations
  have hskipped : (targets.zip translations).length - (changes targets translations).length +
      (targets.length - translations.length) =
        targets.length - (changes targets translations).length := by
    rw [List.length_zip]
    omega
  unfold ofTranslations empty
  rw [foldl_next]
  simp only [List.nil_append, Nat.zero_add]
  unfold changes at hskipped ⊢
  rw [hskipped]

end TranslationPlan

/-! ## Languages -/

def isRun (accepts : Char -> Bool) (low high : Nat) (cs : List Char) : Bool :=
  cs.all accepts && low ≤ cs.length && cs.length ≤ high

def isLanguageCode (cs : List Char) : Bool :=
  match Text.splitOnce ['-'] cs with
  | some (language, subtag) =>
      isRun Char.isAlpha 2 3 language && isRun Char.isAlphanum 2 4 subtag
  | none => isRun Char.isAlpha 2 3 cs

def checkLanguage (raw : String) : Except ToolError String :=
  let code := Text.trim raw
  if isLanguageCode code.toList then .ok code
  else
    failWith .invalidLanguage
      ("'" ++ raw ++ "' is not a language code (e.g. 'es', 'pt-BR')")

end DeckTools
