import DeckTools.Proofs.Deck.Place
import DeckTools.Proofs.Json.Canonical
import DeckTools.Translation.Target
import Mathlib.Logic.Function.Basic

/-!
# Plans of translations

A plan replaces a text for each position at which there is a target and a translation that
is neither blank nor the same text: it deletes all of the old text and then inserts the
new one.  Carried out on any texts, it leaves each of these addresses with its translation
and every other address as it was.
-/

namespace DeckTools

open Text

/-! ## Texts and what edits them -/

/-- What each address holds. -/
abbrev TextStore : Type :=
  TextAddress -> String

section Requests

variable {α : Type}

/-- The texts after a request; requests of other kinds edit none. -/
def Request.editTexts (store : TextStore) : Request α -> TextStore
  | .deleteText address => Function.update store address ""
  | .insertText address text => Function.update store address (text ++ store address)
  | _ => store

/-- The texts after requests that are carried out in order. -/
def TextStore.replay (store : TextStore) (requests : List (Request α)) : TextStore :=
  requests.foldl Request.editTexts store

variable [Scalar α]

def CellLocation.toJson (cell : CellLocation) : Json :=
  Json.object
    [("rowIndex", .ofNat cell.row.toNat), ("columnIndex", .ofNat cell.column.toNat)]

/-- As services read it, the request deletes all of the text at an address. -/
structure Request.DeletesAll (request : Request α) (address : TextAddress) : Prop where
  name : request.name = "deleteText"
  objectId : request.body.get? "objectId" = some (.str address.objectId)
  cell : request.body.get? "cellLocation" = address.cell.map CellLocation.toJson
  range : request.body.get? "textRange" = some (Json.object [("type", .str "ALL")])

/-- As services read it, the request puts a text before all that stands at an address. -/
structure Request.InsertsFirst (request : Request α) (address : TextAddress)
    (text : String) : Prop where
  name : request.name = "insertText"
  objectId : request.body.get? "objectId" = some (.str address.objectId)
  cell : request.body.get? "cellLocation" = address.cell.map CellLocation.toJson
  text : request.body.get? "text" = some (.str text)
  index : request.body.get? "insertionIndex" = some (.ofNat 0)

theorem Request.deletesAll_deleteText (address : TextAddress) :
    (deleteText address : Request α).DeletesAll address := by
  rcases address with ⟨objectId, _ | cell⟩ <;> constructor <;>
    simp [Request.name, body, addressMembers, Json.optional, Json.get?_object,
      CellLocation.toJson]

theorem Request.insertsFirst_insertText (address : TextAddress) (text : String) :
    (insertText address text : Request α).InsertsFirst address text := by
  rcases address with ⟨objectId, _ | cell⟩ <;> constructor <;>
    simp [Request.name, body, addressMembers, Json.optional, Json.get?_object,
      CellLocation.toJson]

end Requests

/-! ## What is to be replaced -/

theorem TextTarget.replacement?_eq_some_iff {target : TextTarget} {translation text : String} :
    target.replacement? translation = some text <->
      text = dropFinalNewline translation ∧ isBlankText text = false ∧ text ≠ target.text := by
  unfold replacement?
  dsimp only
  split
  case isTrue h =>
      rw [Bool.or_eq_true, beq_iff_eq] at h
      constructor
      · intro hsome
        cases hsome
      · intro hdue
        rcases hdue with ⟨rfl, hblank, hdiffers⟩
        rcases h with hisBlank | hsame
        · rw [hisBlank] at hblank
          cases hblank
        · exact absurd hsame hdiffers
  case isFalse h =>
      rw [Bool.or_eq_true, beq_iff_eq, not_or, Bool.not_eq_true] at h
      rw [Option.some.injEq]
      constructor
      · intro heq
        rw [← heq]
        exact ⟨rfl, h.1, h.2⟩
      · intro hdue
        exact hdue.1.symm

namespace TranslationPlan

variable {α : Type}

/-- A text by which the text of the target at a position is replaced. -/
structure Rewriting where
  position : Nat
  target : TextTarget
  text : String

namespace Rewriting

/-- The target and its translation stand at the position, and the text is worth a change. -/
structure Due (change : Rewriting) (targets : List TextTarget) (translations : List String) :
    Prop where
  target : targets[change.position]? = some change.target
  translated :
    exists translation, translations[change.position]? = some translation ∧
      change.text = dropFinalNewline translation
  notBlank : isBlankText change.text = false
  differs : change.text ≠ change.target.text

/-- Delete the old text, then insert the new one. -/
def requests (change : Rewriting) : List (Request α) :=
  [.deleteText change.target.address, .insertText change.target.address change.text]

end Rewriting

/-- The texts that a list of translations replaces, by position. -/
def rewritings (targets : List TextTarget) (translations : List String) : List Rewriting :=
  (targets.zip translations).zipIdx.filterMap fun entry =>
    (entry.1.1.replacement? entry.1.2).map fun text =>
      { position := entry.2, target := entry.1.1, text }

theorem mem_rewritings_iff {targets : List TextTarget} {translations : List String}
    {change : Rewriting} :
    change ∈ rewritings targets translations <-> change.Due targets translations := by
  unfold rewritings
  rw [List.mem_filterMap]
  constructor
  · intro h
    rcases h with ⟨⟨⟨target, translation⟩, position⟩, hentry, hsome⟩
    rcases Option.map_eq_some_iff.mp hsome with ⟨text, htext, rfl⟩
    have hzip := List.mem_zipIdx_iff_getElem?.mp hentry
    rcases List.getElem?_zip_eq_some.mp hzip with ⟨htarget, htranslation⟩
    rcases TextTarget.replacement?_eq_some_iff.mp htext with ⟨heq, hblank, hdiffers⟩
    exact ⟨htarget, ⟨translation, htranslation, heq⟩, hblank, hdiffers⟩
  · intro hdue
    rcases hdue.translated with ⟨translation, htranslation, heq⟩
    have hzip : (targets.zip translations)[change.position]? =
        some (change.target, translation) :=
      List.getElem?_zip_eq_some.mpr ⟨hdue.target, htranslation⟩
    have htext : change.target.replacement? translation = some change.text :=
      TextTarget.replacement?_eq_some_iff.mpr ⟨heq, hdue.notBlank, hdue.differs⟩
    refine ⟨((change.target, translation), change.position),
      List.mem_zipIdx_iff_getElem?.mpr hzip, ?_⟩
    rw [htext, Option.map_some]

theorem rewritings_pairwise (targets : List TextTarget) (translations : List String) :
    (rewritings targets translations).Pairwise
      (fun left right => left.position < right.position) := by
  unfold rewritings
  rw [List.pairwise_filterMap]
  apply (Presentation.zipIdx_pairwise (targets.zip translations)).imp
  intro left right hlt first hfirst second hsecond
  rcases Option.map_eq_some_iff.mp hfirst with ⟨_, _, rfl⟩
  rcases Option.map_eq_some_iff.mp hsecond with ⟨_, _, rfl⟩
  exact hlt

theorem changes_eq_map_rewritings (targets : List TextTarget) (translations : List String) :
    changes targets translations =
      (rewritings targets translations).map (fun change => (change.target, change.text)) := by
  have hpairs : ((targets.zip translations).zipIdx.map Prod.fst) = targets.zip translations :=
    List.zipIdx_map_fst 0 _
  unfold changes rewritings
  rw [List.map_filterMap, ← hpairs, List.filterMap_map, hpairs]
  congr 1
  funext entry
  rw [Function.comp_apply, Option.map_map]
  rfl

/-! ## Carrying a plan out -/

/-- The two requests of a change overwrite one address. -/
theorem replay_requests_append (store : TextStore) (change : Rewriting)
    (rest : List (Request α)) :
    store.replay (change.requests ++ rest) =
      TextStore.replay (Function.update store change.target.address change.text) rest := by
  have hwritten : Function.update (Function.update store change.target.address "")
        change.target.address
        (change.text ++ Function.update store change.target.address "" change.target.address) =
      Function.update store change.target.address change.text := by
    rw [Function.update_self, Function.update_idem, String.append_empty]
  show TextStore.replay (Function.update _ _ _) rest = _
  rw [← hwritten]
  rfl

theorem replay_of_ne {changes : List Rewriting} {address : TextAddress} (store : TextStore)
    (h : forall change, change ∈ changes -> change.target.address ≠ address) :
    store.replay (changes.flatMap Rewriting.requests : List (Request α)) address =
      store address := by
  induction changes generalizing store with
  | nil => rfl
  | cons change rest ih =>
      have hother : address ≠ change.target.address :=
        (h change List.mem_cons_self).symm
      rw [List.flatMap_cons, replay_requests_append,
        ih _ (fun later hlater => h later (List.mem_cons_of_mem change hlater))]
      exact Function.update_of_ne hother change.text store

theorem replay_of_mem {changes : List Rewriting} {change : Rewriting} (store : TextStore)
    (hdistinct : changes.Pairwise
      (fun left right => left.target.address ≠ right.target.address))
    (h : change ∈ changes) :
    store.replay (changes.flatMap Rewriting.requests : List (Request α))
        change.target.address = change.text := by
  induction changes generalizing store with
  | nil => cases h
  | cons first rest ih =>
      rcases List.pairwise_cons.mp hdistinct with ⟨hfirst, hrest⟩
      rw [List.flatMap_cons, replay_requests_append]
      rcases List.mem_cons.mp h with rfl | hlater
      · rw [replay_of_ne _ (fun later hlater => (hfirst later hlater).symm)]
        exact Function.update_self _ _ _
      · exact ih _ hrest hlater

/-- Distinct targets have distinct changes. -/
theorem pairwise_ne_address {targets : List TextTarget} {translations : List String}
    (hdistinct : (targets.map TextTarget.address).Nodup) :
    (rewritings targets translations).Pairwise
      (fun left right => left.target.address ≠ right.target.address) := by
  apply (rewritings_pairwise targets translations).imp_of_mem
  intro left right hleft hright hlt hsame
  have hleftAt := (mem_rewritings_iff.mp hleft).target
  have hrightAt := (mem_rewritings_iff.mp hright).target
  have haddresses : (targets.map TextTarget.address)[left.position]? =
      (targets.map TextTarget.address)[right.position]? := by
    rw [List.getElem?_map, List.getElem?_map, hleftAt, hrightAt, Option.map_some,
      Option.map_some, hsame]
  have hin : left.position < (targets.map TextTarget.address).length := by
    rw [List.length_map]
    exact (List.getElem?_eq_some_iff.mp hleftAt).1
  have hposition : left.position = right.position :=
    (List.getElem?_inj hin hdistinct).mp haddresses
  omega

/--
A plan replaces exactly the texts that are due, in the order of their targets, each by a
request that deletes all of it and one that inserts the translation, and it counts them.
Carried out on any texts it changes nothing else, if no two targets have one address.
-/
theorem ofTranslations_rewrites [Scalar α] (targets : List TextTarget)
    (translations : List String) {plan : TranslationPlan α}
    (hplan : plan = ofTranslations targets translations) :
    exists changes : List Rewriting,
      changes.Pairwise (fun left right => left.position < right.position) ∧
      (forall change, change ∈ changes <-> change.Due targets translations) ∧
      plan.requests = changes.flatMap Rewriting.requests ∧
      (forall change, change ∈ changes ->
        exists old new : Request α, change.requests = [old, new] ∧
          old.DeletesAll change.target.address ∧
          new.InsertsFirst change.target.address change.text) ∧
      plan.translated = changes.length ∧
      plan.translated + plan.skipped = targets.length ∧
      ((targets.map TextTarget.address).Nodup -> forall store : TextStore,
        (forall change, change ∈ changes ->
          store.replay plan.requests change.target.address = change.text) ∧
        forall address, (forall change, change ∈ changes -> change.target.address ≠ address) ->
          store.replay plan.requests address = store address) := by
  have hchanges := changes_eq_map_rewritings targets translations
  rw [ofTranslations_eq] at hplan
  have hrequests : plan.requests =
      (rewritings targets translations).flatMap Rewriting.requests := by
    rw [hplan, hchanges]
    dsimp only
    rw [List.flatMap_map]
    rfl
  have hcount : plan.translated = (changes targets translations).length := by
    rw [hplan]
  have hskipped : plan.skipped =
      targets.length - (changes targets translations).length := by
    rw [hplan]
  refine ⟨rewritings targets translations, rewritings_pairwise targets translations,
    fun change => mem_rewritings_iff, hrequests, ?_, ?_, ?_, ?_⟩
  · intro change _
    exact ⟨_, _, rfl, Request.deletesAll_deleteText _, Request.insertsFirst_insertText _ _⟩
  · rw [hcount, hchanges, List.length_map]
  · have hle := length_changes_le targets translations
    omega
  · intro hdistinct store
    rw [hrequests]
    constructor
    · intro change hchange
      exact replay_of_mem store (pairwise_ne_address hdistinct) hchange
    · intro address haddress
      exact replay_of_ne store haddress

def sampleTargets : List TextTarget :=
  [{ address := { objectId := "title-1", cell := none }, text := "Review" },
    { address := { objectId := "table-1", cell := some { row := 1, column := 0 } }
      text := "Total" },
    { address := { objectId := "shape-1", cell := none }, text := "A" },
    { address := { objectId := "shape-2", cell := none }, text := "B" }]

/-- The cell is translated; there is a blank, a text as it was, and none for the last one. -/
theorem ofTranslations_rewrites_sampleTargets :
    exists plan : TranslationPlan Float,
      plan = ofTranslations sampleTargets [" \n", "Suma\n", "A\n"] ∧
      plan.requests =
        [.deleteText { objectId := "table-1", cell := some { row := 1, column := 0 } },
          .insertText { objectId := "table-1", cell := some { row := 1, column := 0 } }
            "Suma"] ∧
      plan.translated = 1 ∧ plan.skipped = 3 ∧
      (sampleTargets.map TextTarget.address).Nodup ∧
      forall store : TextStore,
        store.replay plan.requests
            { objectId := "table-1", cell := some { row := 1, column := 0 } } = "Suma" ∧
          store.replay plan.requests { objectId := "title-1", cell := none } =
            store { objectId := "title-1", cell := none } := by
  let plan : TranslationPlan Float :=
    ofTranslations sampleTargets [" \n", "Suma\n", "A\n"]
  have hplan : plan = ofTranslations sampleTargets [" \n", "Suma\n", "A\n"] := rfl
  have hdistinct : (sampleTargets.map TextTarget.address).Nodup := by decide
  refine ⟨plan, hplan, rfl, rfl, rfl, hdistinct, ?_⟩
  rcases ofTranslations_rewrites sampleTargets _ hplan with
    ⟨changes, _, hdue, _, _, hcount, _, hreplay⟩
  intro store
  rcases hreplay hdistinct store with ⟨hrewritten, hkept⟩
  let cell : Rewriting :=
    { position := 1
      target :=
        { address := { objectId := "table-1", cell := some { row := 1, column := 0 } }
          text := "Total" }
      text := "Suma" }
  have hcell : cell ∈ changes :=
    (hdue cell).mpr
      { target := rfl
        translated := ⟨"Suma\n", rfl, rfl⟩
        notBlank := by decide
        differs := by decide }
  have honly : changes = [cell] := by
    rcases List.length_eq_one_iff.mp hcount.symm with ⟨only, rfl⟩
    rw [List.mem_singleton.mp hcell]
  refine ⟨hrewritten cell hcell, hkept _ ?_⟩
  intro change hchange
  rw [honly] at hchange
  rw [List.mem_singleton.mp hchange]
  decide

end TranslationPlan

end DeckTools
