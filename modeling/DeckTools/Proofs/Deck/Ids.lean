import Mathlib.Data.List.Induction
import DeckTools.Proofs.Deck.Agreement
import DeckTools.Rehearsal.SampleDeck

/-!
# The IDs a presentation knows

A presentation knows the IDs of its pages, unless they are empty, and those of the
elements in reach.  Requested IDs are split by that, each once and in the order in
which they were asked for first; asking again for an ID changes nothing.
-/

namespace DeckTools

/-! ## Repeats -/

section Repeats

variable {β : Type} [BEq β] [LawfulBEq β] {front repeats items : List β} {item : β}

theorem eraseDups_append_of_subset (h : forall item, item ∈ repeats -> item ∈ front) :
    (front ++ repeats).eraseDups = front.eraseDups := by
  have hnone : repeats.removeAll front = [] := by
    apply List.filter_eq_nil_iff.mpr
    intro item hitem
    simp [h item hitem]
  rw [List.eraseDups_append, hnone, List.eraseDups_nil, List.append_nil]

theorem eraseDups_append_of_not_mem (h : item ∉ items) :
    (items ++ [item]).eraseDups = items.eraseDups ++ [item] := by
  have hkept : [item].removeAll items = [item] := by
    simp [List.removeAll, h]
  rw [List.eraseDups_append, hkept, List.eraseDups_cons, List.filter_nil, List.eraseDups_nil]

/-- By induction from the end: an item that is kept stands behind all that were there. -/
theorem eraseDups_pairwise_idxOf (items : List β) :
    items.eraseDups.Pairwise
      (fun earlier later => items.idxOf earlier < items.idxOf later) := by
  induction items using List.reverseRecOn with
  | nil => exact List.Pairwise.nil
  | append_singleton items item ih =>
      have hold : items.eraseDups.Pairwise (fun earlier later =>
          (items ++ [item]).idxOf earlier < (items ++ [item]).idxOf later) := by
        apply ih.imp_of_mem
        intro earlier later hearlier hlater hlt
        rw [List.idxOf_append, List.idxOf_append, if_pos (List.mem_eraseDups.mp hearlier),
          if_pos (List.mem_eraseDups.mp hlater)]
        exact hlt
      by_cases hmem : item ∈ items
      · have hrepeat : forall other, other ∈ [item] -> other ∈ items := by
          intro other hother
          rw [List.mem_singleton.mp hother]
          exact hmem
        rw [eraseDups_append_of_subset hrepeat]
        exact hold
      · rw [eraseDups_append_of_not_mem hmem]
        apply List.pairwise_append.mpr
        refine ⟨hold, List.pairwise_singleton _ _, ?_⟩
        intro earlier hearlier later hlater
        have hbefore := List.mem_eraseDups.mp hearlier
        have hlt := List.idxOf_lt_length_of_mem hbefore
        rw [List.mem_singleton.mp hlater, List.idxOf_append, List.idxOf_append, if_pos hbefore,
          if_neg hmem]
        omega

/-- What is repeated later has no part in which items are kept, nor in their order. -/
theorem eraseDups_append_repeats (h : forall item, item ∈ repeats -> item ∈ front)
    (back : List β) :
    (front ++ repeats ++ back).eraseDups = (front ++ back).eraseDups := by
  have hrest : back.removeAll (front ++ repeats) = back.removeAll front := by
    apply List.filter_congr
    intro item _
    have hsame : item ∈ front ++ repeats <-> item ∈ front := by
      rw [List.mem_append]
      exact ⟨fun hmem => hmem.elim id (h item), Or.inl⟩
    simp only [List.elem_eq_mem, hsame]
  rw [List.eraseDups_append, eraseDups_append_of_subset h, hrest, ← List.eraseDups_append]

end Repeats

namespace Presentation

variable {α : Type}

/-- The ID is that of a page, and not empty, or that of an element in reach. -/
def Names (deck : Presentation α) (objectId : String) : Prop :=
  (objectId ≠ "" ∧
    exists place ref, deck.pageAt? place = some ref ∧ ref.page.objectId = objectId) ∨
  exists found, deck.Reaches found ∧ found.element.objectId = objectId

theorem mem_objectIds_iff_names {deck : Presentation α} {objectId : String} :
    objectId ∈ deck.objectIds <-> deck.Names objectId := by
  rw [mem_objectIds_iff, locate?_isSome_iff_reaches]
  apply or_congr_left
  apply and_congr_right
  intro _
  simp only [mem_pages_iff]
  constructor
  · intro h
    rcases h with ⟨ref, ⟨place, hplace⟩, hid⟩
    exact ⟨place, ref, hplace, hid⟩
  · intro h
    rcases h with ⟨place, ref, hplace, hid⟩
    exact ⟨ref, ⟨place, hplace⟩, hid⟩

instance (deck : Presentation α) (objectId : String) : Decidable (deck.Names objectId) :=
  decidable_of_iff (objectId ∈ deck.objectIds) mem_objectIds_iff_names

theorem contains_objectIds_eq (deck : Presentation α) (objectId : String) :
    deck.objectIds.contains objectId = decide (deck.Names objectId) := by
  apply Bool.eq_iff_iff.mpr
  rw [List.contains_iff_mem, decide_eq_true_iff, mem_objectIds_iff_names]

theorem categorize_eq (deck : Presentation α) (requested : List String) :
    deck.categorize requested =
      { existing := requested.eraseDups.filter (fun id => deck.Names id)
        missing := requested.eraseDups.filter (fun id => ¬ deck.Names id) } := by
  unfold categorize
  dsimp only
  rw [List.partition_eq_filter_filter]
  congr 1
  · apply List.filter_congr
    intro id _
    exact contains_objectIds_eq deck id
  · apply List.filter_congr
    intro id _
    rw [Function.comp_apply, contains_objectIds_eq, decide_not]

/-! ## How requested IDs are split -/

/-- The IDs stand in the order in which a request names them first. -/
def InOrderOf (requested ids : List String) : Prop :=
  ids.Pairwise (fun earlier later => requested.idxOf earlier < requested.idxOf later)

theorem InOrderOf.nodup {requested ids : List String} (h : InOrderOf requested ids) :
    ids.Nodup := by
  apply h.imp
  intro earlier later hlt heq
  rw [heq] at hlt
  exact Nat.lt_irrefl _ hlt

/-- The parts share the requested IDs out, by whether the presentation lists them. -/
structure Splits (deck : Presentation α) (requested : List String) (parts : IdPartition) :
    Prop where
  existing_nodup : parts.existing.Nodup
  missing_nodup : parts.missing.Nodup
  disjoint : forall id, id ∈ parts.existing -> id ∉ parts.missing
  complete : forall id, id ∈ parts.existing ∨ id ∈ parts.missing <-> id ∈ requested
  existing_inOrder : InOrderOf requested parts.existing
  missing_inOrder : InOrderOf requested parts.missing
  listed : forall id, id ∈ requested -> (id ∈ parts.existing <-> id ∈ deck.objectIds)

variable {deck : Presentation α} {requested : List String} {id : String}

theorem mem_existing_iff :
    id ∈ (deck.categorize requested).existing <-> id ∈ requested ∧ id ∈ deck.objectIds := by
  rw [categorize_eq, List.mem_filter, List.mem_eraseDups, decide_eq_true_iff,
    mem_objectIds_iff_names]

theorem mem_missing_iff :
    id ∈ (deck.categorize requested).missing <-> id ∈ requested ∧ id ∉ deck.objectIds := by
  rw [categorize_eq, List.mem_filter, List.mem_eraseDups, decide_eq_true_iff,
    mem_objectIds_iff_names]

theorem existing_inOrderOf (deck : Presentation α) (requested : List String) :
    InOrderOf requested (deck.categorize requested).existing := by
  rw [categorize_eq]
  exact (eraseDups_pairwise_idxOf requested).filter _

theorem missing_inOrderOf (deck : Presentation α) (requested : List String) :
    InOrderOf requested (deck.categorize requested).missing := by
  rw [categorize_eq]
  exact (eraseDups_pairwise_idxOf requested).filter _

theorem nodup_existing (deck : Presentation α) (requested : List String) :
    (deck.categorize requested).existing.Nodup :=
  (existing_inOrderOf deck requested).nodup

theorem splits_categorize (deck : Presentation α) (requested : List String) :
    deck.Splits requested (deck.categorize requested) where
  existing_nodup := nodup_existing deck requested
  missing_nodup := (missing_inOrderOf deck requested).nodup
  disjoint := by
    intro id hexisting hmissing
    exact (mem_missing_iff.mp hmissing).2 (mem_existing_iff.mp hexisting).2
  complete := by
    intro id
    rw [mem_existing_iff, mem_missing_iff, ← and_or_left, and_iff_left (Classical.em _)]
  existing_inOrder := existing_inOrderOf deck requested
  missing_inOrder := missing_inOrderOf deck requested
  listed := by
    intro id hid
    rw [mem_existing_iff, and_iff_right hid]

/--
Requested IDs are shared out completely and without overlap, each once and in the order of
the request, by whether the presentation lists them.  Asking again for an ID, at the end or
anywhere after it was named, changes neither part.
-/
theorem categorize_shares_out (deck : Presentation α) (requested : List String) :
    deck.Splits requested (deck.categorize requested) ∧
    forall front repeats back, requested = front ++ back ->
      (forall id, id ∈ repeats -> id ∈ front) ->
        deck.categorize (front ++ repeats ++ back) = deck.categorize requested := by
  refine ⟨splits_categorize deck requested, ?_⟩
  intro front repeats back hrequested hrepeats
  rw [hrequested, categorize_eq, categorize_eq, eraseDups_append_repeats hrepeats]

theorem categorize_shares_out_sampleDeck :
    ["image-1", "nope-1", "title-1"] = ["image-1", "nope-1"] ++ ["title-1"] ∧
    (forall id, id ∈ ["nope-1", "image-1"] -> id ∈ ["image-1", "nope-1"]) ∧
    Rehearsal.sampleDeck.categorize
        ["image-1", "nope-1", "nope-1", "image-1", "title-1"] =
      { existing := ["image-1", "title-1"], missing := ["nope-1"] } := by
  have hrepeats : forall id, id ∈ ["nope-1", "image-1"] -> id ∈ ["image-1", "nope-1"] := by
    decide
  have hagain := (categorize_shares_out Rehearsal.sampleDeck ["image-1", "nope-1", "title-1"]).2
    ["image-1", "nope-1"] ["nope-1", "image-1"] ["title-1"] rfl hrepeats
  have honce : Rehearsal.sampleDeck.categorize ["image-1", "nope-1", "title-1"] =
      { existing := ["image-1", "title-1"], missing := ["nope-1"] } := by decide +kernel
  exact ⟨rfl, hrepeats, hagain.trans honce⟩

end Presentation

end DeckTools
