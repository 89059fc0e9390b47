import DeckTools.Proofs.Search.Hits
import DeckTools.Rehearsal.SampleDeck

/-!
# Searches with and without notes

A search that leaves the notes out lists what a search with notes lists, in the same
order, except for the matches that are labelled as notes.  A label tells the truth: what
carries it was found on the notes page of the slide that is reported, and everything else
on that slide itself.  The notes of a slide come between the slide and the next one.
-/

namespace DeckTools

namespace Search

variable {α : Type}

def Options.unlimited (caseSensitive : Bool) (contextLength : Nat) (includeNotes : Bool) :
    Options :=
  { caseSensitive, contextLength, includeNotes, maxResults := none }

/-- The type of the object begins with the label for notes. -/
def Source.FromNotes (source : Source) : Prop :=
  notesLabel.toList <+: source.objectType.toList

instance (source : Source) : Decidable source.FromNotes :=
  inferInstanceAs (Decidable (_ <+: _))

/-- The source is a text on the page that its label tells, of the slide that it reports. -/
def Source.LabelledRight (deck : Presentation α) (source : Source) : Prop :=
  exists index slide located unit,
    deck.slides[index]? = some slide ∧ source.slideIndex = index + 1 ∧
    source.slideId = slide.objectId ∧ deck.Sourced source located unit ∧
    located.page.slideIndex = some index ∧
    (source.FromNotes -> located.page.kind = .notes ∧ slide.notes = some located.page.page) ∧
    (¬ source.FromNotes -> located.page.kind = .slide ∧ located.page.page = slide)

/-- Slides in order, and of one slide nothing else after its notes. -/
def Source.InOrder (left right : Source) : Prop :=
  left.slideIndex < right.slideIndex ∨
    left.slideIndex = right.slideIndex ∧ (left.FromNotes -> right.FromNotes)

/-! ## Labels -/

theorem not_fromNotes_of_mem_pageSources {slide page : Page α} {index : Nat}
    {source : Source} (h : source ∈ pageSources slide index "" page) :
    ¬ source.FromNotes := by
  rcases List.mem_map.mp h with ⟨unit, _, rfl⟩
  show ¬ notesLabel.toList <+: ("" ++ unitType unit).toList
  unfold unitType
  cases unit.cell.isSome <;> decide

theorem fromNotes_of_mem_pageSources {slide page : Page α} {index : Nat} {source : Source}
    (h : source ∈ pageSources slide index notesLabel page) :
    source.FromNotes := by
  rcases List.mem_map.mp h with ⟨unit, _, rfl⟩
  show notesLabel.toList <+: (notesLabel ++ unitType unit).toList
  rw [String.toList_append]
  exact List.prefix_append _ _

theorem labelledRight_of_mem_sources {deck : Presentation α} {includeNotes : Bool}
    {source : Source} (h : source ∈ sources deck includeNotes) :
    source.LabelledRight deck := by
  rcases Presentation.exists_page_of_mem_sources h with
    ⟨index, slide, ref, hslide, hpage, hindex, hsource⟩
  rcases hsource with ⟨hsame, hkind, hmem⟩ | ⟨hnotes, hkind, hmem⟩
  · rcases Presentation.sourced_of_mem_pageSources hpage hindex hmem with
      ⟨located, unit, hsourced, rfl⟩
    have hlabel := not_fromNotes_of_mem_pageSources hmem
    rcases List.mem_map.mp hmem with ⟨_, _, rfl⟩
    exact ⟨index, slide, located, unit, hslide, rfl, rfl, hsourced, hindex,
      fun hfrom => absurd hfrom hlabel, fun _ => ⟨hkind, hsame⟩⟩
  · rcases Presentation.sourced_of_mem_pageSources hpage hindex hmem with
      ⟨located, unit, hsourced, rfl⟩
    have hlabel := fromNotes_of_mem_pageSources hmem
    rcases List.mem_map.mp hmem with ⟨_, _, rfl⟩
    exact ⟨index, slide, located, unit, hslide, rfl, rfl, hsourced, hindex,
      fun _ => ⟨hkind, hnotes⟩, fun hother => absurd hlabel hother⟩

/-! ## Sources -/

theorem fromNotes_of_mem_notes {slide : Page α} {index : Nat} {source : Source}
    (h : source ∈ slide.notes.toList.flatMap (pageSources slide index notesLabel)) :
    source.FromNotes := by
  rcases List.mem_flatMap.mp h with ⟨notes, _, hsource⟩
  exact fromNotes_of_mem_pageSources hsource

theorem slideSources_without_notes (slide : Page α) (index : Nat) :
    slideSources false slide index =
      (slideSources true slide index).filter (fun source => ¬ source.FromNotes) := by
  unfold slideSources
  rw [List.filter_append, if_pos rfl, if_neg Bool.false_ne_true]
  congr 1
  · symm
    rw [List.filter_eq_self]
    intro source hsource
    exact decide_eq_true (not_fromNotes_of_mem_pageSources hsource)
  · symm
    rw [List.filter_eq_nil_iff]
    intro source hsource
    rw [decide_eq_true_iff, Decidable.not_not]
    exact fromNotes_of_mem_notes hsource

theorem sources_without_notes (deck : Presentation α) :
    sources deck false =
      (sources deck true).filter (fun source => ¬ source.FromNotes) := by
  unfold sources
  rw [List.filter_flatMap]
  congr 1
  funext slide
  exact slideSources_without_notes slide.1 slide.2

theorem slideIndex_of_mem_slideSources {includeNotes : Bool} {slide : Page α} {index : Nat}
    {source : Source} (h : source ∈ slideSources includeNotes slide index) :
    source.slideIndex = index + 1 := by
  rcases List.mem_append.mp h with hown | hnotes
  · rcases List.mem_map.mp hown with ⟨_, _, rfl⟩
    rfl
  · cases includeNotes with
    | false => cases hnotes
    | true =>
        rcases List.mem_flatMap.mp hnotes with ⟨notes, _, hsource⟩
        rcases List.mem_map.mp hsource with ⟨_, _, rfl⟩
        rfl

theorem slideSources_pairwise (slide : Page α) (index : Nat) :
    (slideSources true slide index).Pairwise Source.InOrder := by
  have hsame : forall left right, left ∈ slideSources true slide index ->
      right ∈ slideSources true slide index -> left.slideIndex = right.slideIndex := by
    intro left right hleft hright
    rw [slideIndex_of_mem_slideSources hleft, slideIndex_of_mem_slideSources hright]
  have hlabels : (slideSources true slide index).Pairwise
      (fun left right => left.FromNotes -> right.FromNotes) := by
    unfold slideSources
    rw [if_pos rfl, List.pairwise_append]
    refine ⟨?_, ?_, ?_⟩
    · apply List.pairwise_of_forall_mem_list
      intro left hleft right _ hfrom
      exact absurd hfrom (not_fromNotes_of_mem_pageSources hleft)
    · apply List.pairwise_of_forall_mem_list
      intro left _ right hright _
      exact fromNotes_of_mem_notes hright
    · intro left _ right hright _
      exact fromNotes_of_mem_notes hright
  apply hlabels.imp_of_mem
  intro left right hleft hright hlabel
  exact Or.inr ⟨hsame left right hleft hright, hlabel⟩

theorem sources_pairwise (deck : Presentation α) :
    (sources deck true).Pairwise Source.InOrder := by
  unfold sources
  rw [List.pairwise_flatMap]
  constructor
  · intro slide _
    exact slideSources_pairwise slide.1 slide.2
  · refine (Presentation.zipIdx_pairwise deck.slides).imp ?_
    intro slide next hbefore left hleft right hright
    apply Or.inl
    rw [slideIndex_of_mem_slideSources hleft, slideIndex_of_mem_slideSources hright]
    exact Nat.succ_lt_succ hbefore

/-! ## Matches -/

theorem listed_run_unlimited (deck : Presentation α) (query : String)
    (caseSensitive : Bool) (contextLength : Nat) (includeNotes : Bool) :
    (run deck query (.unlimited caseSensitive contextLength includeNotes)).listed =
      (sources deck includeNotes).flatMap
        (sourceMatches query.toList (.unlimited caseSensitive contextLength true)) := rfl

theorem source_of_mem_sourceMatches {query : List Char} {options : Options}
    {source : Source} {found : Match} (h : found ∈ sourceMatches query options source) :
    found.source = source := by
  rcases List.mem_map.mp h with ⟨_, _, rfl⟩
  rfl

/-- To keep matches by their source is to search the sources that are kept. -/
theorem filter_flatMap_sourceMatches (keeps : Source -> Bool) (query : List Char)
    (options : Options) (texts : List Source) :
    (texts.flatMap (sourceMatches query options)).filter (fun found => keeps found.source) =
      (texts.filter keeps).flatMap (sourceMatches query options) := by
  induction texts with
  | nil => rfl
  | cons source rest ih =>
      have hsame : forall found, found ∈ sourceMatches query options source ->
          keeps found.source = keeps source := by
        intro found hfound
        rw [source_of_mem_sourceMatches hfound]
      rw [List.flatMap_cons, List.filter_append, ih]
      by_cases hkept : keeps source = true
      · rw [List.filter_cons_of_pos hkept, List.flatMap_cons, List.filter_eq_self.mpr]
        intro found hfound
        rw [hsame found hfound]
        exact hkept
      · rw [List.filter_cons_of_neg hkept, List.filter_eq_nil_iff.mpr, List.nil_append]
        intro found hfound
        rw [hsame found hfound]
        exact hkept

/--
To leave the notes out takes away the matches labelled as notes and nothing else.  Every
match stands where its label says, and the matches of the notes of a slide are listed
after those of the slide and before those of the next.
-/
theorem listed_without_notes (deck : Presentation α) (query : String)
    (caseSensitive : Bool) (contextLength : Nat) :
    (run deck query (.unlimited caseSensitive contextLength false)).listed =
        (run deck query (.unlimited caseSensitive contextLength true)).listed.filter
          (fun found => ¬ found.source.FromNotes) ∧
      (forall found,
        found ∈ (run deck query (.unlimited caseSensitive contextLength true)).listed ->
          found.source.LabelledRight deck) ∧
      (run deck query (.unlimited caseSensitive contextLength true)).listed.Pairwise
        (fun left right => left.source.InOrder right.source) := by
  rw [listed_run_unlimited, listed_run_unlimited]
  refine ⟨?_, ?_, ?_⟩
  · rw [sources_without_notes]
    exact (filter_flatMap_sourceMatches _ _ _ _).symm
  · intro found hfound
    rcases List.mem_flatMap.mp hfound with ⟨source, hsource, hmatch⟩
    rw [source_of_mem_sourceMatches hmatch]
    exact labelledRight_of_mem_sources hsource
  · rw [List.pairwise_flatMap]
    constructor
    · intro source _
      apply List.pairwise_of_forall_mem_list
      intro left hleft right hright
      rw [source_of_mem_sourceMatches hleft, source_of_mem_sourceMatches hright]
      exact Or.inr ⟨rfl, id⟩
    · refine (sources_pairwise deck).imp ?_
      intro source next hordered left hleft right hright
      rw [source_of_mem_sourceMatches hleft, source_of_mem_sourceMatches hright]
      exact hordered

example :
    (run Rehearsal.sampleDeck "findme" (.unlimited true 0 true)).listed.map
        (fun found => (found.source.slideIndex, found.source.objectType)) =
      [(1, "SPEAKER_NOTES:shape"), (2, "shape"), (2, "table_cell")] := rfl

end Search

end DeckTools
