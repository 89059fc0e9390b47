import DeckTools.Proofs.Deck.Agreement
import DeckTools.Proofs.Search.Occurrence

/-!
# What a search lists and counts

The sources of a search are the texts of the elements in reach, slide by slide, a
notes page after its slide.  The hits are the occurrences of the query, source after
source and in each by increasing offset.  All of them are counted.  A limit cuts the
list of matches after so many of the first hits, and each match listed says where its
hit stands and quotes the text there.
-/

namespace DeckTools

namespace Search

variable {α : Type}

/-- The pages of a slide that are searched, each with the label of what is found there. -/
def searchedPages (includeNotes : Bool) (slide : Page α) : List (String × Page α) :=
  ("", slide) ::
    if includeNotes then slide.notes.toList.map (fun notes => (notesLabel, notes)) else []

/-- A text in reach as a source of its slide. -/
def sourceOf (slide : Page α) (index : Nat) (label : String) (unit : TextUnit) : Source :=
  { slideIndex := index + 1
    slideId := slide.objectId
    objectId := unitId unit
    objectType := label ++ unitType unit
    text := unit.content.plain }

/-- The texts of all elements in reach, in document order. -/
def reachedSources (deck : Presentation α) (includeNotes : Bool) : List Source :=
  deck.slides.zipIdx.flatMap fun slide =>
    (searchedPages includeNotes slide.1).flatMap fun page =>
      (Element.walk page.2.elements).flatMap fun element =>
        element.ownTexts.map (sourceOf slide.1 slide.2 page.1)

/-- Every occurrence of the query, with the source it is in. -/
def hits (deck : Presentation α) (query : List Char) (options : Options) :
    List (Source × Nat) :=
  (sources deck options.includeNotes).flatMap fun source =>
    (offsets options.caseSensitive source.text.toList query).map fun offset => (source, offset)

/-- How many of `total` hits are listed. -/
def Options.listed (options : Options) (total : Nat) : Nat :=
  match options.maxResults with
  | some limit => min limit total
  | none => total

/-- The match is the hit: it knows the slide and quotes the text. -/
structure Describes (deck : Presentation α) (query : List Char) (options : Options)
    (hit : Source × Nat) (found : Match) : Prop where
  source : found.source = hit.1
  start : found.start = hit.2
  occurs : OccursAt options.caseSensitive hit.1.text.toList query hit.2
  length : found.matched.toList.length = query.length
  quoted :
    forall i, i < query.length ->
      found.matched.toList[i]? = hit.1.text.toList[hit.2 + i]?
  context :
    found.context =
      contextWindow hit.1.text.toList hit.2 query.length options.contextLength
  slide :
    exists index slide, deck.slides[index]? = some slide ∧
      found.source.slideIndex = index + 1 ∧ found.source.slideId = slide.objectId
  held : exists located unit, deck.Sourced found.source located unit

/-! ## Sources -/

theorem pageSources_eq_flatMap_walk (slide : Page α) (index : Nat) (label : String)
    (page : Page α) :
    pageSources slide index label page =
      (Element.walk page.elements).flatMap
        (fun element => element.ownTexts.map (sourceOf slide index label)) := by
  rw [pageSources, Element.texts_eq_flatMap_walk, List.map_flatMap]
  rfl

theorem sources_eq_reachedSources (deck : Presentation α) (includeNotes : Bool) :
    sources deck includeNotes = reachedSources deck includeNotes := by
  unfold sources reachedSources
  congr 1
  funext slide
  unfold slideSources searchedPages
  rw [List.flatMap_cons, pageSources_eq_flatMap_walk]
  cases includeNotes with
  | false => rfl
  | true =>
      simp only [if_true, List.flatMap_map]
      congr 2
      funext notes
      exact pageSources_eq_flatMap_walk slide.1 slide.2 notesLabel notes

theorem slide_of_mem_sources {deck : Presentation α} {includeNotes : Bool} {source : Source}
    (h : source ∈ sources deck includeNotes) :
    exists index slide, deck.slides[index]? = some slide ∧
      source.slideIndex = index + 1 ∧ source.slideId = slide.objectId := by
  rcases Presentation.exists_page_of_mem_sources h with ⟨index, slide, ref, hat, _, _, hsource⟩
  refine ⟨index, slide, hat, ?_⟩
  rcases hsource with ⟨_, _, hmem⟩ | ⟨_, _, hmem⟩ <;>
  · rcases List.mem_map.mp hmem with ⟨unit, _, rfl⟩
    exact ⟨rfl, rfl⟩

/-! ## Matches -/

/-- The match that is listed for a hit. -/
def matchOf (query : List Char) (options : Options) (hit : Source × Nat) : Match :=
  { source := hit.1
    start := hit.2
    matched := String.ofList ((hit.1.text.toList.drop hit.2).take query.length)
    context := contextWindow hit.1.text.toList hit.2 query.length options.contextLength }

theorem sourceMatches_eq_map (query : List Char) (options : Options) (source : Source) :
    sourceMatches query options source =
      ((offsets options.caseSensitive source.text.toList query).map
        (fun offset => (source, offset))).map (matchOf query options) := by
  rw [sourceMatches, findAll_eq_offsets, List.map_map]
  rfl

theorem flatMap_sourceMatches_eq_map_hits (deck : Presentation α) (query : List Char)
    (options : Options) :
    (sources deck options.includeNotes).flatMap (sourceMatches query options) =
      (hits deck query options).map (matchOf query options) := by
  rw [hits, List.map_flatMap]
  congr 1
  funext source
  exact sourceMatches_eq_map query options source

theorem describes_matchOf {deck : Presentation α} {query : List Char} {options : Options}
    {hit : Source × Nat} (h : hit ∈ hits deck query options) :
    Describes deck query options hit (matchOf query options hit) := by
  rcases List.mem_flatMap.mp h with ⟨source, hsource, hmem⟩
  rcases List.mem_map.mp hmem with ⟨offset, hoffset, rfl⟩
  have hoccurs := (mem_offsets_iff.mp hoffset).2
  have hfits : offset + query.length ≤ source.text.toList.length := hoccurs.1
  exact
    { source := rfl
      start := rfl
      occurs := hoccurs
      length := by
        simp only [matchOf, String.toList_ofList, List.length_take, List.length_drop]
        omega
      quoted := by
        intro i hi
        simp only [matchOf, String.toList_ofList]
        rw [List.getElem?_take_of_lt hi, List.getElem?_drop]
      context := rfl
      slide := slide_of_mem_sources hsource
      held := Presentation.sourced_of_mem_sources hsource }

/-! ## The outcome -/

theorem total_run (deck : Presentation α) (query : String) (options : Options) :
    (run deck query options).total = (hits deck query.toList options).length := by
  show ((sources deck options.includeNotes).flatMap _).length = _
  rw [flatMap_sourceMatches_eq_map_hits, List.length_map]

theorem listed_run (deck : Presentation α) (query : String) (options : Options) :
    (run deck query options).listed =
      ((hits deck query.toList options).take
        (options.listed (hits deck query.toList options).length)).map
          (matchOf query.toList options) := by
  unfold run Options.listed
  dsimp only
  rw [flatMap_sourceMatches_eq_map_hits]
  cases options.maxResults with
  | none =>
      dsimp only
      rw [List.take_length]
  | some limit =>
      dsimp only
      rw [← List.map_take, List.take_eq_take_min]

/--
A search counts every hit in the texts in reach, whatever its limit, and lists a match
for each of the first hits up to the limit, in order.  It says that it is truncated
exactly when a hit was left out.
-/
theorem run_lists_hits (deck : Presentation α) (query : String) (options : Options) :
    sources deck options.includeNotes = reachedSources deck options.includeNotes ∧
    (run deck query options).total = (hits deck query.toList options).length ∧
    (run deck query options).listed.length =
      options.listed (hits deck query.toList options).length ∧
    (forall (i : Nat) (found : Match), (run deck query options).listed[i]? = some found ->
      exists hit, (hits deck query.toList options)[i]? = some hit ∧
        Describes deck query.toList options hit found) ∧
    ((run deck query options).truncated = true <->
      options.listed (hits deck query.toList options).length <
        (hits deck query.toList options).length) := by
  have hlength : (run deck query options).listed.length =
      options.listed (hits deck query.toList options).length := by
    rw [listed_run, List.length_map, List.length_take]
    unfold Options.listed
    cases options.maxResults with
    | none => simp
    | some limit => simp
  refine ⟨sources_eq_reachedSources deck options.includeNotes, total_run deck query options,
    hlength, ?_, ?_⟩
  · intro i found hfound
    rw [listed_run, List.getElem?_map, Option.map_eq_some_iff] at hfound
    rcases hfound with ⟨hit, hhit, rfl⟩
    have hat : (hits deck query.toList options)[i]? = some hit := by
      rw [List.getElem?_take] at hhit
      split at hhit
      case isTrue => exact hhit
      case isFalse => cases hhit
    exact ⟨hit, hat, describes_matchOf (List.mem_of_getElem? hat)⟩
  · have htotal : (run deck query options).truncated =
        decide ((run deck query options).listed.length < (run deck query options).total) := rfl
    rw [htotal, decide_eq_true_iff, hlength, total_run]

end Search

end DeckTools
