import DeckTools.Proofs.Deck.Locate
import DeckTools.Search

/-!
# The walks agree

What is listed as an ID, found by an ID, searched and translated comes from walks
that know nothing of each other.  They agree on what a presentation contains: an
ID is listed exactly when it is that of a page or can be found, and a text that
is searched or translated belongs to an element whose ID is listed and found.
-/

namespace DeckTools

variable {α : Type}

namespace Element

theorem objectId_of_mem_ownTexts {element : Element α} {unit : TextUnit}
    (h : unit ∈ element.ownTexts) : unit.objectId = element.objectId := by
  cases element with
  | shape info content =>
      rcases List.mem_map.mp h with ⟨text, _, rfl⟩
      rfl
  | table info grid =>
      rcases List.mem_flatMap.mp h with ⟨row, _, hrow⟩
      rcases List.mem_filterMap.mp hrow with ⟨cell, _, hcell⟩
      rcases Option.map_eq_some_iff.mp hcell with ⟨text, _, rfl⟩
      rfl
  | _ => cases h

theorem mem_walk_iff {elements : List (Element α)} {element : Element α} :
    element ∈ walk elements <->
      exists path, at? elements path = some element ∧ path.length - 1 ≤ maxDepth := by
  rw [walk_eq_map_reachedPaths, List.mem_map]
  constructor
  · intro h
    rcases h with ⟨⟨path, element⟩, hmem, rfl⟩
    exact ⟨path, (mem_reachedPaths elements path element).mp hmem⟩
  · intro h
    rcases h with ⟨path, hpath⟩
    exact ⟨(path, element), (mem_reachedPaths elements path element).mpr hpath, rfl⟩

end Element

namespace Presentation

/-- The element stands at some place that walks reach. -/
def Reaches (deck : Presentation α) (found : Located α) : Prop :=
  exists place : Place, deck.at? place = some found ∧ place.groups ≤ maxDepth

theorem mem_pages_iff {deck : Presentation α} {ref : PageRef α} :
    ref ∈ deck.pages <-> exists place, deck.pageAt? place = some ref := by
  rw [pages_eq_map_pagePlaces, List.mem_map]
  constructor
  · intro h
    rcases h with ⟨⟨place, ref⟩, hmem, rfl⟩
    exact ⟨place, (mem_pagePlaces deck place ref).mp hmem⟩
  · intro h
    rcases h with ⟨place, hplace⟩
    exact ⟨(place, ref), (mem_pagePlaces deck place ref).mpr hplace, rfl⟩

theorem slide_mem_pages {deck : Presentation α} {slide : Page α} {index : Nat}
    (h : deck.slides[index]? = some slide) :
    { page := slide, kind := .slide, slideIndex := some index } ∈ deck.pages := by
  apply mem_pages_iff.mpr
  refine ⟨.slide index, ?_⟩
  rw [pageAt?, h]
  rfl

theorem notes_mem_pages {deck : Presentation α} {slide notes : Page α} {index : Nat}
    (h : deck.slides[index]? = some slide) (hnotes : slide.notes = some notes) :
    { page := notes, kind := .notes, slideIndex := some index } ∈ deck.pages := by
  apply mem_pages_iff.mpr
  refine ⟨.notes index, ?_⟩
  rw [pageAt?, h, Option.bind_some, hnotes]
  rfl

theorem reaches_iff {deck : Presentation α} {found : Located α} :
    deck.Reaches found <->
      found.page ∈ deck.pages ∧ found.element ∈ Element.walk found.page.page.elements := by
  rw [mem_pages_iff, Element.mem_walk_iff]
  constructor
  · intro h
    rcases h with ⟨place, hat, hgroups⟩
    rcases Option.bind_eq_some_iff.mp hat with ⟨ref, hpage, hmap⟩
    rcases Option.map_eq_some_iff.mp hmap with ⟨element, helement, rfl⟩
    exact ⟨⟨place.page, hpage⟩, place.path, helement, hgroups⟩
  · intro h
    rcases h with ⟨⟨place, hpage⟩, path, helement, hgroups⟩
    refine ⟨{ page := place, path }, ?_, hgroups⟩
    rw [at?, hpage, Option.bind_some, helement, Option.map_some]

theorem locate?_isSome_iff_reaches {deck : Presentation α} {objectId : String} :
    (deck.locate? objectId).isSome <->
      exists found, deck.Reaches found ∧ found.element.objectId = objectId := by
  rw [locate?_isSome_iff]
  constructor
  · intro h
    rcases h with ⟨place, found, hbears⟩
    exact ⟨found, ⟨place, hbears.stands, hbears.reached⟩, hbears.named⟩
  · intro h
    rcases h with ⟨found, ⟨place, hat, hgroups⟩, hid⟩
    exact ⟨place, found, hat, hgroups, hid⟩

theorem mem_pageIds_iff {page : Page α} {objectId : String} :
    objectId ∈ pageIds page <->
      (objectId ≠ "" ∧ page.objectId = objectId) ∨
        exists element, element ∈ Element.walk page.elements ∧
          element.objectId = objectId := by
  rw [pageIds, Element.ids_eq_map_walk, List.mem_append, List.mem_map]
  apply or_congr_left
  by_cases hpage : page.objectId = ""
  · rw [if_pos (beq_iff_eq.mpr hpage), hpage]
    constructor
    · intro h
      cases h
    · intro h
      rcases h with ⟨hne, heq⟩
      exact absurd heq.symm hne
  · rw [if_neg (mt beq_iff_eq.mp hpage), List.mem_singleton]
    constructor
    · intro h
      cases h
      exact ⟨hpage, rfl⟩
    · intro h
      rcases h with ⟨_, heq⟩
      exact heq.symm

theorem mem_objectIds_iff {deck : Presentation α} {objectId : String} :
    objectId ∈ deck.objectIds <->
      (objectId ≠ "" ∧ exists ref, ref ∈ deck.pages ∧ ref.page.objectId = objectId) ∨
        (deck.locate? objectId).isSome := by
  rw [objectIds, List.mem_flatMap, locate?_isSome_iff_reaches]
  constructor
  · intro h
    rcases h with ⟨ref, href, hmem⟩
    rcases mem_pageIds_iff.mp hmem with ⟨hne, hpage⟩ | ⟨element, helement, hid⟩
    · exact Or.inl ⟨hne, ref, href, hpage⟩
    · exact Or.inr ⟨{ element, page := ref }, reaches_iff.mpr ⟨href, helement⟩, hid⟩
  · intro h
    rcases h with ⟨hne, ref, href, hpage⟩ | ⟨found, hreaches, hid⟩
    · exact ⟨ref, href, mem_pageIds_iff.mpr (Or.inl ⟨hne, hpage⟩)⟩
    · rcases reaches_iff.mp hreaches with ⟨hpage, helement⟩
      exact ⟨found.page, hpage,
        mem_pageIds_iff.mpr (Or.inr ⟨found.element, helement, hid⟩)⟩

/-- The ID is listed, and an element is found by it. -/
def Knows (deck : Presentation α) (objectId : String) : Prop :=
  objectId ∈ deck.objectIds ∧ (deck.locate? objectId).isSome

theorem Reaches.knows {deck : Presentation α} {found : Located α}
    (h : deck.Reaches found) : deck.Knows found.element.objectId := by
  have hfound : (deck.locate? found.element.objectId).isSome :=
    locate?_isSome_iff_reaches.mpr ⟨found, h, rfl⟩
  exact ⟨mem_objectIds_iff.mpr (Or.inr hfound), hfound⟩

/-! ## Texts -/

/-- The text is one that a reached element holds itself. -/
structure Holds (deck : Presentation α) (found : Located α) (unit : TextUnit) : Prop where
  reaches : deck.Reaches found
  own : unit ∈ found.element.ownTexts

theorem Holds.objectId_eq {deck : Presentation α} {found : Located α} {unit : TextUnit}
    (h : deck.Holds found unit) : unit.objectId = found.element.objectId :=
  Element.objectId_of_mem_ownTexts h.own

theorem exists_holds_of_mem_texts {deck : Presentation α} {ref : PageRef α}
    (hpage : ref ∈ deck.pages) {unit : TextUnit}
    (h : unit ∈ Element.texts ref.page.elements) :
    exists found, deck.Holds found unit ∧ found.page = ref := by
  rw [Element.texts_eq_flatMap_walk] at h
  rcases List.mem_flatMap.mp h with ⟨element, helement, hunit⟩
  exact ⟨{ element, page := ref }, ⟨reaches_iff.mpr ⟨hpage, helement⟩, hunit⟩, rfl⟩

theorem exists_holds_of_mem_collect {deck : Presentation α} {ref : PageRef α}
    (hpage : ref ∈ deck.pages) {target : TextTarget}
    (h : target ∈ TextTarget.collect ref.page.elements) :
    exists found unit, deck.Holds found unit ∧ found.page = ref ∧
      TextTarget.ofUnit? unit = some target := by
  rw [TextTarget.collect_eq_flatMap_walk] at h
  rcases List.mem_flatMap.mp h with ⟨element, helement, hmem⟩
  rcases List.mem_filterMap.mp hmem with ⟨unit, hunit, htarget⟩
  exact ⟨{ element, page := ref }, unit,
    ⟨reaches_iff.mpr ⟨hpage, helement⟩, hunit⟩, rfl, htarget⟩

/-- The source names the element that holds it, with row and column for a cell. -/
structure Sourced (deck : Presentation α) (source : Search.Source) (found : Located α)
    (unit : TextUnit) : Prop where
  holds : deck.Holds found unit
  objectId : source.objectId = Search.unitId unit
  text : source.text = unit.content.plain
  slide : found.page.slideIndex.map (· + 1) = some source.slideIndex

theorem sourced_of_mem_pageSources {deck : Presentation α} {ref : PageRef α}
    (hpage : ref ∈ deck.pages) {slide : Page α} {index : Nat}
    (hindex : ref.slideIndex = some index) {label : String} {source : Search.Source}
    (h : source ∈ Search.pageSources slide index label ref.page) :
    exists found unit, deck.Sourced source found unit ∧ found.page = ref := by
  rcases List.mem_map.mp h with ⟨unit, hunit, rfl⟩
  rcases exists_holds_of_mem_texts hpage hunit with ⟨found, hholds, hfound⟩
  refine ⟨found, unit, ⟨hholds, rfl, rfl, ?_⟩, hfound⟩
  rw [hfound, hindex]
  rfl

/-- A source is found on a slide, or on the notes page of one, and reports that slide. -/
theorem exists_page_of_mem_sources {deck : Presentation α} {includeNotes : Bool}
    {source : Search.Source} (h : source ∈ Search.sources deck includeNotes) :
    exists index slide ref, deck.slides[index]? = some slide ∧ ref ∈ deck.pages ∧
      ref.slideIndex = some index ∧
      (ref.page = slide ∧ ref.kind = .slide ∧
          source ∈ Search.pageSources slide index "" ref.page ∨
        slide.notes = some ref.page ∧ ref.kind = .notes ∧
          source ∈ Search.pageSources slide index Search.notesLabel ref.page) := by
  rcases List.mem_flatMap.mp h with ⟨⟨slide, index⟩, hslide, hmem⟩
  have hat : deck.slides[index]? = some slide := List.mem_zipIdx_iff_getElem?.mp hslide
  rcases List.mem_append.mp hmem with hown | hnotes
  · exact ⟨index, slide, _, hat, slide_mem_pages hat, rfl, Or.inl ⟨rfl, rfl, hown⟩⟩
  · cases includeNotes with
    | false => cases hnotes
    | true =>
        rcases List.mem_flatMap.mp hnotes with ⟨notes, hmemNotes, hsource⟩
        have hslideNotes : slide.notes = some notes := Option.mem_toList.mp hmemNotes
        exact ⟨index, slide, _, hat, notes_mem_pages hat hslideNotes, rfl,
          Or.inr ⟨hslideNotes, rfl, hsource⟩⟩

theorem sourced_of_mem_sources {deck : Presentation α} {includeNotes : Bool}
    {source : Search.Source} (h : source ∈ Search.sources deck includeNotes) :
    exists found unit, deck.Sourced source found unit := by
  rcases exists_page_of_mem_sources h with ⟨index, slide, ref, _, hpage, hindex, hsource⟩
  rcases hsource with ⟨_, _, hmem⟩ | ⟨_, _, hmem⟩
  · rcases sourced_of_mem_pageSources hpage hindex hmem with ⟨found, unit, hsourced, _⟩
    exact ⟨found, unit, hsourced⟩
  · rcases sourced_of_mem_pageSources hpage hindex hmem with ⟨found, unit, hsourced, _⟩
    exact ⟨found, unit, hsourced⟩

theorem objectId_of_ofUnit? {unit : TextUnit} {target : TextTarget}
    (h : TextTarget.ofUnit? unit = some target) :
    target.address.objectId = unit.objectId := by
  simp only [TextTarget.ofUnit?] at h
  split at h
  · cases h
  · cases h
    rfl

/--
An ID is listed exactly when it is the ID of a page, and not empty, or finds an
element.  Every text that is searched, with or without notes, and every text to
translate on a page belongs to an element whose ID is listed and finds an element.
-/
theorem walks_agree (deck : Presentation α) :
    (forall objectId, objectId ∈ deck.objectIds <->
      (objectId ≠ "" ∧
        exists place ref, deck.pageAt? place = some ref ∧ ref.page.objectId = objectId) ∨
        (deck.locate? objectId).isSome) ∧
    (forall includeNotes source, source ∈ Search.sources deck includeNotes ->
      exists found unit, deck.Sourced source found unit ∧
        unit.objectId = found.element.objectId ∧ deck.Knows found.element.objectId) ∧
    forall ref target, ref ∈ deck.pages -> target ∈ TextTarget.collect ref.page.elements ->
      exists found unit, deck.Holds found unit ∧ found.page = ref ∧
        TextTarget.ofUnit? unit = some target ∧
        target.address.objectId = found.element.objectId ∧
        deck.Knows target.address.objectId := by
  refine ⟨?_, ?_, ?_⟩
  · intro objectId
    rw [mem_objectIds_iff]
    simp only [mem_pages_iff]
    constructor
    · intro h
      rcases h with ⟨hne, ref, ⟨place, hplace⟩, hid⟩ | hfound
      · exact Or.inl ⟨hne, place, ref, hplace, hid⟩
      · exact Or.inr hfound
    · intro h
      rcases h with ⟨hne, place, ref, hplace, hid⟩ | hfound
      · exact Or.inl ⟨hne, ref, ⟨place, hplace⟩, hid⟩
      · exact Or.inr hfound
  · intro includeNotes source hsource
    rcases sourced_of_mem_sources hsource with ⟨found, unit, hsourced⟩
    exact ⟨found, unit, hsourced, hsourced.holds.objectId_eq, hsourced.holds.reaches.knows⟩
  · intro ref target href htarget
    rcases exists_holds_of_mem_collect href htarget with
      ⟨found, unit, hholds, hpage, hunit⟩
    have hid : target.address.objectId = found.element.objectId := by
      rw [objectId_of_ofUnit? hunit, hholds.objectId_eq]
    refine ⟨found, unit, hholds, hpage, hunit, hid, ?_⟩
    rw [hid]
    exact hholds.reaches.knows

end Presentation

end DeckTools
