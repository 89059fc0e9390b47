import DeckTools.Deck.Presentation
import DeckTools.Proofs.Deck.Path

/-!
# Places in a presentation

A place names an element by its page and its path there.  Document order compares
pages first and then paths.
-/

namespace DeckTools

variable {α : Type}

/-! ## Pages -/

/-- A page by its part of the presentation and its position there. -/
inductive PagePlace where
  | slide (index : Nat)
  | notes (slide : Nat)
  | master (index : Nat)
  | layout (index : Nat)

namespace PagePlace

/-- Slides come first, each right before its notes page, then masters, then layouts. -/
def Before : PagePlace -> PagePlace -> Prop
  | slide i, slide j => i < j
  | slide i, notes j => i ≤ j
  | notes i, slide j => i < j
  | notes i, notes j => i < j
  | slide _, _ => True
  | notes _, _ => True
  | master i, master j => i < j
  | master _, layout _ => True
  | layout i, layout j => i < j
  | _, _ => False

theorem Before.asymm {left right : PagePlace} (h : left.Before right) :
    ¬ right.Before left := by
  cases left <;> cases right <;> simp_all [Before] <;> omega

end PagePlace

namespace Presentation

/-- The page at a place, with its kind and, for slides and notes pages, its slide. -/
def pageAt? (deck : Presentation α) : PagePlace -> Option (PageRef α)
  | .slide i =>
      deck.slides[i]?.map (fun page => { page, kind := .slide, slideIndex := some i })
  | .notes i =>
      (deck.slides[i]?.bind Page.notes).map
        (fun page => { page, kind := .notes, slideIndex := some i })
  | .master i =>
      deck.masters[i]?.map (fun page => { page, kind := .master, slideIndex := none })
  | .layout i =>
      deck.layouts[i]?.map (fun page => { page, kind := .layout, slideIndex := none })

/-- The page is a slide, notes page, master or layout just as its kind says. -/
def StandsIn (ref : PageRef α) (deck : Presentation α) : Prop :=
  match ref.kind with
  | .slide => exists i, ref.slideIndex = some i ∧ deck.slides[i]? = some ref.page
  | .notes =>
      exists i slide, ref.slideIndex = some i ∧ deck.slides[i]? = some slide ∧
        slide.notes = some ref.page
  | .master => ref.slideIndex = none ∧ ref.page ∈ deck.masters
  | .layout => ref.slideIndex = none ∧ ref.page ∈ deck.layouts

theorem standsIn_of_pageAt? {deck : Presentation α} {place : PagePlace}
    {ref : PageRef α} (h : deck.pageAt? place = some ref) : StandsIn ref deck := by
  cases place with
  | slide index =>
      rcases Option.map_eq_some_iff.mp h with ⟨slide, hslide, rfl⟩
      exact ⟨index, rfl, hslide⟩
  | notes index =>
      rcases Option.map_eq_some_iff.mp h with ⟨notes, hnotes, rfl⟩
      rcases Option.bind_eq_some_iff.mp hnotes with ⟨slide, hslide, hnotes'⟩
      exact ⟨index, slide, rfl, hslide, hnotes'⟩
  | master index =>
      rcases Option.map_eq_some_iff.mp h with ⟨master, hmaster, rfl⟩
      exact ⟨rfl, List.mem_of_getElem? hmaster⟩
  | layout index =>
      rcases Option.map_eq_some_iff.mp h with ⟨layout, hlayout, rfl⟩
      exact ⟨rfl, List.mem_of_getElem? hlayout⟩

/-! ## Pages in order -/

def slidePlaces (slide : Page α) (index : Nat) : List (PagePlace × PageRef α) :=
  (.slide index, { page := slide, kind := .slide, slideIndex := some index }) ::
    slide.notes.toList.map (fun notes =>
      (.notes index, { page := notes, kind := .notes, slideIndex := some index }))

/-- The pages in document order, each with its place. -/
def pagePlaces (deck : Presentation α) : List (PagePlace × PageRef α) :=
  deck.slides.zipIdx.flatMap (fun slide => slidePlaces slide.1 slide.2) ++
    deck.masters.zipIdx.map (fun master =>
      (.master master.2, { page := master.1, kind := .master, slideIndex := none })) ++
    deck.layouts.zipIdx.map (fun layout =>
      (.layout layout.2, { page := layout.1, kind := .layout, slideIndex := none }))

theorem map_snd_slidePlaces (slide : Page α) (index : Nat) :
    (slidePlaces slide index).map Prod.snd = slidePages slide index := by
  simp [slidePlaces, slidePages]

theorem pages_eq_map_pagePlaces (deck : Presentation α) :
    deck.pages = deck.pagePlaces.map Prod.snd := by
  have hmasters : deck.masters = deck.masters.zipIdx.map Prod.fst :=
    (List.zipIdx_map_fst 0 deck.masters).symm
  have hlayouts : deck.layouts = deck.layouts.zipIdx.map Prod.fst :=
    (List.zipIdx_map_fst 0 deck.layouts).symm
  rw [pages, pagePlaces, List.map_append, List.map_append, List.map_flatMap, List.map_map,
    List.map_map]
  simp only [map_snd_slidePlaces]
  congr 1
  · congr 1
    conv => lhs; rw [hmasters, List.map_map]
    rfl
  · conv => lhs; rw [hlayouts, List.map_map]
    rfl

theorem mem_slidePlaces (slide : Page α) (index : Nat) (place : PagePlace)
    (ref : PageRef α) :
    (place, ref) ∈ slidePlaces slide index <->
      (place = .slide index ∧
        ref = { page := slide, kind := .slide, slideIndex := some index }) ∨
      exists notes, slide.notes = some notes ∧ place = .notes index ∧
        ref = { page := notes, kind := .notes, slideIndex := some index } := by
  rw [slidePlaces, List.mem_cons, Prod.mk.injEq]
  apply or_congr_right
  rw [List.mem_map]
  constructor
  · intro h
    rcases h with ⟨notes, hnotes, heq⟩
    cases heq
    exact ⟨notes, Option.mem_toList.mp hnotes, rfl, rfl⟩
  · intro h
    rcases h with ⟨notes, hnotes, rfl, rfl⟩
    exact ⟨notes, Option.mem_toList.mpr hnotes, rfl⟩

theorem mem_pagePlaces (deck : Presentation α) (place : PagePlace) (ref : PageRef α) :
    (place, ref) ∈ deck.pagePlaces <-> deck.pageAt? place = some ref := by
  rw [pagePlaces, List.mem_append, List.mem_append, List.mem_flatMap, List.mem_map,
    List.mem_map]
  constructor
  · intro h
    rcases h with
      (⟨⟨slide, index⟩, hslide, hmem⟩ | ⟨⟨master, index⟩, hmaster, heq⟩) |
        ⟨⟨layout, index⟩, hlayout, heq⟩
    · have hslide' := List.mem_zipIdx_iff_getElem?.mp hslide
      rcases (mem_slidePlaces slide index place ref).mp hmem with
        ⟨rfl, rfl⟩ | ⟨notes, hnotes, rfl, rfl⟩
      · simp [pageAt?, hslide']
      · simp [pageAt?, hslide', hnotes]
    · cases heq
      simp [pageAt?, List.mem_zipIdx_iff_getElem?.mp hmaster]
    · cases heq
      simp [pageAt?, List.mem_zipIdx_iff_getElem?.mp hlayout]
  · intro h
    cases place with
    | slide index =>
        rcases Option.map_eq_some_iff.mp h with ⟨slide, hslide, rfl⟩
        apply Or.inl
        apply Or.inl
        refine ⟨(slide, index), List.mem_zipIdx_iff_getElem?.mpr hslide, ?_⟩
        exact (mem_slidePlaces slide index _ _).mpr (Or.inl ⟨rfl, rfl⟩)
    | notes index =>
        rcases Option.map_eq_some_iff.mp h with ⟨notes, hnotes, rfl⟩
        rcases Option.bind_eq_some_iff.mp hnotes with ⟨slide, hslide, hnotes'⟩
        apply Or.inl
        apply Or.inl
        refine ⟨(slide, index), List.mem_zipIdx_iff_getElem?.mpr hslide, ?_⟩
        exact (mem_slidePlaces slide index _ _).mpr (Or.inr ⟨notes, hnotes', rfl, rfl⟩)
    | master index =>
        rcases Option.map_eq_some_iff.mp h with ⟨master, hmaster, rfl⟩
        apply Or.inl
        apply Or.inr
        exact ⟨(master, index), List.mem_zipIdx_iff_getElem?.mpr hmaster, rfl⟩
    | layout index =>
        rcases Option.map_eq_some_iff.mp h with ⟨layout, hlayout, rfl⟩
        apply Or.inr
        exact ⟨(layout, index), List.mem_zipIdx_iff_getElem?.mpr hlayout, rfl⟩

theorem zipIdx_pairwise {β : Type} (items : List β) :
    items.zipIdx.Pairwise (fun left right => left.2 < right.2) := by
  have h : (items.zipIdx.map Prod.snd).Pairwise (· < ·) := by
    rw [List.zipIdx_map_snd]
    exact List.pairwise_lt_range' 1
  exact List.pairwise_map.mp h

theorem slidePlaces_pairwise (slide : Page α) (index : Nat) :
    (slidePlaces slide index).Pairwise (fun left right => left.1.Before right.1) := by
  rw [slidePlaces]
  cases slide.notes with
  | none => exact List.pairwise_singleton _ _
  | some notes =>
      apply List.pairwise_pair.mpr
      exact Nat.le_refl index

theorem slidePlaces_before {left right : Page α × Nat} (h : left.2 < right.2) :
    forall entry, entry ∈ slidePlaces left.1 left.2 ->
      forall entry', entry' ∈ slidePlaces right.1 right.2 ->
        entry.1.Before entry'.1 := by
  intro entry hentry entry' hentry'
  have hentry := (mem_slidePlaces left.1 left.2 entry.1 entry.2).mp hentry
  have hentry' := (mem_slidePlaces right.1 right.2 entry'.1 entry'.2).mp hentry'
  rcases hentry with ⟨hplace, _⟩ | ⟨_, _, hplace, _⟩
  · rcases hentry' with ⟨hplace', _⟩ | ⟨_, _, hplace', _⟩
    · rw [hplace, hplace']
      exact h
    · rw [hplace, hplace']
      exact Nat.le_of_lt h
  · rcases hentry' with ⟨hplace', _⟩ | ⟨_, _, hplace', _⟩
    · rw [hplace, hplace']
      exact h
    · rw [hplace, hplace']
      exact h

theorem pagePlaces_pairwise (deck : Presentation α) :
    deck.pagePlaces.Pairwise (fun left right => left.1.Before right.1) := by
  rw [pagePlaces, List.append_assoc, List.pairwise_append, List.pairwise_append]
  refine ⟨?_, ⟨?_, ?_, ?_⟩, ?_⟩
  · rw [List.pairwise_flatMap]
    constructor
    · intro slide _
      exact slidePlaces_pairwise slide.1 slide.2
    · exact (zipIdx_pairwise deck.slides).imp slidePlaces_before
  · rw [List.pairwise_map]
    exact zipIdx_pairwise deck.masters
  · rw [List.pairwise_map]
    exact zipIdx_pairwise deck.layouts
  · intro left hleft right hright
    rcases List.mem_map.mp hleft with ⟨master, _, rfl⟩
    rcases List.mem_map.mp hright with ⟨layout, _, rfl⟩
    trivial
  · intro left hleft right hright
    rcases List.mem_flatMap.mp hleft with ⟨slide, _, hslide⟩
    have hrest : (exists j, right.1 = .master j) ∨ exists j, right.1 = .layout j := by
      rcases List.mem_append.mp hright with hmaster | hlayout
      · rcases List.mem_map.mp hmaster with ⟨master, _, rfl⟩
        exact Or.inl ⟨master.2, rfl⟩
      · rcases List.mem_map.mp hlayout with ⟨layout, _, rfl⟩
        exact Or.inr ⟨layout.2, rfl⟩
    rcases (mem_slidePlaces slide.1 slide.2 left.1 left.2).mp hslide with
      ⟨hplace, _⟩ | ⟨_, _, hplace, _⟩ <;>
    rcases hrest with ⟨j, hj⟩ | ⟨j, hj⟩ <;>
    · rw [hplace, hj]
      trivial

end Presentation

/-! ## Elements -/

structure Place where
  page : PagePlace
  path : List Nat

namespace Place

def groups (place : Place) : Nat :=
  place.path.length - 1

/-- Document order: by page, then by path. -/
def Before (left right : Place) : Prop :=
  left.page.Before right.page ∨ left.page = right.page ∧ left.path < right.path

theorem Before.asymm {left right : Place} (h : left.Before right) :
    ¬ right.Before left := by
  intro h'
  rcases h with hpage | ⟨hpage, hpath⟩
  · rcases h' with hpage' | ⟨hpage', _⟩
    · exact hpage.asymm hpage'
    · rw [hpage'] at hpage
      exact hpage.asymm hpage
  · rcases h' with hpage' | ⟨_, hpath'⟩
    · rw [hpage] at hpage'
      exact hpage'.asymm hpage'
    · exact List.lt_asymm hpath hpath'

end Place

namespace Presentation

/-- The element at a place, with its page. -/
def at? (deck : Presentation α) (place : Place) : Option (Located α) :=
  (deck.pageAt? place.page).bind fun page =>
    (Element.at? page.page.elements place.path).map fun element => { element, page }

/-- The places on one page that walks reach. -/
def reachedOn (page : PagePlace × PageRef α) : List (Place × Located α) :=
  (Element.reachedPaths page.2.page.elements).map fun entry =>
    ({ page := page.1, path := entry.1 }, { element := entry.2, page := page.2 })

/-- The places that walks reach, in document order. -/
def reachedPlaces (deck : Presentation α) : List (Place × Located α) :=
  deck.pagePlaces.flatMap reachedOn

theorem mem_reachedPlaces (deck : Presentation α) (place : Place) (found : Located α) :
    (place, found) ∈ deck.reachedPlaces <->
      deck.at? place = some found ∧ place.groups ≤ maxDepth := by
  rw [reachedPlaces, List.mem_flatMap]
  constructor
  · intro h
    rcases h with ⟨⟨pagePlace, ref⟩, hpage, hmem⟩
    rcases List.mem_map.mp hmem with ⟨⟨path, element⟩, hpath, heq⟩
    cases heq
    have hpage' := (mem_pagePlaces deck pagePlace ref).mp hpage
    rcases (Element.mem_reachedPaths _ path element).mp hpath with ⟨helement, hdepth⟩
    refine ⟨?_, hdepth⟩
    rw [at?, hpage', Option.bind_some, helement, Option.map_some]
  · intro h
    rcases h with ⟨hat, hdepth⟩
    rcases Option.bind_eq_some_iff.mp hat with ⟨ref, hpage, hmap⟩
    rcases Option.map_eq_some_iff.mp hmap with ⟨element, helement, rfl⟩
    refine ⟨(place.page, ref), (mem_pagePlaces deck place.page ref).mpr hpage, ?_⟩
    apply List.mem_map.mpr
    exact ⟨(place.path, element),
      (Element.mem_reachedPaths _ place.path element).mpr ⟨helement, hdepth⟩, rfl⟩

theorem reachedPlaces_pairwise (deck : Presentation α) :
    deck.reachedPlaces.Pairwise (fun left right => left.1.Before right.1) := by
  rw [reachedPlaces, List.pairwise_flatMap]
  constructor
  · intro page _
    rw [reachedOn, List.pairwise_map]
    refine ((Element.pathsAmong_pairwise page.2.page.elements).filter _).imp ?_
    intro left right hlt
    exact Or.inr ⟨rfl, hlt⟩
  · refine deck.pagePlaces_pairwise.imp ?_
    intro left right hbefore entry hentry entry' hentry'
    rcases List.mem_map.mp hentry with ⟨_, _, rfl⟩
    rcases List.mem_map.mp hentry' with ⟨_, _, rfl⟩
    exact Or.inl hbefore

end Presentation

end DeckTools
