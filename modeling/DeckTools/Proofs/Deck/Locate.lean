import DeckTools.Proofs.Deck.Place

/-!
# The element an ID names

Several elements of a presentation may carry the same ID.  The one it names is
the first of them in document order, among those that walks reach, and it comes
with the page that owns it.
-/

namespace DeckTools

variable {α : Type}

/-- In a list in strict order, a search finds the least item it accepts. -/
theorem find?_eq_some_iff_least {β : Type} {before : β -> β -> Prop} {items : List β}
    (hsorted : items.Pairwise before)
    (hasymm : forall left right, before left right -> ¬ before right left)
    {accepts : β -> Bool} {found : β} :
    items.find? accepts = some found <->
      found ∈ items ∧ accepts found = true ∧
        forall other, other ∈ items -> accepts other = true ->
          other = found ∨ before found other := by
  have hleast : forall first, items.find? accepts = some first ->
      forall other, other ∈ items -> accepts other = true ->
        other = first ∨ before first other := by
    intro first hfirst other hother haccepts
    rcases List.find?_eq_some_iff_append.mp hfirst with ⟨_, front, back, hitems, hfront⟩
    rw [hitems] at hother hsorted
    rcases List.mem_append.mp hother with hinFront | hrest
    · have hrefused := hfront other hinFront
      rw [haccepts] at hrefused
      cases hrefused
    · rcases List.mem_cons.mp hrest with heq | hinBack
      · exact Or.inl heq
      · have htail := (List.pairwise_append.mp hsorted).2.1
        exact Or.inr ((List.pairwise_cons.mp htail).1 other hinBack)
  constructor
  · intro h
    exact ⟨List.mem_of_find?_eq_some h, List.find?_some h, hleast found h⟩
  · intro h
    rcases h with ⟨hmem, haccepts, hfirst⟩
    cases hsearch : items.find? accepts with
    | none =>
        have hrefused := List.find?_eq_none.mp hsearch found hmem
        exact absurd haccepts hrefused
    | some first =>
        rcases hleast first hsearch found hmem haccepts with heq | hbefore
        · rw [heq]
        · rcases hfirst first (List.mem_of_find?_eq_some hsearch)
            (List.find?_some hsearch) with heq | hbefore'
          · rw [heq]
          · exact absurd hbefore' (hasymm first found hbefore)

namespace Presentation

/-- At the place stands an element with the ID, inside at most `maxDepth` groups. -/
structure Bears (deck : Presentation α) (place : Place) (objectId : String)
    (found : Located α) : Prop where
  stands : deck.at? place = some found
  reached : place.groups ≤ maxDepth
  named : found.element.objectId = objectId

theorem bears_iff (deck : Presentation α) (place : Place) (objectId : String)
    (found : Located α) :
    deck.Bears place objectId found <->
      (place, found) ∈ deck.reachedPlaces ∧
        (found.element.objectId == objectId) = true := by
  rw [mem_reachedPlaces, beq_iff_eq]
  constructor
  · intro h
    exact ⟨⟨h.stands, h.reached⟩, h.named⟩
  · intro h
    rcases h with ⟨⟨hstands, hreached⟩, hnamed⟩
    exact ⟨hstands, hreached, hnamed⟩

/-- The search through the pages is a search through the places. -/
theorem locate?_eq_find?_places (deck : Presentation α) (objectId : String) :
    deck.locate? objectId =
      (deck.reachedPlaces.find?
        (fun entry => entry.2.element.objectId == objectId)).map Prod.snd := by
  rw [locate?, pages_eq_map_pagePlaces, List.findSome?_map, reachedPlaces,
    List.find?_flatMap, List.map_findSome?]
  congr 1
  funext page
  show (Element.find? page.2.page.elements objectId).map _ =
    ((reachedOn page).find? _).map Prod.snd
  rw [Element.find?_eq_find?_walk, Element.walk_eq_map_reachedPaths, List.find?_map,
    reachedOn, List.find?_map, Option.map_map, Option.map_map]
  rfl

theorem locate?_eq_some_iff (deck : Presentation α) (objectId : String)
    (found : Located α) :
    deck.locate? objectId = some found <->
      exists place, deck.Bears place objectId found ∧
        forall other found', deck.Bears other objectId found' ->
          other = place ∨ place.Before other := by
  rw [locate?_eq_find?_places, Option.map_eq_some_iff]
  constructor
  · intro h
    rcases h with ⟨⟨place, found⟩, hfind, rfl⟩
    rcases (find?_eq_some_iff_least deck.reachedPlaces_pairwise
      (fun _ _ h => h.asymm)).mp hfind with ⟨hmem, hid, hleast⟩
    refine ⟨place, (bears_iff deck place objectId found).mpr ⟨hmem, hid⟩, ?_⟩
    intro other found' hother
    rcases (bears_iff deck other objectId found').mp hother with ⟨hmem', hid'⟩
    rcases hleast (other, found') hmem' hid' with heq | hbefore
    · exact Or.inl (congrArg Prod.fst heq)
    · exact Or.inr hbefore
  · intro h
    rcases h with ⟨place, hbears, hfirst⟩
    refine ⟨(place, found), ?_, rfl⟩
    rcases (bears_iff deck place objectId found).mp hbears with ⟨hmem, hid⟩
    apply (find?_eq_some_iff_least deck.reachedPlaces_pairwise
      (fun _ _ h => h.asymm)).mpr
    refine ⟨hmem, hid, ?_⟩
    intro entry hmem' hid'
    rcases entry with ⟨other, found'⟩
    have hother : deck.Bears other objectId found' :=
      (bears_iff deck other objectId found').mpr ⟨hmem', hid'⟩
    rcases hfirst other found' hother with rfl | hbefore
    · have hsame : some found' = some found := by
        rw [← hother.stands, ← hbears.stands]
      rw [Option.some.inj hsame]
      exact Or.inl rfl
    · exact Or.inr hbefore

theorem locate?_eq_none_iff (deck : Presentation α) (objectId : String) :
    deck.locate? objectId = none <->
      forall place found, ¬ deck.Bears place objectId found := by
  rw [locate?_eq_find?_places, Option.map_eq_none_iff, List.find?_eq_none]
  constructor
  · intro h place found hbears
    rcases (bears_iff deck place objectId found).mp hbears with ⟨hmem, hid⟩
    exact h (place, found) hmem hid
  · intro h entry hmem hid
    rcases entry with ⟨place, found⟩
    exact h place found ((bears_iff deck place objectId found).mpr ⟨hmem, hid⟩)

/-- An ID is found exactly when some element in reach carries it. -/
theorem locate?_isSome_iff (deck : Presentation α) (objectId : String) :
    (deck.locate? objectId).isSome <->
      exists place found, deck.Bears place objectId found := by
  rw [Option.isSome_iff_ne_none, Ne, locate?_eq_none_iff]
  simp only [Classical.not_forall, Classical.not_not]

/-- A place with an element belongs to a page that owns it. -/
theorem owned_of_at? {deck : Presentation α} {place : Place} {found : Located α}
    (h : deck.at? place = some found) :
    StandsIn found.page deck ∧
      Element.at? found.page.page.elements place.path = some found.element := by
  rcases Option.bind_eq_some_iff.mp h with ⟨ref, hpage, hmap⟩
  rcases Option.map_eq_some_iff.mp hmap with ⟨element, helement, rfl⟩
  exact ⟨standsIn_of_pageAt? hpage, helement⟩

/--
An ID names the first element in document order that carries it and stands inside
at most `maxDepth` groups, or none if there is no such element; the page that is
reported owns the element and knows its kind and its slide.
-/
theorem locate?_names_first (deck : Presentation α) (objectId : String) :
    (forall found, deck.locate? objectId = some found <->
      exists place, deck.Bears place objectId found ∧
        forall other found', deck.Bears other objectId found' ->
          other = place ∨ place.Before other) ∧
    (deck.locate? objectId = none <->
      forall place found, ¬ deck.Bears place objectId found) ∧
    forall found, deck.locate? objectId = some found ->
      StandsIn found.page deck ∧
        exists path, Element.at? found.page.page.elements path = some found.element := by
  refine ⟨locate?_eq_some_iff deck objectId, locate?_eq_none_iff deck objectId, ?_⟩
  intro found hfound
  rcases (locate?_eq_some_iff deck objectId found).mp hfound with ⟨place, hbears, _⟩
  rcases owned_of_at? hbears.stands with ⟨hpage, helement⟩
  exact ⟨hpage, place.path, helement⟩

end Presentation

end DeckTools
