import DeckTools.Proofs.Deck.Agreement
import DeckTools.Rehearsal.SampleDeck
import DeckTools.Tool.Text

/-!
# Scopes inside one another

A translation of one object starts its walk at that object, a translation of a slide at
the elements of the slide.  As long as groups are not nested deeper than walks look, both
see the same below the object, so the texts of an object stand in one block among the
texts of its page, and those of a slide are the blocks of its elements one after another.
-/

namespace DeckTools

namespace Element

variable {α : Type}

/-! ## Blocks of an outline -/

theorem outlineAll_eq_flatMap (depth : Nat) (elements : List (Element α)) :
    outlineAll depth elements = elements.flatMap (outline depth) := by
  induction elements with
  | nil => rfl
  | cons element rest ih => rw [outlineAll, ih, List.flatMap_cons]

theorem exists_outlineAll_eq {elements : List (Element α)} {element : Element α}
    (h : element ∈ elements) (depth : Nat) :
    exists before after,
      outlineAll depth elements = before ++ outline depth element ++ after := by
  rcases List.append_of_mem h with ⟨front, back, rfl⟩
  refine ⟨outlineAll depth front, outlineAll depth back, ?_⟩
  simp only [outlineAll_eq_flatMap, List.flatMap_append, List.flatMap_cons,
    List.append_assoc]

/-- What an outline says of an element further in, it says in one piece. -/
theorem exists_outline_eq {element found : Element α} {path : List Nat}
    (h : element.inside? path = some found) (depth : Nat) :
    exists before after,
      outline depth element = before ++ outline (depth + path.length) found ++ after := by
  induction path generalizing element depth with
  | nil =>
      cases h
      exact ⟨[], [], by simp⟩
  | cons position path ih =>
      rcases Option.bind_eq_some_iff.mp h with ⟨member, hmember, hfound⟩
      cases element with
      | group info members =>
          have hmem : member ∈ members := List.mem_of_getElem? hmember
          rcases exists_outlineAll_eq hmem (depth + 1) with ⟨before, after, hmembers⟩
          rcases ih hfound (depth + 1) with ⟨front, back, hinside⟩
          have hdepth : depth + 1 + path.length = depth + (position :: path).length := by
            rw [List.length_cons]
            omega
          refine ⟨(depth, .group info members) :: (before ++ front), back ++ after, ?_⟩
          rw [outline, hmembers, hinside, hdepth]
          simp only [List.cons_append, List.append_assoc]
      | _ => cases hmember

theorem exists_outlineAll_eq_of_at? {elements : List (Element α)} {found : Element α}
    {path : List Nat} (h : at? elements path = some found) (depth : Nat) :
    exists before after inner,
      outlineAll depth elements = before ++ outline inner found ++ after := by
  cases path with
  | nil => cases h
  | cons position path =>
      rcases Option.bind_eq_some_iff.mp h with ⟨element, helement, hfound⟩
      rcases exists_outlineAll_eq (List.mem_of_getElem? helement) depth with
        ⟨before, after, helements⟩
      rcases exists_outline_eq hfound depth with ⟨front, back, hinside⟩
      refine ⟨before ++ front, back ++ after, depth + path.length, ?_⟩
      rw [helements, hinside]
      simp only [List.append_assoc]

/-! ## Walks that start further in -/

theorem reached_of_le {outline : List (Nat × Element α)}
    (h : forall entry, entry ∈ outline -> entry.1 ≤ maxDepth) :
    reached outline = outline.map Prod.snd := by
  rw [reached, List.filter_eq_self.mpr]
  intro entry hentry
  exact decide_eq_true (h entry hentry)

/-- An element that is outlined within reach at some depth is all in reach from the top. -/
theorem reached_outline_eq_walk {depth : Nat} {element : Element α}
    (h : forall entry, entry ∈ outline depth element -> entry.1 ≤ maxDepth) :
    reached (outline depth element) = walk [element] := by
  have hpaths := outline_eq_map_paths.1 element
  have htop : forall entry, entry ∈ outline 0 element -> entry.1 ≤ maxDepth := by
    intro entry hentry
    rw [hpaths 0] at hentry
    rcases List.mem_map.mp hentry with ⟨⟨path, inner⟩, hpath, rfl⟩
    have hdeeper : (depth + path.length, inner) ∈ outline depth element := by
      rw [hpaths depth]
      exact List.mem_map_of_mem hpath
    have hle := h _ hdeeper
    dsimp only at hle ⊢
    omega
  rw [walk_eq_reached, outlineAll, outlineAll, List.append_nil, reached_of_le h,
    reached_of_le htop, hpaths depth, hpaths 0, List.map_map, List.map_map]
  rfl

end Element

/-! ## Pages -/

/-- No element stands inside more groups than walks look into. -/
def Presentation.NestingFits {α : Type} (deck : Presentation α) : Prop :=
  forall ref, ref ∈ deck.pages ->
    forall entry, entry ∈ Element.outlineAll 0 ref.page.elements -> entry.1 ≤ maxDepth

instance {α : Type} (deck : Presentation α) : Decidable deck.NestingFits :=
  inferInstanceAs (Decidable (forall ref, ref ∈ deck.pages -> _))

namespace Presentation

variable {α : Type} {deck : Presentation α} {objectId : String} {found : Located α}

theorem owned_of_locate? (h : deck.locate? objectId = some found) :
    found.page ∈ deck.pages ∧ StandsIn found.page deck ∧
      exists path, Element.at? found.page.page.elements path = some found.element := by
  rcases (locate?_eq_some_iff deck objectId found).mp h with ⟨place, hbears, _⟩
  rcases owned_of_at? hbears.stands with ⟨hstands, helement⟩
  have hpage := (reaches_iff.mp ⟨place, hbears.stands, hbears.reached⟩).1
  exact ⟨hpage, hstands, place.path, helement⟩

/-- A walk over a page sees the element of an ID in one piece, as a walk from there does. -/
theorem exists_walk_eq_of_locate? (hfits : deck.NestingFits)
    (h : deck.locate? objectId = some found) :
    exists before after,
      Element.walk found.page.page.elements =
        before ++ Element.walk [found.element] ++ after := by
  rcases owned_of_locate? h with ⟨hpage, _, path, helement⟩
  rcases Element.exists_outlineAll_eq_of_at? helement 0 with ⟨before, after, depth, houtline⟩
  have hinside : forall entry, entry ∈ Element.outline depth found.element ->
      entry.1 ≤ maxDepth := by
    intro entry hentry
    apply hfits found.page hpage entry
    rw [houtline]
    exact List.mem_append_left after (List.mem_append_right before hentry)
  refine ⟨Element.reached before, Element.reached after, ?_⟩
  rw [Element.walk_eq_reached, houtline, Element.reached_append, Element.reached_append,
    Element.reached_outline_eq_walk hinside]

end Presentation

namespace TextTarget

variable {α : Type}

def ofElement (element : Element α) : List TextTarget :=
  element.ownTexts.filterMap ofUnit?

theorem collect_cons (element : Element α) (rest : List (Element α)) :
    collect (element :: rest) = collect [element] ++ collect rest := by
  have hreach : ¬ maxDepth < 0 := Nat.not_lt_zero maxDepth
  unfold collect
  rw [collectAmong, collectAmong, collectAmong, if_neg hreach, if_neg hreach, List.append_nil]

theorem collect_eq_flatMap (elements : List (Element α)) :
    collect elements = elements.flatMap (fun element => collect [element]) := by
  induction elements with
  | nil => rfl
  | cons element rest ih => rw [collect_cons, ih, List.flatMap_cons]

end TextTarget

namespace Translate

theorem targets_object {deck : Deck} {objectId : String} {found : Located Float}
    (h : deck.locate? objectId = some found) (includeNotes : Bool) :
    targets deck (.object objectId) includeNotes =
      .ok (TextTarget.collect [found.element]) := by
  show (locate deck objectId).map (fun found => TextTarget.collect [found.element]) = _
  unfold locate
  rw [h]
  rfl

theorem targets_slide {deck : Deck} {slide : SlideRef} {position : Nat} {page : Page Float}
    (h : slide.resolve deck = .ok (position, page)) :
    targets deck (.slide slide) false =
      .ok (page.elements.flatMap (fun element => TextTarget.collect [element])) := by
  show (slide.resolve deck).map (fun found => slideTargets false found.2) = _
  rw [h, ← TextTarget.collect_eq_flatMap]
  show Except.ok (TextTarget.collect page.elements ++ []) = _
  rw [List.append_nil]

/--
The texts of an object that an ID names are a block of the texts of its page, which
begins behind the texts of what stands before the object and ends before those of what
stands after it.  On a slide, which its number reaches, the texts without the notes are
the blocks of its elements one after another.
-/
theorem targets_object_block {deck : Deck} (hfits : deck.NestingFits) {objectId : String}
    {found : Located Float} (hfound : deck.locate? objectId = some found)
    (includeNotes : Bool) :
    targets deck (.object objectId) includeNotes =
        .ok (TextTarget.collect [found.element]) ∧
      (exists before after,
        Element.walk found.page.page.elements =
          before ++ Element.walk [found.element] ++ after ∧
        TextTarget.collect found.page.page.elements =
          before.flatMap TextTarget.ofElement ++ TextTarget.collect [found.element] ++
            after.flatMap TextTarget.ofElement) ∧
      (found.page.kind = .slide ->
        (exists position, found.page.slideIndex = some position ∧
          (SlideRef.index (position + 1)).resolve deck = .ok (position, found.page.page)) ∧
        forall slide position, slide.resolve deck = .ok (position, found.page.page) ->
          targets deck (.slide slide) false =
            .ok (found.page.page.elements.flatMap
              (fun element => TextTarget.collect [element]))) := by
  refine ⟨targets_object hfound includeNotes, ?block, ?slide⟩
  case block =>
      rcases Presentation.exists_walk_eq_of_locate? hfits hfound with ⟨before, after, hwalk⟩
      refine ⟨before, after, hwalk, ?_⟩
      rw [TextTarget.collect_eq_flatMap_walk, hwalk, List.flatMap_append,
        List.flatMap_append, TextTarget.collect_eq_flatMap_walk]
      rfl
  case slide =>
      intro hkind
      rcases Presentation.owned_of_locate? hfound with ⟨_, hstands, _⟩
      unfold Presentation.StandsIn at hstands
      rw [hkind] at hstands
      rcases hstands with ⟨position, hindex, hslide⟩
      refine ⟨⟨position, hindex, ?_⟩, fun slide _ hresolve => targets_slide hresolve⟩
      unfold SlideRef.resolve
      dsimp only
      rw [Nat.add_sub_cancel, hslide]

end Translate

/-! ## A sample -/

namespace Rehearsal

def boxed : Nat -> Element Float -> Element Float
  | 0, element => element
  | levels + 1, element => .group (named "box") [boxed levels element]

def wordShape (objectId content : String) : Element Float :=
  .shape (named objectId) (textShape none none content)

def boxedSlide : Page Float :=
  plainPage "slide-1" "SLIDE"
    [wordShape "first" "one\n",
      boxed 62
        (.group (named "tray")
          [wordShape "left" "two\n", .group (named "crate") [wordShape "core" "three\n"],
            wordShape "right" "four\n"]),
      wordShape "last" "five\n"]

end Rehearsal

theorem Translate.targets_object_block_boxedSlide :
    exists (deck : Deck) (found : Located Float),
      deck.slides = [Rehearsal.boxedSlide] ∧ deck.NestingFits ∧
      deck.locate? "crate" = some found ∧ found.page.page = Rehearsal.boxedSlide ∧
      found.page.kind = .slide ∧
      (TextTarget.collect [found.element]).map TextTarget.text = ["three"] ∧
      (TextTarget.collect Rehearsal.boxedSlide.elements).map TextTarget.text =
        ["one", "two", "three", "four", "five"] ∧
      targets deck (.object "crate") true = .ok (TextTarget.collect [found.element]) ∧
      (exists before after,
        TextTarget.collect Rehearsal.boxedSlide.elements =
          before ++ TextTarget.collect [found.element] ++ after) ∧
      targets deck (.slide (.index 1)) false =
        .ok (Rehearsal.boxedSlide.elements.flatMap
          (fun element => TextTarget.collect [element])) := by
  let deck : Deck := { Rehearsal.sampleDeck with slides := [Rehearsal.boxedSlide] }
  have hfits : deck.NestingFits := by decide
  have hfound : exists found, deck.locate? "crate" = some found ∧
      found.page.page = Rehearsal.boxedSlide ∧ found.page.kind = .slide ∧
      (TextTarget.collect [found.element]).map TextTarget.text = ["three"] :=
    ⟨_, rfl, rfl, rfl, rfl⟩
  rcases hfound with ⟨found, hfound, hpage, hkind, htexts⟩
  rcases targets_object_block hfits hfound true with ⟨hobject, ⟨before, after, _, hblock⟩, hslide⟩
  have hall : (TextTarget.collect Rehearsal.boxedSlide.elements).map TextTarget.text =
      ["one", "two", "three", "four", "five"] := by decide +kernel
  have hresolve : (SlideRef.index 1).resolve deck = .ok (0, found.page.page) := by
    rw [hpage]
    rfl
  have hblocks := (hslide hkind).2 _ _ hresolve
  rw [hpage] at hblock hblocks
  exact ⟨deck, found, rfl, hfits, hfound, hpage, hkind, htexts, hall, hobject, ⟨_, _, hblock⟩,
    hblocks⟩

end DeckTools
