import Mathlib.Data.List.Nodup
import DeckTools.Edit.Plan
import DeckTools.Proofs.Deck.Ids
import DeckTools.Rehearsal.SampleDeck

/-!
# Deleting objects one after the other

A page goes with its elements and, if it is a slide, with its notes page; a group goes with
its members.  So an object is gone once any object around it is deleted.  In a batch that
deletes the known ones of some requested IDs, a request names an object that is still there
exactly when none of the requests before it names one around it.  An order that puts a group
before a member, or a slide before an element on it, names what is gone.
-/

namespace DeckTools

variable {α : Type}

/-! ## Lists -/

/-- Pairs in the order of a list, seen from the later of the two. -/
theorem pairwise_iff_forall_split {β : Type} {R : β -> β -> Prop} {items : List β} :
    items.Pairwise R <->
      forall before item after, items = before ++ item :: after ->
        forall earlier, earlier ∈ before -> R earlier item := by
  constructor
  · intro h before item after hitems earlier hearlier
    rw [hitems] at h
    exact (List.pairwise_append.mp h).2.2 earlier hearlier item List.mem_cons_self
  · intro h
    induction items with
    | nil => exact List.Pairwise.nil
    | cons first rest ih =>
      apply List.Pairwise.cons
      · intro item hitem
        rcases List.append_of_mem hitem with ⟨before, after, hrest⟩
        exact h (first :: before) item after (by rw [hrest, List.cons_append]) first
          List.mem_cons_self
      · apply ih
        intro before item after hrest earlier hearlier
        exact h (first :: before) item after (by rw [hrest, List.cons_append]) earlier
          (List.mem_cons_of_mem first hearlier)

/-! ## Objects -/

/-- An object by its ID, with the IDs of what is around it from the inside out. -/
structure Enclosed where
  objectId : String
  around : List String

/-- The object is not the one of an ID, nor inside it. -/
def Enclosed.Avoids (object : Enclosed) (objectId : String) : Prop :=
  objectId ≠ object.objectId ∧ objectId ∉ object.around

instance (object : Enclosed) (objectId : String) : Decidable (object.Avoids objectId) :=
  inferInstanceAs (Decidable (_ ∧ _))

/-! ## Elements -/

namespace Element

mutual

/-- An element and everything inside it, below the objects of the given IDs. -/
def objectsIn (around : List String) : Element α -> List Enclosed
  | .group info members =>
      { objectId := info.objectId, around } ::
        objectsAmong (info.objectId :: around) members
  | element => [{ objectId := element.objectId, around }]

def objectsAmong (around : List String) : List (Element α) -> List Enclosed
  | [] => []
  | element :: rest => objectsIn around element ++ objectsAmong around rest

end

mutual

/-- What is left of an element when an object is deleted, at any depth. -/
def removeIn (objectId : String) : Element α -> List (Element α)
  | .group info members =>
      if info.objectId = objectId then []
      else [.group info (removeAmong objectId members)]
  | element => if element.objectId = objectId then [] else [element]

def removeAmong (objectId : String) : List (Element α) -> List (Element α)
  | [] => []
  | element :: rest => removeIn objectId element ++ removeAmong objectId rest

end

theorem objectsIn_leaf {element : Element α} (h : IsLeaf element) (around : List String) :
    objectsIn around element = [{ objectId := element.objectId, around }] := by
  cases element with
  | group info members => exact absurd rfl (h info members)
  | _ => rfl

theorem removeIn_leaf {element : Element α} (h : IsLeaf element) (objectId : String) :
    removeIn objectId element = if element.objectId = objectId then [] else [element] := by
  cases element with
  | group info members => exact absurd rfl (h info members)
  | _ => rfl

theorem objectsAmong_append (around : List String) (left right : List (Element α)) :
    objectsAmong around (left ++ right) =
      objectsAmong around left ++ objectsAmong around right := by
  induction left with
  | nil => rfl
  | cons element rest ih => rw [List.cons_append, objectsAmong, objectsAmong, ih,
      List.append_assoc]

theorem objectsAmong_singleton (around : List String) (element : Element α) :
    objectsAmong around [element] = objectsIn around element := by
  rw [objectsAmong, objectsAmong, List.append_nil]

theorem map_objectId_objectsAmong (around : List String) (depth : Nat)
    (elements : List (Element α)) :
    (objectsAmong around elements).map Enclosed.objectId =
      (outlineAll depth elements).map (fun entry => entry.2.objectId) := by
  have hall :
      (forall (element : Element α) (around : List String) (depth : Nat),
        (objectsIn around element).map Enclosed.objectId =
          (outline depth element).map (fun entry => entry.2.objectId)) ∧
      forall (elements : List (Element α)) (around : List String) (depth : Nat),
        (objectsAmong around elements).map Enclosed.objectId =
          (outlineAll depth elements).map (fun entry => entry.2.objectId) := by
    apply induct
    case group =>
      intro info members ih around depth
      rw [objectsIn, outline, List.map_cons, List.map_cons, ih _ (depth + 1)]
      rfl
    case leaf =>
      intro element hleaf around depth
      rw [objectsIn_leaf hleaf, outline_leaf hleaf]
      rfl
    case nil =>
      intro around depth
      rfl
    case cons =>
      intro element rest ihElement ihRest around depth
      rw [objectsAmong, outlineAll, List.map_append, List.map_append, ihElement around depth,
        ihRest around depth]
  exact hall.2 elements around depth

/-- Whatever is around a list of elements is around each object in it. -/
theorem around_subset_of_mem_objectsAmong {around : List String} {elements : List (Element α)}
    {object : Enclosed} (h : object ∈ objectsAmong around elements) :
    around ⊆ object.around := by
  have hall :
      (forall (element : Element α) (around : List String) (object : Enclosed),
        object ∈ objectsIn around element -> around ⊆ object.around) ∧
      forall (elements : List (Element α)) (around : List String) (object : Enclosed),
        object ∈ objectsAmong around elements -> around ⊆ object.around := by
    apply induct
    case group =>
      intro info members ih around object hobject
      rcases List.mem_cons.mp hobject with rfl | hmember
      · exact List.Subset.refl around
      · exact List.Subset.trans (List.subset_cons_self info.objectId around)
          (ih _ object hmember)
    case leaf =>
      intro element hleaf around object hobject
      rw [objectsIn_leaf hleaf, List.mem_singleton] at hobject
      rw [hobject]
      exact List.Subset.refl around
    case nil =>
      intro around object hobject
      cases hobject
    case cons =>
      intro element rest ihElement ihRest around object hobject
      rcases List.mem_append.mp hobject with hfirst | hrest
      · exact ihElement around object hfirst
      · exact ihRest around object hrest
  exact hall.2 elements around object h

theorem filter_objectsAmong_of_mem {around : List String} {objectId : String}
    (h : objectId ∈ around) (elements : List (Element α)) :
    (objectsAmong around elements).filter (fun object => object.Avoids objectId) = [] := by
  apply List.filter_eq_nil_iff.mpr
  intro object hobject havoids
  have haround := around_subset_of_mem_objectsAmong hobject h
  exact (of_decide_eq_true havoids).2 haround

/-- What is around an object goes with it, and its own ID is looked at first. -/
theorem filter_enclosing {around : List String} {objectId : String}
    (h : objectId ∉ around) (own : String) (inside left : List (Element α))
    (hinside : objectId ∉ own :: around ->
      objectsAmong (own :: around) left =
        (objectsAmong (own :: around) inside).filter (fun object => object.Avoids objectId)) :
    ({ objectId := own, around } :: objectsAmong (own :: around) inside).filter
        (fun object => object.Avoids objectId) =
      if own = objectId then []
      else { objectId := own, around } :: objectsAmong (own :: around) left := by
  by_cases hown : own = objectId
  · have haround : objectId ∈ own :: around := by
      rw [hown]
      exact List.mem_cons_self
    have hgone : ¬ Enclosed.Avoids { objectId := own, around } objectId :=
      fun havoids => havoids.1 hown.symm
    rw [if_pos hown, List.filter_cons_of_neg (by simpa using hgone),
      filter_objectsAmong_of_mem haround]
  · have haround : objectId ∉ own :: around := by
      intro hmem
      rcases List.mem_cons.mp hmem with heq | hmem
      · exact hown heq.symm
      · exact h hmem
    have hkept : Enclosed.Avoids { objectId := own, around } objectId :=
      ⟨Ne.symm hown, h⟩
    rw [if_neg hown, List.filter_cons_of_pos (by simpa using hkept), hinside haround]

/-- Deleting an object leaves the objects that are neither it nor inside it. -/
theorem objectsAmong_removeAmong {around : List String} {objectId : String}
    (h : objectId ∉ around) (elements : List (Element α)) :
    objectsAmong around (removeAmong objectId elements) =
      (objectsAmong around elements).filter (fun object => object.Avoids objectId) := by
  have hall :
      (forall (element : Element α) (around : List String), objectId ∉ around ->
        objectsAmong around (removeIn objectId element) =
          (objectsIn around element).filter (fun object => object.Avoids objectId)) ∧
      forall (elements : List (Element α)) (around : List String), objectId ∉ around ->
        objectsAmong around (removeAmong objectId elements) =
          (objectsAmong around elements).filter (fun object => object.Avoids objectId) := by
    apply induct
    case group =>
      intro info members ih around haround
      rw [objectsIn, removeIn,
        filter_enclosing haround info.objectId members (removeAmong objectId members) (ih _)]
      split
      · rfl
      · rw [objectsAmong_singleton, objectsIn]
    case leaf =>
      intro element hleaf around haround
      have hown := filter_enclosing haround element.objectId ([] : List (Element α)) []
        (fun _ => rfl)
      rw [removeIn_leaf hleaf, objectsIn_leaf hleaf]
      rw [objectsAmong] at hown
      rw [hown]
      split
      · rfl
      · rw [objectsAmong_singleton, objectsIn_leaf hleaf]
    case nil =>
      intro around _
      rfl
    case cons =>
      intro element rest ihElement ihRest around haround
      rw [removeAmong, objectsAmong_append, ihElement around haround, ihRest around haround,
        objectsAmong, List.filter_append]
  exact hall.2 elements around h

end Element

/-! ## Pages -/

namespace Page

def objects (around : List String) (page : Page α) : List Enclosed :=
  { objectId := page.objectId, around } ::
    Element.objectsAmong (page.objectId :: around) page.elements

def removeElement (objectId : String) (page : Page α) : Page α :=
  { page with elements := Element.removeAmong objectId page.elements }

/-- The pages of a list without a page or an element of one. -/
def removeAmong (objectId : String) (pages : List (Page α)) : List (Page α) :=
  (pages.filter (fun page => page.objectId ≠ objectId)).map (removeElement objectId)

/-- A slide without its notes page or an element of either. -/
def removeFromSlide (objectId : String) (slide : Page α) : Page α :=
  { removeElement objectId slide with
    notes :=
      (slide.notes.filter (fun notes => notes.objectId ≠ objectId)).map
        (removeElement objectId) }

/-- A page is left as a whole, less the object, or not at all. -/
theorem filter_objects {around : List String} {objectId : String} (h : objectId ∉ around)
    (page : Page α) :
    (page.objects around).filter (fun object => object.Avoids objectId) =
      if page.objectId = objectId then []
      else (page.removeElement objectId).objects around := by
  rw [objects, Element.filter_enclosing h page.objectId page.elements
    (Element.removeAmong objectId page.elements)
    (fun hinside => Element.objectsAmong_removeAmong hinside page.elements)]
  rfl

theorem flatMap_filter_map {objectId : String} (objectsOf : Page α -> List Enclosed)
    (remove : Page α -> Page α)
    (h : forall page, (objectsOf page).filter (fun object => object.Avoids objectId) =
      if page.objectId = objectId then [] else objectsOf (remove page))
    (pages : List (Page α)) :
    ((pages.filter (fun page => page.objectId ≠ objectId)).map remove).flatMap objectsOf =
      (pages.flatMap objectsOf).filter (fun object => object.Avoids objectId) := by
  induction pages with
  | nil => rfl
  | cons page rest ih =>
    rw [List.flatMap_cons, List.filter_append, h, ← ih, List.filter_cons]
    by_cases hown : page.objectId = objectId
    · simp [hown]
    · simp [hown]

theorem flatMap_objects_removeAmong {around : List String} {objectId : String}
    (h : objectId ∉ around) (pages : List (Page α)) :
    (removeAmong objectId pages).flatMap (objects around) =
      (pages.flatMap (objects around)).filter (fun object => object.Avoids objectId) :=
  flatMap_filter_map (objects around) (removeElement objectId) (filter_objects h) pages

theorem filter_objects_of_mem {around : List String} {objectId : String} (h : objectId ∈ around)
    (page : Page α) :
    (page.objects around).filter (fun object => object.Avoids objectId) = [] := by
  have hgone : ¬ Enclosed.Avoids { objectId := page.objectId, around } objectId :=
    fun havoids => havoids.2 h
  rw [objects, List.filter_cons_of_neg (by simpa using hgone),
    Element.filter_objectsAmong_of_mem (List.mem_cons_of_mem page.objectId h)]

theorem notes_removeFromSlide (slide : Page α) (objectId : String) :
    (removeFromSlide objectId slide).notes.toList =
      removeAmong objectId slide.notes.toList := by
  rw [removeFromSlide, removeAmong, ← Option.toList_filter, ← Option.toList_map]

end Page

namespace Presentation

def slideObjects (slide : Page α) : List Enclosed :=
  slide.objects [] ++ slide.notes.toList.flatMap (Page.objects [slide.objectId])

def objects (deck : Presentation α) : List Enclosed :=
  deck.slides.flatMap slideObjects ++ deck.masters.flatMap (Page.objects []) ++
    deck.layouts.flatMap (Page.objects [])

/-- The presentation without an object and what is inside it. -/
def remove (deck : Presentation α) (objectId : String) : Presentation α :=
  { deck with
    slides :=
      (deck.slides.filter (fun slide => slide.objectId ≠ objectId)).map
        (Page.removeFromSlide objectId)
    masters := Page.removeAmong objectId deck.masters
    layouts := Page.removeAmong objectId deck.layouts }

/-- The presentation after a request; only deletions are looked at. -/
def carryOut (deck : Presentation α) : Request α -> Presentation α
  | .deleteObject objectId => deck.remove objectId
  | _ => deck

/-- The presentation after requests that are carried out in order. -/
def replay (deck : Presentation α) (requests : List (Request α)) : Presentation α :=
  requests.foldl carryOut deck

/-- No two objects have the same ID. -/
def UniqueIds (deck : Presentation α) : Prop :=
  (deck.objects.map Enclosed.objectId).Nodup

/-- There is an object with the ID. -/
def Has (deck : Presentation α) (objectId : String) : Prop :=
  exists object, object ∈ deck.objects ∧ object.objectId = objectId

/-- One object is inside another: an element or notes page of a page, a member of a group. -/
def Contains (deck : Presentation α) (outer inner : String) : Prop :=
  exists object, object ∈ deck.objects ∧ object.objectId = inner ∧ outer ∈ object.around

instance (deck : Presentation α) : Decidable deck.UniqueIds :=
  inferInstanceAs (Decidable (List.Nodup _))

instance (deck : Presentation α) (objectId : String) : Decidable (deck.Has objectId) :=
  inferInstanceAs (Decidable (exists object, object ∈ deck.objects ∧ _))

instance (deck : Presentation α) (outer inner : String) : Decidable (deck.Contains outer inner) :=
  inferInstanceAs (Decidable (exists object, object ∈ deck.objects ∧ _))

/-- Each deletion among the requests finds its object when its turn comes. -/
def DeletesPresent (deck : Presentation α) (requests : List (Request α)) : Prop :=
  forall done objectId rest, requests = done ++ .deleteObject objectId :: rest ->
    (deck.replay done).Has objectId

/-! ## What a deletion leaves -/

theorem filter_slideObjects (slide : Page α) (objectId : String) :
    (slideObjects slide).filter (fun object => object.Avoids objectId) =
      if slide.objectId = objectId then []
      else slideObjects (Page.removeFromSlide objectId slide) := by
  rw [slideObjects, List.filter_append, Page.filter_objects List.not_mem_nil]
  by_cases hown : slide.objectId = objectId
  · have hnotes :
        (slide.notes.toList.flatMap (Page.objects [slide.objectId])).filter
          (fun object => object.Avoids objectId) = [] := by
      rw [List.filter_flatMap]
      apply List.flatMap_eq_nil_iff.mpr
      intro notes _
      exact Page.filter_objects_of_mem (List.mem_singleton.mpr hown.symm) notes
    rw [if_pos hown, if_pos hown, hnotes]
    rfl
  · have hnotes : objectId ∉ [slide.objectId] :=
      fun hmem => hown (List.mem_singleton.mp hmem).symm
    rw [if_neg hown, if_neg hown, ← Page.flatMap_objects_removeAmong hnotes, slideObjects,
      Page.notes_removeFromSlide]
    rfl

/-- A deletion leaves the objects that are neither the one deleted nor inside it. -/
theorem objects_remove (deck : Presentation α) (objectId : String) :
    (deck.remove objectId).objects =
      deck.objects.filter (fun object => object.Avoids objectId) := by
  have hslides := Page.flatMap_filter_map slideObjects (Page.removeFromSlide objectId)
    (fun slide => filter_slideObjects slide objectId) deck.slides
  have hmasters := Page.flatMap_objects_removeAmong (List.not_mem_nil (a := objectId)) deck.masters
  have hlayouts := Page.flatMap_objects_removeAmong (List.not_mem_nil (a := objectId)) deck.layouts
  rw [objects, objects, List.filter_append, List.filter_append, ← hslides, ← hmasters,
    ← hlayouts]
  rfl

theorem replay_cons (deck : Presentation α) (objectId : String) (rest : List String) :
    deck.replay (deleteObjects (objectId :: rest)) =
      (deck.remove objectId).replay (deleteObjects rest) := rfl

/-- Deletions leave the objects that are neither deleted nor inside a deleted one. -/
theorem mem_objects_replay {deck : Presentation α} {deleted : List String} {object : Enclosed} :
    object ∈ (deck.replay (deleteObjects deleted)).objects <->
      object ∈ deck.objects ∧ forall objectId, objectId ∈ deleted -> object.Avoids objectId := by
  induction deleted generalizing deck with
  | nil => simp [replay, deleteObjects]
  | cons first rest ih =>
    rw [replay_cons, ih, objects_remove, List.mem_filter, decide_eq_true_iff, and_assoc,
      List.forall_mem_cons]

/-! ## What a presentation knows it has -/

theorem objects_subset_of_mem_pages {deck : Presentation α} {ref : PageRef α}
    (h : ref ∈ deck.pages) : exists around, ref.page.objects around ⊆ deck.objects := by
  rw [pages, List.mem_append, List.mem_append, List.mem_flatMap, List.mem_map, List.mem_map] at h
  rcases h with (⟨⟨slide, index⟩, hslide, href⟩ | ⟨page, hpage, rfl⟩) | ⟨page, hpage, rfl⟩
  case inl.inl =>
    have hmem : slide ∈ deck.slides := List.fst_mem_of_mem_zipIdx hslide
    have hall : slideObjects slide ⊆ deck.objects := fun object hobject =>
      List.mem_append_left _ (List.mem_append_left _
        (List.mem_flatMap.mpr ⟨slide, hmem, hobject⟩))
    rcases List.mem_cons.mp href with rfl | hnotes
    · exact ⟨[], fun object hobject => hall (List.mem_append_left _ hobject)⟩
    · rcases List.mem_map.mp hnotes with ⟨notes, hmember, rfl⟩
      exact ⟨[slide.objectId], fun object hobject => hall (List.mem_append_right _
        (List.mem_flatMap.mpr ⟨notes, hmember, hobject⟩))⟩
  case inl.inr =>
    exact ⟨[], fun object hobject => List.mem_append_left _ (List.mem_append_right _
      (List.mem_flatMap.mpr ⟨page, hpage, hobject⟩))⟩
  case inr =>
    exact ⟨[], fun object hobject => List.mem_append_right _
      (List.mem_flatMap.mpr ⟨page, hpage, hobject⟩)⟩

theorem has_of_mem_objectIds {deck : Presentation α} {objectId : String}
    (h : objectId ∈ deck.objectIds) : deck.Has objectId := by
  rcases List.mem_flatMap.mp h with ⟨ref, href, hmem⟩
  rcases objects_subset_of_mem_pages href with ⟨around, hsubset⟩
  rcases mem_pageIds_iff.mp hmem with ⟨_, hpage⟩ | ⟨element, helement, hid⟩
  · exact ⟨{ objectId := ref.page.objectId, around }, hsubset List.mem_cons_self, hpage⟩
  · rcases List.mem_map.mp helement with ⟨entry, hentry, rfl⟩
    have hids : objectId ∈ (Element.objectsAmong (ref.page.objectId :: around)
        ref.page.elements).map Enclosed.objectId := by
      rw [Element.map_objectId_objectsAmong _ 0]
      exact List.mem_map.mpr ⟨entry, (List.mem_filter.mp hentry).1, hid⟩
    rcases List.mem_map.mp hids with ⟨object, hobject, hname⟩
    exact ⟨object, hsubset (List.mem_cons_of_mem _ hobject), hname⟩

/-! ## A batch of deletions -/

theorem deleteObjects_eq_split_iff {ids : List String} {done rest : List (Request α)}
    {objectId : String} :
    deleteObjects ids = done ++ .deleteObject objectId :: rest <->
      exists before after, ids = before ++ objectId :: after ∧
        done = deleteObjects before ∧ rest = deleteObjects after := by
  constructor
  · intro h
    rcases List.map_eq_append_iff.mp h with ⟨before, others, rfl, hbefore, hothers⟩
    rcases List.map_eq_cons_iff.mp hothers with ⟨objectId', after, rfl, hobject, hafter⟩
    cases hobject
    exact ⟨before, after, rfl, hbefore.symm, hafter.symm⟩
  · intro h
    rcases h with ⟨before, after, rfl, rfl, rfl⟩
    rw [deleteObjects, List.map_append, List.map_cons, deleteObjects, deleteObjects]

theorem mem_deleteObjects_iff {ids : List String} {objectId : String} :
    (.deleteObject objectId : Request α) ∈ deleteObjects ids <-> objectId ∈ ids := by
  simp [deleteObjects]

variable {deck : Presentation α} {objectId : String}

theorem has_of_mem_existing {requested : List String}
    (h : objectId ∈ (deck.categorize requested).existing) : deck.Has objectId := by
  rw [categorize_eq] at h
  have hnames := of_decide_eq_true (List.mem_filter.mp h).2
  exact has_of_mem_objectIds (mem_objectIds_iff_names.mpr hnames)

/-- An object is left by deletions of others exactly if it is inside none of them. -/
theorem has_replay_iff {deleted : List String} (hunique : deck.UniqueIds)
    (hhas : deck.Has objectId) (hdeleted : objectId ∉ deleted) :
    (deck.replay (deleteObjects deleted)).Has objectId <->
      forall earlier, earlier ∈ deleted -> ¬ deck.Contains earlier objectId := by
  constructor
  · intro h earlier hearlier hinside
    rcases h with ⟨object, hleft, rfl⟩
    rcases hinside with ⟨other, hother, hid, haround⟩
    rcases mem_objects_replay.mp hleft with ⟨hobject, havoids⟩
    -- the object around which `earlier` stands and the one that is left share their ID
    have hsame : other = object := List.inj_on_of_nodup_map hunique hother hobject hid
    rw [hsame] at haround
    exact (havoids earlier hearlier).2 haround
  · intro h
    rcases hhas with ⟨object, hobject, rfl⟩
    refine ⟨object, mem_objects_replay.mpr ⟨hobject, ?_⟩, rfl⟩
    intro earlier hearlier
    constructor
    · intro heq
      exact hdeleted (heq ▸ hearlier)
    · intro haround
      exact h earlier hearlier ⟨object, hobject, rfl, haround⟩

/--
Every deletion in the batch is of an object there was.  When its turn comes the object is
still there exactly if no deletion before it is of an object around it, so that the batch
goes through exactly if no known ID is asked for before the ID of an object inside it.
-/
theorem deletesPresent_iff (hunique : deck.UniqueIds) (requested : List String) :
    (forall objectId,
      .deleteObject objectId ∈ (deleteObjects (deck.categorize requested).existing :
        List (Request α)) -> deck.Has objectId) ∧
    (forall done objectId rest,
      deleteObjects (deck.categorize requested).existing =
        done ++ .deleteObject objectId :: rest ->
      ((deck.replay done).Has objectId <->
        forall earlier, .deleteObject earlier ∈ done -> ¬ deck.Contains earlier objectId)) ∧
    (deck.DeletesPresent (deleteObjects (deck.categorize requested).existing) <->
      (deck.categorize requested).existing.Pairwise
        (fun earlier later => ¬ deck.Contains earlier later)) := by
  have hsplit : forall before objectId after,
      (deck.categorize requested).existing = before ++ objectId :: after ->
      ((deck.replay (deleteObjects before)).Has objectId <->
        forall earlier, earlier ∈ before -> ¬ deck.Contains earlier objectId) := by
    intro before objectId after hexisting
    have hnodup := nodup_existing deck requested
    have hmem : objectId ∈ (deck.categorize requested).existing := by
      rw [hexisting]
      exact List.mem_append_right before List.mem_cons_self
    rw [hexisting, List.nodup_append] at hnodup
    have hbefore : objectId ∉ before := fun h =>
      hnodup.2.2 objectId h objectId List.mem_cons_self rfl
    exact has_replay_iff hunique (has_of_mem_existing hmem) hbefore
  refine ⟨?_, ?_, ?_⟩
  · intro objectId hmem
    exact has_of_mem_existing (mem_deleteObjects_iff.mp hmem)
  · intro done objectId rest hbatch
    rcases deleteObjects_eq_split_iff.mp hbatch with ⟨before, after, hexisting, rfl, _⟩
    rw [hsplit before objectId after hexisting]
    simp only [mem_deleteObjects_iff]
  · rw [pairwise_iff_forall_split]
    constructor
    · intro h before objectId after hexisting
      apply (hsplit before objectId after hexisting).mp
      exact h (deleteObjects before) objectId (deleteObjects after)
        (deleteObjects_eq_split_iff.mpr ⟨before, after, hexisting, rfl, rfl⟩)
    · intro h done objectId rest hbatch
      rcases deleteObjects_eq_split_iff.mp hbatch with ⟨before, after, hexisting, rfl, _⟩
      exact (hsplit before objectId after hexisting).mpr (h before objectId after hexisting)

theorem deletesPresent_iff_sampleDeck :
    Rehearsal.sampleDeck.UniqueIds ∧
      Rehearsal.sampleDeck.Contains "group-1" "deep-shape" ∧
      Rehearsal.sampleDeck.DeletesPresent
        (deleteObjects
          (Rehearsal.sampleDeck.categorize ["deep-shape", "group-1"]).existing) := by
  have hunique : Rehearsal.sampleDeck.UniqueIds := by decide
  have hinside : Rehearsal.sampleDeck.Contains "group-1" "deep-shape" := by decide
  have hiff := (deletesPresent_iff hunique ["deep-shape", "group-1"]).2.2
  exact ⟨hunique, hinside, hiff.mpr (by decide)⟩

/-- A group that is deleted before a shape inside it takes the shape along. -/
theorem group_deleted_before_member :
    Rehearsal.sampleDeck.UniqueIds ∧
      ¬ Rehearsal.sampleDeck.DeletesPresent
        (deleteObjects
          (Rehearsal.sampleDeck.categorize ["group-1", "deep-shape"]).existing) := by
  have hexisting : (Rehearsal.sampleDeck.categorize ["group-1", "deep-shape"]).existing =
      ["group-1", "deep-shape"] := by decide
  have hgone : ¬ (Rehearsal.sampleDeck.remove "group-1").Has "deep-shape" := by decide
  refine ⟨by decide, ?_⟩
  rw [hexisting]
  intro h
  exact hgone (h [.deleteObject "group-1"] "deep-shape" [] rfl)

end Presentation

end DeckTools
