import DeckTools.Deck.Element

/-!
# Presentations

A presentation has slides, masters and layouts.  Its pages in document order are
each slide followed by its notes page, then the masters, then the layouts.
-/

namespace DeckTools

variable {α : Type}

structure Page (α : Type) where
  objectId : String
  pageType : Option String
  elements : List (Element α)
  layoutId : Option String
  masterId : Option String
  notes : Option (Page α)

structure Presentation (α : Type) where
  id : String
  title : String
  revision : Option String
  pageSize : Option (Size α)
  slides : List (Page α)
  masters : List (Page α)
  layouts : List (Page α)

inductive PageKind where
  | slide
  | notes
  | master
  | layout
  deriving DecidableEq

/-- A page in its place; slides and notes pages know the position of their slide. -/
structure PageRef (α : Type) where
  page : Page α
  kind : PageKind
  slideIndex : Option Nat

structure Located (α : Type) where
  element : Element α
  page : PageRef α

structure IdPartition where
  existing : List String
  missing : List String
  deriving DecidableEq

namespace Presentation

def slidePages (slide : Page α) (index : Nat) : List (PageRef α) :=
  { page := slide, kind := .slide, slideIndex := some index } ::
    slide.notes.toList.map (fun notes =>
      { page := notes, kind := .notes, slideIndex := some index })

def pages (deck : Presentation α) : List (PageRef α) :=
  deck.slides.zipIdx.flatMap (fun slide => slidePages slide.1 slide.2) ++
    deck.masters.map (fun page => { page, kind := .master, slideIndex := none }) ++
    deck.layouts.map (fun page => { page, kind := .layout, slideIndex := none })

def locate? (deck : Presentation α) (objectId : String) : Option (Located α) :=
  deck.pages.findSome? fun page =>
    (Element.find? page.page.elements objectId).map (fun element => { element, page })

/-- The object IDs on a page: its own unless it is empty, then those of its elements. -/
def pageIds (page : Page α) : List String :=
  (if page.objectId == "" then [] else [page.objectId]) ++ Element.ids page.elements

def objectIds (deck : Presentation α) : List String :=
  deck.pages.flatMap (fun page => pageIds page.page)

def slideById? (deck : Presentation α) (id : String) : Option (Nat × Page α) :=
  (deck.slides.zipIdx.find? (fun slide => slide.1.objectId == id)).map
    (fun slide => (slide.2, slide.1))

/-- Split requested IDs, repeats dropped, into known and unknown ones. -/
def categorize (deck : Presentation α) (requested : List String) : IdPartition :=
  let known := deck.objectIds
  let parts := requested.eraseDups.partition (fun id => known.contains id)
  { existing := parts.1, missing := parts.2 }

end Presentation

end DeckTools
