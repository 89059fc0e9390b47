import DeckTools.Proofs.Search.Hits
import DeckTools.Rehearsal.SampleDeck
import DeckTools.Tool.Text
import Mathlib.Data.List.Forall2

/-!
# The texts that are searched and translated

A search and a translation of the whole presentation look at the same texts in the same
order.  A translation leaves out a text that holds a live field and one that is blank.
What it sends of any other is the text of the source without its final line feed, and it
writes to the element, and to the cell, that the source is labelled with.
-/

namespace DeckTools

open Text

variable {α : Type}

/-! ## Texts as both list them -/

/-- The text holds no live field, and without its final line feed it is not blank. -/
def TextUnit.Translatable (unit : TextUnit) : Prop :=
  unit.content.hasAuto = false ∧ isBlankText (dropFinalNewline unit.content.plain) = false

instance (unit : TextUnit) : Decidable unit.Translatable :=
  inferInstanceAs (Decidable (_ ∧ _))

namespace Search

/-- The source is the text of a table cell. -/
def Source.IsCell (source : Source) : Prop :=
  source.objectType = "table_cell" ∨ source.objectType = notesLabel ++ "table_cell"

def cellLabel (row column : Nat) : String :=
  "[" ++ natText row ++ "," ++ natText column ++ "]"

/-- The texts in reach in document order, each with the source it is searched as. -/
def searchedTexts (deck : Presentation α) (includeNotes : Bool) : List (Source × TextUnit) :=
  deck.slides.zipIdx.flatMap fun slide =>
    (searchedPages includeNotes slide.1).flatMap fun page =>
      (Element.walk page.2.elements).flatMap fun element =>
        element.ownTexts.map fun unit => (sourceOf slide.1 slide.2 page.1 unit, unit)

end Search

/-- The rows and columns of a table are fewer than a 32-bit word can count. -/
def Element.TableFits : Element α -> Prop
  | .table _ grid =>
      grid.cells.length < UInt32.size ∧ forall row, row ∈ grid.cells -> row.length < UInt32.size
  | _ => True

instance : (element : Element α) -> Decidable element.TableFits
  | .table _ grid =>
      inferInstanceAs (Decidable (grid.cells.length < UInt32.size ∧
        forall row, row ∈ grid.cells -> row.length < UInt32.size))
  | .shape _ _ | .image _ _ | .video _ _ | .group _ _ | .other _ _ => isTrue trivial

/-- The rows and columns of every table in reach are fewer than a 32-bit word can count. -/
def Presentation.TablesFit (deck : Presentation α) : Prop :=
  forall found, deck.Reaches found -> found.element.TableFits

/-- The target is the text of a source, to be written where the source is read. -/
structure TextTarget.Rewrites (deck : Presentation α) (entry : Search.Source × TextUnit)
    (target : TextTarget) : Prop where
  element :
    exists found, deck.Sourced entry.1 found entry.2 ∧
      target.address.objectId = found.element.objectId
  cell :
    forall row column : UInt32, target.address.cell = some { row, column } <->
      entry.1.IsCell ∧
        entry.1.objectId =
          target.address.objectId ++ Search.cellLabel row.toNat column.toNat
  text : target.text = dropFinalNewline entry.1.text

/-! ## Labels -/

namespace Search

theorem cellLabel_inj {row column row' column' : Nat} :
    cellLabel row column = cellLabel row' column' <-> row = row' ∧ column = column' := by
  constructor
  · intro h
    have hlist := congrArg String.toList h
    simp only [cellLabel, String.toList_append, List.append_assoc] at hlist
    have hrow := natText_append_cons_inj (by decide) (List.append_cancel_left hlist)
    exact ⟨hrow.1, (natText_append_cons_inj (by decide) hrow.2).1⟩
  · intro h
    rw [h.1, h.2]

theorem unitId_of_cell {unit : TextUnit} {cell : CellAddress} (h : unit.cell = some cell) :
    unitId unit = unit.objectId ++ cellLabel cell.row cell.column := by
  unfold unitId
  rw [h]
  simp only [cellLabel, String.append_assoc]

theorem isCell_sourceOf {slide : Page α} {index : Nat} {label : String} {unit : TextUnit}
    (hlabel : label = "" ∨ label = notesLabel) :
    (sourceOf slide index label unit).IsCell <-> unit.cell.isSome = true := by
  unfold Source.IsCell
  show label ++ unitType unit = _ ∨ label ++ unitType unit = _ <-> _
  unfold unitType
  cases unit.cell.isSome <;> rcases hlabel with rfl | rfl <;> decide

/-- What is searched of a slide is a page of it, with the label for pages of that kind. -/
theorem exists_ref_of_mem_searchedPages {deck : Presentation α} {includeNotes : Bool}
    {slide : Page α} {index : Nat} (hslide : deck.slides[index]? = some slide)
    {page : String × Page α} (h : page ∈ searchedPages includeNotes slide) :
    (page.1 = "" ∨ page.1 = notesLabel) ∧
      exists ref, ref ∈ deck.pages ∧ ref.page = page.2 ∧ ref.slideIndex = some index := by
  rcases List.mem_cons.mp h with heq | hnotes
  · rw [heq]
    exact ⟨Or.inl rfl, _, Presentation.slide_mem_pages hslide, rfl, rfl⟩
  · cases includeNotes with
    | false => cases hnotes
    | true =>
        rcases List.mem_map.mp hnotes with ⟨notes, hmem, rfl⟩
        have hpage := Presentation.notes_mem_pages hslide (Option.mem_toList.mp hmem)
        exact ⟨Or.inr rfl, _, hpage, rfl, rfl⟩

/-! ## Sources with their texts -/

theorem map_fst_searchedTexts (deck : Presentation α) (includeNotes : Bool) :
    (searchedTexts deck includeNotes).map Prod.fst = sources deck includeNotes := by
  rw [sources_eq_reachedSources]
  simp only [searchedTexts, reachedSources, List.map_flatMap, List.map_map]
  rfl

theorem exists_sourced_of_mem_searchedTexts {deck : Presentation α} {includeNotes : Bool}
    {entry : Source × TextUnit} (h : entry ∈ searchedTexts deck includeNotes) :
    (exists found, deck.Sourced entry.1 found entry.2) ∧
      (entry.1.IsCell <-> entry.2.cell.isSome = true) := by
  rcases List.mem_flatMap.mp h with ⟨⟨slide, index⟩, hslide, hpages⟩
  rcases List.mem_flatMap.mp hpages with ⟨page, hpage, helements⟩
  rcases List.mem_flatMap.mp helements with ⟨element, helement, hunits⟩
  rcases List.mem_map.mp hunits with ⟨unit, hunit, rfl⟩
  have hat : deck.slides[index]? = some slide := List.mem_zipIdx_iff_getElem?.mp hslide
  rcases exists_ref_of_mem_searchedPages hat hpage with ⟨hlabel, ref, href, hsame, hindex⟩
  refine ⟨⟨{ element, page := ref }, ?_⟩, isCell_sourceOf hlabel⟩
  rw [← hsame] at helement
  exact
    { holds := ⟨Presentation.reaches_iff.mpr ⟨href, helement⟩, hunit⟩
      objectId := rfl
      text := rfl
      slide := by
        show ref.slideIndex.map (· + 1) = _
        rw [hindex]
        rfl }

end Search

/-! ## Targets -/

/-- A row and a column of a table that fits are kept by the words of a request. -/
theorem Element.cell_lt_of_mem_ownTexts {element : Element α} (hfits : element.TableFits)
    {unit : TextUnit} (h : unit ∈ element.ownTexts) {cell : CellAddress}
    (hcell : unit.cell = some cell) :
    cell.row < UInt32.size ∧ cell.column < UInt32.size := by
  cases element with
  | shape info content =>
      rcases List.mem_map.mp h with ⟨text, _, rfl⟩
      cases hcell
  | table info grid =>
      rcases List.mem_flatMap.mp h with ⟨⟨row, r⟩, hrow, hunit⟩
      rcases List.mem_filterMap.mp hunit with ⟨⟨content, c⟩, hcontent, hsome⟩
      rcases Option.map_eq_some_iff.mp hsome with ⟨text, _, rfl⟩
      cases hcell
      have hrowAt := List.mem_zipIdx_iff_getElem?.mp hrow
      have hcellAt := List.mem_zipIdx_iff_getElem?.mp hcontent
      have hr : r < grid.cells.length := (List.getElem?_eq_some_iff.mp hrowAt).1
      have hc : c < row.length := (List.getElem?_eq_some_iff.mp hcellAt).1
      exact ⟨Nat.lt_trans hr hfits.1,
        Nat.lt_trans hc (hfits.2 row (List.mem_of_getElem? hrowAt))⟩
  | _ => cases h

theorem CellAddress.location_eq_iff {cell : CellAddress} (hrow : cell.row < UInt32.size)
    (hcolumn : cell.column < UInt32.size) {row column : UInt32} :
    cell.location = { row, column } <-> cell.row = row.toNat ∧ cell.column = column.toNat := by
  have hword {n : Nat} (hn : n < UInt32.size) {word : UInt32} :
      UInt32.ofNat n = word <-> n = word.toNat := by
    rw [← UInt32.toNat_inj, UInt32.toNat_ofNat_of_lt' hn]
  unfold location
  rw [CellLocation.mk.injEq, hword hrow, hword hcolumn]

namespace TextTarget

theorem ofUnit?_eq_none {unit : TextUnit} (h : ¬ unit.Translatable) : ofUnit? unit = none := by
  unfold ofUnit?
  apply if_pos
  rw [Bool.or_eq_true]
  by_contra hneither
  rw [not_or, Bool.not_eq_true, Bool.not_eq_true] at hneither
  exact h hneither

theorem ofUnit?_eq_some {unit : TextUnit} (h : unit.Translatable) :
    ofUnit? unit =
      some
        { address :=
            { objectId := unit.objectId, cell := unit.cell.map CellAddress.location }
          text := dropFinalNewline unit.content.plain } := by
  unfold ofUnit?
  dsimp only
  rw [h.1, h.2]
  rfl

/-- The target for a text in reach is written where the text is read. -/
theorem rewrites_of_ofUnit? {deck : Presentation α} (hfits : deck.TablesFit)
    {includeNotes : Bool} {entry : Search.Source × TextUnit}
    (hentry : entry ∈ Search.searchedTexts deck includeNotes) {target : TextTarget}
    (h : ofUnit? entry.2 = some target) :
    Rewrites deck entry target := by
  rcases Search.exists_sourced_of_mem_searchedTexts hentry with ⟨⟨found, hsourced⟩, hisCell⟩
  have hkept : entry.2.Translatable := by
    by_contra hdropped
    rw [ofUnit?_eq_none hdropped] at h
    cases h
  rw [ofUnit?_eq_some hkept] at h
  cases h
  refine ⟨⟨found, hsourced, hsourced.holds.objectId_eq⟩, ?_, by rw [hsourced.text]⟩
  intro row column
  dsimp only
  rw [hisCell, hsourced.objectId]
  cases hcell : entry.2.cell with
  | none => simp
  | some cell =>
      rcases Element.cell_lt_of_mem_ownTexts (hfits found hsourced.holds.reaches)
        hsourced.holds.own hcell with ⟨hrow, hcolumn⟩
      have hlabel : Search.unitId entry.2 =
            entry.2.objectId ++ Search.cellLabel row.toNat column.toNat <->
          Search.cellLabel cell.row cell.column =
            Search.cellLabel row.toNat column.toNat := by
        rw [Search.unitId_of_cell hcell, String.append_right_inj]
      rw [hlabel, Search.cellLabel_inj, Option.map_some, Option.some.injEq,
        CellAddress.location_eq_iff hrow hcolumn, Option.isSome_some, eq_self, true_and]

end TextTarget

/-! ## Both listings -/

theorem flatMap_zipIdx_fst {β γ : Type} (items : List β) (f : β -> List γ) :
    (items.zipIdx.flatMap fun item => f item.1) = items.flatMap f := by
  have hitems : items.zipIdx.map Prod.fst = items := List.zipIdx_map_fst 0 items
  conv => rhs; rw [← hitems, List.flatMap_map]

theorem Translate.slideTargets_eq_filterMap (includeNotes : Bool) (slide : Page Float) :
    slideTargets includeNotes slide =
      (Search.searchedPages includeNotes slide).flatMap fun page =>
        (Element.walk page.2.elements).flatMap fun element =>
          element.ownTexts.filterMap TextTarget.ofUnit? := by
  unfold slideTargets Search.searchedPages
  rw [List.flatMap_cons, TextTarget.collect_eq_flatMap_walk]
  cases includeNotes with
  | false => rfl
  | true =>
      simp only [if_true, List.flatMap_map]
      congr 2
      funext notes
      exact TextTarget.collect_eq_flatMap_walk notes.elements

theorem Translate.targets_eq_filterMap (deck : Deck) (includeNotes : Bool) :
    targets deck .presentation includeNotes =
      .ok ((Search.searchedTexts deck includeNotes).filterMap
        (fun entry => TextTarget.ofUnit? entry.2)) := by
  unfold targets Search.searchedTexts
  simp only [List.filterMap_flatMap, List.filterMap_map]
  rw [← flatMap_zipIdx_fst]
  congr 2
  funext slide
  exact slideTargets_eq_filterMap includeNotes slide.1

theorem forall₂_filter_filterMap {β γ : Type} {R : β -> γ -> Prop} {keeps : β -> Prop}
    [DecidablePred keeps] {f : β -> Option γ} {items : List β}
    (hdropped : forall item, item ∈ items -> ¬ keeps item -> f item = none)
    (hkept : forall item, item ∈ items -> keeps item ->
      exists image, f item = some image ∧ R item image) :
    List.Forall₂ R (items.filter keeps) (items.filterMap f) := by
  induction items with
  | nil => exact List.Forall₂.nil
  | cons item rest ih =>
      have hrest := ih
        (fun other hother => hdropped other (List.mem_cons_of_mem item hother))
        (fun other hother => hkept other (List.mem_cons_of_mem item hother))
      by_cases h : keeps item
      · rcases hkept item List.mem_cons_self h with ⟨image, himage, hrelated⟩
        rw [List.filter_cons_of_pos (by simpa using h), List.filterMap_cons_some himage]
        exact List.Forall₂.cons hrelated hrest
      · rw [List.filter_cons_of_neg (by simpa using h),
          List.filterMap_cons_none (hdropped item List.mem_cons_self h)]
        exact hrest

/--
The texts of a presentation that are to be translated are those that are searched, with or
without notes, in the same order, but for texts with a live field and blank ones.
-/
theorem Translate.targets_rewrite_sources {deck : Deck} (hfits : deck.TablesFit)
    (includeNotes : Bool) :
    (Search.searchedTexts deck includeNotes).map Prod.fst =
        Search.sources deck includeNotes ∧
      (forall entry, entry ∈ Search.searchedTexts deck includeNotes ->
        exists found, deck.Sourced entry.1 found entry.2) ∧
      exists texts, targets deck .presentation includeNotes = .ok texts ∧
        List.Forall₂ (TextTarget.Rewrites deck)
          ((Search.searchedTexts deck includeNotes).filter
            (fun entry => entry.2.Translatable)) texts := by
  refine ⟨Search.map_fst_searchedTexts deck includeNotes, ?_, _,
    targets_eq_filterMap deck includeNotes, ?_⟩
  · intro entry hentry
    exact (Search.exists_sourced_of_mem_searchedTexts hentry).1
  · apply forall₂_filter_filterMap
    · intro entry _ hdropped
      exact TextTarget.ofUnit?_eq_none hdropped
    · intro entry hentry hkept
      have htarget := TextTarget.ofUnit?_eq_some hkept
      exact ⟨_, htarget, TextTarget.rewrites_of_ofUnit? hfits hentry htarget⟩

/-! ## A sample -/

theorem Presentation.tablesFit_iff {deck : Presentation α} :
    deck.TablesFit <->
      forall ref, ref ∈ deck.pages ->
        forall element, element ∈ Element.walk ref.page.elements -> element.TableFits := by
  constructor
  · intro h ref href element helement
    exact h { element, page := ref } (reaches_iff.mpr ⟨href, helement⟩)
  · intro h found hfound
    rcases reaches_iff.mp hfound with ⟨hpage, helement⟩
    exact h found.page hpage found.element helement

namespace Rehearsal

def fieldDeck : Deck :=
  { sampleDeck with
    slides :=
      [plainPage "slide-1" "SLIDE"
        [.shape (named "number-1")
          { shapeType := none
            text :=
              some
                { spans :=
                    [{ startIndex := none, endIndex := none, run := none, auto := some "7" }] }
            placeholder := none },
        .table (named "table-1")
          { rows := 1
            columns := 3
            cells := [[none, some (paragraph "\n"), some (paragraph "total\n\n")]] }]] }

end Rehearsal

theorem Translate.targets_rewrite_sources_fieldDeck :
    Rehearsal.fieldDeck.TablesFit ∧
      (Search.sources Rehearsal.fieldDeck true).map Search.Source.objectId =
        ["number-1", "table-1[0,1]", "table-1[0,2]"] ∧
      exists target, targets Rehearsal.fieldDeck .presentation true = .ok [target] ∧
        target.text = "total\n" ∧ target.address.cell = some { row := 0, column := 2 } ∧
        exists entry, entry ∈ Search.searchedTexts Rehearsal.fieldDeck true ∧
          TextTarget.Rewrites Rehearsal.fieldDeck entry target := by
  have hfits : Rehearsal.fieldDeck.TablesFit := by
    rw [Presentation.tablesFit_iff]
    decide
  rcases (targets_rewrite_sources hfits true).2.2 with ⟨texts, htexts, hrewrites⟩
  have htarget : targets Rehearsal.fieldDeck .presentation true =
      .ok
        [{ address := { objectId := "table-1", cell := some { row := 0, column := 2 } }
           text := "total\n" }] := rfl
  rw [htarget] at htexts
  cases htexts
  rcases List.forall₂_cons_right_iff.mp hrewrites with ⟨entry, rest, hentry, _, hkept⟩
  have hmem : entry ∈ (Search.searchedTexts Rehearsal.fieldDeck true).filter
      (fun entry => entry.2.Translatable) := by
    rw [hkept]
    exact List.mem_cons_self
  exact ⟨hfits, rfl, _, htarget, rfl, rfl, entry, (List.mem_filter.mp hmem).1, hentry⟩

end DeckTools
