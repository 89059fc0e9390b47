import DeckTools.Proofs.Pdf
import DeckTools.Rehearsal.SamplePdf

/-!
# The pages of a sample PDF

A byte that stands in no marker parts a byte list: whether a page object begins before it does
not depend on what comes after it.  Every object of a sample PDF ends in such a byte, so its
markers can be looked for one object at a time.  The catalogue and the page tree have none,
each page object has one, and the numerals in them have no slash.
-/

namespace DeckTools

open Text

namespace Pdf

/-! ## Positions before and after a byte of no marker -/

def markerBytes : List UInt8 :=
  typeName ++ blankBytes.flatten ++ pageName

theorem mem_markerBytes {run : String} (hrun : isBlankText run = true) {b : UInt8}
    (h : b ∈ Utf8.encode ("/Type" ++ run ++ "/Page")) : b ∈ markerBytes := by
  rw [encode_marker, List.mem_append, List.mem_append] at h
  unfold markerBytes
  rw [List.mem_append, List.mem_append]
  rcases h with htype | hblank | hpage
  · exact Or.inl (Or.inl htype)
  · rcases List.mem_flatMap.mp hblank with ⟨c, hc, hb⟩
    have hmem : c ∈ blanks := mem_blanks_iff.mpr (List.all_eq_true.mp hrun c hc)
    exact Or.inl (Or.inr (List.mem_flatten.mpr ⟨_, List.mem_map_of_mem hmem, hb⟩))
  · exact Or.inr hpage

theorem opens_append_cons_iff {stop : UInt8} (hstop : stop ∉ markerBytes)
    {front rest after : List UInt8} :
    Opens (front ++ stop :: rest) after <->
      exists left, after = left ++ stop :: rest ∧ Opens front left := by
  constructor
  · intro h
    rcases h with ⟨run, hrun, hbytes⟩
    rcases List.append_eq_append_iff.mp hbytes with
      ⟨beyond, hmarker, hrest⟩ | ⟨left, hfront, hafter⟩
    · cases beyond with
      | nil =>
          rw [List.append_nil] at hmarker
          exact ⟨[], hrest.symm, run, hrun, by rw [hmarker, List.append_nil]⟩
      | cons b beyond =>
          -- the marker would go on past the byte that stands in none
          have hmem : b ∈ Utf8.encode ("/Type" ++ run ++ "/Page") := by
            rw [hmarker]
            exact List.mem_append_right front List.mem_cons_self
          rw [← (List.cons.inj hrest).1] at hmem
          exact absurd (mem_markerBytes hrun hmem) hstop
    · exact ⟨left, hafter, run, hrun, hfront⟩
  · intro h
    rcases h with ⟨left, rfl, run, hrun, rfl⟩
    exact ⟨run, hrun, List.append_assoc _ _ _⟩

theorem nameEnds_append_cons_iff {left rest : List UInt8} {stop : UInt8} :
    NameEnds (left ++ stop :: rest) <-> NameEnds (left ++ [stop]) := by
  unfold NameEnds
  rw [List.head?_append, List.head?_append]
  rfl

theorem isPage_append_cons_iff {stop : UInt8} (hstop : stop ∉ markerBytes)
    {front rest : List UInt8} :
    IsPage (front ++ stop :: rest) <-> IsPage (front ++ [stop]) := by
  unfold IsPage
  simp only [opens_append_cons_iff hstop]
  constructor
  · intro h
    rcases h with ⟨_, ⟨left, rfl, hopens⟩, hends⟩
    exact ⟨_, ⟨left, rfl, hopens⟩, nameEnds_append_cons_iff.mp hends⟩
  · intro h
    rcases h with ⟨_, ⟨left, rfl, hopens⟩, hends⟩
    exact ⟨_, ⟨left, rfl, hopens⟩, nameEnds_append_cons_iff.mpr hends⟩

/-! ## Pieces that keep their markers to themselves -/

/-- The page objects that begin in these bytes are the same ones whatever follows. -/
def SelfContained (bytes : List UInt8) : Prop :=
  forall rest,
    pagePositions (bytes ++ rest) =
      pagePositions bytes ++ (pagePositions rest).map (· + bytes.length)

theorem pagePositions_eq_nil {bytes : List UInt8} (h : slash ∉ bytes) :
    pagePositions bytes = [] := by
  rw [← List.append_nil bytes, pagePositions_append h]
  rfl

theorem selfContained_of_no_slash {bytes : List UInt8} (h : slash ∉ bytes) :
    SelfContained bytes := by
  intro rest
  rw [pagePositions_append h, pagePositions_eq_nil h, List.nil_append]

theorem selfContained_append_singleton {stop : UInt8} (hstop : stop ∉ markerBytes)
    (front : List UInt8) : SelfContained (front ++ [stop]) := by
  have hslash : stop ≠ slash := by
    intro heq
    exact hstop (heq ▸ by decide)
  intro rest
  rw [List.append_assoc, List.singleton_append]
  induction front with
  | nil =>
      rw [List.nil_append, List.nil_append, pagePositions_cons, pagePositions_cons,
        if_neg (not_isPage_of_ne_slash hslash), if_neg (not_isPage_of_ne_slash hslash)]
      rfl
  | cons b front ih =>
      have hpage : IsPage (b :: (front ++ stop :: rest)) <-> IsPage (b :: (front ++ [stop])) := by
        rw [← List.cons_append, ← List.cons_append]
        exact isPage_append_cons_iff hstop
      rw [List.cons_append, List.cons_append, pagePositions_cons, pagePositions_cons, ih,
        List.map_append, List.map_map, ← List.append_assoc, List.length_cons]
      simp only [hpage]
      rfl

theorem selfContained_encode_append {last : String} {stop : UInt8}
    (hlast : Utf8.encode last = [stop]) (hstop : stop ∉ markerBytes) (text : String) :
    SelfContained (Utf8.encode (text ++ last)) := by
  rw [Utf8.encode_append, hlast]
  exact selfContained_append_singleton hstop _

theorem SelfContained.append {front back : List UInt8} (hfront : SelfContained front)
    (hback : SelfContained back) : SelfContained (front ++ back) := by
  intro rest
  rw [List.append_assoc, hfront, hback, hfront, List.map_append, List.map_map,
    List.append_assoc, List.length_append]
  congr 2
  apply List.map_congr_left
  intro position _
  show position + back.length + front.length = position + (front.length + back.length)
  omega

end Pdf

namespace Rehearsal

open Pdf

/-! ## Objects -/

def pdfObject (content : String) : String :=
  content ++ " endobj\n"

def pdfCatalogue : String :=
  pdfObject "%PDF-1.4\n1 0 obj << /Type /Catalog /Pages 2 0 R >>"

def pdfPageTree (pages : Nat) : String :=
  pdfObject ("2 0 obj << /Type /Pages /Count " ++ natText pages ++ " >>")

def pageObjects (pages : Nat) : String :=
  String.join ((List.range pages).map pageObject)

theorem pageObject_eq (index : Nat) :
    pageObject index =
      natText (index + 3) ++ pdfObject " 0 obj << /Type /Page /Parent 2 0 R >>" := rfl

theorem pageObjects_succ (pages : Nat) :
    pageObjects (pages + 1) = pageObjects pages ++ pageObject pages := by
  unfold pageObjects
  rw [List.range_succ, List.map_append, String.join_append]
  rfl

theorem samplePdfText_eq (pages : Nat) :
    samplePdfText pages =
      pdfCatalogue ++ (pdfPageTree pages ++ (pageObjects pages ++ "%%EOF\n")) := by
  have hcatalogue :
      "%PDF-1.4\n1 0 obj << /Type /Catalog /Pages 2 0 R >> endobj\n" = pdfCatalogue := rfl
  have hend : " >> endobj\n" = " >>" ++ " endobj\n" := rfl
  unfold samplePdfText pdfPageTree pdfObject pageObjects
  rw [hcatalogue, hend]
  simp only [String.append_assoc]

theorem slash_not_mem_natText (n : Nat) : slash ∉ Utf8.encode (natText n) := by
  intro h
  have hmem : '/' ∈ (natText n).toList := (Utf8.mem_encode_iff (by decide) _).mp h
  exact absurd (isDigit_of_mem_natText hmem) (by decide)

/-- The keyword ends in a letter that stands in no marker. -/
theorem selfContained_pdfObject (content : String) :
    SelfContained (Utf8.encode (pdfObject content)) := by
  have hend : " endobj\n" = " endob" ++ ("j" ++ "\n") := rfl
  have hletter : Utf8.encode "j" = [0x6A] := rfl
  unfold pdfObject
  rw [hend, ← String.append_assoc, ← String.append_assoc, Utf8.encode_append]
  exact (selfContained_encode_append hletter (by decide) _).append
    (selfContained_of_no_slash (by decide))

theorem pagePositions_pdfCatalogue : pagePositions (Utf8.encode pdfCatalogue) = [] := by
  decide +kernel

/-- The name of a page tree goes on, and a count has no slash. -/
theorem pagePositions_pdfPageTree (pages : Nat) :
    pagePositions (Utf8.encode (pdfPageTree pages)) = [] := by
  have hname : "2 0 obj << /Type /Pages /Count " = "2 0 obj << /Type /Pages /Coun" ++ "t" ++ " " :=
    rfl
  have hletter : Utf8.encode "t" = [0x74] := rfl
  have hfront : SelfContained (Utf8.encode ("2 0 obj << /Type /Pages /Coun" ++ "t")) :=
    selfContained_encode_append hletter (by decide) _
  have hnone : pagePositions (Utf8.encode ("2 0 obj << /Type /Pages /Coun" ++ "t")) = [] := by
    decide +kernel
  have hback : slash ∉ Utf8.encode (" " ++ (natText pages ++ pdfObject " >>")) := by
    rw [Utf8.encode_append, Utf8.encode_append, List.mem_append, List.mem_append, not_or, not_or]
    exact ⟨by decide, slash_not_mem_natText pages, by decide⟩
  have hsplit : pdfPageTree pages =
      "2 0 obj << /Type /Pages /Coun" ++ "t" ++ (" " ++ (natText pages ++ pdfObject " >>")) := by
    unfold pdfPageTree pdfObject
    rw [hname]
    simp only [String.append_assoc]
  rw [hsplit, Utf8.encode_append, hfront, hnone, pagePositions_eq_nil hback]
  rfl

theorem selfContained_pageObject (index : Nat) :
    SelfContained (Utf8.encode (pageObject index)) := by
  rw [pageObject_eq, Utf8.encode_append]
  exact (selfContained_of_no_slash (slash_not_mem_natText _)).append (selfContained_pdfObject _)

/-- Where the marker of a page object begins in it. -/
def markerOffset (index : Nat) : Nat :=
  (Utf8.encode (natText (index + 3) ++ " 0 obj << ")).length

theorem pagePositions_pageObject (index : Nat) :
    pagePositions (Utf8.encode (pageObject index)) = [markerOffset index] := by
  have hmarker : pagePositions
      (Utf8.encode (pdfObject " 0 obj << /Type /Page /Parent 2 0 R >>")) = [10] := by
    decide +kernel
  have hlength : (Utf8.encode " 0 obj << ").length = 10 := rfl
  unfold markerOffset
  rw [pageObject_eq, Utf8.encode_append, pagePositions_append (slash_not_mem_natText _), hmarker,
    Utf8.encode_append, List.length_append, hlength, List.map_singleton, Nat.add_comm]

/-! ## The whole body -/

theorem selfContained_pageObjects (pages : Nat) :
    SelfContained (Utf8.encode (pageObjects pages)) := by
  induction pages with
  | zero => exact selfContained_of_no_slash (by decide)
  | succ pages ih =>
      rw [pageObjects_succ, Utf8.encode_append]
      exact ih.append (selfContained_pageObject pages)

/-- By induction on the pages: one more object adds one position behind those there are. -/
theorem pagePositions_pageObjects (pages : Nat) :
    pagePositions (Utf8.encode (pageObjects pages)) =
      (List.range pages).map
        (fun index => markerOffset index + (Utf8.encode (pageObjects index)).length) := by
  induction pages with
  | zero => rfl
  | succ pages ih =>
      rw [pageObjects_succ, Utf8.encode_append, selfContained_pageObjects, ih,
        pagePositions_pageObject, List.range_succ, List.map_append]
      rfl

/-- Where the marker of a page begins in a sample of so many pages. -/
def markerPosition (pages index : Nat) : Nat :=
  (Utf8.encode
    (pdfCatalogue ++ pdfPageTree pages ++ pageObjects index ++
      (natText (index + 3) ++ " 0 obj << "))).length

theorem markerPosition_eq (pages index : Nat) :
    markerPosition pages index =
      markerOffset index + (Utf8.encode (pageObjects index)).length +
        (Utf8.encode (pdfPageTree pages)).length + (Utf8.encode pdfCatalogue).length := by
  unfold markerPosition markerOffset
  rw [Utf8.encode_append, Utf8.encode_append, Utf8.encode_append, List.length_append,
    List.length_append, List.length_append]
  omega

theorem pagePositions_samplePdf (pages : Nat) :
    pagePositions (samplePdf pages) = (List.range pages).map (markerPosition pages) := by
  have hcatalogue : SelfContained (Utf8.encode pdfCatalogue) := selfContained_pdfObject _
  have htree : SelfContained (Utf8.encode (pdfPageTree pages)) := selfContained_pdfObject _
  have hend : pagePositions (Utf8.encode "%%EOF\n") = [] := pagePositions_eq_nil (by decide)
  unfold samplePdf
  rw [samplePdfText_eq, Utf8.encode_append, Utf8.encode_append, Utf8.encode_append,
    hcatalogue, htree, selfContained_pageObjects, pagePositions_pdfCatalogue,
    pagePositions_pdfPageTree, pagePositions_pageObjects, hend, List.map_nil, List.append_nil,
    List.nil_append, List.nil_append, List.map_map, List.map_map]
  apply List.map_congr_left
  intro index _
  exact (markerPosition_eq pages index).symm

/--
A sample PDF of so many pages has so many, whatever their number: its markers are those of
its page objects, each where it was written.
-/
theorem countPages_samplePdf (pages : Nat) :
    countPages (samplePdf pages) = pages ∧
    pagePositions (samplePdf pages) = (List.range pages).map (markerPosition pages) := by
  constructor
  · unfold countPages
    rw [countMarkers_eq (Nat.le_refl _), pagePositions_samplePdf, List.length_map,
      List.length_range, Nat.zero_add]
  · exact pagePositions_samplePdf pages

end Rehearsal

end DeckTools
