import DeckTools.Pdf
import DeckTools.Proofs.Text.Blank
import DeckTools.Proofs.Text.Utf8

/-!
# Page markers by their positions

A page marker begins at a position if the bytes from there on are the two names with blanks
between them and the second name ends.  A slash begins each name and stands nowhere else in a
marker, so markers do not overlap: the scan, which passes over each one that it meets, meets
all of them, and the names that go on do not hide any.
-/

namespace DeckTools

open Text

namespace Pdf

theorem dropBlank?_eq_some_iff {bytes rest : List UInt8} :
    dropBlank? bytes = some rest <->
      exists c, isBlank c = true ∧ bytes = String.utf8EncodeChar c ++ rest := by
  unfold dropBlank? blankBytes
  constructor
  · intro h
    rcases List.exists_of_findSome?_eq_some h with ⟨blank, hblank, hdrop⟩
    rcases List.mem_map.mp hblank with ⟨c, hc, rfl⟩
    exact ⟨c, isBlank_of_mem_blanks hc, dropStart?_eq_some_iff.mp hdrop⟩
  · intro h
    rcases h with ⟨c, hc, rfl⟩
    have hsome : ((blanks.map String.utf8EncodeChar).findSome?
        (fun blank => dropStart? blank (String.utf8EncodeChar c ++ rest))).isSome = true := by
      rw [List.findSome?_isSome_iff]
      refine ⟨_, List.mem_map_of_mem (mem_blanks_iff.mpr hc), ?_⟩
      rw [dropStart?_eq_some_iff.mpr rfl]
      rfl
    rcases Option.isSome_iff_exists.mp hsome with ⟨found, hfound⟩
    rcases List.exists_of_findSome?_eq_some hfound with ⟨blank, hblank, hdrop⟩
    rcases List.mem_map.mp hblank with ⟨d, _, rfl⟩
    have hsame := (Utf8.utf8EncodeChar_append_inj (dropStart?_eq_some_iff.mp hdrop)).2
    rw [hfound, hsame]

/-! ## Names and what follows them -/

def slash : UInt8 := 0x2F

theorem typeName_eq : typeName = slash :: Utf8.encode "Type" := by decide

theorem pageName_eq : pageName = slash :: Utf8.encode "Page" := by decide

theorem slash_not_mem_of_isBlank {c : Char} (h : isBlank c = true) :
    slash ∉ String.utf8EncodeChar c := by
  have hall : blanks.all (fun blank => slash ∉ String.utf8EncodeChar blank) = true := by decide
  exact of_decide_eq_true (List.all_eq_true.mp hall c (mem_blanks_iff.mpr h))

theorem slash_not_mem_of_isBlankText {run : String} (h : isBlankText run = true) :
    slash ∉ Utf8.encode run := by
  intro hmem
  rcases List.mem_flatMap.mp hmem with ⟨c, hc, hslash⟩
  exact slash_not_mem_of_isBlank (List.all_eq_true.mp h c hc) hslash

theorem dropBlank?_pageName (after : List UInt8) : dropBlank? (pageName ++ after) = none := by
  cases hdrop : dropBlank? (pageName ++ after) with
  | none => rfl
  | some rest =>
      rcases dropBlank?_eq_some_iff.mp hdrop with ⟨c, hc, hbytes⟩
      cases hencoded : String.utf8EncodeChar c with
      | nil => exact absurd hencoded String.utf8EncodeChar_ne_nil
      | cons b others =>
          rw [hencoded, pageName_eq] at hbytes
          have hslash := slash_not_mem_of_isBlank hc
          rw [hencoded, (List.cons.inj hbytes).1] at hslash
          exact absurd List.mem_cons_self hslash

theorem dropBlanks_encode {run : List Char} (h : run.all isBlank = true) (after : List UInt8)
    {count : Nat} (hcount : run.length ≤ count) :
    dropBlanks count (run.flatMap String.utf8EncodeChar ++ (pageName ++ after)) =
      pageName ++ after := by
  induction run generalizing count with
  | nil =>
      cases count with
      | zero => rfl
      | succ count =>
          rw [List.flatMap_nil, List.nil_append, dropBlanks, dropBlank?_pageName]
  | cons c run ih =>
      rw [List.all_cons, Bool.and_eq_true] at h
      cases count with
      | zero => cases hcount
      | succ count =>
          have hdrop : dropBlank? (String.utf8EncodeChar c ++
              (run.flatMap String.utf8EncodeChar ++ (pageName ++ after))) =
                some (run.flatMap String.utf8EncodeChar ++ (pageName ++ after)) :=
            dropBlank?_eq_some_iff.mpr ⟨c, h.1, rfl⟩
          rw [List.flatMap_cons, List.append_assoc, dropBlanks, hdrop]
          exact ih h.2 (Nat.le_of_succ_le_succ hcount)

theorem exists_dropBlanks (count : Nat) (bytes : List UInt8) :
    exists run : List Char, run.all isBlank = true ∧
      bytes = run.flatMap String.utf8EncodeChar ++ dropBlanks count bytes := by
  induction count generalizing bytes with
  | zero => exact ⟨[], rfl, rfl⟩
  | succ count ih =>
      rw [dropBlanks]
      cases hdrop : dropBlank? bytes with
      | none => exact ⟨[], rfl, rfl⟩
      | some rest =>
          rcases dropBlank?_eq_some_iff.mp hdrop with ⟨c, hc, hbytes⟩
          rcases ih rest with ⟨run, hrun, hrest⟩
          refine ⟨c :: run, ?_, ?_⟩
          · rw [List.all_cons, hc, hrun]
            rfl
          · dsimp only
            rw [List.flatMap_cons, List.append_assoc, ← hrest, hbytes]

/-! ## Markers -/

/-- The bytes begin with the two names of a page marker, with blanks between them. -/
def Opens (bytes after : List UInt8) : Prop :=
  exists run : String, isBlankText run = true ∧
    bytes = Utf8.encode ("/Type" ++ run ++ "/Page") ++ after

theorem encode_marker (run : String) :
    Utf8.encode ("/Type" ++ run ++ "/Page") = typeName ++ (Utf8.encode run ++ pageName) := by
  rw [Utf8.encode_append, Utf8.encode_append, List.append_assoc]
  rfl

theorem length_le_length_encode (run : String) :
    run.toList.length ≤ (Utf8.encode run).length := by
  unfold Utf8.encode
  induction run.toList with
  | nil => exact Nat.le_refl 0
  | cons c rest ih =>
      have hpos : 0 < (String.utf8EncodeChar c).length :=
        List.length_pos_iff.mpr String.utf8EncodeChar_ne_nil
      rw [List.flatMap_cons, List.length_append, List.length_cons]
      omega

theorem length_encode_marker (run : String) :
    (Utf8.encode ("/Type" ++ run ++ "/Page")).length = (Utf8.encode run).length + 10 := by
  have htype : typeName.length = 5 := rfl
  have hpage : pageName.length = 5 := rfl
  rw [encode_marker, List.length_append, List.length_append, htype, hpage]
  omega

theorem Opens.length_lt {bytes after : List UInt8} (h : Opens bytes after) :
    after.length < bytes.length := by
  rcases h with ⟨run, _, rfl⟩
  rw [List.length_append, length_encode_marker]
  omega

theorem afterMarker?_eq_some_iff {blanks : Nat} {bytes after : List UInt8}
    (hblanks : bytes.length ≤ blanks + 1) :
    afterMarker? blanks bytes = some after <-> Opens bytes after := by
  unfold afterMarker?
  constructor
  · intro h
    cases htype : dropStart? typeName bytes with
    | none =>
        rw [htype] at h
        cases h
    | some rest =>
        rw [htype] at h
        rcases exists_dropBlanks blanks rest with ⟨run, hrun, hrest⟩
        refine ⟨String.ofList run, ?_, ?_⟩
        · unfold isBlankText
          rwa [String.toList_ofList]
        · have hencoded : Utf8.encode (String.ofList run) =
              run.flatMap String.utf8EncodeChar := by
            unfold Utf8.encode
            rw [String.toList_ofList]
          rw [dropStart?_eq_some_iff.mp htype, encode_marker, hencoded, List.append_assoc,
            List.append_assoc, ← dropStart?_eq_some_iff.mp h, ← hrest]
  · intro h
    rcases h with ⟨run, hrun, rfl⟩
    have hfits : run.toList.length ≤ blanks := by
      have hlength := length_le_length_encode run
      rw [List.length_append, length_encode_marker] at hblanks
      omega
    have htype : dropStart? typeName (Utf8.encode ("/Type" ++ run ++ "/Page") ++ after) =
        some (Utf8.encode run ++ (pageName ++ after)) := by
      rw [dropStart?_eq_some_iff, encode_marker, List.append_assoc, List.append_assoc]
    rw [htype]
    dsimp only
    unfold Utf8.encode
    rw [dropBlanks_encode hrun after hfits, dropStart?_eq_some_iff]

theorem Opens.unique {bytes after other : List UInt8} (h : Opens bytes after)
    (hother : Opens bytes other) :
    after = other := by
  have hblanks : bytes.length ≤ bytes.length + 1 := Nat.le_succ _
  have hafter := (afterMarker?_eq_some_iff hblanks).mpr h
  rw [(afterMarker?_eq_some_iff hblanks).mpr hother] at hafter
  exact (Option.some.inj hafter).symm

/-- No ASCII letter or digit comes next. -/
def NameEnds (bytes : List UInt8) : Prop :=
  forall b, bytes.head? = some b ->
    ¬ (0x30 ≤ b ∧ b ≤ 0x39 ∨ 0x41 ≤ b ∧ b ≤ 0x5A ∨ 0x61 ≤ b ∧ b ≤ 0x7A)

theorem isAlphanum_iff (b : UInt8) :
    (Char.ofNat b.toNat).isAlphanum = true <->
      0x30 ≤ b ∧ b ≤ 0x39 ∨ 0x41 ≤ b ∧ b ≤ 0x5A ∨ 0x61 ≤ b ∧ b ≤ 0x7A := by
  have hall : forall n, n < 256 -> ((Char.ofNat n).isAlphanum = true <->
      0x30 ≤ n ∧ n ≤ 0x39 ∨ 0x41 ≤ n ∧ n ≤ 0x5A ∨ 0x61 ≤ n ∧ n ≤ 0x7A) := by
    decide +kernel
  simp only [UInt8.le_iff_toNat_le]
  exact hall b.toNat b.toNat_lt

theorem endsName_iff {bytes : List UInt8} : endsName bytes = true <-> NameEnds bytes := by
  cases bytes with
  | nil => simp [endsName, NameEnds]
  | cons b rest =>
      unfold endsName NameEnds
      rw [Bool.not_eq_true', ← Bool.not_eq_true, isAlphanum_iff]
      simp

/-- A page object begins here. -/
def IsPage (bytes : List UInt8) : Prop :=
  exists after, Opens bytes after ∧ NameEnds after

theorem isPage_iff {bytes after : List UInt8} (h : Opens bytes after) :
    IsPage bytes <-> endsName after = true := by
  rw [endsName_iff]
  constructor
  · intro hpage
    rcases hpage with ⟨other, hother, hends⟩
    rwa [h.unique hother]
  · intro hends
    exact ⟨after, h, hends⟩

instance : DecidablePred IsPage := fun bytes =>
  decidable_of_iff ((afterMarker? bytes.length bytes).any endsName = true) <| by
    have hmarker : forall after,
        afterMarker? bytes.length bytes = some after <-> Opens bytes after :=
      fun _ => afterMarker?_eq_some_iff (Nat.le_succ _)
    cases hafter : afterMarker? bytes.length bytes with
    | none =>
        constructor
        · intro h
          cases h
        · intro h
          rcases h with ⟨after, hopens, _⟩
          rw [(hmarker after).mpr hopens] at hafter
          cases hafter
    | some after => exact (isPage_iff ((hmarker after).mp hafter)).symm

/-! ## Positions -/

/-- The positions at which page objects begin, in increasing order. -/
def pagePositions (bytes : List UInt8) : List Nat :=
  (List.range bytes.length).filter (fun position => IsPage (bytes.drop position))

theorem not_isPage_of_ne_slash {b : UInt8} {rest : List UInt8} (h : b ≠ slash) :
    ¬ IsPage (b :: rest) := by
  intro hpage
  rcases hpage with ⟨after, ⟨run, _, hbytes⟩, _⟩
  rw [encode_marker, typeName_eq] at hbytes
  exact h (List.cons.inj hbytes).1

theorem not_isPage_pageName (after : List UInt8) : ¬ IsPage (pageName ++ after) := by
  intro hpage
  rcases hpage with ⟨other, ⟨run, _, hbytes⟩, _⟩
  have hpage : pageName = slash :: 0x50 :: Utf8.encode "age" := by decide
  have htype : typeName = slash :: 0x54 :: Utf8.encode "ype" := by decide
  rw [encode_marker, hpage, htype] at hbytes
  exact absurd (List.cons.inj (List.cons.inj hbytes).2).1 (by decide)

theorem pagePositions_cons (b : UInt8) (rest : List UInt8) :
    pagePositions (b :: rest) =
      (if IsPage (b :: rest) then [0] else []) ++ (pagePositions rest).map (· + 1) := by
  unfold pagePositions
  rw [List.length_cons, List.range_succ_eq_map, List.filter_cons, List.drop_zero,
    List.filter_map]
  by_cases hpage : IsPage (b :: rest)
  · simp [hpage, Function.comp_def]
  · simp [hpage, Function.comp_def]

theorem pagePositions_append {front : List UInt8} (h : slash ∉ front) (rest : List UInt8) :
    pagePositions (front ++ rest) = (pagePositions rest).map (· + front.length) := by
  induction front with
  | nil => simp
  | cons b front ih =>
      rw [List.mem_cons, not_or] at h
      rw [List.cons_append, pagePositions_cons, if_neg (not_isPage_of_ne_slash (Ne.symm h.1)),
        List.nil_append, ih h.2, List.map_map, List.length_cons]
      rfl

theorem length_pagePositions_cons (b : UInt8) (rest : List UInt8) :
    (pagePositions (b :: rest)).length =
      (if IsPage (b :: rest) then 1 else 0) + (pagePositions rest).length := by
  rw [pagePositions_cons, List.length_append, List.length_map]
  split <;> rfl

theorem length_pagePositions_append {front : List UInt8} (h : slash ∉ front)
    (rest : List UInt8) :
    (pagePositions (front ++ rest)).length = (pagePositions rest).length := by
  rw [pagePositions_append h, List.length_map]

/-- Nothing begins inside a marker. -/
theorem Opens.length_pagePositions {bytes after : List UInt8} (h : Opens bytes after) :
    (pagePositions bytes).length =
      (if endsName after then 1 else 0) + (pagePositions after).length := by
  have hpage := isPage_iff h
  rcases h with ⟨run, hrun, hbytes⟩
  have hbytes : bytes = slash :: (Utf8.encode "Type" ++ Utf8.encode run ++
      (slash :: (Utf8.encode "Page" ++ after))) := by
    rw [hbytes, encode_marker, typeName_eq, pageName_eq]
    simp
  have hfront : slash ∉ Utf8.encode "Type" ++ Utf8.encode run := by
    rw [List.mem_append, not_or]
    exact ⟨by decide, slash_not_mem_of_isBlankText hrun⟩
  have hsecond : ¬ IsPage (slash :: (Utf8.encode "Page" ++ after)) := by
    have hname := not_isPage_pageName after
    rwa [pageName_eq] at hname
  have hname : slash ∉ Utf8.encode "Page" := by decide
  rw [hbytes] at hpage
  rw [hbytes, length_pagePositions_cons, length_pagePositions_append hfront,
    length_pagePositions_cons, if_neg hsecond, Nat.zero_add, length_pagePositions_append hname]
  simp only [hpage]

/-! ## The scan -/

theorem countMarkers_eq {positions count : Nat} {bytes : List UInt8}
    (h : bytes.length ≤ positions) :
    countMarkers positions count bytes = count + (pagePositions bytes).length := by
  induction positions generalizing count bytes with
  | zero =>
      rw [List.eq_nil_of_length_eq_zero (Nat.le_zero.mp h)]
      rfl
  | succ positions ih =>
      cases bytes with
      | nil => rfl
      | cons b rest =>
          rw [countMarkers]
          cases hmarker : afterMarker? positions (b :: rest) with
          | some after =>
              have hopens := (afterMarker?_eq_some_iff h).mp hmarker
              have hafter : after.length ≤ positions :=
                Nat.le_of_lt_succ (Nat.lt_of_lt_of_le hopens.length_lt h)
              dsimp only
              rw [ih hafter, hopens.length_pagePositions]
              split <;> omega
          | none =>
              have hnone : ¬ IsPage (b :: rest) := by
                intro hpage
                rcases hpage with ⟨after, hopens, _⟩
                rw [(afterMarker?_eq_some_iff h).mpr hopens] at hmarker
                cases hmarker
              dsimp only
              rw [ih (Nat.le_of_succ_le_succ h), length_pagePositions_cons, if_neg hnone,
                Nat.zero_add]

/--
The scan counts the positions at which page objects begin, each once; a name that goes on, as
that of the page tree does, is not one of them.
-/
theorem countPages_eq_length_positions (bytes : List UInt8) :
    countPages bytes = (pagePositions bytes).length ∧
    forall (position : Nat) (run : String) (after : List UInt8), isBlankText run = true ->
      bytes.drop position = Utf8.encode ("/Type" ++ run ++ "/Pages") ++ after ->
      position ∉ pagePositions bytes := by
  constructor
  · unfold countPages
    rw [countMarkers_eq (Nat.le_refl _), Nat.zero_add]
  · intro position run after hrun hbytes hmem
    have hopens : Opens (bytes.drop position) (0x73 :: after) := by
      refine ⟨run, hrun, ?_⟩
      have hname : Utf8.encode "/Pages" = Utf8.encode "/Page" ++ [0x73] := by decide
      rw [hbytes, Utf8.encode_append, Utf8.encode_append _ "/Page", hname]
      simp
    have hpage : IsPage (bytes.drop position) := by
      simpa using (List.mem_filter.mp hmem).2
    have hletter : endsName (0x73 :: after) = false := rfl
    rw [isPage_iff hopens, hletter] at hpage
    cases hpage

/-- A page tree, a page with a wide blank in its marker, and a name that goes on. -/
def sampleObjects : List UInt8 :=
  Utf8.encode "/Type /Pages /Type\u3000/Page\n/Type/Page2"

theorem countPages_eq_length_positions_objects :
    countPages sampleObjects = 1 ∧ pagePositions sampleObjects = [13] ∧
    isBlankText " " = true ∧
    sampleObjects.drop 0 = Utf8.encode ("/Type" ++ " " ++ "/Pages") ++
      Utf8.encode " /Type\u3000/Page\n/Type/Page2" ∧
    0 ∉ pagePositions sampleObjects := by
  have hpositions : pagePositions sampleObjects = [13] := by decide +kernel
  have hbytes : sampleObjects.drop 0 = Utf8.encode ("/Type" ++ " " ++ "/Pages") ++
      Utf8.encode " /Type\u3000/Page\n/Type/Page2" := by decide +kernel
  rcases countPages_eq_length_positions sampleObjects with ⟨hcount, htree⟩
  rw [hpositions] at hcount
  exact ⟨hcount, hpositions, rfl, hbytes, htree 0 " " _ rfl hbytes⟩

end Pdf

end DeckTools
