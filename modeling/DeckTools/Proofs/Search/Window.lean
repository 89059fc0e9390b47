import DeckTools.Proofs.Search.Hits
import DeckTools.Rehearsal.SampleDeck

/-!
# The window around a match

A window shows a match with some characters before and after it, and has a mark where it
leaves something out.  It is read between two positions, which are in range if the match lies
in the text; far beyond the end of a text they would not be.  A search asks for windows around
occurrences only, which lie in their text, and with a radius that its options were checked for.
-/

namespace DeckTools

/-! ## Stretches of a text -/

namespace Text

/-- The characters from one position up to another; none if that is no stretch of the text. -/
def slice? (cs : List Char) (first stop : Nat) : Option (List Char) :=
  if first ≤ stop ∧ stop ≤ cs.length then some ((cs.drop first).take (stop - first)) else none

theorem exists_append_of_le {cs : List Char} {n : Nat} (h : n ≤ cs.length) :
    exists front back, cs = front ++ back ∧ front.length = n :=
  ⟨cs.take n, cs.drop n, (List.take_append_drop n cs).symm, List.length_take_of_le h⟩

end Text

namespace Search

variable {α : Type} {text front piece back : List Char} {start length radius : Nat}

/-- What stands in the place of characters that are left out. -/
def cutMark (left : List Char) : List Char :=
  if left = [] then [] else ['.', '.', '.']

/-- The window, if the positions between which it is read are in range. -/
def readWindow? (text : List Char) (start length radius : Nat) : Option String :=
  let first := start - radius
  let stop := min (start + length + radius) text.length
  let mark (cut : Bool) : List Char := if cut then ['.', '.', '.'] else []
  (Text.slice? text first stop).map fun piece =>
    String.ofList (mark (0 < first) ++ piece ++ mark (stop < text.length))

/-- The stretch lies in the text, and the radius is one that options may ask for. -/
structure Fits (text : List Char) (start length radius : Nat) : Prop where
  inText : start + length ≤ text.length
  radius_le : radius ≤ maxContext

/--
The text in five pieces, of which the window shows the three in the middle: the stretch that
was found and, as far as the radius goes and the text does, what is before and after it.
-/
structure ShowsAround (text : List Char) (start length radius : Nat) (window : String)
    (front before found after back : List Char) : Prop where
  text_eq : text = front ++ (before ++ found ++ after ++ back)
  start_eq : (front ++ before).length = start
  length_eq : found.length = length
  before_length : before.length = min radius start
  after_length : after.length = min radius (text.length - start - length)
  window_eq : window.toList = cutMark front ++ (before ++ found ++ after) ++ cutMark back

/-! ## Reading a window -/

/-- Only a stretch that begins further beyond the end than the radius cannot be read around. -/
theorem readWindow?_eq (text : List Char) (start length radius : Nat) :
    readWindow? text start length radius =
      if start ≤ text.length + radius then some (contextWindow text start length radius)
      else none := by
  have hrange : start - radius ≤ min (start + length + radius) text.length ∧
      min (start + length + radius) text.length ≤ text.length <->
        start ≤ text.length + radius := by omega
  unfold readWindow? Text.slice?
  dsimp only
  simp only [hrange]
  by_cases h : start ≤ text.length + radius
  · rw [if_pos h, if_pos h]
    rfl
  · rw [if_neg h, if_neg h]
    rfl

theorem contextWindow_append (hfirst : start - radius = front.length)
    (hstop : min (start + length + radius) (front ++ (piece ++ back)).length =
      front.length + piece.length) :
    (contextWindow (front ++ (piece ++ back)) start length radius).toList =
      cutMark front ++ piece ++ cutMark back := by
  have hmark (left : List Char) : (if 0 < left.length then ['.', '.', '.'] else []) =
      cutMark left := by
    cases left <;> rfl
  have hcut : front.length + piece.length < (front ++ (piece ++ back)).length <->
      0 < back.length := by
    rw [List.length_append, List.length_append]
    omega
  unfold contextWindow
  dsimp only
  rw [String.toList_ofList, hstop, hfirst, List.drop_left, Nat.add_sub_cancel_left,
    List.take_left]
  simp only [hcut, decide_eq_true_eq, hmark]

/-- A text around a stretch of it, cut where the window begins and ends. -/
theorem exists_showsAround (h : start + length ≤ text.length) :
    exists front before found after back,
      ShowsAround text start length radius (contextWindow text start length radius)
        front before found after back := by
  rcases Text.exists_append_of_le (show start - radius ≤ text.length by omega) with
    ⟨front, rest, rfl, hfront⟩
  rw [List.length_append] at h
  rcases Text.exists_append_of_le (show min radius start ≤ rest.length by omega) with
    ⟨before, rest, rfl, hbefore⟩
  rw [List.length_append] at h
  rcases Text.exists_append_of_le (show length ≤ rest.length by omega) with
    ⟨found, rest, rfl, hfound⟩
  rcases Text.exists_append_of_le (show min radius rest.length ≤ rest.length by omega) with
    ⟨after, back, rfl, hafter⟩
  rw [List.length_append] at hafter
  have hpieces : front ++ (before ++ (found ++ (after ++ back))) =
      front ++ (before ++ found ++ after ++ back) := by
    simp only [List.append_assoc]
  rw [hpieces]
  refine ⟨front, before, found, after, back, rfl, ?_, hfound, hbefore, ?_, ?_⟩
  case refine_1 =>
    rw [List.length_append]
    omega
  case refine_2 =>
    simp only [List.length_append]
    omega
  case refine_3 =>
    apply contextWindow_append hfront.symm
    simp only [List.length_append]
    omega

/-! ## The windows of a search -/

theorem Options.contextLength_le_of_check {options : Options} (h : options.check = .ok ()) :
    options.contextLength ≤ maxContext := by
  unfold check at h
  split at h
  case isTrue => cases h
  case isFalse hle => exact Nat.le_of_not_lt hle

variable {query : String} {options : Options}

theorem fits_of_mem_findAll (hcheck : options.check = .ok ())
    (h : start ∈ findAll text query.toList options.caseSensitive) :
    Fits text start query.toList.length options.contextLength := by
  rw [findAll_eq_offsets] at h
  rcases (mem_offsets_iff.mp h).2 with ⟨hfits, _⟩
  exact { inText := hfits, radius_le := options.contextLength_le_of_check hcheck }

theorem exists_hit_of_mem_listed {deck : Presentation α} {found : Match}
    (h : found ∈ (run deck query options).listed) :
    exists hit, hit ∈ hits deck query.toList options ∧
      found = matchOf query.toList options hit := by
  rw [listed_run] at h
  rcases List.mem_map.mp h with ⟨hit, hhit, rfl⟩
  exact ⟨hit, List.mem_of_mem_take hhit, rfl⟩

theorem start_mem_findAll_of_mem_hits {deck : Presentation α} {hit : Source × Nat}
    (h : hit ∈ hits deck query.toList options) :
    hit.2 ∈ findAll hit.1.text.toList query.toList options.caseSensitive := by
  rcases List.mem_flatMap.mp h with ⟨source, _, hmem⟩
  rcases List.mem_map.mp hmem with ⟨start, hstart, rfl⟩
  rw [findAll_eq_offsets]
  exact hstart

/--
A window around a stretch of a text is read in range, the end that is asked for goes beyond
the text by the widest context at most, and what it shows is that stretch and its surroundings.
A search whose options are accepted asks for no other windows, whatever it finds, and the
contexts it lists are such windows.
-/
theorem contextWindow_in_range (deck : Presentation α) (query : String) (options : Options) :
    (forall text start length radius, Fits text start length radius ->
      readWindow? text start length radius = some (contextWindow text start length radius) ∧
      start + length + radius ≤ text.length + maxContext ∧
      exists front before found after back,
        ShowsAround text start length radius (contextWindow text start length radius)
          front before found after back) ∧
    (options.check = .ok () ->
      (forall text start, start ∈ findAll text query.toList options.caseSensitive ->
        Fits text start query.toList.length options.contextLength) ∧
      forall found, found ∈ (run deck query options).listed ->
        Fits found.source.text.toList found.start query.toList.length options.contextLength ∧
        found.context =
          contextWindow found.source.text.toList found.start query.toList.length
            options.contextLength) := by
  constructor
  · intro text start length radius hfits
    have htext := hfits.inText
    have hradius := hfits.radius_le
    refine ⟨?_, by omega, exists_showsAround htext⟩
    rw [readWindow?_eq, if_pos (by omega)]
  · intro hcheck
    refine ⟨fun text start => fits_of_mem_findAll hcheck, ?_⟩
    intro found hfound
    rcases exists_hit_of_mem_listed hfound with ⟨hit, hhit, rfl⟩
    exact ⟨fits_of_mem_findAll hcheck (start_mem_findAll_of_mem_hits hhit), rfl⟩

def narrowOptions : Options :=
  { caseSensitive := true, contextLength := 4, includeNotes := true, maxResults := none }

theorem contextWindow_in_range_sampleDeck :
    Fits "the quick brown fox jumps".toList 10 5 4 ∧
    readWindow? "the quick brown fox jumps".toList 10 5 4 = some "...ick brown fox..." ∧
    narrowOptions.check = .ok () ∧
    1 ∈ findAll "aaa".toList "aa".toList true ∧
    Fits "aaa".toList 1 "aa".toList.length 4 ∧
    exists found, found ∈ (run Rehearsal.sampleDeck "findme" narrowOptions).listed ∧
      Fits found.source.text.toList found.start "findme".toList.length 4 := by
  have hfits : Fits "the quick brown fox jumps".toList 10 5 4 :=
    { inText := by decide, radius_le := by decide }
  have hcheck : narrowOptions.check = .ok () := rfl
  have hoccurs : 1 ∈ findAll "aaa".toList "aa".toList true := by decide
  have hlisted : 0 < (run Rehearsal.sampleDeck "findme" narrowOptions).listed.length := by
    decide +kernel
  rcases List.exists_mem_of_length_pos hlisted with ⟨found, hfound⟩
  rcases contextWindow_in_range Rehearsal.sampleDeck "findme" narrowOptions with
    ⟨hwindows, hmatches⟩
  have hoverlap := (contextWindow_in_range Rehearsal.sampleDeck "aa" narrowOptions).2 hcheck
  refine ⟨hfits, ?_, hcheck, hoccurs, hoverlap.1 _ _ hoccurs, found, hfound,
    ((hmatches hcheck).2 found hfound).1⟩
  rw [(hwindows _ _ _ _ hfits).1]
  decide

end Search

end DeckTools
