import DeckTools.Search

/-!
# Occurrences of a query

A query occurs at an offset of a text if the characters there are those of the
query one by one, up to case if that is wanted.  The scan for a query finds these
offsets in increasing order, one that lies inside the last occurrence included.
-/

namespace DeckTools

namespace Search

/-- Two characters that a search does not tell apart. -/
def Alike (caseSensitive : Bool) (a b : Char) : Prop :=
  if caseSensitive then a = b else Text.lowerCase a = Text.lowerCase b

/-- The characters of the text from the offset on are those of the query. -/
def OccursAt (caseSensitive : Bool) (text query : List Char) (offset : Nat) : Prop :=
  exists _ : offset + query.length ≤ text.length,
    forall i, forall _ : i < query.length, Alike caseSensitive text[offset + i] query[i]

instance (caseSensitive : Bool) (a b : Char) : Decidable (Alike caseSensitive a b) :=
  inferInstanceAs (Decidable (if caseSensitive then _ = _ else _ = _))

instance (caseSensitive : Bool) (text query : List Char) (offset : Nat) :
    Decidable (OccursAt caseSensitive text query offset) :=
  inferInstanceAs (Decidable (exists _ : _ ≤ _, forall i, forall _ : i < _, Alike _ _ _))

/-- The offsets at which a query occurs, in increasing order; the empty query has none. -/
def offsets (caseSensitive : Bool) (text query : List Char) : List Nat :=
  if query = [] then []
  else
    (List.range text.length).filter (fun offset => OccursAt caseSensitive text query offset)

theorem mem_offsets_iff {caseSensitive : Bool} {text query : List Char} {offset : Nat} :
    offset ∈ offsets caseSensitive text query <->
      query ≠ [] ∧ OccursAt caseSensitive text query offset := by
  unfold offsets
  by_cases hquery : query = []
  · simp [hquery]
  · rw [if_neg hquery, List.mem_filter, List.mem_range, decide_eq_true_eq]
    constructor
    · intro h
      exact ⟨hquery, h.2⟩
    · intro h
      have hpos : 0 < query.length := List.length_pos_iff.mpr hquery
      have hfits := h.2.1
      constructor
      · omega
      · exact h.2

theorem offsets_pairwise (caseSensitive : Bool) (text query : List Char) :
    (offsets caseSensitive text query).Pairwise (· < ·) := by
  unfold offsets
  split
  · exact List.Pairwise.nil
  · exact List.pairwise_lt_range.filter _

/-! ## The scan -/

@[simp] theorem length_folded (caseSensitive : Bool) (cs : List Char) :
    (folded caseSensitive cs).length = cs.length := by
  cases caseSensitive <;> simp [folded]

/-- Folded texts agree where the texts are alike. -/
theorem getElem_folded_eq_iff {caseSensitive : Bool} {text query : List Char} {j i : Nat}
    (hj : j < text.length) (hi : i < query.length) :
    (folded caseSensitive text)[j]? = (folded caseSensitive query)[i]? <->
      Alike caseSensitive text[j] query[i] := by
  cases caseSensitive with
  | true => simp [folded, Alike, hj, hi]
  | false => simp [folded, Alike, hj, hi]

theorem isPrefixOf_drop_folded_iff {caseSensitive : Bool} {text query : List Char}
    {offset : Nat} (hoffset : offset ≤ text.length) :
    (folded caseSensitive query).isPrefixOf ((folded caseSensitive text).drop offset) = true <->
      OccursAt caseSensitive text query offset := by
  rw [List.isPrefixOf_iff_prefix]
  constructor
  · intro h
    have hlength := h.length_le
    rw [List.length_drop, length_folded, length_folded] at hlength
    have hfits : offset + query.length ≤ text.length := by omega
    refine ⟨hfits, ?_⟩
    intro i hi
    have hi' : i < (folded caseSensitive query).length := by rw [length_folded]; exact hi
    have hat := List.prefix_iff_getElem?.mp h i hi'
    rw [List.getElem?_drop, ← List.getElem?_eq_getElem hi'] at hat
    exact (getElem_folded_eq_iff (by omega) hi).mp hat
  · intro h
    rcases h with ⟨hfits, halike⟩
    apply List.prefix_iff_getElem?.mpr
    intro i hi'
    have hi : i < query.length := by rw [← length_folded caseSensitive]; exact hi'
    rw [List.getElem?_drop, ← List.getElem?_eq_getElem hi']
    exact (getElem_folded_eq_iff (by omega) hi).mpr (halike i hi)

/-- The scan, part way through a text of which it has passed the front. -/
theorem startsFrom_eq_filter_range' (needle passed rest : List Char) :
    startsFrom needle passed.length rest =
      (List.range' passed.length rest.length).filter
        (fun offset => needle.isPrefixOf ((passed ++ rest).drop offset)) := by
  induction rest generalizing passed with
  | nil => rfl
  | cons c rest ih =>
      have hrest := ih (passed ++ [c])
      rw [List.length_append, List.append_assoc] at hrest
      have hhere : (passed ++ c :: rest).drop passed.length = c :: rest :=
        List.drop_left
      rw [List.length_cons, List.range'_succ, List.filter_cons, hhere, startsFrom]
      have htail : startsFrom needle (passed.length + 1) rest =
          (List.range' (passed.length + 1) rest.length).filter
            (fun offset => needle.isPrefixOf ((passed ++ c :: rest).drop offset)) := hrest
      rw [htail]

/-- A scan finds every occurrence of the query. -/
theorem findAll_eq_offsets (text query : List Char) (caseSensitive : Bool) :
    findAll text query caseSensitive = offsets caseSensitive text query := by
  unfold findAll offsets
  cases query with
  | nil => rfl
  | cons first others =>
      have hscan := startsFrom_eq_filter_range'
        (folded caseSensitive (first :: others)) [] (folded caseSensitive text)
      rw [List.nil_append, List.length_nil, length_folded, ← List.range_eq_range'] at hscan
      rw [if_neg (List.cons_ne_nil first others)]
      show startsFrom _ 0 _ = _
      rw [hscan]
      apply List.filter_congr
      intro offset hoffset
      have hle : offset ≤ text.length := Nat.le_of_lt (List.mem_range.mp hoffset)
      exact Bool.eq_iff_iff.mpr
        ((isPrefixOf_drop_folded_iff hle).trans decide_eq_true_iff.symm)

theorem findAll_pairwise (text query : List Char) (caseSensitive : Bool) :
    (findAll text query caseSensitive).Pairwise (· < ·) := by
  rw [findAll_eq_offsets]
  exact offsets_pairwise caseSensitive text query

example : findAll "aAa".toList "aa".toList false = [0, 1] := by decide

end Search

end DeckTools
