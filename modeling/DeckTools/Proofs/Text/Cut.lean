import DeckTools.Text.Occurrence

/-!
# Cutting texts

A text is cut in two at the first occurrence of a separator.  A separator whose first
character stands nowhere else in it is not found half in one part of a text and half in
the next.  Words are the parts between characters that are not accepted, and they give the text
back when the separator is put between them again.
-/

namespace DeckTools

namespace Text

variable {α : Type}

/-! ## Occurrences across parts -/

/-- Nothing of an occurrence lies in a part that lacks its first element. -/
theorem infix_of_infix_append_right {first : α} {rest xs ys : List α} (hfirst : first ∉ xs)
    (h : first :: rest <:+: xs ++ ys) :
    first :: rest <:+: ys := by
  induction xs with
  | nil => exact h
  | cons x xs ih =>
      rw [List.mem_cons, not_or] at hfirst
      rcases List.infix_cons_iff.mp h with hprefix | hlater
      · exact absurd (List.cons_prefix_cons.mp hprefix).1 hfirst.1
      · exact ih hfirst.2 hlater

/-- Nothing of an occurrence lies in a part that lacks its last element. -/
theorem infix_of_infix_append_left {last : α} {front xs ys : List α} (hlast : last ∉ ys)
    (h : front ++ [last] <:+: xs ++ ys) :
    front ++ [last] <:+: xs := by
  rw [← List.reverse_infix, List.reverse_append, List.reverse_append] at h
  rw [← List.reverse_infix, List.reverse_append]
  exact infix_of_infix_append_right (by rwa [List.mem_reverse]) h

/-! ## The first occurrence -/

section Cut

variable {separator front back : List α}

theorem append_dropLast_prefix (separator front back : List α) :
    front ++ separator.dropLast <+: front ++ separator ++ back := by
  have hdropLast : front ++ separator.dropLast <+: front ++ separator :=
    (List.prefix_append_right_inj front).mpr (List.dropLast_prefix separator)
  exact hdropLast.trans (List.prefix_append _ back)

/-- A separator that begins before another one is seen without the last element of that. -/
theorem prefix_append_dropLast_iff (hfront : front ≠ []) :
    separator <+: front ++ separator.dropLast <-> separator <+: front ++ separator ++ back := by
  have hparts := append_dropLast_prefix separator front back
  constructor
  · intro h
    exact h.trans hparts
  · intro h
    apply List.prefix_of_prefix_length_le h hparts
    have hpos := List.length_pos_iff.mpr hfront
    rw [List.length_append, List.length_dropLast]
    omega

theorem not_infix_dropLast (hne : separator ≠ []) : ¬ separator <:+: separator.dropLast := by
  intro h
  have hlength := h.length_le
  have hpos := List.length_pos_iff.mpr hne
  rw [List.length_dropLast] at hlength
  omega

variable [BEq α] [LawfulBEq α]

/-- Either the separator stands here, or the cut is made in the rest. -/
theorem splitOnce_cons_eq_some_iff {c : α} {rest : List α} :
    splitOnce separator (c :: rest) = some (front, back) <->
      (front = [] ∧ c :: rest = separator ++ back) ∨
        (¬ separator <+: c :: rest ∧
          exists before, front = c :: before ∧ splitOnce separator rest = some (before, back)) := by
  rw [splitOnce]
  cases hstart : dropStart? separator (c :: rest) with
  | some after =>
      have htext := dropStart?_eq_some_iff.mp hstart
      have hprefix : separator <+: c :: rest := by
        rw [htext]
        exact List.prefix_append separator after
      dsimp only
      rw [htext, Option.some.injEq, Prod.mk.injEq, List.append_cancel_left_eq, ← htext]
      constructor
      · intro h
        exact Or.inl ⟨h.1.symm, h.2⟩
      · intro h
        rcases h with ⟨hfront, hback⟩ | ⟨hother, _⟩
        · exact ⟨hfront.symm, hback⟩
        · exact absurd hprefix hother
  | none =>
      have hother : ¬ separator <+: c :: rest := by
        intro hprefix
        rcases hprefix with ⟨after, hafter⟩
        rw [dropStart?_eq_some_iff.mpr hafter.symm] at hstart
        cases hstart
      dsimp only
      rw [Option.map_eq_some_iff]
      constructor
      · intro h
        rcases h with ⟨cut, hcut, heq⟩
        cases heq
        exact Or.inr ⟨hother, cut.1, rfl, hcut⟩
      · intro h
        rcases h with ⟨_, htext⟩ | ⟨_, before, hfront, hcut⟩
        · rw [htext] at hother
          exact absurd (List.prefix_append separator back) hother
        · rw [hfront]
          exact ⟨_, hcut, rfl⟩

/-- A cut is made at a separator before which none begins.  By induction on the text. -/
theorem splitOnce_eq_some_iff {text : List α} (hne : separator ≠ []) :
    splitOnce separator text = some (front, back) <->
      text = front ++ separator ++ back ∧
        ¬ separator <:+: front ++ separator.dropLast := by
  induction text generalizing front with
  | nil =>
      have hempty : separator.isEmpty = false := List.isEmpty_eq_false_iff.mpr hne
      unfold splitOnce
      rw [hempty]
      simp [hne]
  | cons c rest ih =>
      rw [splitOnce_cons_eq_some_iff]
      cases front with
      | nil => simp [not_infix_dropLast hne]
      | cons d before =>
          have hstart : forall back : List α, separator <+: d :: before ++ separator.dropLast <->
              separator <+: d :: before ++ separator ++ back :=
            fun back => prefix_append_dropLast_iff (List.cons_ne_nil d before)
          have hstands : separator <:+: d :: before ++ separator.dropLast <->
              separator <+: d :: before ++ separator.dropLast ∨
                separator <:+: before ++ separator.dropLast :=
            List.infix_cons_iff
          rw [hstands, not_or]
          constructor
          · intro h
            rcases h with ⟨hnil, _⟩ | ⟨hother, _, heq, hcut⟩
            · cases hnil
            · cases heq
              rcases ih.mp hcut with ⟨hrest, hfirst⟩
              have htext : c :: rest = c :: before ++ separator ++ back := by
                rw [hrest]
                rfl
              refine ⟨htext, ?_, hfirst⟩
              rwa [hstart back, ← htext]
          · intro h
            rcases h with ⟨htext, hother, hfirst⟩
            cases htext
            refine Or.inr ⟨?_, before, rfl, ih.mpr ⟨rfl, hfirst⟩⟩
            exact fun hprefix => hother ((hstart back).mpr hprefix)

end Cut

/-! ## Places -/

/-- A part that lacks an element begins a text only before that element. -/
theorem prefix_append_cons_iff {part front back : List α} {c : α} (hc : c ∉ part) :
    part <+: front ++ c :: back <-> part <+: front := by
  have hcut : front ++ [c] <+: front ++ c :: back :=
    (List.prefix_append_right_inj front).mpr (List.prefix_append [c] back)
  constructor
  · intro h
    rcases List.prefix_or_prefix_of_prefix h hcut with hpart | hlonger
    · rcases List.prefix_concat_iff.mp hpart with rfl | hfront
      · exact absurd (List.mem_append_right front List.mem_cons_self) hc
      · exact hfront
    · exact absurd (hlonger.subset (List.mem_append_right front List.mem_cons_self)) hc
  · intro h
    exact h.trans (List.prefix_append front _)

section Places

variable [BEq α]

/-- The positions at which a part begins in a text, in increasing order. -/
def places (part text : List α) : List Nat :=
  (List.range text.length).filter (fun place => part.isPrefixOf (text.drop place))

/-- What follows each place of a separator, up to the next place or the end. -/
def pieces (separator text : List α) : List (List α) :=
  List.zipWith (fun place stop => (text.take stop).drop (place + separator.length))
    (places separator text) ((places separator text).tail ++ [text.length])

theorem places_cons (part : List α) (c : α) (rest : List α) :
    places part (c :: rest) =
      if part.isPrefixOf (c :: rest) then 0 :: (places part rest).map (· + 1)
      else (places part rest).map (· + 1) := by
  unfold places
  rw [List.length_cons, List.range_succ_eq_map, List.filter_cons, List.drop_zero, List.filter_map]
  rfl

variable [LawfulBEq α]

theorem places_eq_nil_iff {part text : List α} (hpart : part ≠ []) :
    places part text = [] <-> ¬ part <:+: text := by
  unfold places
  rw [List.filter_eq_nil_iff]
  constructor
  · intro h hinfix
    rcases hinfix with ⟨before, after, rfl⟩
    have hpos := List.length_pos_iff.mpr hpart
    apply h before.length
    · simp only [List.mem_range, List.length_append]
      omega
    · rw [List.append_assoc, List.drop_left]
      exact List.isPrefixOf_iff_prefix.mpr (List.prefix_append part after)
  · intro h place _ hstart
    rcases List.isPrefixOf_iff_prefix.mp hstart with ⟨after, hafter⟩
    apply h
    refine ⟨text.take place, after, ?_⟩
    rw [List.append_assoc, hafter, List.take_append_drop]

/-- A part is not found across an element that it lacks; by induction on what comes before. -/
theorem places_append_cons {part : List α} {c : α} (hpart : part ≠ []) (hc : c ∉ part)
    (front back : List α) :
    places part (front ++ c :: back) =
      places part front ++ (places part back).map (· + (front.length + 1)) := by
  have hstart (text : List α) : part.isPrefixOf (text ++ c :: back) = part.isPrefixOf text := by
    rw [Bool.eq_iff_iff, List.isPrefixOf_iff_prefix, List.isPrefixOf_iff_prefix,
      prefix_append_cons_iff hc]
  induction front with
  | nil =>
      have hnone : part.isPrefixOf ([] : List α) = false := by
        rw [← Bool.not_eq_true, List.isPrefixOf_iff_prefix, List.prefix_nil]
        exact hpart
      rw [List.nil_append, places_cons, ← List.nil_append (c :: back), hstart, hnone]
      rfl
  | cons b front ih =>
      rw [List.cons_append, places_cons, ← List.cons_append, hstart, places_cons, ih]
      split <;> simp [List.map_map, Function.comp_def, Nat.add_assoc]

end Places

/-! ## Words -/

/-- Words are the parts between the elements that are not accepted. -/
theorem words_eq_splitOnP (accepts : α -> Bool) (text : List α) :
    words accepts text = text.splitOnP (fun c => !accepts c) := by
  induction text with
  | nil => rfl
  | cons c rest ih =>
      rw [List.splitOnP_cons_eq_if_modifyHead, words, ih]
      rcases List.exists_cons_of_ne_nil
        (List.splitOnP_ne_nil (fun c => !accepts c) rest) with ⟨first, others, hparts⟩
      rw [hparts]
      cases accepts c <;> rfl

/-- The part stands in the text with no accepted element right before it or right after it. -/
def StandsAlone (accepts : α -> Bool) (part text : List α) : Prop :=
  exists before after : List α, text = before ++ part ++ after ∧
    (forall c, before.getLast? = some c -> accepts c = false) ∧
    forall c, after.head? = some c -> accepts c = false

theorem words_eq_singleton {accepts : α -> Bool} {text : List α}
    (h : forall c, c ∈ text -> accepts c = true) :
    words accepts text = [text] := by
  rw [words_eq_splitOnP]
  apply List.splitOnP_eq_singleton
  intro c hc
  rw [h c hc]
  rfl

theorem words_append_cons {accepts : α -> Bool} {c : α} (h : accepts c = false)
    (front back : List α) :
    words accepts (front ++ c :: back) = words accepts front ++ words accepts back := by
  simp only [words_eq_splitOnP]
  apply List.splitOnP_append_cons
  rw [h]
  rfl

/-- What stands alone is a word: the parts before it and after it end in separators. -/
theorem mem_words_of_standsAlone {accepts : α -> Bool} {text word : List α}
    (hword : forall c, c ∈ word -> accepts c = true) (h : StandsAlone accepts word text) :
    word ∈ words accepts text := by
  rcases h with ⟨before, after, rfl, hbefore, hafter⟩
  have hend : word ∈ words accepts (word ++ after) := by
    cases after with
    | nil =>
        rw [List.append_nil, words_eq_singleton hword]
        exact List.mem_singleton_self word
    | cons c rest =>
        rw [words_append_cons (hafter c rfl), words_eq_singleton hword]
        exact List.mem_append_left _ (List.mem_singleton_self word)
  rcases List.eq_nil_or_concat before with rfl | ⟨front, c, rfl⟩
  · exact hend
  · rw [List.concat_eq_append, List.append_assoc, List.append_assoc, List.singleton_append,
      words_append_cons (hbefore c (by simp))]
    exact List.mem_append_right _ hend

/-- A text is a first word, or goes on after the separator that ends it. -/
theorem exists_first_word (accepts : α -> Bool) (text : List α) :
    exists first : List α, (forall c, c ∈ first -> accepts c = true) ∧
      (text = first ∨ exists c rest, accepts c = false ∧ text = first ++ c :: rest) := by
  induction text with
  | nil => exact ⟨[], by simp, Or.inl rfl⟩
  | cons c rest ih =>
      cases hc : accepts c with
      | false => exact ⟨[], by simp, Or.inr ⟨c, rest, hc, rfl⟩⟩
      | true =>
          rcases ih with ⟨first, hfirst, hrest⟩
          refine ⟨c :: first, List.forall_mem_cons.mpr ⟨hc, hfirst⟩, ?_⟩
          rcases hrest with rfl | ⟨d, later, hd, rfl⟩
          · exact Or.inl rfl
          · exact Or.inr ⟨d, later, hd, rfl⟩

/-- A word is the first one or one of the rest, which is shorter than the text. -/
theorem standsAlone_of_mem_words {accepts : α -> Bool} {text word : List α}
    (h : word ∈ words accepts text) :
    (forall c, c ∈ word -> accepts c = true) ∧ StandsAlone accepts word text := by
  rcases exists_first_word accepts text with ⟨first, hfirst, hwhole | ⟨c, rest, hc, hcut⟩⟩
  · rw [hwhole, words_eq_singleton hfirst, List.mem_singleton] at h
    rw [h]
    exact ⟨hfirst, [], [], by simpa using hwhole, by simp, by simp⟩
  · have hshorter : rest.length < text.length := by
      rw [hcut, List.length_append, List.length_cons]
      omega
    rw [hcut, words_append_cons hc, words_eq_singleton hfirst, List.singleton_append,
      List.mem_cons] at h
    rcases h with hword | hlater
    · rw [hword]
      exact ⟨hfirst, [], c :: rest, hcut, by simp, by simpa using hc⟩
    · rcases standsAlone_of_mem_words hlater with ⟨hword, before, after, hrest, hbefore, hafter⟩
      refine ⟨hword, first ++ c :: before, after, by simp [hcut, hrest], ?_, hafter⟩
      intro d hd
      rw [List.getLast?_append, List.getLast?_cons, Option.some_or] at hd
      cases hlast : before.getLast? with
      | none =>
          rw [hlast] at hd
          cases hd
          exact hc
      | some last =>
          rw [hlast] at hd
          cases hd
          exact hbefore last hlast
termination_by text.length

theorem mem_words_iff {accepts : α -> Bool} {text word : List α} :
    word ∈ words accepts text <->
      (forall c, c ∈ word -> accepts c = true) ∧ StandsAlone accepts word text :=
  ⟨standsAlone_of_mem_words, fun h => mem_words_of_standsAlone h.1 h.2⟩

theorem intercalate_append {separator : List α} {front back : List (List α)}
    (hfront : front ≠ []) (hback : back ≠ []) :
    separator.intercalate (front ++ back) =
      separator.intercalate front ++ separator ++ separator.intercalate back := by
  induction front with
  | nil => exact absurd rfl hfront
  | cons first rest ih =>
      cases rest with
      | nil =>
          rw [List.singleton_append, List.intercalate_cons_of_ne_nil hback]
          simp
      | cons second others =>
          have hrest : second :: others ≠ [] := List.cons_ne_nil second others
          have hwhole : second :: others ++ back ≠ [] := List.cons_ne_nil second _
          rw [List.cons_append, List.intercalate_cons_of_ne_nil hwhole, ih hrest,
            List.intercalate_cons_of_ne_nil hrest]
          simp only [List.append_assoc]

/-- What texts are cut into is not lost when the separator is put between them. -/
theorem splitOn_intercalate_eq_flatMap [BEq α] [LawfulBEq α] {separator : α}
    {texts : List (List α)} (hne : texts ≠ []) :
    ([separator].intercalate texts).splitOn separator =
      texts.flatMap (fun text => text.splitOn separator) := by
  induction texts with
  | nil => exact absurd rfl hne
  | cons first rest ih =>
      cases rest with
      | nil => simp
      | cons second others =>
          have hrest : second :: others ≠ [] := List.cons_ne_nil second others
          rw [List.flatMap_cons, ← ih hrest, List.intercalate_cons_of_ne_nil hrest,
            List.append_assoc, List.singleton_append, List.splitOn_append_cons_self]

/-- The parts of a text begin those of another one just if that goes on after a separator. -/
theorem splitOn_prefix_iff [BEq α] [LawfulBEq α] {separator : α} {text other : List α} :
    text.splitOn separator <+: other.splitOn separator <->
      text = other ∨ exists more, other = text ++ separator :: more := by
  constructor
  · intro h
    rcases h with ⟨rest, hrest⟩
    have hother : [separator].intercalate (other.splitOn separator) = other :=
      List.intercalate_splitOn separator
    rw [← hrest] at hother
    by_cases hnil : rest = []
    · rw [hnil, List.append_nil, List.intercalate_splitOn] at hother
      exact Or.inl hother
    · rw [intercalate_append (List.splitOn_ne_nil separator text) hnil,
        List.intercalate_splitOn, List.append_assoc] at hother
      exact Or.inr ⟨_, hother.symm⟩
  · intro h
    rcases h with rfl | ⟨more, rfl⟩
    · exact List.prefix_refl _
    · rw [List.splitOn_append_cons_self]
      exact List.prefix_append _ _

end Text

end DeckTools
