import DeckTools.Text.Blank

/-!
# What trimming removes

Only blanks are trimmed, and only up to the first and the last character that is none.  So
a text and its trimmed form have the same characters but for blanks.
-/

namespace DeckTools

namespace Text

variable {front back : List Char} {c : Char}

theorem mem_blanks_iff : c ∈ blanks <-> isBlank c = true := by
  constructor
  · exact isBlank_of_mem_blanks
  · intro h
    have hcode : c.toNat ∈ blanks.map Char.toNat := by
      simp [isBlank] at h
      simp [blanks]
      omega
    rcases List.mem_map.mp hcode with ⟨blank, hblank, heq⟩
    rwa [← Char.toNat_inj.mp heq]

def withoutBlanks (cs : List Char) : List Char :=
  cs.filter (fun c => !isBlank c)

@[simp] theorem withoutBlanks_append (xs ys : List Char) :
    withoutBlanks (xs ++ ys) = withoutBlanks xs ++ withoutBlanks ys :=
  List.filter_append xs ys

theorem mem_withoutBlanks {cs : List Char} :
    c ∈ withoutBlanks cs <-> c ∈ cs ∧ isBlank c = false := by
  unfold withoutBlanks
  rw [List.mem_filter, Bool.not_eq_true']

theorem withoutBlanks_eq_nil {cs : List Char} (h : cs.all isBlank = true) :
    withoutBlanks cs = [] := by
  apply List.eq_nil_iff_forall_not_mem.mpr
  intro c hc
  rcases mem_withoutBlanks.mp hc with ⟨hmem, hother⟩
  rw [List.all_eq_true.mp h c hmem] at hother
  cases hother

/-! ## At the start -/

theorem exists_trimStart (cs : List Char) :
    exists before, before.all isBlank = true ∧ cs = before ++ trimStart cs :=
  ⟨cs.takeWhile isBlank, List.all_takeWhile, List.takeWhile_append_dropWhile.symm⟩

theorem trimStart_append (hfront : front.all isBlank = true) :
    trimStart (front ++ back) = trimStart back :=
  List.dropWhile_append_of_pos (List.all_eq_true.mp hfront)

theorem trimStart_cons (h : isBlank c = false) : trimStart (c :: back) = c :: back :=
  List.dropWhile_cons_of_neg (by simp [h])

/-! ## At the end -/

theorem exists_trimEnd (cs : List Char) :
    exists after, after.all isBlank = true ∧ cs = trimEnd cs ++ after := by
  rcases exists_trimStart cs.reverse with ⟨before, hbefore, hcs⟩
  refine ⟨before.reverse, by rwa [List.all_reverse], ?_⟩
  have hreverse := congrArg List.reverse hcs
  rw [List.reverse_reverse, List.reverse_append] at hreverse
  exact hreverse

theorem withoutBlanks_trimEnd (cs : List Char) :
    withoutBlanks (trimEnd cs) = withoutBlanks cs := by
  rcases exists_trimEnd cs with ⟨after, hafter, hcs⟩
  conv => rhs; rw [hcs]
  rw [withoutBlanks_append, withoutBlanks_eq_nil hafter, List.append_nil]

theorem trimEnd_append_cons (h : isBlank c = false) :
    trimEnd (front ++ c :: back) = front ++ c :: trimEnd back := by
  have hreverse : (front ++ c :: back).reverse = back.reverse ++ c :: front.reverse := by
    simp
  unfold trimEnd
  rw [hreverse, List.dropWhile_append]
  split
  case isTrue hblank =>
      rw [List.isEmpty_iff.mp hblank, List.dropWhile_cons_of_neg (by simp [h])]
      simp
  case isFalse => simp

/-! ## On both sides -/

theorem toList_trim (s : String) : (trim s).toList = trimEnd (trimStart s.toList) :=
  String.toList_ofList

theorem exists_trim (s : String) :
    exists before after, before.all isBlank = true ∧ after.all isBlank = true ∧
      s.toList = before ++ (trim s).toList ++ after := by
  rcases exists_trimStart s.toList with ⟨before, hbefore, hs⟩
  rcases exists_trimEnd (trimStart s.toList) with ⟨after, hafter, hrest⟩
  refine ⟨before, after, hbefore, hafter, ?_⟩
  rw [toList_trim, List.append_assoc, ← hrest]
  exact hs

theorem withoutBlanks_trim (s : String) :
    withoutBlanks (trim s).toList = withoutBlanks s.toList := by
  rcases exists_trim s with ⟨before, after, hbefore, hafter, hs⟩
  rw [hs, withoutBlanks_append, withoutBlanks_append, withoutBlanks_eq_nil hbefore,
    withoutBlanks_eq_nil hafter, List.nil_append, List.append_nil]

end Text

end DeckTools
