/-!
# Entries kept in key order

A table is a list of entries whose keys increase strictly in code point order.
Inserting under a key that is present replaces the entry, so the last value
given for a key is the one that stays.
-/

namespace DeckTools
namespace Keyed

/-- Insert an entry at its place, replacing one of the same key. -/
def insert {α : Type} (key : String) (value : α) :
    List (String × α) -> List (String × α)
  | [] => [(key, value)]
  | entry :: rest =>
      if key < entry.1 then (key, value) :: entry :: rest
      else if key == entry.1 then (key, value) :: rest
      else entry :: insert key value rest

def find? {α : Type} (key : String) (entries : List (String × α)) : Option α :=
  (entries.find? (fun entry => entry.1 == key)).map Prod.snd

def ofList {α : Type} (entries : List (String × α)) : List (String × α) :=
  entries.foldl (fun table entry => insert entry.1 entry.2 table) []

def keys {α : Type} (entries : List (String × α)) : List String :=
  entries.map Prod.fst

/-! ## Insertion and look-up -/

theorem find?_insert_self {α : Type} (key : String) (value : α) (entries : List (String × α)) :
    find? key (insert key value entries) = some value := by
  induction entries with
  | nil => simp [insert, find?]
  | cons entry rest ih =>
      unfold insert
      split
      · simp [find?]
      · split
        · simp [find?]
        · next hlt hne =>
            have hne' : (entry.1 == key) = false := by
              simp only [beq_iff_eq] at hne
              simp only [beq_eq_false_iff_ne]
              exact fun h => hne h.symm
            simpa [find?, hne'] using ih

theorem find?_insert_of_ne {α : Type} {key other : String} (value : α)
    (entries : List (String × α)) (h : other ≠ key) :
    find? other (insert key value entries) = find? other entries := by
  induction entries with
  | nil => simp [insert, find?, h.symm]
  | cons entry rest ih =>
      unfold insert
      split
      · simp [find?, h.symm]
      · split
        · next hlt heq =>
            simp only [beq_iff_eq] at heq
            have : entry.1 ≠ other := fun e => h (e ▸ heq.symm)
            simp [find?, h.symm, this]
        · by_cases he : entry.1 = other
          · simp [find?, he]
          · simpa [find?, he] using ih

/-! ## Sorted tables -/

section Sorted

variable {α : Type} {key : String} {value : α} {entries : List (String × α)}

def Sorted (entries : List (String × α)) : Prop :=
  (keys entries).Pairwise (· < ·)

@[simp] theorem sorted_nil : Sorted ([] : List (String × α)) :=
  List.Pairwise.nil

theorem sorted_cons {entry : String × α} {rest : List (String × α)} :
    Sorted (entry :: rest) <->
      (forall other, other ∈ rest -> entry.1 < other.1) ∧ Sorted rest := by
  unfold Sorted keys
  rw [List.map_cons, List.pairwise_cons]
  simp only [List.mem_map, forall_exists_index, and_imp, forall_apply_eq_imp_iff₂]

theorem mem_of_mem_insert {entry : String × α} (h : entry ∈ insert key value entries) :
    entry = (key, value) ∨ entry ∈ entries := by
  induction entries with
  | nil => exact Or.inl (List.mem_singleton.mp h)
  | cons first rest ih =>
      unfold insert at h
      split at h
      · exact List.mem_cons.mp h
      · split at h
        · rcases List.mem_cons.mp h with heq | hrest
          · exact Or.inl heq
          · exact Or.inr (List.mem_cons_of_mem first hrest)
        · rcases List.mem_cons.mp h with heq | hrest
          · rw [heq]
            exact Or.inr List.mem_cons_self
          · rcases ih hrest with heq | hold
            · exact Or.inl heq
            · exact Or.inr (List.mem_cons_of_mem first hold)

theorem sorted_insert (h : Sorted entries) :
    Sorted (insert key value entries) := by
  induction entries with
  | nil =>
      apply sorted_cons.mpr
      simp
  | cons first rest ih =>
      rcases sorted_cons.mp h with ⟨hfirst, hrest⟩
      unfold insert
      split
      case isTrue hlt =>
          apply sorted_cons.mpr
          refine ⟨?_, h⟩
          intro other hother
          rcases List.mem_cons.mp hother with heq | hlater
          · rw [heq]
            exact hlt
          · exact String.lt_trans hlt (hfirst other hlater)
      case isFalse hge =>
          split
          case isTrue heq =>
              have hkey : key = first.1 := by simpa using heq
              apply sorted_cons.mpr
              refine ⟨?_, hrest⟩
              intro other hother
              rw [hkey]
              exact hfirst other hother
          case isFalse hne =>
              have hlt : first.1 < key := by
                have hkey : key ≠ first.1 := by simpa using hne
                grind
              apply sorted_cons.mpr
              refine ⟨?_, ih hrest⟩
              intro other hother
              rcases mem_of_mem_insert hother with heq | hold
              · rw [heq]
                exact hlt
              · exact hfirst other hold

end Sorted

end Keyed
end DeckTools
