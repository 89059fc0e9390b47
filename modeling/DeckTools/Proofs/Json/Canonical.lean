import DeckTools.Json.Value

/-!
# Values in canonical form

Insertion keeps a table in strictly increasing key order, so a table holds each key
once and look-up sees every entry.  A value in canonical form is one whose tables are
all of that kind.
-/

namespace DeckTools

namespace Keyed

variable {α : Type} {key : String} {value : α} {entries : List (String × α)}

/-! ## Sorted tables -/

theorem mem_of_find?_eq_some (h : find? key entries = some value) :
    (key, value) ∈ entries := by
  unfold find? at h
  rcases Option.map_eq_some_iff.mp h with ⟨entry, hentry, hvalue⟩
  have hkey : entry.1 = key := by
    simpa using List.find?_some hentry
  rw [← hkey, ← hvalue]
  exact List.mem_of_find?_eq_some hentry

/-- In a sorted table what is found under a key is what is listed with it. -/
theorem find?_eq_some_iff (h : Sorted entries) :
    find? key entries = some value <-> (key, value) ∈ entries := by
  constructor
  · exact mem_of_find?_eq_some
  · intro hmem
    induction entries with
    | nil => cases hmem
    | cons first rest ih =>
        rcases sorted_cons.mp h with ⟨hfirst, hrest⟩
        rcases List.mem_cons.mp hmem with heq | hlater
        · rw [← heq]
          simp [find?]
        · have hne : (first.1 == key) = false := by
            apply beq_eq_false_iff_ne.mpr
            intro hkey
            exact String.lt_irrefl key (hkey ▸ hfirst (key, value) hlater)
          have hfound := ih hrest hlater
          unfold find? at hfound ⊢
          rwa [List.find?_cons_of_neg (by simp [hne])]

theorem isSome_find?_iff :
    (find? key entries).isSome = true <-> key ∈ keys entries := by
  unfold find? keys
  rw [Option.isSome_map, List.find?_isSome, List.mem_map]
  simp only [beq_iff_eq]

/-- Of two values for a key the later one stays. -/
theorem insert_insert_self (later : α) :
    insert key later (insert key value entries) = insert key later entries := by
  induction entries with
  | nil => simp [insert]
  | cons first rest ih =>
      rw [insert]
      split
      case isTrue hlt => simp [insert, hlt]
      case isFalse hge =>
          split
          case isTrue heq => simp [insert, hge, heq]
          case isFalse hne => simp [insert, hge, hne, ih]

/-- Entries of different keys find the same places in either order. -/
theorem insert_comm {other : String} (h : key ≠ other) (later : α) :
    insert key value (insert other later entries) =
      insert other later (insert key value entries) := by
  induction entries with
  | nil => grind [insert]
  | cons first rest ih => grind [insert]

/-- A key beyond all others goes to the end. -/
theorem insert_eq_append (h : forall entry, entry ∈ entries -> entry.1 < key) :
    insert key value entries = entries ++ [(key, value)] := by
  induction entries with
  | nil => rfl
  | cons first rest ih =>
      have hfirst : first.1 < key := h first List.mem_cons_self
      have hge : ¬ key < first.1 := String.lt_asymm hfirst
      have hne : (key == first.1) = false := by
        apply beq_eq_false_iff_ne.mpr
        intro heq
        rw [heq] at hfirst
        exact String.lt_irrefl first.1 hfirst
      unfold insert
      rw [if_neg hge, hne, if_neg Bool.false_ne_true, ih, List.cons_append]
      intro entry hentry
      exact h entry (List.mem_cons_of_mem first hentry)

/-! ## Tables of lists -/

def insertAll (entries table : List (String × α)) : List (String × α) :=
  entries.foldl (fun table entry => insert entry.1 entry.2 table) table

theorem sorted_insertAll {table : List (String × α)} (h : Sorted table) :
    Sorted (insertAll entries table) := by
  induction entries generalizing table with
  | nil => exact h
  | cons first rest ih => exact ih (sorted_insert h)

theorem sorted_ofList (entries : List (String × α)) : Sorted (ofList entries) :=
  sorted_insertAll sorted_nil

theorem mem_of_mem_insertAll {entry : String × α} {table : List (String × α)}
    (h : entry ∈ insertAll entries table) : entry ∈ entries ∨ entry ∈ table := by
  induction entries generalizing table with
  | nil => exact Or.inr h
  | cons first rest ih =>
      rcases ih h with hrest | hinserted
      · exact Or.inl (List.mem_cons_of_mem first hrest)
      · rcases mem_of_mem_insert hinserted with rfl | htable
        · exact Or.inl List.mem_cons_self
        · exact Or.inr htable

theorem mem_of_mem_ofList {entry : String × α} (h : entry ∈ ofList entries) : entry ∈ entries :=
  (mem_of_mem_insertAll h).resolve_right List.not_mem_nil

section Map

variable {β : Type}

theorem find?_map (f : α -> β) :
    find? key (entries.map (fun e => (e.1, f e.2))) = (find? key entries).map f := by
  unfold find?
  rw [List.find?_map, Option.map_map, Option.map_map]
  rfl

theorem map_insert (f : α -> β) (key : String) (value : α) (entries : List (String × α)) :
    (insert key value entries).map (fun e => (e.1, f e.2)) =
      insert key (f value) (entries.map (fun e => (e.1, f e.2))) := by
  induction entries with
  | nil => rfl
  | cons first rest ih =>
      rw [List.map_cons]
      unfold insert
      split
      · rfl
      · split
        · rfl
        · rw [List.map_cons, ih]

theorem map_insertAll (f : α -> β) (table : List (String × α)) :
    (insertAll entries table).map (fun e => (e.1, f e.2)) =
      insertAll (entries.map (fun e => (e.1, f e.2))) (table.map (fun e => (e.1, f e.2))) := by
  induction entries generalizing table with
  | nil => rfl
  | cons first rest ih =>
      have hstep : insertAll (first :: rest) table =
          insertAll rest (insert first.1 first.2 table) := rfl
      rw [hstep, ih, map_insert]
      rfl

theorem map_ofList (f : α -> β) (entries : List (String × α)) :
    (ofList entries).map (fun e => (e.1, f e.2)) = ofList (entries.map (fun e => (e.1, f e.2))) :=
  map_insertAll f []

end Map

theorem insertAll_eq_append {table : List (String × α)} (h : Sorted (table ++ entries)) :
    insertAll entries table = table ++ entries := by
  induction entries generalizing table with
  | nil =>
      rw [List.append_nil]
      rfl
  | cons first rest ih =>
      have hlast : forall entry, entry ∈ table -> entry.1 < first.1 := by
        intro entry hentry
        unfold Sorted keys at h
        rw [List.map_append, List.pairwise_append] at h
        exact h.2.2 entry.1 (List.mem_map_of_mem hentry) first.1 (by simp)
      have hstep : insertAll (first :: rest) table =
          insertAll rest (insert first.1 first.2 table) := rfl
      rw [hstep, insert_eq_append hlast]
      have hnext : Sorted ((table ++ [(first.1, first.2)]) ++ rest) := by
        rw [List.append_assoc]
        exact h
      rw [ih hnext, List.append_assoc]
      rfl

theorem ofList_eq_self (h : Sorted entries) : ofList entries = entries := by
  have hall : Sorted ([] ++ entries) := h
  exact insertAll_eq_append hall

theorem find?_insertAll (table : List (String × α)) :
    find? key (insertAll entries table) =
      ((entries.reverse.find? (fun entry => entry.1 == key)).map Prod.snd).or
        (find? key table) := by
  induction entries generalizing table with
  | nil => rfl
  | cons first rest ih =>
      have hstep : insertAll (first :: rest) table =
          insertAll rest (insert first.1 first.2 table) := rfl
      rw [hstep, ih, List.reverse_cons, List.find?_append, List.find?_singleton]
      cases rest.reverse.find? (fun entry => entry.1 == key) with
      | some last => rfl
      | none =>
          by_cases hkey : first.1 = key
          · rw [hkey, find?_insert_self, beq_self_eq_true]
            rfl
          · rw [find?_insert_of_ne first.2 table (Ne.symm hkey), beq_eq_false_iff_ne.mpr hkey]
            rfl

/-- Of several values for a key, the last one is found. -/
theorem find?_ofList :
    find? key (ofList entries) =
      (entries.reverse.find? (fun entry => entry.1 == key)).map Prod.snd := by
  show find? key (insertAll entries []) = _
  rw [find?_insertAll]
  exact Option.or_none

end Keyed

namespace Json

open Keyed

/-! ## Canonical values -/

theorem keys_canonicalMembers (members : List (String × Json)) :
    keys (canonicalMembers members) = keys members := by
  induction members with
  | nil => rfl
  | cons first rest ih =>
      unfold canonicalMembers
      unfold keys at ih ⊢
      rw [List.map_cons, List.map_cons, ih]

theorem canonicalMembers_eq_self_iff {members : List (String × Json)} :
    canonicalMembers members = members <->
      forall entry, entry ∈ members -> entry.2.canonical = entry.2 := by
  induction members with
  | nil => simp [canonicalMembers]
  | cons first rest ih =>
      rcases first with ⟨key, value⟩
      unfold canonicalMembers
      rw [List.cons.injEq, ih, List.forall_mem_cons, Prod.mk.injEq]
      simp

/-- An object is in canonical form if its table is sorted and its members are in it. -/
theorem canonical_obj_eq_self_iff {members : List (String × Json)} :
    (obj members).canonical = obj members <->
      Sorted members ∧ forall entry, entry ∈ members -> entry.2.canonical = entry.2 := by
  have hsame : Sorted (canonicalMembers members) <-> Sorted members := by
    unfold Sorted
    rw [keys_canonicalMembers]
  have hcanonical : (obj members).canonical = obj (ofList (canonicalMembers members)) := by
    rw [canonical]
  rw [hcanonical, obj.injEq, ← canonicalMembers_eq_self_iff]
  constructor
  · intro h
    have hsorted : Sorted members := by
      rw [← h]
      exact sorted_ofList (canonicalMembers members)
    rw [ofList_eq_self (hsame.mpr hsorted)] at h
    exact ⟨hsorted, h⟩
  · intro h
    rw [ofList_eq_self (hsame.mpr h.1)]
    exact h.2

theorem get?_object (key : String) (members : List (String × Json)) :
    (object members).get? key =
      (members.reverse.find? (fun member => member.1 == key)).map Prod.snd :=
  find?_ofList

theorem canonical_empty : (obj []).canonical = obj [] := by
  apply canonical_obj_eq_self_iff.mpr
  simp

end Json

end DeckTools
