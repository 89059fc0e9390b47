import DeckTools.Batch.Request
import DeckTools.Proofs.Batch.FieldMask

/-!
# Updates that send what changes

A partial update is described by a table of properties, each with what becomes of it.
The update lists the ways to the properties that change and holds their new values,
and it holds nothing else.
-/

namespace DeckTools

open FieldMask Json

/-! ## Tables of properties -/

def dotted (keys : List String) : String :=
  String.intercalate "." keys

/-- A property under nested keys; it is left alone, or gets a value, or is reset by none. -/
abbrev PropertyRow : Type := List String × Option (Option Json)

/-- The properties that change, in the order of the table. -/
def changed (table : List PropertyRow) : List (List String × Option Json) :=
  table.filterMap (fun row => row.2.map (fun value => (row.1, value)))

theorem changed_cons (row : PropertyRow) (rest : List PropertyRow) :
    changed (row :: rest) = (row.2.map (fun value => (row.1, value))).toList ++ changed rest := by
  unfold changed
  rw [List.filterMap_cons]
  cases row.2 <;> rfl

theorem keys_changed_sublist (table : List PropertyRow) :
    ((changed table).map Prod.fst).Sublist (table.map Prod.fst) := by
  induction table with
  | nil => exact List.Sublist.refl []
  | cons row rest ih =>
      rw [changed_cons, List.map_cons]
      cases row.2 with
      | none => exact ih.cons row.1
      | some value => exact ih.cons_cons row.1

theorem mem_changed {table : List PropertyRow} {change : List String × Option Json} :
    change ∈ changed table <-> (change.1, some change.2) ∈ table := by
  unfold changed
  rw [List.mem_filterMap]
  constructor
  · intro h
    rcases h with ⟨⟨keys, value⟩, hrow, hchange⟩
    rcases Option.map_eq_some_iff.mp hchange with ⟨value', hvalue, heq⟩
    rw [← heq]
    dsimp only at hvalue ⊢
    rw [← hvalue]
    exact hrow
  · intro h
    exact ⟨_, h, rfl⟩

/-! ## Steps -/

/-- The step of a mask for a property, if that changes. -/
def steps (path : String) (change : Option (Option Json)) : List (String × Option Json) :=
  (change.map (fun value => (path, value))).toList

@[simp] theorem steps_none (path : String) : steps path none = [] := rfl

/-- The steps of a mask for all properties that change. -/
def allSteps (table : List PropertyRow) : List (String × Option Json) :=
  table.flatMap (fun row => steps (dotted row.1) row.2)

theorem map_changed (table : List PropertyRow) :
    (changed table).map (fun change => (dotted change.1, change.2)) = allSteps table := by
  induction table with
  | nil => rfl
  | cons row rest ih =>
      rw [changed_cons, List.map_append, ih]
      cases row with
      | mk keys change => cases change <;> rfl

/-! ## Updates -/

/-- The update lists what changes, once each, and holds the new values and nothing else. -/
structure PropertyUpdate.Sends (update : PropertyUpdate)
    (changes : List (List String × Option Json)) : Prop where
  fields :
    update.fields = String.intercalate "," (changes.map (fun change => dotted change.1))
  once : (changes.map (fun change => dotted change.1)).Nodup
  isObject : update.values.isObject = true
  canonical : update.values.canonical = update.values
  sent :
    forall keys value, (keys, some value) ∈ changes -> update.values.at? keys = some value
  reset : forall keys, (keys, none) ∈ changes -> update.values.at? keys = none
  nothingElse :
    forall keys value, keys ≠ [] -> update.values.at? keys = some value ->
      exists path set, (path, some set) ∈ changes ∧ (keys <+: path ∨ path <+: keys)

section Sends

variable {mask : FieldMask} {changes : List (List String × Option Json)}

/-- The mask has a step for each property that changes, and the ways to them part. -/
structure FieldMask.Lists (mask : FieldMask) (changes : List (List String × Option Json)) :
    Prop where
  entries : mask.entries = changes.map (fun change => (dotted change.1, change.2))
  segments : forall change, change ∈ changes -> segments (dotted change.1) = change.1
  apart : changes.Pairwise (fun change other => Apart change.1 other.1)
  canonical :
    forall change value, change ∈ changes -> change.2 = some value -> value.canonical = value

namespace FieldMask.Lists

theorem exists_change (h : mask.Lists changes) {entry : String × Option Json}
    (hentry : entry ∈ mask.entries) :
    exists change, change ∈ changes ∧ FieldMask.segments entry.1 = change.1 ∧
      entry.2 = change.2 := by
  rw [h.entries] at hentry
  rcases List.mem_map.mp hentry with ⟨change, hchange, heq⟩
  refine ⟨change, hchange, ?_, ?_⟩
  · rw [← heq]
    exact h.segments change hchange
  · rw [← heq]

theorem mem_entries (h : mask.Lists changes) {keys : List String} {value : Option Json}
    (hmem : (keys, value) ∈ changes) :
    (dotted keys, value) ∈ mask.entries := by
  rw [h.entries]
  exact List.mem_map_of_mem hmem

theorem parts (h : mask.Lists changes) : mask.Parts := by
  unfold Parts
  rw [h.entries]
  apply List.pairwise_map.mpr
  apply h.apart.imp_of_mem
  intro change other hchange hother hapart
  rwa [h.segments change hchange, h.segments other hother]

theorem at?_of_set (h : mask.Lists changes) {keys : List String} {value : Json}
    (hmem : (keys, some value) ∈ changes) :
    mask.values.at? keys = some value := by
  have hkeys : FieldMask.segments (dotted keys) = keys := h.segments _ hmem
  have hfound := h.parts.at?_of_set (h.mem_entries hmem)
  rwa [hkeys] at hfound

theorem at?_of_reset (h : mask.Lists changes) {keys : List String}
    (hmem : (keys, none) ∈ changes) :
    mask.values.at? keys = none := by
  have hkeys : FieldMask.segments (dotted keys) = keys := h.segments _ hmem
  have hnothing := h.parts.at?_of_clear (h.mem_entries hmem)
  rwa [hkeys] at hnothing

theorem exists_set_of_at? (h : mask.Lists changes) {keys : List String} {value : Json}
    (hne : keys ≠ []) (hvalue : mask.values.at? keys = some value) :
    exists path set, (path, some set) ∈ changes ∧ (keys <+: path ∨ path <+: keys) := by
  apply Classical.byContradiction
  intro hnone
  have hnothing : mask.values.at? keys = none := by
    apply at?_values_of_apart hne
    intro entry hentry hset
    rcases h.exists_change hentry with ⟨⟨path, change⟩, hchange, hsegments, heq⟩
    rw [heq] at hset
    rcases Option.isSome_iff_exists.mp hset with ⟨set, hset⟩
    dsimp only at hset
    rw [hset] at hchange
    rw [hsegments]
    constructor
    · intro hprefix
      exact hnone ⟨path, set, hchange, Or.inr hprefix⟩
    · intro hprefix
      exact hnone ⟨path, set, hchange, Or.inl hprefix⟩
  rw [hnothing] at hvalue
  cases hvalue

theorem nodup_dotted (h : mask.Lists changes) :
    (changes.map (fun change => dotted change.1)).Nodup := by
  apply List.pairwise_map.mpr
  apply h.apart.imp_of_mem
  intro change other hchange hother hapart heq
  apply hapart.ne
  rw [← h.segments change hchange, ← h.segments other hother, heq]

/-- The update of a mask sends what the mask lists. -/
theorem sends (h : mask.Lists changes) (objectId : String) :
    (PropertyUpdate.ofMask objectId mask).Sends changes where
  fields := by
    unfold PropertyUpdate.ofMask paths
    rw [h.entries, List.map_map]
    rfl
  once := h.nodup_dotted
  isObject := isObject_values mask
  canonical := by
    apply canonical_values
    intro entry value hentry hvalue
    rcases h.exists_change hentry with ⟨change, hchange, _, heq⟩
    rw [heq] at hvalue
    exact h.canonical change value hchange hvalue
  sent := by
    intro keys value hmem
    exact h.at?_of_set hmem
  reset := by
    intro keys hmem
    exact h.at?_of_reset hmem
  nothingElse := by
    intro keys value hne hvalue
    exact h.exists_set_of_at? hne hvalue

end FieldMask.Lists

end Sends

/-- Every new value of the table is canonical. -/
def CanonicalTable (table : List PropertyRow) : Prop :=
  forall row value, row ∈ table -> row.2 = some (some value) -> value.canonical = value

/-- A mask lists what changes if its entries are the steps for a table. -/
theorem FieldMask.Lists.of_table {mask : FieldMask} {table : List PropertyRow}
    (hentries : mask.entries = allSteps table)
    (hsegments : forall keys, keys ∈ table.map Prod.fst ->
      FieldMask.segments (dotted keys) = keys)
    (hapart : (table.map Prod.fst).Pairwise Apart) (hcanonical : CanonicalTable table) :
    mask.Lists (changed table) where
  entries := by rw [hentries, map_changed]
  segments := by
    intro change hchange
    exact hsegments change.1 (List.mem_map_of_mem (mem_changed.mp hchange))
  apart := List.pairwise_map.mp (hapart.sublist (keys_changed_sublist table))
  canonical := by
    intro change value hchange hvalue
    apply hcanonical (change.1, some change.2) value (mem_changed.mp hchange)
    rw [hvalue]

end DeckTools
