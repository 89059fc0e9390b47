import DeckTools.Batch.FieldMask
import DeckTools.Proofs.Json.Canonical
import DeckTools.Proofs.Text.Cut

/-!
# What field masks send

A value is found again under the keys it was put under, and putting it there
disturbs nothing under keys that lie apart.  So each step of a mask is seen in the
values, unless a later step on the same way hides it.
-/

namespace DeckTools

namespace Json

/-- The value under nested keys. -/
def at? : List String -> Json -> Option Json
  | [], value => some value
  | key :: rest, value => (value.get? key).bind (at? rest)

@[simp] theorem at?_nil (value : Json) : at? [] value = some value := rfl

theorem at?_cons (key : String) (rest : List String) (value : Json) :
    at? (key :: rest) value = (value.get? key).bind (at? rest) := rfl

def members : Json -> List (String × Json)
  | .obj members => members
  | _ => []

theorem get?_eq_find? (key : String) (value : Json) :
    value.get? key = Keyed.find? key value.members := by
  cases value <;> rfl

theorem at?_empty {keys : List String} (h : keys ≠ []) : at? keys (obj []) = none := by
  cases keys with
  | nil => exact absurd rfl h
  | cons key rest => rfl

end Json

open Json

/-! ## Ways that part -/

/-- Two lists of keys part somewhere: neither leads along the whole of the other. -/
def Apart (keys other : List String) : Prop :=
  ¬ keys <+: other ∧ ¬ other <+: keys

instance (keys other : List String) : Decidable (Apart keys other) :=
  inferInstanceAs (Decidable (_ ∧ _))

namespace Apart

variable {keys other : List String}

theorem symm (h : Apart keys other) : Apart other keys :=
  ⟨h.2, h.1⟩

theorem ne (h : Apart keys other) : keys ≠ other := by
  intro heq
  subst heq
  exact h.1 (List.prefix_refl keys)

theorem ne_nil (h : Apart keys other) : other ≠ [] := by
  intro hnil
  apply h.2
  rw [hnil]
  exact List.nil_prefix

theorem cons_iff {key first : String} {rest more : List String} :
    Apart (key :: rest) (first :: more) <-> (key = first -> Apart rest more) := by
  unfold Apart
  rw [List.cons_prefix_cons, List.cons_prefix_cons]
  constructor
  · intro h heq
    exact ⟨fun hpre => h.1 ⟨heq, hpre⟩, fun hpre => h.2 ⟨heq.symm, hpre⟩⟩
  · intro h
    exact ⟨fun hpre => (h hpre.1).1 hpre.2, fun hpre => (h hpre.1.symm).2 hpre.2⟩

end Apart

namespace FieldMask

/-! ## Paths -/

/-- The keys of a path stand between its dots. -/
def keysOf (path : String) : List String :=
  (path.toList.splitOn '.').map String.ofList

theorem segments_eq_keysOf (path : String) : segments path = keysOf path := by
  unfold segments keysOf
  rw [Text.words_eq_splitOnP]
  congr 2
  funext c
  exact Bool.not_not (c == '.')

theorem segments_ne_nil (path : String) : segments path ≠ [] := by
  rw [segments_eq_keysOf]
  intro h
  exact List.splitOn_ne_nil '.' path.toList (List.map_eq_nil_iff.mp h)

/-! ## Placing one value -/

section Place

variable {key : String} {rest : List String} {value root : Json}

theorem place_cons :
    place (key :: rest) value root =
      .obj (Keyed.insert key (place rest value ((root.get? key).getD (.obj [])))
        root.members) := by
  cases root <;> rfl

theorem members_place :
    (place (key :: rest) value root).members =
      Keyed.insert key (place rest value ((root.get? key).getD (.obj []))) root.members := by
  rw [place_cons]
  rfl

theorem get?_place_self :
    (place (key :: rest) value root).get? key =
      some (place rest value ((root.get? key).getD (.obj []))) := by
  rw [place_cons, get?, Keyed.find?_insert_self]

theorem get?_place_of_ne {other : String} (h : other ≠ key) :
    (place (key :: rest) value root).get? other = root.get? other := by
  rw [place_cons, get?, Keyed.find?_insert_of_ne _ _ h, ← get?_eq_find?]

/-- Under the keys a value was put under stands that value. -/
theorem at?_place_append (keys more : List String) (value root : Json) :
    at? (keys ++ more) (place keys value root) = at? more value := by
  induction keys generalizing root with
  | nil => rfl
  | cons key rest ih =>
      rw [List.cons_append, at?_cons, get?_place_self]
      exact ih ((root.get? key).getD (.obj []))

theorem at?_place_self (keys : List String) (value root : Json) :
    at? keys (place keys value root) = some value := by
  have h := at?_place_append keys [] value root
  rwa [List.append_nil] at h

theorem at?_place_of_apart {keys other : List String} (h : Apart keys other)
    (value root : Json) :
    at? other (place keys value root) = at? other root := by
  induction keys generalizing other root with
  | nil => exact absurd List.nil_prefix h.1
  | cons key rest ih =>
      cases other with
      | nil => exact absurd rfl h.ne_nil
      | cons first more =>
          rw [at?_cons, at?_cons]
          by_cases heq : key = first
          · have hrest : Apart rest more := Apart.cons_iff.mp h heq
            rw [← heq, get?_place_self, Option.bind_some, ih hrest]
            -- A key that was not there opens an empty object, which holds nothing either.
            cases root.get? key with
            | none => exact at?_empty hrest.ne_nil
            | some child => rfl
          · rw [get?_place_of_ne (Ne.symm heq)]

/-- Of two values put under the same key, the second is put into the first. -/
theorem place_place_same {more : List String} {later : Json} :
    place (key :: rest) value (place (key :: more) later root) =
      .obj (Keyed.insert key
        (place rest value (place more later ((root.get? key).getD (.obj [])))) root.members) := by
  rw [place_cons, get?_place_self, members_place, Keyed.insert_insert_self, Option.getD_some]

/-- It does not matter which of two values is put first under keys that lie apart. -/
theorem place_comm {keys other : List String} (h : Apart keys other) (value later root : Json) :
    place keys value (place other later root) = place other later (place keys value root) := by
  induction keys generalizing other root with
  | nil => exact absurd List.nil_prefix h.1
  | cons key rest ih =>
      cases other with
      | nil => exact absurd rfl h.ne_nil
      | cons first more =>
          by_cases heq : key = first
          · have hrest : Apart rest more := Apart.cons_iff.mp h heq
            rw [← heq, place_place_same, place_place_same, ih hrest]
          · rw [place_cons, get?_place_of_ne heq, members_place, place_cons,
              get?_place_of_ne (Ne.symm heq), members_place, Keyed.insert_comm heq]

theorem canonical_place (keys : List String) {value root : Json}
    (hvalue : value.canonical = value) (hroot : root.canonical = root) :
    (place keys value root).canonical = place keys value root := by
  induction keys generalizing root with
  | nil => exact hvalue
  | cons key rest ih =>
      -- What is no object has no members, and so nothing of it is kept.
      have hmembers : Keyed.Sorted root.members ∧
          forall entry, entry ∈ root.members -> entry.2.canonical = entry.2 := by
        cases root with
        | obj members => exact canonical_obj_eq_self_iff.mp hroot
        | _ => simp [members]
      have hchild : ((root.get? key).getD (.obj [])).canonical =
          (root.get? key).getD (.obj []) := by
        cases hfound : root.get? key with
        | none => exact canonical_empty
        | some child =>
            rw [get?_eq_find?] at hfound
            exact hmembers.2 (key, child) (Keyed.mem_of_find?_eq_some hfound)
      rw [place_cons, canonical_obj_eq_self_iff]
      refine ⟨Keyed.sorted_insert hmembers.1, ?_⟩
      intro entry hentry
      rcases Keyed.mem_of_mem_insert hentry with heq | hold
      · rw [heq]
        exact ih hchild
      · exact hmembers.2 entry hold

end Place

/-! ## The values of a mask -/

section Values

variable {entries : List (String × Option Json)} {root : Json}

theorem at?_foldl_of_apart {keys : List String}
    (h : forall entry, entry ∈ entries -> entry.2.isSome = true ->
      Apart (segments entry.1) keys) :
    at? keys (entries.foldl placeEntry root) = at? keys root := by
  induction entries generalizing root with
  | nil => rfl
  | cons first rest ih =>
      have hrest := fun entry hentry => h entry (List.mem_cons_of_mem first hentry)
      rw [List.foldl_cons, ih hrest]
      have hfirst := h first List.mem_cons_self
      rcases first with ⟨path, value⟩
      cases value with
      | none => rfl
      | some value => exact at?_place_of_apart (hfirst rfl) value root

/-- A value is there unless a later entry hides it. -/
theorem at?_values_of_set {mask : FieldMask} {before after : List (String × Option Json)}
    {path : String} {value : Json}
    (hentries : mask.entries = before ++ (path, some value) :: after)
    (hafter : forall entry, entry ∈ after -> entry.2.isSome = true ->
      Apart (segments entry.1) (segments path)) :
    at? (segments path) mask.values = some value := by
  unfold values
  rw [hentries, List.foldl_append, List.foldl_cons, at?_foldl_of_apart hafter]
  exact at?_place_self (segments path) value _

theorem at?_values_of_apart {mask : FieldMask} {keys : List String} (hkeys : keys ≠ [])
    (h : forall entry, entry ∈ mask.entries -> entry.2.isSome = true ->
      Apart (segments entry.1) keys) :
    at? keys mask.values = none := by
  unfold values
  rw [at?_foldl_of_apart h]
  exact at?_empty hkeys

/-! ## Ways that part pairwise -/

/-- The ways of any two entries lie apart. -/
def Parts (mask : FieldMask) : Prop :=
  mask.entries.Pairwise (fun entry other => Apart (segments entry.1) (segments other.1))

theorem Parts.apart_of_split {mask : FieldMask} (h : mask.Parts)
    {before after : List (String × Option Json)} {entry : String × Option Json}
    (hsplit : mask.entries = before ++ entry :: after) :
    forall other, other ∈ before ++ after -> Apart (segments other.1) (segments entry.1) := by
  unfold Parts at h
  rw [hsplit] at h
  rcases List.pairwise_append.mp h with ⟨_, hlater, hcross⟩
  intro other hother
  rcases List.mem_append.mp hother with hbefore | hafter
  · exact hcross other hbefore entry List.mem_cons_self
  · exact (List.rel_of_pairwise_cons hlater hafter).symm

theorem Parts.eq_or_apart {mask : FieldMask} (h : mask.Parts)
    {entry other : String × Option Json} (hentry : entry ∈ mask.entries)
    (hother : other ∈ mask.entries) :
    other = entry ∨ Apart (segments other.1) (segments entry.1) := by
  rcases List.append_of_mem hentry with ⟨before, after, hsplit⟩
  have hapart := h.apart_of_split hsplit other
  rw [hsplit] at hother
  rcases List.mem_append.mp hother with hbefore | hrest
  · exact Or.inr (hapart (List.mem_append_left after hbefore))
  · rcases List.mem_cons.mp hrest with hself | hafter
    · exact Or.inl hself
    · exact Or.inr (hapart (List.mem_append_right before hafter))

theorem Parts.at?_of_set {mask : FieldMask} (h : mask.Parts) {path : String} {value : Json}
    (hmem : (path, some value) ∈ mask.entries) :
    at? (segments path) mask.values = some value := by
  rcases List.append_of_mem hmem with ⟨before, after, hsplit⟩
  apply at?_values_of_set hsplit
  intro other hother _
  exact h.apart_of_split hsplit other (List.mem_append_right before hother)

theorem Parts.at?_of_clear {mask : FieldMask} (h : mask.Parts) {path : String}
    (hmem : (path, none) ∈ mask.entries) :
    at? (segments path) mask.values = none := by
  apply at?_values_of_apart (segments_ne_nil path)
  intro other hother hvalue
  rcases h.eq_or_apart hmem hother with hself | hapart
  · rw [hself] at hvalue
    cases hvalue
  · exact hapart

/-! ## The form of the values -/

theorem isObject_placeEntry {entry : String × Option Json} (h : root.isObject = true) :
    (placeEntry root entry).isObject = true := by
  rcases entry with ⟨path, value⟩
  cases value with
  | none => exact h
  | some value =>
      have hplace : placeEntry root (path, some value) = place (segments path) value root := rfl
      cases hsegments : segments path with
      | nil => exact absurd hsegments (segments_ne_nil path)
      | cons key rest =>
          rw [hplace, hsegments, place_cons]
          rfl

theorem isObject_foldl (h : root.isObject = true) :
    (entries.foldl placeEntry root).isObject = true := by
  induction entries generalizing root with
  | nil => exact h
  | cons first rest ih => exact ih (isObject_placeEntry h)

theorem isObject_values (mask : FieldMask) : mask.values.isObject = true :=
  isObject_foldl rfl

theorem canonical_foldl (hroot : root.canonical = root)
    (h : forall entry value, entry ∈ entries -> entry.2 = some value ->
      value.canonical = value) :
    (entries.foldl placeEntry root).canonical = entries.foldl placeEntry root := by
  induction entries generalizing root with
  | nil => exact hroot
  | cons first rest ih =>
      have hfirst : (placeEntry root first).canonical = placeEntry root first := by
        have hvalue := fun value => h first value List.mem_cons_self
        rcases first with ⟨path, value⟩
        cases value with
        | none => exact hroot
        | some value => exact canonical_place (segments path) (hvalue value rfl) hroot
      apply ih hfirst
      intro entry value hentry
      exact h entry value (List.mem_cons_of_mem first hentry)

theorem canonical_values {mask : FieldMask}
    (h : forall entry value, entry ∈ mask.entries -> entry.2 = some value ->
      value.canonical = value) :
    mask.values.canonical = mask.values := by
  apply canonical_foldl
  · exact canonical_empty
  · exact h

end Values

end FieldMask

end DeckTools
