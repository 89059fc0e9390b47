import DeckTools.Proofs.Batch.FieldMask

/-!
# Masks made step by step

A mask is made by steps that set paths and clear them.  Where no path leads along another
one, a step neither disturbs nor hides what the others do: the object of values holds what
was set, where it was set, and nothing besides, in whatever order the steps were made.
-/

namespace DeckTools

namespace Json

/-! ## Nested keys of a value -/

/-- The keys lead from member to member. -/
def HasKeys : List String -> Json -> Prop
  | [], _ => True
  | key :: rest, value => exists child, (key, child) ∈ value.members ∧ HasKeys rest child

section Keys

variable {keys more : List String} {value found : Json}

theorem HasKeys.of_append (h : HasKeys (keys ++ more) value) : HasKeys keys value := by
  induction keys generalizing value with
  | nil => trivial
  | cons key rest ih =>
      rcases h with ⟨child, hchild, hrest⟩
      exact ⟨child, hchild, ih hrest⟩

theorem hasKeys_of_at? (h : at? keys value = some found) (hmore : HasKeys more found) :
    HasKeys (keys ++ more) value := by
  induction keys generalizing value with
  | nil =>
      cases h
      exact hmore
  | cons key rest ih =>
      rw [at?_cons, get?_eq_find?] at h
      rcases Option.bind_eq_some_iff.mp h with ⟨child, hchild, hrest⟩
      exact ⟨child, Keyed.mem_of_find?_eq_some hchild, ih hrest⟩

theorem hasKeys_of_at?_eq_some (h : at? keys value = some found) : HasKeys keys value := by
  have hall : HasKeys (keys ++ []) value := hasKeys_of_at? h trivial
  rwa [List.append_nil] at hall

theorem hasKeys_empty (h : HasKeys keys (obj [])) : keys = [] := by
  cases keys with
  | nil => rfl
  | cons key rest =>
      rcases h with ⟨child, hchild, _⟩
      cases hchild

end Keys

end Json

open Json

namespace FieldMask

/-! ## Steps -/

/-- A step gives a path a value, or none to clear it. -/
abbrev Step : Type := String × Option Json

def make (mask : FieldMask) (step : Step) : FieldMask :=
  match step.2 with
  | some value => mask.set step.1 value
  | none => mask.clear step.1

def ofSteps (steps : List Step) : FieldMask :=
  steps.foldl make empty

theorem entries_foldl_make (steps : List Step) (mask : FieldMask) :
    (steps.foldl make mask).entries = mask.entries ++ steps := by
  induction steps generalizing mask with
  | nil => simp
  | cons step rest ih =>
      rcases step with ⟨path, value⟩
      rw [List.foldl_cons, ih]
      cases value <;> simp [make, set, clear]

@[simp] theorem entries_ofSteps (steps : List Step) : (ofSteps steps).entries = steps :=
  entries_foldl_make steps empty

theorem values_ofSteps (steps : List Step) :
    (ofSteps steps).values = steps.foldl placeEntry (obj []) := by
  unfold values
  rw [entries_ofSteps]

theorem toList_paths_ofSteps (steps : List Step) :
    (ofSteps steps).paths.toList = [','].intercalate (steps.map (fun step => step.1.toList)) := by
  unfold paths
  rw [entries_ofSteps, String.toList_intercalate, List.map_map]
  rfl

/-! ## Paths that part -/

/-- The other path goes on behind this one and a dot. -/
def Extends (path other : String) : Prop :=
  exists more, other = path ++ "." ++ more

theorem keysOf_prefix_iff {path other : String} :
    keysOf path <+: keysOf other <-> path = other ∨ Extends path other := by
  have hparts : keysOf path <+: keysOf other <->
      path.toList.splitOn '.' <+: other.toList.splitOn '.' := by
    constructor
    · intro h
      have htexts := h.map String.toList
      simpa [keysOf, Function.comp_def] using htexts
    · intro h
      exact h.map String.ofList
  rw [hparts, Text.splitOn_prefix_iff, String.toList_inj]
  apply or_congr Iff.rfl
  constructor
  · intro h
    rcases h with ⟨more, hmore⟩
    refine ⟨String.ofList more, String.toList_inj.mp ?_⟩
    rw [hmore]
    simp
  · intro h
    rcases h with ⟨more, hmore⟩
    refine ⟨more.toList, ?_⟩
    rw [hmore]
    simp

theorem not_extends_self (path : String) : ¬ Extends path path := by
  intro h
  rcases h with ⟨more, hmore⟩
  have hlength := congrArg String.length hmore
  rw [String.length_append, String.length_append] at hlength
  have hdot : ".".length = 1 := rfl
  omega

theorem extends_iff {path other : String} :
    Extends path other <-> path ≠ other ∧ keysOf path <+: keysOf other := by
  rw [keysOf_prefix_iff]
  constructor
  · intro h
    refine ⟨?_, Or.inr h⟩
    intro heq
    rw [heq] at h
    exact not_extends_self other h
  · intro h
    exact h.2.resolve_left h.1

instance (path other : String) : Decidable (Extends path other) :=
  decidable_of_iff' _ extends_iff

theorem apart_iff {path other : String} :
    Apart (segments path) (segments other) <->
      path ≠ other ∧ ¬ Extends path other ∧ ¬ Extends other path := by
  unfold Apart
  rw [segments_eq_keysOf, segments_eq_keysOf, keysOf_prefix_iff, keysOf_prefix_iff, not_or, not_or]
  constructor
  · intro h
    exact ⟨h.1.1, h.1.2, h.2.2⟩
  · intro h
    exact ⟨⟨h.1, h.2.1⟩, Ne.symm h.1, h.2.2⟩

/-- The paths of any two steps differ, and neither goes on behind the other. -/
def Part (steps : List Step) : Prop :=
  steps.Pairwise fun step other =>
    step.1 ≠ other.1 ∧ ¬ Extends step.1 other.1 ∧ ¬ Extends other.1 step.1

theorem part_iff {steps : List Step} : Part steps <-> (ofSteps steps).Parts := by
  unfold Part Parts
  simp only [entries_ofSteps, apart_iff]

theorem Part.at?_of_set {steps : List Step} (h : Part steps) {path : String} {value : Json}
    (hmem : (path, some value) ∈ steps) :
    at? (keysOf path) (ofSteps steps).values = some value := by
  rw [← segments_eq_keysOf]
  exact (part_iff.mp h).at?_of_set (by rwa [entries_ofSteps])

/-! ## Keys of the values -/

theorem hasKeys_place {keys under : List String} {value root : Json}
    (h : HasKeys keys (place under value root)) :
    keys <+: under ∨ (exists more, keys = under ++ more ∧ HasKeys more value) ∨
      HasKeys keys root := by
  induction under generalizing keys root with
  | nil => exact Or.inr (Or.inl ⟨keys, rfl, h⟩)
  | cons key rest ih =>
      cases keys with
      | nil => exact Or.inl List.nil_prefix
      | cons first more =>
          rcases h with ⟨child, hchild, hmore⟩
          rw [members_place] at hchild
          rcases Keyed.mem_of_mem_insert hchild with hnew | hold
          · cases hnew
            rcases ih hmore with hprefix | ⟨later, heq, hlater⟩ | hroot
            · exact Or.inl (List.cons_prefix_cons.mpr ⟨rfl, hprefix⟩)
            · exact Or.inr (Or.inl ⟨later, by rw [heq, List.cons_append], hlater⟩)
            · -- The keys were there before, unless the key has just been opened.
              cases hfound : root.get? key with
              | none =>
                  rw [hfound] at hroot
                  rw [hasKeys_empty hroot]
                  exact Or.inl (List.cons_prefix_cons.mpr ⟨rfl, List.nil_prefix⟩)
              | some old =>
                  rw [hfound] at hroot
                  rw [get?_eq_find?] at hfound
                  exact Or.inr (Or.inr ⟨old, Keyed.mem_of_find?_eq_some hfound, hroot⟩)
          · exact Or.inr (Or.inr ⟨child, hold, hmore⟩)

/-- The keys lie on the way to a value that was set, or go on inside it. -/
def Follows (steps : List Step) (keys : List String) : Prop :=
  exists path value, (path, some value) ∈ steps ∧
    (keys <+: keysOf path ∨ exists more, keys = keysOf path ++ more ∧ HasKeys more value)

theorem hasKeys_foldl {steps : List Step} {keys : List String} {root : Json}
    (h : HasKeys keys (steps.foldl placeEntry root)) :
    Follows steps keys ∨ HasKeys keys root := by
  induction steps generalizing root with
  | nil => exact Or.inr h
  | cons step rest ih =>
      rcases step with ⟨path, value⟩
      rcases ih h with ⟨path', value', hmem, hkeys⟩ | hroot
      · exact Or.inl ⟨path', value', List.mem_cons_of_mem _ hmem, hkeys⟩
      · cases value with
        | none => exact Or.inr hroot
        | some value =>
            have hplace : HasKeys keys (place (keysOf path) value root) := by
              rw [← segments_eq_keysOf]
              exact hroot
            rcases hasKeys_place hplace with hprefix | hinside | hbefore
            · exact Or.inl ⟨path, value, List.mem_cons_self, Or.inl hprefix⟩
            · exact Or.inl ⟨path, value, List.mem_cons_self, Or.inr hinside⟩
            · exact Or.inr hbefore

theorem hasKeys_values_iff {steps : List Step} (h : Part steps) {keys : List String}
    (hne : keys ≠ []) :
    HasKeys keys (ofSteps steps).values <-> Follows steps keys := by
  constructor
  · intro hkeys
    rw [values_ofSteps] at hkeys
    rcases hasKeys_foldl hkeys with hfollows | hempty
    · exact hfollows
    · exact absurd (hasKeys_empty hempty) hne
  · intro hfollows
    rcases hfollows with ⟨path, value, hmem, hkeys⟩
    have hvalue := h.at?_of_set hmem
    rcases hkeys with ⟨more, hmore⟩ | ⟨more, hmore, hinside⟩
    · have hall : HasKeys (keys ++ more) (ofSteps steps).values := by
        rw [hmore]
        exact hasKeys_of_at?_eq_some hvalue
      exact hall.of_append
    · rw [hmore]
      exact hasKeys_of_at? hvalue hinside

/-! ## The order of the steps -/

theorem placeEntry_comm {step other : Step}
    (h : Apart (segments step.1) (segments other.1)) (root : Json) :
    placeEntry (placeEntry root step) other = placeEntry (placeEntry root other) step := by
  rcases step with ⟨path, value⟩
  rcases other with ⟨path', value'⟩
  cases value with
  | none => rfl
  | some value =>
      cases value' with
      | none => rfl
      | some value' => exact (place_comm h value value' root).symm

theorem values_of_perm {steps other : List Step} (h : Part steps) (hperm : other.Perm steps) :
    (ofSteps other).values = (ofSteps steps).values := by
  rw [values_ofSteps, values_ofSteps]
  apply hperm.foldl_eq'
  intro step hstep step' hstep' root
  have hmem : step ∈ (ofSteps steps).entries := by
    rw [entries_ofSteps]
    exact hperm.subset hstep
  have hmem' : step' ∈ (ofSteps steps).entries := by
    rw [entries_ofSteps]
    exact hperm.subset hstep'
  rcases (part_iff.mp h).eq_or_apart hmem' hmem with heq | hapart
  · rw [heq]
  · exact placeEntry_comm hapart root

/-! ## What the steps send -/

/-- The mask lists and sends what each of the steps asks for, and nothing else. -/
structure SendsEach (mask : FieldMask) (steps : List Step) : Prop where
  listed : mask.paths.toList.splitOn ',' = steps.map (fun step => step.1.toList)
  found :
    forall path value, (path, some value) ∈ steps -> mask.values.at? (keysOf path) = some value
  cleared : forall path, (path, none) ∈ steps -> mask.values.at? (keysOf path) = none
  keys : forall keys, keys ≠ [] -> (mask.values.HasKeys keys <-> Follows steps keys)
  reordered : forall other, other.Perm steps -> (ofSteps other).values = mask.values

/--
Steps whose paths part, and have no comma in them, are listed in order between commas, and
the values hold each value that was set at its path, nothing at a path that was cleared, and
no key besides; the order of the steps does not matter to the values.
-/
theorem ofSteps_sends_each {steps : List Step} (hne : steps ≠ [])
    (hcommas : forall step, step ∈ steps -> ',' ∉ step.1.toList) (h : Part steps) :
    (ofSteps steps).SendsEach steps where
  listed := by
    rw [toList_paths_ofSteps]
    apply List.splitOn_intercalate
    · intro path hpath
      rcases List.mem_map.mp hpath with ⟨step, hstep, hpath⟩
      rw [← hpath]
      exact hcommas step hstep
    · intro hnil
      exact hne (List.map_eq_nil_iff.mp hnil)
  found := by
    intro path value hmem
    exact h.at?_of_set hmem
  cleared := by
    intro path hmem
    rw [← segments_eq_keysOf]
    exact (part_iff.mp h).at?_of_clear (by rwa [entries_ofSteps])
  keys := by
    intro keys hkeys
    exact hasKeys_values_iff h hkeys
  reordered := by
    intro other hperm
    exact values_of_perm h hperm

/-- Two edges of a crop, an effect that is cleared, and a value that is an object itself. -/
def sampleSteps : List Step :=
  [("cropProperties.leftOffset", some (.int 1)), ("recolor", none),
    ("cropProperties.topOffset", some (.int 2)), ("link", some (.obj [("url", .str "u")]))]

theorem ofSteps_sends_each_sample :
    sampleSteps ≠ [] ∧ (forall step, step ∈ sampleSteps -> ',' ∉ step.1.toList) ∧
      Part sampleSteps ∧ (ofSteps sampleSteps).SendsEach sampleSteps := by
  have hne : sampleSteps ≠ [] := List.cons_ne_nil _ _
  have hcommas : forall step, step ∈ sampleSteps -> ',' ∉ step.1.toList := by decide
  have hpart : Part sampleSteps := by
    rw [part_iff]
    unfold Parts
    rw [entries_ofSteps]
    decide
  exact ⟨hne, hcommas, hpart, ofSteps_sends_each hne hcommas hpart⟩

end FieldMask

end DeckTools
