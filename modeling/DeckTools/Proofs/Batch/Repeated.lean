import DeckTools.Proofs.Batch.Steps

/-!
# Several steps on one path

A path may be set and cleared more than once.  The value that stays is the last one that was
set, for a step that clears only lists its path and takes no value back.  So a path that is
cleared in the end is sent without a value only if it was never given one.
-/

namespace DeckTools

namespace FieldMask

open Json

/-! ## The last value -/

def Step.given? (path : String) (step : Step) : Option Json :=
  if step.1 = path then step.2 else none

def given (path : String) (steps : List Step) : List Json :=
  steps.filterMap (Step.given? path)

theorem given_eq_nil_iff {path : String} {steps : List Step} :
    given path steps = [] <-> forall step, step ∈ steps -> step.1 = path -> step.2 = none := by
  unfold given Step.given?
  rw [List.filterMap_eq_nil_iff]
  simp only [ite_eq_right_iff]

/-- Where a step is on another path, neither path leads along the other. -/
def OthersApart (path : String) (steps : List Step) : Prop :=
  forall step, step ∈ steps -> ¬ Extends step.1 path ∧ ¬ Extends path step.1

instance (path : String) (steps : List Step) : Decidable (OthersApart path steps) :=
  inferInstanceAs (Decidable (forall step, step ∈ steps -> _))

theorem at?_placeEntry {path : String} {step : Step}
    (h : ¬ Extends step.1 path ∧ ¬ Extends path step.1) (root : Json) :
    at? (segments path) (placeEntry root step) =
      (step.given? path).or (at? (segments path) root) := by
  rcases step with ⟨other, value⟩
  cases value with
  | none =>
      unfold Step.given?
      rw [ite_self]
      rfl
  | some value =>
      unfold Step.given?
      dsimp only
      by_cases hsame : other = path
      · rw [hsame, if_pos rfl]
        exact at?_place_self (segments path) value root
      · rw [if_neg hsame]
        exact at?_place_of_apart (apart_iff.mpr ⟨hsame, h⟩) value root

/-- By induction on the steps: a value that is given replaces what was there before. -/
theorem at?_foldl_placeEntry {path : String} {steps : List Step} (h : OthersApart path steps)
    (root : Json) :
    at? (segments path) (steps.foldl placeEntry root) =
      (given path steps).getLast?.or (at? (segments path) root) := by
  induction steps generalizing root with
  | nil => rfl
  | cons step rest ih =>
      have hrest : OthersApart path rest :=
        fun other hother => h other (List.mem_cons_of_mem step hother)
      rw [List.foldl_cons, ih hrest, at?_placeEntry (h step List.mem_cons_self)]
      unfold given
      cases hgiven : step.given? path with
      | none => rw [List.filterMap_cons_none hgiven, Option.none_or]
      | some value =>
          rw [List.filterMap_cons_some hgiven, List.getLast?_cons]
          cases (rest.filterMap (Step.given? path)).getLast? <;> rfl

theorem at?_values_ofSteps {path : String} {steps : List Step} (h : OthersApart path steps) :
    at? (keysOf path) (ofSteps steps).values = (given path steps).getLast? := by
  rw [values_ofSteps, ← segments_eq_keysOf, at?_foldl_placeEntry h,
    at?_empty (segments_ne_nil path), Option.or_none]

/-! ## Cleared paths -/

/-- The parts of a path between commas stand in a row among those of a listing. -/
def ListedIn (path listing : String) : Prop :=
  path.toList.splitOn ',' <:+: listing.toList.splitOn ','

theorem listedIn_paths {path : String} {steps : List Step} (h : path ∈ steps.map Prod.fst) :
    ListedIn path (ofSteps steps).paths := by
  have hmem : path.toList ∈ steps.map (fun step => step.1.toList) := by
    rcases List.mem_map.mp h with ⟨step, hstep, hpath⟩
    exact List.mem_map.mpr ⟨step, hstep, congrArg String.toList hpath⟩
  unfold ListedIn
  rw [toList_paths_ofSteps, Text.splitOn_intercalate_eq_flatMap (List.ne_nil_of_mem hmem)]
  rcases List.append_of_mem hmem with ⟨before, after, hsplit⟩
  rw [hsplit, List.flatMap_append, List.flatMap_cons, ← List.append_assoc]
  exact List.infix_append _ _ _

section Cleared

variable {before after : List Step} {path : String}

theorem OthersApart.insert_clear (h : OthersApart path (before ++ after)) :
    OthersApart path (before ++ (path, none) :: after) := by
  intro step hstep
  rcases List.mem_append.mp hstep with hbefore | hrest
  · exact h step (List.mem_append_left after hbefore)
  · rcases List.mem_cons.mp hrest with hself | hafter
    · rw [hself]
      exact ⟨not_extends_self path, not_extends_self path⟩
    · exact h step (List.mem_append_right before hafter)

theorem given_insert_clear (hlast : forall step, step ∈ after -> step.1 ≠ path) :
    given path (before ++ (path, none) :: after) = given path before := by
  have hrest : given path ((path, none) :: after) = [] := by
    rw [given_eq_nil_iff]
    intro step hstep hpath
    rcases List.mem_cons.mp hstep with hself | hafter
    · rw [hself]
    · exact absurd hpath (hlast step hafter)
  unfold given at hrest ⊢
  rw [List.filterMap_append, hrest, List.append_nil]

/--
A path whose last step clears it is listed, but it is sent with the last value that it was
given before, if there is one; it is sent without a value just if it never was given any.
-/
theorem values_of_cleared (hothers : OthersApart path (before ++ after))
    (hlast : forall step, step ∈ after -> step.1 ≠ path) :
    ListedIn path (ofSteps (before ++ (path, none) :: after)).paths ∧
    at? (keysOf path) (ofSteps (before ++ (path, none) :: after)).values =
      (given path before).getLast? ∧
    (at? (keysOf path) (ofSteps (before ++ (path, none) :: after)).values = none <->
      forall step, step ∈ before -> step.1 = path -> step.2 = none) := by
  have hvalue : at? (keysOf path) (ofSteps (before ++ (path, none) :: after)).values =
      (given path before).getLast? := by
    rw [at?_values_ofSteps hothers.insert_clear, given_insert_clear hlast]
  refine ⟨listedIn_paths ?_, hvalue, ?_⟩
  · rw [List.map_append, List.map_cons]
    exact List.mem_append_right _ List.mem_cons_self
  · rw [hvalue, List.getLast?_eq_none_iff, given_eq_nil_iff]

end Cleared

/-- An effect that is set, then cleared between two steps on other paths. -/
theorem values_of_cleared_recolor :
    let before : List Step := [("recolor", some (.str "SEPIA")), ("link.url", some (.str "u"))]
    let after : List Step := [("brightness", none)]
    OthersApart "recolor" (before ++ after) ∧
    (forall step, step ∈ after -> step.1 ≠ "recolor") ∧
    ListedIn "recolor" (ofSteps (before ++ ("recolor", none) :: after)).paths ∧
    at? (keysOf "recolor") (ofSteps (before ++ ("recolor", none) :: after)).values =
      some (.str "SEPIA") := by
  intro before after
  have hothers : OthersApart "recolor" (before ++ after) := by decide
  have hlast : forall step, step ∈ after -> step.1 ≠ "recolor" := by decide
  have hsent := values_of_cleared hothers hlast
  exact ⟨hothers, hlast, hsent.1, hsent.2.1⟩

/-- A value that was set is sent although its path is cleared afterwards. -/
theorem cleared_path_sends_value :
    OthersApart "recolor" [("recolor", some (.str "SEPIA"))] ∧
    at? (keysOf "recolor")
      (ofSteps [("recolor", some (.str "SEPIA")), ("recolor", none)]).values =
        some (.str "SEPIA") :=
  ⟨by decide, rfl⟩

end FieldMask

end DeckTools
