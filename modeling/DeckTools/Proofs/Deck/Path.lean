import DeckTools.Proofs.Deck.Walk

/-!
# Paths to elements

A path names an element of a page by its position among the elements of the page,
then by one among the members of each group on the way down.  Paths are compared
position by position, so that a group comes before its members.
-/

namespace DeckTools

namespace Element

variable {α : Type}

def members : Element α -> List (Element α)
  | group _ members => members
  | _ => []

/-- The element at the end of a path that starts inside an element. -/
def inside? (element : Element α) : List Nat -> Option (Element α)
  | [] => some element
  | position :: path =>
      element.members[position]?.bind (fun member => member.inside? path)

/-- The element at the end of a path into a list of elements. -/
def at? (elements : List (Element α)) : List Nat -> Option (Element α)
  | [] => none
  | position :: path =>
      elements[position]?.bind (fun element => element.inside? path)

theorem inside?_leaf {element : Element α} (h : IsLeaf element) (path : List Nat) :
    element.inside? path = if path = [] then some element else none := by
  cases path with
  | nil => rfl
  | cons position path =>
      cases element with
      | group info members => exact absurd rfl (h info members)
      | _ => rfl

theorem inside?_group (info : ElementInfo α) (members : List (Element α))
    {path : List Nat} (h : path ≠ []) :
    (Element.group info members).inside? path = at? members path := by
  cases path with
  | nil => exact absurd rfl h
  | cons position path => rfl

/-!
## The paths of an outline

The outline with paths in the place of depths.
-/

mutual

/-- Every path inside an element, with the element it leads to. -/
def pathsIn : Element α -> List (List Nat × Element α)
  | group info members => ([], group info members) :: pathsAmong 0 members
  | element => [([], element)]

/-- Every path into a list of elements whose first one has the given position. -/
def pathsAmong (position : Nat) : List (Element α) -> List (List Nat × Element α)
  | [] => []
  | element :: rest =>
      (pathsIn element).map (fun entry => (position :: entry.1, entry.2)) ++
        pathsAmong (position + 1) rest

end

theorem pathsIn_leaf {element : Element α} (h : IsLeaf element) :
    pathsIn element = [([], element)] := by
  cases element with
  | group info members => exact absurd rfl (h info members)
  | _ => rfl

/-- The paths are those that lead to an element. -/
theorem mem_paths_iff :
    (forall (element : Element α) (path : List Nat) (found : Element α),
      (path, found) ∈ pathsIn element <-> element.inside? path = some found) ∧
    forall (elements : List (Element α)) (start : Nat) (path : List Nat)
      (found : Element α),
      (path, found) ∈ pathsAmong start elements <->
        exists position tail, path = (start + position) :: tail ∧
          at? elements (position :: tail) = some found := by
  apply induct
  case group =>
    intro info members ih path found
    rw [pathsIn, List.mem_cons, ih 0 path found]
    cases path with
    | nil => simp [inside?, eq_comm]
    | cons position tail =>
        rw [inside?_group info members (List.cons_ne_nil position tail)]
        constructor
        · intro h
          rcases h with hself | ⟨position', tail', hpath, hfound⟩
          · cases hself
          · rw [Nat.zero_add] at hpath
            rw [hpath]
            exact hfound
        · intro h
          exact Or.inr ⟨position, tail, by rw [Nat.zero_add], h⟩
  case leaf =>
    intro element hleaf path found
    rw [pathsIn_leaf hleaf, inside?_leaf hleaf, List.mem_singleton]
    by_cases hpath : path = []
    · simp [hpath, eq_comm]
    · simp [hpath]
  case nil =>
    intro start path found
    constructor
    · intro h
      cases h
    · intro h
      rcases h with ⟨position, tail, _, hfound⟩
      cases hfound
  case cons =>
    intro element rest ihElement ihRest start path found
    rw [pathsAmong, List.mem_append, ihRest (start + 1) path found]
    constructor
    · intro h
      rcases h with hfirst | ⟨position, tail, hpath, hfound⟩
      · rcases List.mem_map.mp hfirst with ⟨entry, hentry, heq⟩
        cases heq
        exact ⟨0, entry.1, rfl, (ihElement entry.1 entry.2).mp hentry⟩
      · exact ⟨position + 1, tail, by rw [hpath, Nat.add_right_comm, Nat.add_assoc], hfound⟩
    · intro h
      rcases h with ⟨position, tail, hpath, hfound⟩
      cases position with
      | zero =>
          apply Or.inl
          apply List.mem_map.mpr
          exact ⟨(tail, found), (ihElement tail found).mpr hfound, by rw [hpath]; rfl⟩
      | succ position =>
          apply Or.inr
          exact ⟨position, tail, by rw [hpath, Nat.add_right_comm, Nat.add_assoc], hfound⟩

theorem mem_pathsAmong_zero (elements : List (Element α)) (path : List Nat)
    (found : Element α) :
    (path, found) ∈ pathsAmong 0 elements <-> at? elements path = some found := by
  rw [mem_paths_iff.2 elements 0 path found]
  constructor
  · intro h
    rcases h with ⟨position, tail, hpath, hfound⟩
    rw [hpath, Nat.zero_add]
    exact hfound
  · intro h
    cases path with
    | nil => cases h
    | cons position tail => exact ⟨position, tail, by rw [Nat.zero_add], h⟩

theorem le_of_mem_pathsAmong {start : Nat} {elements : List (Element α)}
    {position : Nat} {tail : List Nat} {found : Element α}
    (h : (position :: tail, found) ∈ pathsAmong start elements) : start ≤ position := by
  rcases (mem_paths_iff.2 elements start _ found).mp h with ⟨offset, _, hpath, _⟩
  cases hpath
  exact Nat.le_add_right start offset

theorem ne_nil_of_mem_pathsAmong {start : Nat} {elements : List (Element α)}
    {entry : List Nat × Element α} (h : entry ∈ pathsAmong start elements) :
    entry.1 ≠ [] := by
  rcases (mem_paths_iff.2 elements start entry.1 entry.2).mp h with ⟨_, _, hpath, _⟩
  rw [hpath]
  exact List.cons_ne_nil _ _

/-- Paths are listed in increasing order. -/
theorem pathsAmong_pairwise (elements : List (Element α)) :
    (pathsAmong 0 elements).Pairwise (fun left right => left.1 < right.1) := by
  have hall :
      (forall element : Element α,
        (pathsIn element).Pairwise (fun left right => left.1 < right.1)) ∧
      forall (elements : List (Element α)) (start : Nat),
        (pathsAmong start elements).Pairwise (fun left right => left.1 < right.1) := by
    apply induct
    case group =>
      intro info members ih
      rw [pathsIn, List.pairwise_cons]
      constructor
      · intro entry hentry
        rcases List.exists_cons_of_ne_nil (ne_nil_of_mem_pathsAmong hentry) with
          ⟨position, tail, hpath⟩
        rw [hpath]
        exact List.nil_lt_cons position tail
      · exact ih 0
    case leaf =>
      intro element hleaf
      rw [pathsIn_leaf hleaf]
      exact List.pairwise_singleton _ _
    case nil =>
      intro start
      exact List.Pairwise.nil
    case cons =>
      intro element rest ihElement ihRest start
      rw [pathsAmong, List.pairwise_append]
      refine ⟨?_, ihRest (start + 1), ?_⟩
      · rw [List.pairwise_map]
        refine ihElement.imp ?_
        intro left right hlt
        exact List.cons_lt_cons_iff.mpr (Or.inr ⟨rfl, hlt⟩)
      · intro left hleft right hright
        rcases List.mem_map.mp hleft with ⟨entry, _, rfl⟩
        rcases List.exists_cons_of_ne_nil (ne_nil_of_mem_pathsAmong hright) with
          ⟨position, tail, hpath⟩
        have hright' : (position :: tail, right.2) ∈ pathsAmong (start + 1) rest := by
          rw [← hpath]
          exact hright
        have hstart : start + 1 ≤ position := le_of_mem_pathsAmong hright'
        rw [hpath]
        exact List.cons_lt_cons_iff.mpr (Or.inl hstart)
  exact hall.2 elements 0

/-- An outline counts what its paths have passed. -/
theorem outline_eq_map_paths :
    (forall (element : Element α) (depth : Nat),
      outline depth element =
        (pathsIn element).map (fun entry => (depth + entry.1.length, entry.2))) ∧
    forall (elements : List (Element α)) (start depth : Nat),
      outlineAll depth elements =
        (pathsAmong start elements).map
          (fun entry => (depth + (entry.1.length - 1), entry.2)) := by
  apply induct
  case group =>
    intro info members ih depth
    rw [outline, pathsIn, List.map_cons, ih 0 (depth + 1)]
    congr 1
    apply List.map_congr_left
    intro entry hentry
    have hlength : 0 < entry.1.length :=
      List.length_pos_iff.mpr (ne_nil_of_mem_pathsAmong hentry)
    have hdepth : depth + 1 + (entry.1.length - 1) = depth + entry.1.length := by omega
    rw [hdepth]
  case leaf =>
    intro element hleaf depth
    rw [outline_leaf hleaf, pathsIn_leaf hleaf]
    rfl
  case nil =>
    intro start depth
    rfl
  case cons =>
    intro element rest ihElement ihRest start depth
    rw [outlineAll, pathsAmong, List.map_append, List.map_map, ihElement depth,
      ihRest (start + 1) depth]
    rfl

/-- The paths that pass at most `maxDepth` groups. -/
def reachedPaths (elements : List (Element α)) : List (List Nat × Element α) :=
  (pathsAmong 0 elements).filter (fun entry => entry.1.length - 1 ≤ maxDepth)

theorem walk_eq_map_reachedPaths (elements : List (Element α)) :
    walk elements = (reachedPaths elements).map Prod.snd := by
  rw [walk, outline_eq_map_paths.2 elements 0 0, List.filter_map, List.map_map,
    reachedPaths]
  simp only [Nat.zero_add]
  rfl

theorem mem_reachedPaths (elements : List (Element α)) (path : List Nat)
    (found : Element α) :
    (path, found) ∈ reachedPaths elements <->
      at? elements path = some found ∧ path.length - 1 ≤ maxDepth := by
  rw [reachedPaths, List.mem_filter, mem_pathsAmong_zero, decide_eq_true_eq]

end Element

end DeckTools
