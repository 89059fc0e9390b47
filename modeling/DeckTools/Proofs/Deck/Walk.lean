import DeckTools.Translation.Target

/-!
# What the walks look at

Each walk over the elements of a page is a recursion of its own.  All of them
look at the same elements: those of the outline that stand inside at most
`maxDepth` groups, in document order.
-/

namespace DeckTools

namespace Element

variable {α β : Type}

/-!
## Induction

Elements nest only through groups, so what holds of every other element, of a
group whose members have it, and of lists step by step, holds of all elements.
-/

def IsLeaf (element : Element α) : Prop :=
  forall (info : ElementInfo α) (members : List (Element α)), element ≠ .group info members

theorem induct {P : Element α -> Prop} {Q : List (Element α) -> Prop}
    (group : forall info members, Q members -> P (.group info members))
    (leaf : forall element, IsLeaf element -> P element)
    (nil : Q [])
    (cons : forall element rest, P element -> Q rest -> Q (element :: rest)) :
    (forall element, P element) ∧ forall elements, Q elements := by
  constructor
  · intro element
    induction element using Element.rec with
    | group info members ih => exact group info members ih
    | nil => exact nil
    | cons element rest ihElement ihRest => exact cons element rest ihElement ihRest
    | _ => exact leaf _ (by intro info members h; cases h)
  · intro elements
    induction elements using Element.rec_1 with
    | group info members ih => exact group info members ih
    | nil => exact nil
    | cons element rest ihElement ihRest => exact cons element rest ihElement ihRest
    | _ => exact leaf _ (by intro info members h; cases h)

/-! ## Reach -/

/-- The elements of an outline that stand inside at most `maxDepth` groups. -/
def reached (outline : List (Nat × Element α)) : List (Element α) :=
  (outline.filter (fun entry => entry.1 ≤ maxDepth)).map Prod.snd

theorem walk_eq_reached (elements : List (Element α)) :
    walk elements = reached (outlineAll 0 elements) := rfl

@[simp] theorem reached_nil : reached ([] : List (Nat × Element α)) = [] := rfl

@[simp] theorem reached_append (left right : List (Nat × Element α)) :
    reached (left ++ right) = reached left ++ reached right := by
  simp [reached]

theorem reached_cons_of_le {depth : Nat} (h : depth ≤ maxDepth)
    (element : Element α) (rest : List (Nat × Element α)) :
    reached ((depth, element) :: rest) = element :: reached rest := by
  simp [reached, h]

theorem outline_leaf {element : Element α} (h : IsLeaf element) (depth : Nat) :
    outline depth element = [(depth, element)] := by
  cases element with
  | group info members => exact absurd rfl (h info members)
  | _ => rfl

theorem reached_outline_leaf {element : Element α} (h : IsLeaf element)
    {depth : Nat} (hdepth : depth ≤ maxDepth) :
    reached (outline depth element) = [element] := by
  rw [outline_leaf h, reached_cons_of_le hdepth, reached_nil]

theorem reached_outline_group (info : ElementInfo α) (members : List (Element α))
    {depth : Nat} (hdepth : depth ≤ maxDepth) :
    reached (outline depth (.group info members)) =
      .group info members :: reached (outlineAll (depth + 1) members) := by
  rw [outline, reached_cons_of_le hdepth]

/-- Depths only grow on the way down. -/
theorem le_of_mem_outlineAll {depth : Nat} {elements : List (Element α)}
    {entry : Nat × Element α} (h : entry ∈ outlineAll depth elements) :
    depth ≤ entry.1 := by
  have hall :
      (forall (element : Element α) (depth : Nat) (entry : Nat × Element α),
        entry ∈ outline depth element -> depth ≤ entry.1) ∧
      forall (elements : List (Element α)) (depth : Nat) (entry : Nat × Element α),
        entry ∈ outlineAll depth elements -> depth ≤ entry.1 := by
    apply induct
    case group =>
      intro info members ih depth entry hentry
      rcases List.mem_cons.mp hentry with rfl | hmember
      · exact Nat.le_refl depth
      · exact Nat.le_of_succ_le (ih (depth + 1) entry hmember)
    case leaf =>
      intro element hleaf depth entry hentry
      rw [outline_leaf hleaf, List.mem_singleton] at hentry
      cases hentry
      exact Nat.le_refl depth
    case nil =>
      intro depth entry hentry
      cases hentry
    case cons =>
      intro element rest ihElement ihRest depth entry hentry
      rcases List.mem_append.mp hentry with hfirst | hrest
      · exact ihElement depth entry hfirst
      · exact ihRest depth entry hrest
  exact hall.2 elements depth entry h

theorem reached_outlineAll_of_lt {depth : Nat} (h : maxDepth < depth)
    (elements : List (Element α)) :
    reached (outlineAll depth elements) = [] := by
  have hnone : (outlineAll depth elements).filter
      (fun entry => entry.1 ≤ maxDepth) = [] := by
    apply List.filter_eq_nil_iff.mpr
    intro entry hentry
    have hdepth : depth ≤ entry.1 := le_of_mem_outlineAll hentry
    simp only [decide_eq_true_eq]
    omega
  rw [reached, hnone, List.map_nil]

/-!
## Gathering

A walk that gathers says what it takes from one element.  From there on a group
hands the walk to its members, one level deeper.
-/

/-- Two recursions that gather what `visit` takes from each element in reach. -/
structure Gathers (visit : Element α -> List β)
    (inside : Nat -> Element α -> List β)
    (among : Nat -> List (Element α) -> List β) : Prop where
  group : forall (depth : Nat) (info : ElementInfo α) (members : List (Element α)),
    inside depth (.group info members) =
      visit (.group info members) ++ among (depth + 1) members
  leaf : forall (depth : Nat) (element : Element α),
    IsLeaf element -> inside depth element = visit element
  nil : forall depth : Nat, among depth [] = []
  cons : forall (depth : Nat) (element : Element α) (rest : List (Element α)),
    among depth (element :: rest) =
      if maxDepth < depth then [] else inside depth element ++ among depth rest

/-- A walk that gathers visits exactly the elements in reach, in document order. -/
theorem Gathers.among_eq_flatMap {visit : Element α -> List β}
    {inside : Nat -> Element α -> List β} {among : Nat -> List (Element α) -> List β}
    (h : Gathers visit inside among) (depth : Nat) (elements : List (Element α)) :
    among depth elements = (reached (outlineAll depth elements)).flatMap visit := by
  have hall :
      (forall (element : Element α) (depth : Nat), depth ≤ maxDepth ->
        inside depth element = (reached (outline depth element)).flatMap visit) ∧
      forall (elements : List (Element α)) (depth : Nat),
        among depth elements = (reached (outlineAll depth elements)).flatMap visit := by
    apply induct
    case group =>
      intro info members ih depth hdepth
      rw [h.group, ih, reached_outline_group info members hdepth, List.flatMap_cons]
    case leaf =>
      intro element hleaf depth hdepth
      rw [h.leaf depth element hleaf, reached_outline_leaf hleaf hdepth,
        List.flatMap_singleton]
    case nil =>
      intro depth
      rw [h.nil]
      rfl
    case cons =>
      intro element rest ihElement ihRest depth
      rw [h.cons]
      by_cases hdepth : maxDepth < depth
      · rw [if_pos hdepth, reached_outlineAll_of_lt hdepth]
        rfl
      · rw [if_neg hdepth, ihElement depth (Nat.le_of_not_lt hdepth), ihRest,
          outlineAll, reached_append, List.flatMap_append]
  exact hall.2 elements depth

/-! ## The walks -/

theorem gathers_ids :
    Gathers (fun element : Element α => [element.objectId]) idsIn idsAmong where
  group _ _ _ := rfl
  leaf _ element hleaf := by
    cases element with
    | group info members => exact absurd rfl (hleaf info members)
    | _ => rfl
  nil _ := rfl
  cons _ _ _ := rfl

theorem gathers_texts :
    Gathers (ownTexts : Element α -> List TextUnit) textsIn textsAmong where
  group _ _ _ := rfl
  leaf _ element hleaf := by
    cases element with
    | group info members => exact absurd rfl (hleaf info members)
    | _ => rfl
  nil _ := rfl
  cons _ _ _ := rfl

theorem gathers_targets :
    Gathers (fun element : Element α => element.ownTexts.filterMap TextTarget.ofUnit?)
      TextTarget.collectIn TextTarget.collectAmong where
  group _ _ _ := rfl
  leaf _ element hleaf := by
    cases element with
    | group info members => exact absurd rfl (hleaf info members)
    | _ => rfl
  nil _ := rfl
  cons _ _ _ := rfl

theorem ids_eq_map_walk (elements : List (Element α)) :
    ids elements = (walk elements).map objectId := by
  rw [ids, gathers_ids.among_eq_flatMap, walk_eq_reached]
  exact List.map_eq_flatMap.symm

theorem texts_eq_flatMap_walk (elements : List (Element α)) :
    texts elements = (walk elements).flatMap ownTexts := by
  rw [texts, gathers_texts.among_eq_flatMap, walk_eq_reached]

/-- The search stops at the first element in reach that has the ID. -/
theorem findAmong_eq_find? (objectId : String) (depth : Nat) (elements : List (Element α)) :
    findAmong objectId depth elements =
      (reached (outlineAll depth elements)).find?
        (fun element => element.objectId == objectId) := by
  have hall :
      (forall (element : Element α) (depth : Nat), depth ≤ maxDepth ->
        findIn objectId depth element =
          (reached (outline depth element)).find?
            (fun element => element.objectId == objectId)) ∧
      forall (elements : List (Element α)) (depth : Nat),
        findAmong objectId depth elements =
          (reached (outlineAll depth elements)).find?
            (fun element => element.objectId == objectId) := by
    apply induct
    case group =>
      intro info members ih depth hdepth
      rw [reached_outline_group info members hdepth, List.find?_cons, findIn, ih]
      show (if info.objectId == objectId then _ else _) =
        match info.objectId == objectId with | true => _ | false => _
      cases info.objectId == objectId <;> rfl
    case leaf =>
      intro element hleaf depth hdepth
      rw [reached_outline_leaf hleaf hdepth, List.find?_cons, List.find?_nil]
      cases element with
      | group info members => exact absurd rfl (hleaf info members)
      | _ info _ =>
          show (if info.objectId == objectId then _ else _) =
            match info.objectId == objectId with | true => _ | false => _
          cases info.objectId == objectId <;> rfl
    case nil =>
      intro depth
      rfl
    case cons =>
      intro element rest ihElement ihRest depth
      rw [findAmong]
      by_cases hdepth : maxDepth < depth
      · rw [if_pos hdepth, reached_outlineAll_of_lt hdepth]
        rfl
      · rw [if_neg hdepth, ihElement depth (Nat.le_of_not_lt hdepth), ihRest,
          outlineAll, reached_append, List.find?_append]
        cases (reached (outline depth element)).find?
            (fun element => element.objectId == objectId) <;> rfl
  exact hall.2 elements depth

theorem find?_eq_find?_walk (elements : List (Element α)) (objectId : String) :
    find? elements objectId =
      (walk elements).find? (fun element => element.objectId == objectId) := by
  rw [find?, findAmong_eq_find?, walk_eq_reached]

end Element

theorem TextTarget.collect_eq_flatMap_walk {α : Type} (elements : List (Element α)) :
    TextTarget.collect elements =
      (Element.walk elements).flatMap
        (fun element => element.ownTexts.filterMap TextTarget.ofUnit?) := by
  rw [TextTarget.collect, Element.gathers_targets.among_eq_flatMap, Element.walk_eq_reached]

end DeckTools
