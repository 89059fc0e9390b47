/-!
# Occurrences of one list in another

`occursIn` looks for a contiguous occurrence; `splitOnce` cuts at the first one.
The words of a list are its maximal runs of accepted elements together with the
empty runs between adjacent separators.
-/

namespace DeckTools
namespace Text

def occursIn {α : Type} [BEq α] (needle : List α) : List α -> Bool
  | [] => needle.isEmpty
  | c :: rest => needle.isPrefixOf (c :: rest) || occursIn needle rest

def contains (s needle : String) : Bool :=
  occursIn needle.toList s.toList

def dropStart? {α : Type} [BEq α] (start cs : List α) : Option (List α) :=
  if start.isPrefixOf cs then some (cs.drop start.length) else none

/-- Cut at the first occurrence of `separator`, which neither part keeps. -/
def splitOnce {α : Type} [BEq α] (separator : List α) :
    List α -> Option (List α × List α)
  | [] => if separator.isEmpty then some ([], []) else none
  | c :: rest =>
      match dropStart? separator (c :: rest) with
      | some after => some ([], after)
      | none => (splitOnce separator rest).map (fun cut => (c :: cut.1, cut.2))

/-- The runs of accepted elements between separators, empty ones included. -/
def words {α : Type} (accepts : α -> Bool) : List α -> List (List α)
  | [] => [[]]
  | c :: rest =>
      match words accepts rest with
      | [] => [[]]
      | first :: others =>
          if accepts c then (c :: first) :: others else [] :: first :: others

def dropFinalNewline (s : String) : String :=
  match s.toList.reverse with
  | '\n' :: rest => String.ofList rest.reverse
  | _ => s

/-! ## Beginnings -/

theorem dropStart?_eq_some_iff {α : Type} [BEq α] [LawfulBEq α] {start cs rest : List α} :
    dropStart? start cs = some rest ↔ cs = start ++ rest := by
  unfold dropStart?
  constructor
  · intro h
    split at h
    case isTrue hstart =>
        rcases List.isPrefixOf_iff_prefix.mp hstart with ⟨after, rfl⟩
        rw [← Option.some.inj h, List.drop_left]
    case isFalse => cases h
  · intro h
    subst h
    rw [if_pos (List.isPrefixOf_iff_prefix.mpr (List.prefix_append start rest)), List.drop_left]

end Text
end DeckTools
