import DeckTools.Proofs.Tool.Commit
import DeckTools.Rehearsal.Services

/-!
# Rehearsals keep presentations

A rehearsal records every change of a presentation that it accepts, and nothing
else adds to that record.
-/

namespace DeckTools

namespace Rehearsal

/-- The changes of presentations that were accepted. -/
def changes (r : Rehearsal) : List (String × List Edit) × List String × List CopyRecord :=
  (r.decks.batches, r.decks.titles, r.files.copies)

theorem changes_count (r : Rehearsal) (kind : CallKind) :
    (r.count kind).changes = r.changes := by
  unfold count
  split
  · rfl
  · split <;> rfl

theorem changes_reply {call : Call} {r : Rehearsal} (hcall : call.kind.changesDecks = false) :
    (reply call r).2.changes = r.changes := by
  cases call with
  | batchUpdate id requests => cases hcall
  | createPresentation title => cases hcall
  | copyFile source name folder => cases hcall
  | listComments file includeDeleted pageSize token =>
      unfold reply comments
      dsimp only
      split <;> rfl
  | _ => rfl

/-- A change that reaches its service is accepted. -/
theorem exists_reply_of_changesDecks {call : Call} {r : Rehearsal}
    (hcall : call.kind.changesDecks = true) :
    exists value, (reply call r).1 = .ok value := by
  cases call with
  | batchUpdate id requests => exact ⟨_, rfl⟩
  | createPresentation title => exact ⟨_, rfl⟩
  | copyFile source name folder => exact ⟨_, rfl⟩
  | _ => cases hcall

theorem keepsDecks : KeepsDecks answer changes := by
  intro call r hunchanged
  unfold answer at hunchanged ⊢
  split
  case h_1 => rfl
  case h_2 hnext =>
      simp only [hnext] at hunchanged
      dsimp only
      split
      case h_1 => exact changes_count r call.kind
      case h_2 hfault =>
          simp only [hfault] at hunchanged
          cases hcall : call.kind.changesDecks with
          | false => rw [changes_reply hcall, changes_count]
          | true => exact absurd ⟨hcall, exists_reply_of_changesDecks hcall⟩ hunchanged

end Rehearsal

def Rehearsal.readOnly : Rehearsal :=
  (start sampleDeck).failAlways .batchUpdate (.transport "offline")

def Job.sample : Job :=
  { id := "", user := none, createdAt := 0, freshDigits := "", pageBudget := 0 }

end DeckTools
