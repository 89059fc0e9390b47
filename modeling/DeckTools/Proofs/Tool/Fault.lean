import DeckTools.Proofs.Deck.Reference
import DeckTools.Proofs.Edit.Plan
import DeckTools.Proofs.Tool.Comment

/-!
# Faults of the input

The input is checked before the first call.  After a call a run does not blame the
input any more, except for an object that has just been fetched and turns out to be
of another type or in a state that does not allow the edit.
-/

namespace DeckTools

open Dialogue

variable {α β : Type}

/-! ## Errors that do not blame the input -/

/-- The kinds of faulty input are told by the beginning of their codes, except for three. -/
theorem ToolErrorKind.isInvalidInput_eq (kind : ToolErrorKind) :
    kind.isInvalidInput =
      ("INVALID_".toList.isPrefixOf kind.code.toList ||
        [emptyQuery, noPropertiesToModify, noObjectsSpecified].contains kind) := by
  cases kind <;> rfl

theorem ToolError.isInvalidInput_of_kind {e : ToolError} {kind : ToolErrorKind}
    (hkind : e.kind = kind) (h : kind.isInvalidInput = false) :
    e.isInvalidInput = false := by
  unfold isInvalidInput
  rw [hkind]
  exact h

/-- The error of a failed call blames the input only if it was told to. -/
theorem ApiError.isInvalidInput_toToolError {notFound failure : ToolErrorKind}
    (hnotFound : notFound.isInvalidInput = false) (hfailure : failure.isInvalidInput = false)
    (e : ApiError) :
    (e.toToolError notFound failure).isInvalidInput = false := by
  unfold toToolError
  cases e.errorClass with
  | notFound => exact hnotFound
  | forbidden => rfl
  | invalidParent => rfl
  | other => exact hfailure

theorem CopyPresentation.isInvalidInput_failure (folder : Option String) (e : ApiError) :
    (failure folder e).isInvalidInput = false := by
  unfold failure
  cases folder with
  | none => exact e.isInvalidInput_toToolError rfl rfl
  | some folder =>
      dsimp only
      split
      case isTrue => rfl
      case isFalse => exact e.isInvalidInput_toToolError rfl rfl

theorem isInvalidInput_missingInBatch (e : ApiError) :
    (missingInBatch e).isInvalidInput = false := by
  unfold missingInBatch
  split <;> rfl

theorem locate_error {deck : Deck} {objectId : String} {e : ToolError}
    (h : locate deck objectId = .error e) :
    e.kind = .objectNotFound := by
  unfold locate at h
  split at h
  case h_1 => cases h
  case h_2 =>
      cases h
      rfl

theorem DeleteObjects.partition_error {order : DeleteObjects} {deck : Deck} {e : ToolError}
    (h : order.partition deck = .error e) :
    e.kind = .objectNotFound := by
  unfold partition at h
  dsimp only at h
  split at h
  case isTrue =>
      cases h
      rfl
  case isFalse => cases h

theorem ReplaceImage.target_error {order : ReplaceImage} {deck : Deck} {e : ToolError}
    (h : order.target deck = .error e) :
    e.kind = .objectNotFound ∨ e.kind = .invalidObjectType := by
  unfold target at h
  rcases bind_eq_error.mp h with hlocate | ⟨found, _, h⟩
  · exact Or.inl (locate_error hlocate)
  · split at h
    case isTrue => cases h
    case isFalse =>
        cases h
        exact Or.inr rfl

/-- By induction on the chunks that are still to be read. -/
theorem ExportPdf.readCapped_error {limit : Nat} {body : List UInt8}
    {chunks : List (Except ApiError (List UInt8))} {e : ToolError}
    (h : readCapped limit body chunks = .error e) :
    e.kind = .exportFailed := by
  induction chunks generalizing body with
  | nil => cases h
  | cons chunk rest ih =>
      cases chunk with
      | error cause =>
          cases h
          rfl
      | ok bytes =>
          unfold readCapped at h
          split at h
          case isTrue =>
              cases h
              rfl
          case isFalse => exact ih h

theorem Translate.targets_error {deck : Deck} {scope : Scope} {includeNotes : Bool}
    {e : ToolError} (h : targets deck scope includeNotes = .error e) :
    e.kind = .slideNotFound ∨ e.kind = .objectNotFound := by
  cases scope with
  | presentation => cases h
  | slide slide => exact Or.inl (SlideRef.resolve_error (map_eq_error.mp h))
  | object objectId => exact Or.inr (locate_error (map_eq_error.mp h))

theorem Translate.isInvalidInput_someTargets {deck : Deck} {order : Translate}
    {e : ToolError} (h : someTargets deck order = .error e) :
    e.isInvalidInput = false := by
  unfold someTargets at h
  rcases bind_eq_error.mp h with htargets | ⟨found, _, h⟩
  · rcases targets_error htargets with hkind | hkind
    · exact ToolError.isInvalidInput_of_kind hkind rfl
    · exact ToolError.isInvalidInput_of_kind hkind rfl
  · split at h
    case isTrue =>
        cases h
        rfl
    case isFalse => cases h

theorem Translate.checkCount_error {texts translations : List String} {e : ToolError}
    (h : checkCount texts translations = .error e) :
    e.kind = .translateFailed := by
  unfold checkCount at h
  split at h
  case isTrue => cases h
  case isFalse =>
      cases h
      rfl

/-! ## When a run may blame the input -/

/-- An error does not blame the input. -/
def Blameless (_turns : Turns) (outcome : Outcome ToolError α) : Prop :=
  forall e, outcome = .error e -> e.isInvalidInput = false

/-- An error that blames the input is about an object, and no call comes before it. -/
def FaultsAtOnce (turns : Turns) (outcome : Outcome ToolError α) : Prop :=
  forall e, outcome = .error e -> e.isInvalidInput = true ->
    (e.kind = .invalidObjectType ∨ e.kind = .invalidObjectState) ∧ turns = []

/--
A call is made, and an error that blames the input is about an object in the
presentation that was fetched by the only call.
-/
structure FaultsEarly (turns : Turns) (outcome : Outcome ToolError α) : Prop where
  asked : turns ≠ []
  faults :
    forall e, outcome = .error e -> e.isInvalidInput = true ->
      (e.kind = .invalidObjectType ∨ e.kind = .invalidObjectState) ∧
        exists id, turns.map Turn.call = [.getPresentation id]

theorem Blameless.faultsAtOnce {turns : Turns} {outcome : Outcome ToolError α}
    (h : Blameless turns outcome) :
    FaultsAtOnce turns outcome := by
  intro e he hinvalid
  rw [h e he] at hinvalid
  cases hinvalid

theorem Blameless.faultsEarly {turns : Turns} {outcome : Outcome ToolError α}
    (hasked : turns ≠ []) (h : Blameless turns outcome) :
    FaultsEarly turns outcome where
  asked := hasked
  faults := by
    intro e he hinvalid
    rw [h e he] at hinvalid
    cases hinvalid

theorem blameless_value (turns : Turns) (value : α) :
    Blameless turns (.value value) := by
  intro e he
  cases he

theorem blameless_error (turns : Turns) {e : ToolError} (h : e.isInvalidInput = false) :
    Blameless turns (.error e : Outcome ToolError α) := by
  intro other hother
  cases hother
  exact h

/-! ## Steps that do not blame the input -/

section Steps

variable {call : Call} {onError : ApiError -> ToolError}

theorem blameless_call_bind {rest : call.Reply -> Run β}
    (honError : forall e, (onError e).isInvalidInput = false)
    (hrest : forall reply, (rest reply).Ensures Blameless) :
    (Remote.call call onError >>= rest).Ensures Blameless := by
  rw [ensures_call_bind]
  constructor
  · intro e
    exact blameless_error _ (honError e)
  · intro reply
    exact hrest reply

theorem blameless_ofExcept_bind {checked : Except ToolError α} {rest : α -> Run β}
    (hchecked : forall e, checked = .error e -> e.isInvalidInput = false)
    (hrest : forall value, checked = .ok value -> (rest value).Ensures Blameless) :
    (Dialogue.ofExcept checked >>= rest).Ensures Blameless := by
  rw [ensures_ofExcept_bind]
  constructor
  · intro e he
    exact blameless_error _ (hchecked e he)
  · exact hrest

theorem blameless_uploadImage_bind {job : Job} {image : ImagePayload}
    {rest : Completion FileRef -> Run β}
    (hrest : forall upload, (rest upload).Ensures Blameless) :
    (uploadImage job image >>= rest).Ensures Blameless := by
  rw [ensures_uploadImage_bind]
  refine ⟨?_, ?_, ?_⟩
  · intro e
    exact blameless_error _ (e.isInvalidInput_toToolError rfl rfl)
  · intro file
    exact hrest _
  · intro file e
    exact hrest _

theorem blameless_submit_bind {id : String} {requests : List Edit} {failure : ToolErrorKind}
    {report : BatchReply -> β} (hfailure : failure.isInvalidInput = false) :
    (submit id requests failure >>= fun reply => .done (report reply)).Ensures Blameless := by
  apply blameless_call_bind
  · intro e
    exact e.isInvalidInput_toToolError (isInvalidInput_missingInBatch e) hfailure
  · intro reply
    exact blameless_value _ _

theorem faultsAtOnce_ofExcept_bind {checked : Except ToolError α} {rest : α -> Run β}
    (hchecked : forall e, checked = .error e -> e.isInvalidInput = true ->
      e.kind = .invalidObjectType ∨ e.kind = .invalidObjectState)
    (hrest : forall value, checked = .ok value -> (rest value).Ensures FaultsAtOnce) :
    (Dialogue.ofExcept checked >>= rest).Ensures FaultsAtOnce := by
  rw [ensures_ofExcept_bind]
  constructor
  · intro e he other hother hinvalid
    cases hother
    exact ⟨hchecked e he hinvalid, rfl⟩
  · exact hrest

/-- A check before the rest of a run that does not blame the input. -/
theorem faultsAtOnce_of_blameless {checked : Except ToolError α} {rest : α -> Run β}
    (hchecked : forall e, checked = .error e -> e.isInvalidInput = false)
    (hrest : forall value, checked = .ok value -> (rest value).Ensures Blameless) :
    (Dialogue.ofExcept checked >>= rest).Ensures FaultsAtOnce := by
  apply (blameless_ofExcept_bind hchecked hrest).mono
  intro turns outcome h
  exact h.faultsAtOnce

/-- A first call after which the input is not blamed. -/
theorem faultsEarly_call_bind {rest : call.Reply -> Run β}
    (honError : forall e, (onError e).isInvalidInput = false)
    (hrest : forall reply, (rest reply).Ensures Blameless) :
    (Remote.call call onError >>= rest).Ensures FaultsEarly := by
  rw [ensures_call_bind]
  constructor
  · intro e
    exact (blameless_error _ (honError e)).faultsEarly (List.cons_ne_nil _ _)
  · intro reply
    apply (hrest reply).mono
    intro later outcome hlater
    exact Blameless.faultsEarly (List.cons_ne_nil _ _) hlater

/-- A presentation is fetched first, and what is found in it may be at fault. -/
theorem faultsEarly_fetch_bind {id : String} {rest : Deck -> Run β}
    (hrest : forall deck, (rest deck).Ensures FaultsAtOnce) :
    (fetch id >>= rest).Ensures FaultsEarly := by
  unfold fetch
  rw [ensures_call_bind]
  constructor
  · intro e
    apply (blameless_error _ _).faultsEarly (List.cons_ne_nil _ _)
    exact e.isInvalidInput_toToolError rfl rfl
  · intro deck
    apply (hrest deck).mono
    intro later outcome hlater
    refine ⟨List.cons_ne_nil _ _, ?_⟩
    intro e he hinvalid
    rcases hlater e he hinvalid with ⟨hkind, hnil⟩
    rw [hnil]
    exact ⟨hkind, id, rfl⟩

end Steps

end DeckTools
