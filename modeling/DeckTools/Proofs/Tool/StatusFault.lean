import DeckTools.Proofs.Tool.Report

/-!
# Faults that the status tells

With a status other than 400 and 404 a failed call means the same whatever the service
says about it, and wherever the call was made: 401 and 403 deny access, and every other
status is a failure of what was tried.  Only words about a parent folder are looked for
before the status, and they hide it.
-/

namespace DeckTools

open Dialogue

/-! ## Errors with a clear status -/

/-- The status says by itself what a failure means; 400 and 404 leave it open. -/
def IsClear (code : Nat) : Prop :=
  code ≠ 400 ∧ code ≠ 404

instance (code : Nat) : Decidable (IsClear code) :=
  inferInstanceAs (Decidable (_ ∧ _))

/-- Whether a status denies access. -/
def DeniesAccess (code : Nat) : Prop :=
  code = 401 ∨ code = 403

instance (code : Nat) : Decidable (DeniesAccess code) :=
  inferInstanceAs (Decidable (_ ∨ _))

namespace ApiError

instance (e : ApiError) : Decidable e.NamesParent :=
  inferInstanceAs (Decidable (_ = true))

/-- The class of an error with a clear status. -/
def classByStatus (e : ApiError) (code : Nat) : ApiErrorClass :=
  if e.NamesParent then .invalidParent
  else if DeniesAccess code then .forbidden
  else .other

/-- The report of an error with a clear status, where `failure` is the kind of a plain failure. -/
def reportByStatus (e : ApiError) (code : Nat) (failure : ToolErrorKind) : ToolError where
  kind :=
    if e.NamesParent then .folderNotFound
    else if DeniesAccess code then .accessDenied
    else failure
  detail := e.describe

section Clear

variable {e : ApiError} {code : Nat}

theorem errorClass_of_status (hstatus : e.status = some code) (hclear : IsClear code) :
    e.errorClass = e.classByStatus code := by
  unfold errorClass classByStatus
  dsimp only
  rw [hstatus]
  by_cases hparent : e.NamesParent
  · rw [if_pos hparent]
    exact if_pos hparent
  · rw [if_neg hparent]
    refine (if_neg hparent).trans ?_
    split
    case h_1 heq => exact absurd (Option.some.inj heq) hclear.2
    case h_2 heq => exact (if_pos (Or.inl (Option.some.inj heq))).symm
    case h_3 heq => exact (if_pos (Or.inr (Option.some.inj heq))).symm
    case h_4 heq => exact absurd (Option.some.inj heq) hclear.1
    case h_5 heq => cases heq
    case h_6 h401 h403 _ heq =>
        cases heq
        exact (if_neg (not_or_intro h401 h403)).symm

theorem toToolError_of_status (hstatus : e.status = some code) (hclear : IsClear code)
    (notFound failure : ToolErrorKind) :
    e.toToolError notFound failure = e.reportByStatus code failure := by
  unfold toToolError reportByStatus
  rw [errorClass_of_status hstatus hclear]
  unfold classByStatus
  by_cases hparent : e.NamesParent
  · rw [if_pos hparent, if_pos hparent]
  · by_cases hdenies : DeniesAccess code
    · rw [if_neg hparent, if_neg hparent, if_pos hdenies, if_pos hdenies]
    · rw [if_neg hparent, if_neg hparent, if_neg hdenies, if_neg hdenies]

end Clear

end ApiError

/-- The message of a copy matters only where something is missing. -/
theorem CopyPresentation.failure_of_status {e : ApiError} {code : Nat}
    (hstatus : e.status = some code) (hclear : IsClear code) (folder : Option String) :
    failure folder e = e.reportByStatus code .copyFailed := by
  have hplain := ApiError.toToolError_of_status hstatus hclear .sourceNotFound .copyFailed
  have hclass : e.errorClass ≠ .notFound := by
    rw [ApiError.errorClass_of_status hstatus hclear]
    unfold ApiError.classByStatus
    split
    case isTrue => simp
    case isFalse => split <;> simp
  unfold failure
  cases folder with
  | none => exact hplain
  | some folder =>
      dsimp only
      rw [if_neg (fun hnamed => hclass hnamed.1)]
      exact hplain

/-! ## Call sites -/

/--
The kind of a plain failure of a call, where `edit` is that of a batch.  The presentation
service and the comments have no kind of their own, and follow-ups end no run.
-/
def CallKind.failureKind (edit : ToolErrorKind) : CallKind -> ToolErrorKind
  | batchUpdate => edit
  | createPresentation => .createFailed
  | uploadFile => .uploadFailed
  | copyFile => .copyFailed
  | exportFile => .exportFailed
  | translate => .translateFailed
  | _ => .serviceError

theorem Call.report_of_status {e : ApiError} {code : Nat} (hstatus : e.status = some code)
    (hclear : IsClear code) (edit : ToolErrorKind) (call : Call) :
    call.report edit e = e.reportByStatus code (call.kind.failureKind edit) := by
  unfold Call.report
  cases call with
  | copyFile source name folder =>
      exact CopyPresentation.failure_of_status hstatus hclear folder
  | _ => exact ApiError.toToolError_of_status hstatus hclear _ _

/-- A call that fails with a clear status, and is no follow-up, ends the run as it says. -/
def ToldByStatus {α : Type} (edit : ToolErrorKind) (turns : Turns)
    (outcome : Outcome ToolError α) : Prop :=
  forall turn e code, turn ∈ turns -> turn.Breaks e -> e.status = some code -> IsClear code ->
    outcome = .error (e.reportByStatus code (turn.call.kind.failureKind edit))

theorem Tool.ensures_toldByStatus {settings : ToolSettings} {tool : Tool}
    (htool : tool ∈ Tool.all settings) (job : Job) (params : Json) :
    (tool.run job params).Ensures (ToldByStatus tool.editFailure) := by
  apply (Tool.ensures_endsAsReported htool job params).mono
  intro turns outcome hended turn e code hturn hbreaks hstatus hclear
  rw [hended turn e hturn (.answer hbreaks), Turn.report_of_breaks hbreaks,
    Call.report_of_status hstatus hclear]

/--
A clear status tells the class of an error, the report at a call site, and how a run ends
in which a call that is no follow-up was answered with the error, whatever else the message
and the reason say, unless their words are about a parent folder: those hide the status.
-/
theorem Tool.run_of_clear_status {e : ApiError} {code : Nat} (hstatus : e.status = some code)
    (hclear : IsClear code) :
    e.errorClass = e.classByStatus code ∧
    (forall notFound failure, e.toToolError notFound failure = e.reportByStatus code failure) ∧
    forall (settings : ToolSettings) (tool : Tool), tool ∈ Tool.all settings ->
      forall (job : Job) (params : Json) (σ : Type)
        (answer : (call : Call) -> σ -> call.Answer × σ) (state : σ)
        (turn : Turn Call Call.Answer),
        turn ∈ ((tool.run job params).hold answer state).turns -> turn.Breaks e ->
          ((tool.run job params).hold answer state).outcome =
            .error (e.reportByStatus code (turn.call.kind.failureKind tool.editFailure)) := by
  refine ⟨ApiError.errorClass_of_status hstatus hclear,
    ApiError.toToolError_of_status hstatus hclear, ?_⟩
  intro settings tool htool job params σ answer state turn hturn hbreaks
  have htold := (Tool.ensures_toldByStatus htool job params).hold answer state
  exact htold turn e code hturn hbreaks hstatus hclear

def ApiError.sampleRefusal : ApiError :=
  { status := some 403, message := "The caller does not have permission", reason := none }

/-- A search of a presentation that must not be read. -/
theorem Tool.run_of_clear_status_searchText :
    ApiError.sampleRefusal.status = some 403 ∧ IsClear 403 ∧
      ApiError.sampleRefusal.errorClass = .forbidden ∧
      (((Tool.searchText 0).run Job.sample (SearchText.sampleParams "deck")).hold
        Rehearsal.answer
        ((Rehearsal.start Rehearsal.sampleDeck).failAlways .getPresentation
          .sampleRefusal)).outcome =
        .error
          { kind := .accessDenied
            detail := "HTTP 403: The caller does not have permission" } := by
  have hclear : IsClear 403 := by decide
  have hstatus : ApiError.sampleRefusal.status = some 403 := rfl
  have hparent : ¬ ApiError.sampleRefusal.NamesParent := by decide +kernel
  have htold := Tool.run_of_clear_status hstatus hclear
  refine ⟨hstatus, hclear, ?_, ?_⟩
  · rw [htold.1, ApiError.classByStatus, if_neg hparent]
    rfl
  · have htool : Tool.searchText 0 ∈ Tool.all { exportMaxBytes := 0, searchContext := 0 } := by
      simp [Tool.all]
    have hended := htold.2.2 _ _ htool Job.sample (SearchText.sampleParams "deck") _
      Rehearsal.answer
      ((Rehearsal.start Rehearsal.sampleDeck).failAlways .getPresentation .sampleRefusal)
      ⟨.getPresentation "deck", .error .sampleRefusal⟩ List.mem_cons_self ⟨rfl, rfl⟩
    rw [hended, ApiError.reportByStatus, if_neg hparent]
    rfl

/-- Words about a parent folder hide that access is denied, and that the service failed. -/
theorem ApiError.parent_hides_status :
    ({ status := some 403, message := "Invalid parent", reason := none } : ApiError).errorClass =
        .invalidParent ∧
      ({ status := some 500, message := "Invalid parent", reason := none } : ApiError).errorClass =
        .invalidParent := by
  decide +kernel

end DeckTools
