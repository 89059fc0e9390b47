import DeckTools.Proofs.Edit.Plan
import DeckTools.Proofs.Rehearsal
import DeckTools.Proofs.Tool.Comment
import DeckTools.Proofs.Tool.Commit

/-!
# Tools change all or nothing

Each tool is taken step by step.  What a tool sends as a batch is never empty:
modifications were checked for that before the first call, deletions and translations
are right before the batch.
-/

namespace DeckTools

open Dialogue

/-! ## Images and videos -/

theorem AddImage.allOrNothing (job : Job) (order : AddImage) :
    (perform job order).Ensures AllOrNothing := by
  unfold perform fetch
  apply allOrNothing_call_bind rfl
  intro deck
  apply allOrNothing_ofExcept_bind
  intro found _
  apply allOrNothing_uploadImage_bind
  intro upload
  apply allOrNothing_submit_bind
  intro hnil
  cases hnil

theorem ReplaceImage.allOrNothing (job : Job) (order : ReplaceImage) :
    (perform job order).Ensures AllOrNothing := by
  unfold perform fetch
  apply allOrNothing_call_bind rfl
  intro deck
  apply allOrNothing_ofExcept_bind
  intro found _
  apply allOrNothing_uploadImage_bind
  intro upload
  apply allOrNothing_submit_bind
  intro hnil
  cases hnil

/-- A modification is all or nothing if no plan for it is empty. -/
theorem Modify.allOrNothing {α : Type}
    {plan : Element Float -> α -> Except ToolError (EditPlan Float)} {failure : ToolErrorKind}
    {order : Modify α}
    (hplan : forall element planned, plan element order.edit = .ok planned ->
      planned.requests ≠ []) :
    (perform plan failure order).Ensures AllOrNothing := by
  unfold perform fetch
  apply allOrNothing_call_bind rfl
  intro deck
  apply allOrNothing_ofExcept_bind
  intro found _
  apply allOrNothing_ofExcept_bind
  intro planned hplanned
  exact allOrNothing_submit_bind (hplan found.element planned hplanned)

/-! ## Objects -/

theorem DeleteObjects.existing_ne_nil {order : DeleteObjects} {deck : Deck} {parts : IdPartition}
    (h : order.partition deck = .ok parts) :
    parts.existing ≠ [] := by
  unfold partition at h
  dsimp only at h
  split at h
  case isTrue => exact absurd h failWith_ne_ok
  case isFalse hexisting =>
      cases h
      intro hnil
      apply hexisting
      rw [hnil]
      rfl

theorem DeleteObjects.allOrNothing (order : DeleteObjects) :
    (perform order).Ensures AllOrNothing := by
  unfold perform fetch
  apply allOrNothing_call_bind rfl
  intro deck
  apply allOrNothing_ofExcept_bind
  intro parts hparts
  apply allOrNothing_submit_bind
  intro hnil
  exact existing_ne_nil hparts (List.map_eq_nil_iff.mp hnil)

/-! ## Files -/

theorem CreatePresentation.allOrNothing (order : CreatePresentation) :
    (perform order).Ensures AllOrNothing := by
  unfold perform
  apply allOrNothing_commit_bind
  · intro id heq
    cases heq
  · intro deck
    rw [ensures_bind]
    apply (ensures_file deck order.folder).mono
    intro turns outcome h
    rcases h with ⟨hkinds, warnings, hvalue⟩
    rw [hvalue]
    refine ⟨?_, ?_, _, rfl⟩
    · intro hkind
      cases hkind
    · intro turn hturn
      rw [List.append_nil] at hturn
      rw [Turn.changesDecks, hkinds turn hturn]
      rfl

theorem CopyPresentation.allOrNothing (order : CopyPresentation) :
    (perform order).Ensures AllOrNothing := by
  unfold perform
  apply allOrNothing_commit_bind
  · intro id heq
    cases heq
  · intro copy
    refine ⟨?_, ?_, _, rfl⟩
    · intro hkind
      rfl
    · intro turn hturn
      cases hturn

theorem ExportPdf.allOrNothing (limit : Nat) (p : ExportParams) :
    (perform limit p).Ensures AllOrNothing := by
  unfold perform
  apply allOrNothing_call_bind rfl
  intro chunks
  apply allOrNothing_ofExcept_bind
  intro body _
  exact AllOrNothing.nil

/-! ## Texts and comments -/

theorem SearchText.allOrNothing (order : SearchText) :
    (perform order).Ensures AllOrNothing := by
  unfold perform fetch
  apply allOrNothing_call_bind rfl
  intro deck
  exact AllOrNothing.nil

theorem Translate.allOrNothing (order : Translate) :
    (perform order).Ensures AllOrNothing := by
  unfold perform fetch
  apply allOrNothing_call_bind rfl
  intro deck
  apply allOrNothing_ofExcept_bind
  intro targets _
  apply allOrNothing_call_bind rfl
  intro translations
  apply allOrNothing_ofExcept_bind
  intro _ _
  dsimp only
  split
  case isTrue => exact AllOrNothing.nil
  case isFalse hrequests =>
      apply allOrNothing_submit_bind
      intro hnil
      apply hrequests
      rw [hnil]
      rfl

theorem ListComments.allOrNothing (job : Job) (p : CommentParams) :
    (perform job p).Ensures AllOrNothing := by
  apply (perform_onlyPages job p).mono
  intro turns outcome h
  apply AllOrNothing.quiet
  intro turn hturn
  rw [Turn.changesDecks, h.kinds turn hturn]
  rfl

theorem SetTransition.allOrNothing (order : SetTransition) :
    (perform order).Ensures AllOrNothing :=
  AllOrNothing.nil

/-! ## All tools -/

theorem Tool.ensures_allOrNothing {settings : ToolSettings} {tool : Tool}
    (htool : tool ∈ Tool.all settings) (job : Job) (params : Json) :
    (tool.run job params).Ensures AllOrNothing := by
  apply Tool.cases_of_mem_all htool
  case addImage => exact allOrNothing_carryOut (fun order _ => AddImage.allOrNothing job order)
  case replaceImage =>
      exact allOrNothing_carryOut (fun order _ => ReplaceImage.allOrNothing job order)
  case modifyImage =>
      apply allOrNothing_carryOut
      intro order horder
      apply Modify.allOrNothing
      intro element planned
      exact modifyImage_ne_nil
  case modifyVideo =>
      apply allOrNothing_carryOut
      intro order horder
      apply Modify.allOrNothing
      intro element planned
      exact modifyVideo_ne_nil
  case deleteObjects =>
      exact allOrNothing_carryOut (fun order _ => DeleteObjects.allOrNothing order)
  case createPresentation =>
      exact allOrNothing_carryOut (fun order _ => CreatePresentation.allOrNothing order)
  case copyPresentation =>
      exact allOrNothing_carryOut (fun order _ => CopyPresentation.allOrNothing order)
  case exportPdf => exact allOrNothing_carryOut (fun order _ => ExportPdf.allOrNothing _ order)
  case searchText => exact allOrNothing_carryOut (fun order _ => SearchText.allOrNothing order)
  case translate => exact allOrNothing_carryOut (fun order _ => Translate.allOrNothing order)
  case listComments =>
      exact allOrNothing_carryOut (fun order _ => ListComments.allOrNothing job order)
  case setTransition =>
      exact allOrNothing_carryOut (fun order _ => SetTransition.allOrNothing order)

/--
Whatever the services answer, a run of a tool changes all or nothing.  A run that
fails made no change, and services that keep presentations by the calls that succeed
keep them as they were.
-/
theorem Tool.run_allOrNothing {settings : ToolSettings} {tool : Tool}
    (htool : tool ∈ Tool.all settings) (job : Job) (params : Json) {σ : Type}
    (answer : (call : Call) -> σ -> call.Answer × σ) (state : σ) :
    AllOrNothing ((tool.run job params).hold answer state).turns
        ((tool.run job params).hold answer state).outcome ∧
      forall e, ((tool.run job params).hold answer state).outcome = .error e ->
        (forall turn, turn ∈ ((tool.run job params).hold answer state).turns ->
          ¬ turn.ChangedDecks) ∧
        forall {γ : Type} (decks : σ -> γ), KeepsDecks answer decks ->
          decks ((tool.run job params).hold answer state).state = decks state := by
  have hrun := (Tool.ensures_allOrNothing htool job params).hold answer state
  constructor
  · exact hrun
  · intro e he
    have hunchanged : forall turn, turn ∈ ((tool.run job params).hold answer state).turns ->
        ¬ turn.ChangedDecks := by
      intro turn hturn hchanged
      rcases hrun.reported turn hturn hchanged with ⟨value, hvalue⟩
      rw [he] at hvalue
      cases hvalue
    constructor
    · exact hunchanged
    · intro γ decks keeps
      exact keeps.hold (tool.run job params) state hunchanged

def DeleteObjects.sampleParams : Json :=
  Json.object [("presentation_id", .str "pres-1"), ("object_id", .str "image-1")]

theorem Tool.run_allOrNothing_readOnly :
    Tool.deleteObjects ∈ Tool.all { exportMaxBytes := 0, searchContext := 0 } ∧
      KeepsDecks Rehearsal.answer Rehearsal.changes ∧
      exists held,
        held = (Tool.deleteObjects.run Job.sample DeleteObjects.sampleParams).hold
          Rehearsal.answer Rehearsal.readOnly ∧
        held.outcome = .error { kind := .deleteFailed, detail := "offline" } ∧
        AllOrNothing held.turns held.outcome ∧
        held.state.changes = Rehearsal.readOnly.changes := by
  have htool : Tool.deleteObjects ∈ Tool.all { exportMaxBytes := 0, searchContext := 0 } := by
    simp [Tool.all]
  have hrun := Tool.run_allOrNothing htool Job.sample DeleteObjects.sampleParams
    Rehearsal.answer Rehearsal.readOnly
  refine ⟨htool, Rehearsal.keepsDecks, _, rfl, rfl, hrun.1, ?_⟩
  exact (hrun.2 _ rfl).2 Rehearsal.changes Rehearsal.keepsDecks

end DeckTools
