import DeckTools.Proofs.Tool.Export
import DeckTools.Proofs.Tool.FolderFault

/-!
# Errors of services keep their words

Each call site reports a call that fails in its own way, and an export may fail after it was
answered, while its chunks are read.  The report depends on the call and the error alone, it
keeps the whole text of the error, and it never blames the input.
-/

namespace DeckTools

open Dialogue

/-! ## Reports -/

/-- How a call that fails is reported, where `edit` is the kind of a batch that failed. -/
def Call.report (edit : ToolErrorKind) (call : Call) (e : ApiError) : ToolError :=
  match call with
  | .getPresentation _ => e.toToolError .presentationNotFound .serviceError
  | .batchUpdate _ _ => e.toToolError (missingInBatch e) edit
  | .createPresentation _ => e.toToolError .createFailed .createFailed
  | .uploadFile _ _ _ => e.toToolError .uploadFailed .uploadFailed
  | .copyFile _ _ folder => CopyPresentation.failure folder e
  | .exportFile _ _ => e.toToolError .presentationNotFound .exportFailed
  | .listComments _ _ _ _ => e.toToolError .presentationNotFound .serviceError
  | .translate _ _ _ => e.toToolError .translateFailed .translateFailed
  -- A follow-up that fails is a warning.
  | .makePublic _ => e.toToolError .serviceError .serviceError
  | .moveFile _ _ => e.toToolError .serviceError .serviceError

theorem Call.detail_report (edit : ToolErrorKind) (call : Call) (e : ApiError) :
    (call.report edit e).detail = e.describe := by
  cases call with
  | copyFile source name folder => exact (CopyPresentation.tellsFault_failure folder e).1
  | _ => rfl

theorem Call.isInvalidInput_report {edit : ToolErrorKind} (hedit : edit.isInvalidInput = false)
    (call : Call) (e : ApiError) :
    (call.report edit e).isInvalidInput = false := by
  unfold Call.report
  cases call with
  | batchUpdate id requests =>
      exact e.isInvalidInput_toToolError (isInvalidInput_missingInBatch e) hedit
  | copyFile source name folder => exact CopyPresentation.isInvalidInput_failure folder e
  | _ => exact e.isInvalidInput_toToolError rfl rfl

namespace Turn

/--
A turn brings a run to its end: a call that is no follow-up was answered with an error, or a
chunk of an export failed, and what comes before it keeps to the limit.
-/
inductive Brings (limit : Nat) : Turn Call Call.Answer -> ApiError -> Prop where
  | answer {turn : Turn Call Call.Answer} {e : ApiError} (h : turn.Breaks e) :
      Brings limit turn e
  | chunk {file mimeType : String} {bodies : List (List UInt8)} {e : ApiError}
      {later : List (Except ApiError (List UInt8))} (h : bodies.flatten.length ≤ limit) :
      Brings limit ⟨.exportFile file mimeType, .ok (bodies.map .ok ++ .error e :: later)⟩ e

/-- How the run reports what a turn brings: a reply can only bring a chunk. -/
def report (edit : ToolErrorKind) (turn : Turn Call Call.Answer) (e : ApiError) : ToolError :=
  match turn.answer with
  | .error _ => turn.call.report edit e
  | .ok _ => { kind := .exportFailed, detail := e.describe }

theorem detail_report (edit : ToolErrorKind) (turn : Turn Call Call.Answer) (e : ApiError) :
    (turn.report edit e).detail = e.describe := by
  unfold report
  split
  case h_1 => exact Call.detail_report edit turn.call e
  case h_2 => rfl

theorem isInvalidInput_report {edit : ToolErrorKind} (hedit : edit.isInvalidInput = false)
    (turn : Turn Call Call.Answer) (e : ApiError) :
    (turn.report edit e).isInvalidInput = false := by
  unfold report
  split
  case h_1 => exact Call.isInvalidInput_report hedit turn.call e
  case h_2 => rfl

theorem report_of_breaks {turn : Turn Call Call.Answer} {e : ApiError} (h : turn.Breaks e)
    (edit : ToolErrorKind) :
    turn.report edit e = turn.call.report edit e := by
  unfold report
  rw [h.2]

/-- Only an export is answered with something that may still fail. -/
theorem Brings.exportFile_of_reply {limit : Nat} {call : Call} {reply : call.Reply}
    {e : ApiError} (h : Brings limit ⟨call, .ok reply⟩ e) :
    call.kind = .exportFile := by
  generalize hturn : (⟨call, .ok reply⟩ : Turn Call Call.Answer) = turn at h
  cases h with
  | answer h =>
      rw [← hturn] at h
      cases h.2
  | chunk h =>
      cases hturn
      rfl

end Turn

/-- What a turn brings is how the run ends. -/
def EndsAsReported {α : Type} (edit : ToolErrorKind) (limit : Nat) (turns : Turns)
    (outcome : Outcome ToolError α) : Prop :=
  forall turn e, turn ∈ turns -> turn.Brings limit e -> outcome = .error (turn.report edit e)

/-! ## Steps -/

section Steps

variable {α β : Type} {edit : ToolErrorKind} {limit : Nat}

theorem endsAsReported_nil {outcome : Outcome ToolError α} :
    EndsAsReported edit limit [] outcome := by
  intro turn e hturn
  cases hturn

theorem endsAsReported_call {call : Call} {onError : ApiError -> ToolError}
    (hcall : (call.kind == .exportFile) = false)
    (honError : forall e, onError e = call.report edit e) :
    (Remote.call call onError).Ensures (EndsAsReported edit limit) := by
  intro answer
  cases answer with
  | ok reply =>
      intro turn e hturn hbrings
      rw [List.mem_singleton.mp hturn] at hbrings
      exact absurd hbrings.exportFile_of_reply (ne_of_beq_false hcall)
  | error cause =>
      intro turn e hturn hbrings
      rw [List.mem_singleton.mp hturn] at hbrings ⊢
      cases hbrings with
      | answer h =>
          cases h.2
          exact congrArg Outcome.error (honError cause)

theorem endsAsReported_attempt {call : Call} (hcall : call.kind.isFollowUp = true) :
    (Remote.attempt call : Run (Except ApiError call.Reply)).Ensures
      (EndsAsReported edit limit) := by
  intro answer turn e hturn hbrings
  rw [List.mem_singleton.mp hturn] at hbrings
  cases answer with
  | ok reply =>
      rw [hbrings.exportFile_of_reply] at hcall
      cases hcall
  | error cause =>
      cases hbrings with
      | answer h => cases hcall.symm.trans h.1

/-- A run that goes on was brought to no end, and one that was is over. -/
theorem endsAsReported_bind {first : Run α} {rest : α -> Run β}
    (hfirst : first.Ensures (EndsAsReported edit limit))
    (hrest : forall value, (rest value).Ensures (EndsAsReported edit limit)) :
    (first >>= rest).Ensures (EndsAsReported edit limit) := by
  rw [ensures_bind]
  apply hfirst.mono
  intro turns outcome hturns
  cases outcome with
  | value value =>
      apply (hrest value).mono
      intro later outcome hlater turn e hturn hbrings
      rcases List.mem_append.mp hturn with hbefore | hafter
      · cases hturns turn e hbefore hbrings
      · exact hlater turn e hafter hbrings
  | error cause =>
      intro turn e hturn hbrings
      cases hturns turn e hturn hbrings
      rfl
  | unfinished =>
      intro turn e hturn hbrings
      cases hturns turn e hturn hbrings

theorem endsAsReported_bind_done {first : Run α} {report : α -> β}
    (hfirst : first.Ensures (EndsAsReported edit limit)) :
    (first >>= fun value => .done (report value)).Ensures (EndsAsReported edit limit) :=
  endsAsReported_bind hfirst (fun _ => endsAsReported_nil)

theorem endsAsReported_ofExcept_bind {checked : Except ToolError α} {rest : α -> Run β}
    (hrest : forall value, (rest value).Ensures (EndsAsReported edit limit)) :
    (Dialogue.ofExcept checked >>= rest).Ensures (EndsAsReported edit limit) := by
  cases checked with
  | ok value => exact hrest value
  | error e => exact endsAsReported_nil

theorem endsAsReported_carryOut {checked : Except ToolError α} {perform : α -> Run β}
    (hperform : forall order, (perform order).Ensures (EndsAsReported edit limit)) :
    (carryOut checked perform).Ensures (EndsAsReported edit limit) := by
  cases checked with
  | ok order => exact hperform order
  | error e => exact endsAsReported_nil

theorem endsAsReported_fetch (id : String) :
    (fetch id).Ensures (EndsAsReported edit limit) :=
  endsAsReported_call rfl (fun _ => rfl)

/-- A presentation is fetched first, and something is looked for in it. -/
theorem endsAsReported_fetch_bind {id : String} {check : Deck -> Except ToolError α}
    {rest : Deck -> α -> Run β}
    (hrest : forall deck found, (rest deck found).Ensures (EndsAsReported edit limit)) :
    (fetch id >>= fun deck => Dialogue.ofExcept (check deck) >>= rest deck).Ensures
      (EndsAsReported edit limit) :=
  endsAsReported_bind (endsAsReported_fetch id) fun deck =>
    endsAsReported_ofExcept_bind (hrest deck)

/-- A batch is submitted last, and its reply is reported. -/
theorem endsAsReported_submit_bind {id : String} {requests : List Edit}
    {report : BatchReply -> β} :
    (submit id requests edit >>= fun reply => .done (report reply)).Ensures
      (EndsAsReported edit limit) :=
  endsAsReported_bind_done (endsAsReported_call rfl (fun _ => rfl))

/-- A follow-up, after which there is a value however it was answered. -/
theorem endsAsReported_attempt_bind {call : Call} {rest : Except ApiError call.Reply -> Run β}
    (hcall : call.kind.isFollowUp = true)
    (hrest : forall answer, exists value, rest answer = .done value) :
    (Remote.attempt call >>= rest).Ensures (EndsAsReported edit limit) := by
  apply endsAsReported_bind (endsAsReported_attempt hcall)
  intro answer
  rcases hrest answer with ⟨value, hvalue⟩
  rw [hvalue]
  exact endsAsReported_nil

theorem endsAsReported_uploadImage (job : Job) (image : ImagePayload) :
    (uploadImage job image).Ensures (EndsAsReported edit limit) := by
  unfold uploadImage
  apply endsAsReported_bind (endsAsReported_call rfl (fun _ => rfl))
  intro file
  apply endsAsReported_attempt_bind rfl
  intro shared
  cases shared with
  | ok reply => exact ⟨_, rfl⟩
  | error e => exact ⟨_, rfl⟩

end Steps

/-! ## Runs of each tool -/

section Runs

variable {edit : ToolErrorKind} {limit : Nat}

theorem AddImage.endsAsReported (job : Job) (order : AddImage) :
    (perform job order).Ensures (EndsAsReported .createFailed limit) := by
  apply endsAsReported_fetch_bind
  intro deck found
  apply endsAsReported_bind (endsAsReported_uploadImage job order.image)
  intro upload
  exact endsAsReported_submit_bind

theorem ReplaceImage.endsAsReported (job : Job) (order : ReplaceImage) :
    (perform job order).Ensures (EndsAsReported .replaceFailed limit) := by
  apply endsAsReported_fetch_bind
  intro deck found
  apply endsAsReported_bind (endsAsReported_uploadImage job order.image)
  intro upload
  exact endsAsReported_submit_bind

theorem Modify.endsAsReported {α : Type}
    (plan : Element Float -> α -> Except ToolError (EditPlan Float)) (failure : ToolErrorKind)
    (order : Modify α) :
    (perform plan failure order).Ensures (EndsAsReported failure limit) := by
  apply endsAsReported_fetch_bind
  intro deck found
  apply endsAsReported_ofExcept_bind
  intro planned
  exact endsAsReported_submit_bind

theorem DeleteObjects.endsAsReported (order : DeleteObjects) :
    (perform order).Ensures (EndsAsReported .deleteFailed limit) := by
  apply endsAsReported_fetch_bind
  intro deck parts
  exact endsAsReported_submit_bind

theorem Translate.endsAsReported (order : Translate) :
    (perform order).Ensures (EndsAsReported .translateFailed limit) := by
  apply endsAsReported_fetch_bind
  intro deck targets
  apply endsAsReported_bind (endsAsReported_call rfl (fun _ => rfl))
  intro translations
  apply endsAsReported_ofExcept_bind
  intro _
  dsimp only
  split
  case isTrue => exact endsAsReported_nil
  case isFalse => exact endsAsReported_submit_bind

theorem CreatePresentation.endsAsReported (order : CreatePresentation) :
    (perform order).Ensures (EndsAsReported edit limit) := by
  have hfile (deck : Deck) :
      (file deck order.folder).Ensures (EndsAsReported edit limit) := by
    cases order.folder with
    | none => exact endsAsReported_nil
    | some folder =>
        apply endsAsReported_attempt_bind rfl
        intro moved
        cases moved with
        | ok reply => exact ⟨_, rfl⟩
        | error e => exact ⟨_, rfl⟩
  unfold perform
  apply endsAsReported_bind (endsAsReported_call rfl (fun _ => rfl))
  intro created
  exact endsAsReported_bind_done (hfile created)

theorem CopyPresentation.endsAsReported (order : CopyPresentation) :
    (perform order).Ensures (EndsAsReported edit limit) :=
  endsAsReported_bind_done (endsAsReported_call rfl (fun _ => rfl))

theorem ExportPdf.endsAsReported (limit : Nat) (p : ExportParams) :
    (perform limit p).Ensures (EndsAsReported edit limit) := by
  unfold perform
  rw [ensures_call_bind]
  constructor
  · intro cause turn e hturn hbrings
    rw [List.mem_singleton.mp hturn] at hbrings ⊢
    cases hbrings with
    | answer h =>
        cases h.2
        rfl
  · intro chunks
    rw [ensures_ofExcept_bind]
    constructor
    · intro error hread turn e hturn hbrings
      rw [List.mem_singleton.mp hturn] at hbrings ⊢
      cases hbrings with
      | answer h => cases h.2
      | chunk h =>
          rw [readCapped_append _ _ (Nat.zero_le limit), List.nil_append, if_pos h] at hread
          cases hread
          rfl
    · intro body hread turn e hturn hbrings
      rw [List.mem_singleton.mp hturn] at hbrings
      cases hbrings with
      | answer h => cases h.2
      | chunk h =>
          rw [readCapped_append _ _ (Nat.zero_le limit), List.nil_append, if_pos h] at hread
          cases hread

theorem SearchText.endsAsReported (order : SearchText) :
    (perform order).Ensures (EndsAsReported edit limit) :=
  endsAsReported_bind_done (endsAsReported_fetch order.presentationId)

/-- By induction on the number of pages that may still follow. -/
theorem ListComments.readPages_endsAsReported (p : CommentParams) (budget : Nat)
    (visited : List String) (token : Option String) :
    (readPages p budget visited token).Ensures (EndsAsReported edit limit) := by
  induction budget generalizing visited token with
  | zero =>
      unfold readPages
      apply endsAsReported_bind (endsAsReported_call rfl (fun _ => rfl))
      intro page
      cases nextToken? visited page with
      | none => exact endsAsReported_nil
      | some next => exact endsAsReported_nil
  | succ budget ih =>
      unfold readPages
      apply endsAsReported_bind (endsAsReported_call rfl (fun _ => rfl))
      intro page
      cases nextToken? visited page with
      | none => exact endsAsReported_nil
      | some next => exact endsAsReported_bind_done (ih (next :: visited) (some next))

theorem ListComments.endsAsReported (job : Job) (p : CommentParams) :
    (perform job p).Ensures (EndsAsReported edit limit) :=
  endsAsReported_bind_done (readPages_endsAsReported p job.pageBudget [] none)

theorem SetTransition.endsAsReported (order : SetTransition) :
    (perform order).Ensures (EndsAsReported edit limit) :=
  endsAsReported_nil

end Runs

/-! ## All tools -/

/-- The kind of a batch that failed, by the name of the tool that submits it. -/
def Tool.editFailure (tool : Tool) : ToolErrorKind :=
  (Keyed.find? tool.name
    [("add_image", ToolErrorKind.createFailed),
      ("replace_image", .replaceFailed),
      ("modify_image", .modifyImageFailed),
      ("modify_video", .modifyVideoFailed),
      ("delete_objects", .deleteFailed),
      ("translate_presentation", .translateFailed)]).getD .serviceError

theorem Tool.isInvalidInput_editFailure {settings : ToolSettings} {tool : Tool}
    (htool : tool ∈ Tool.all settings) :
    tool.editFailure.isInvalidInput = false := by
  apply Tool.cases_of_mem_all htool <;> rfl

theorem Tool.ensures_endsAsReported {settings : ToolSettings} {tool : Tool}
    (htool : tool ∈ Tool.all settings) (job : Job) (params : Json) :
    (tool.run job params).Ensures
      (EndsAsReported tool.editFailure settings.exportMaxBytes) := by
  apply Tool.cases_of_mem_all htool
  case addImage => exact endsAsReported_carryOut (AddImage.endsAsReported job)
  case replaceImage => exact endsAsReported_carryOut (ReplaceImage.endsAsReported job)
  case modifyImage =>
      exact endsAsReported_carryOut (Modify.endsAsReported _ .modifyImageFailed)
  case modifyVideo =>
      exact endsAsReported_carryOut (Modify.endsAsReported _ .modifyVideoFailed)
  case deleteObjects => exact endsAsReported_carryOut DeleteObjects.endsAsReported
  case createPresentation => exact endsAsReported_carryOut CreatePresentation.endsAsReported
  case copyPresentation => exact endsAsReported_carryOut CopyPresentation.endsAsReported
  case exportPdf =>
      exact endsAsReported_carryOut (ExportPdf.endsAsReported settings.exportMaxBytes)
  case searchText => exact endsAsReported_carryOut SearchText.endsAsReported
  case translate => exact endsAsReported_carryOut Translate.endsAsReported
  case listComments => exact endsAsReported_carryOut (ListComments.endsAsReported job)
  case setTransition => exact endsAsReported_carryOut SetTransition.endsAsReported

/--
The error of a service that brings a run to its end is told in full, as its status and its
message or as the message alone, and it does not blame the input.
-/
theorem Tool.run_tells_cause {settings : ToolSettings} {tool : Tool}
    (htool : tool ∈ Tool.all settings) (job : Job) (params : Json) {σ : Type}
    (answer : (call : Call) -> σ -> call.Answer × σ) (state : σ)
    {turn : Turn Call Call.Answer} {e : ApiError}
    (hturn : turn ∈ ((tool.run job params).hold answer state).turns)
    (hbrings : turn.Brings settings.exportMaxBytes e) :
    exists error,
      ((tool.run job params).hold answer state).outcome = .error error ∧
      (forall code, e.status = some code ->
        error.detail = "HTTP " ++ Text.natText code ++ ": " ++ e.message) ∧
      (e.status = none -> error.detail = e.message) ∧
      error.isInvalidInput = false := by
  have hended := (Tool.ensures_endsAsReported htool job params).hold answer state
  refine ⟨_, hended turn e hturn hbrings, ?_, ?_, ?_⟩
  · intro code hcode
    rw [Turn.detail_report, ApiError.describe, hcode]
  · intro hnone
    rw [Turn.detail_report, ApiError.describe, hnone]
  · exact Turn.isInvalidInput_report (Tool.isInvalidInput_editFailure htool) turn e

def ApiError.sampleReset : ApiError :=
  { status := some 502, message := "connection reset", reason := none }

def ExportPdf.brokenStream : List (Except ApiError (List UInt8)) :=
  cutPage.map .ok ++ [.error .sampleReset]

theorem Tool.run_tells_cause_brokenStream :
    exists error,
      (((Tool.exportPdf 11).run Job.sample (Json.object [("presentation_id", .str "deck")])).hold
        (ExportPdf.streams ExportPdf.brokenStream) ()).outcome = .error error ∧
      error.detail = "HTTP 502: connection reset" ∧ error.isInvalidInput = false := by
  have htool : Tool.exportPdf 11 ∈ Tool.all { exportMaxBytes := 11, searchContext := 0 } := by
    simp [Tool.all]
  have hbrings : Turn.Brings 11
      ⟨.exportFile "deck" ExportPdf.mimeType, .ok ExportPdf.brokenStream⟩ .sampleReset :=
    Turn.Brings.chunk (Nat.le_refl 11)
  have hturn : (⟨.exportFile "deck" ExportPdf.mimeType, .ok ExportPdf.brokenStream⟩ :
      Turn Call Call.Answer) ∈
        (((Tool.exportPdf 11).run Job.sample
          (Json.object [("presentation_id", .str "deck")])).hold
            (ExportPdf.streams ExportPdf.brokenStream) ()).turns := List.mem_cons_self
  rcases Tool.run_tells_cause htool Job.sample _ _ _ hturn hbrings with
    ⟨error, houtcome, hcode, _, hinput⟩
  exact ⟨error, houtcome, hcode 502 rfl, hinput⟩

end DeckTools
