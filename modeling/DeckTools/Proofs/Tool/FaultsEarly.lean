import DeckTools.Proofs.Rehearsal
import DeckTools.Proofs.Tool.Fault

/-!
# Tools check before they call

Each tool but one makes a call as soon as its parameters are accepted, and does not
blame the input later on unless the object it fetched is at fault.
-/

namespace DeckTools

open Dialogue

/-! ## Images and videos -/

theorem AddImage.faultsEarly (job : Job) (order : AddImage) :
    (perform job order).Ensures FaultsEarly := by
  unfold perform
  apply faultsEarly_fetch_bind
  intro deck
  apply faultsAtOnce_of_blameless
  · intro e he
    exact ToolError.isInvalidInput_of_kind (SlideRef.resolve_error he) rfl
  · intro found _
    apply blameless_uploadImage_bind
    intro upload
    exact blameless_submit_bind rfl

theorem ReplaceImage.faultsEarly (job : Job) (order : ReplaceImage) :
    (perform job order).Ensures FaultsEarly := by
  unfold perform
  apply faultsEarly_fetch_bind
  intro deck
  apply faultsAtOnce_ofExcept_bind
  · intro e he hinvalid
    rcases target_error he with hkind | hkind
    · rw [ToolError.isInvalidInput_of_kind hkind rfl] at hinvalid
      cases hinvalid
    · exact Or.inl hkind
  · intro found _
    apply Ensures.mono (blameless_uploadImage_bind _) (fun _ _ => Blameless.faultsAtOnce)
    intro upload
    exact blameless_submit_bind rfl

theorem Modify.faultsEarly {α : Type}
    {plan : Element Float -> α -> Except ToolError (EditPlan Float)} {failure : ToolErrorKind}
    {order : Modify α} (hfailure : failure.isInvalidInput = false)
    (hplan : forall element e, plan element order.edit = .error e ->
      e.kind = .invalidObjectType ∨ e.kind = .invalidObjectState) :
    (perform plan failure order).Ensures FaultsEarly := by
  unfold perform
  apply faultsEarly_fetch_bind
  intro deck
  apply faultsAtOnce_ofExcept_bind
  · intro e he hinvalid
    rw [ToolError.isInvalidInput_of_kind (locate_error he) rfl] at hinvalid
    cases hinvalid
  · intro found _
    apply faultsAtOnce_ofExcept_bind
    · intro e he _
      exact hplan found.element e he
    · intro planned _
      apply Ensures.mono (blameless_submit_bind hfailure)
      intro turns outcome h
      exact h.faultsAtOnce

/-! ## Objects -/

theorem DeleteObjects.faultsEarly (order : DeleteObjects) :
    (perform order).Ensures FaultsEarly := by
  unfold perform
  apply faultsEarly_fetch_bind
  intro deck
  apply faultsAtOnce_of_blameless
  · intro e he
    exact ToolError.isInvalidInput_of_kind (partition_error he) rfl
  · intro parts _
    exact blameless_submit_bind rfl

/-! ## Files -/

theorem CreatePresentation.faultsEarly (order : CreatePresentation) :
    (perform order).Ensures FaultsEarly := by
  unfold perform
  apply faultsEarly_call_bind
  · intro e
    exact e.isInvalidInput_toToolError rfl rfl
  · intro deck
    rw [ensures_bind]
    apply (ensures_file deck order.folder).mono
    intro turns outcome h
    rcases h with ⟨_, warnings, hvalue⟩
    rw [hvalue]
    intro e he
    cases he

theorem CopyPresentation.faultsEarly (order : CopyPresentation) :
    (perform order).Ensures FaultsEarly := by
  unfold perform
  apply faultsEarly_call_bind
  · exact isInvalidInput_failure order.folder
  · intro copy
    exact blameless_value _ _

theorem ExportPdf.faultsEarly (limit : Nat) (p : ExportParams) :
    (perform limit p).Ensures FaultsEarly := by
  unfold perform
  apply faultsEarly_call_bind
  · intro e
    exact e.isInvalidInput_toToolError rfl rfl
  · intro chunks
    apply blameless_ofExcept_bind
    · intro e he
      exact ToolError.isInvalidInput_of_kind (readCapped_error he) rfl
    · intro body _
      exact blameless_value _ _

/-! ## Texts and comments -/

theorem SearchText.faultsEarly (order : SearchText) :
    (perform order).Ensures FaultsEarly := by
  unfold perform
  apply faultsEarly_fetch_bind
  intro deck
  exact (blameless_value _ _).faultsAtOnce

theorem Translate.faultsEarly (order : Translate) :
    (perform order).Ensures FaultsEarly := by
  unfold perform
  apply faultsEarly_fetch_bind
  intro deck
  apply faultsAtOnce_of_blameless
  · intro e he
    exact isInvalidInput_someTargets he
  · intro targets _
    apply blameless_call_bind
    · intro e
      exact e.isInvalidInput_toToolError rfl rfl
    · intro translations
      apply blameless_ofExcept_bind
      · intro e he
        exact ToolError.isInvalidInput_of_kind (checkCount_error he) rfl
      · intro _ _
        dsimp only
        split
        case isTrue => exact blameless_value _ _
        case isFalse => exact blameless_submit_bind rfl

theorem ListComments.faultsEarly (job : Job) (p : CommentParams) :
    (perform job p).Ensures FaultsEarly := by
  apply (perform_onlyPages job p).mono
  intro turns outcome h
  apply Blameless.faultsEarly h.asked
  intro e he
  rcases h.failed e he with ⟨cause, heq⟩
  rw [heq]
  exact cause.isInvalidInput_toToolError rfl rfl

/-! ## Transitions -/

theorem SetTransition.run_fails (params : Json) :
    exists e, forall job, Tool.setTransition.run job params = .fail e := by
  cases horder : ofParams params with
  | error e =>
      exists e
      intro job
      show carryOut (ofParams params) perform = .fail e
      rw [horder]
      rfl
  | ok order =>
      have hperform : exists e, perform order = .fail e := ⟨_, rfl⟩
      rcases hperform with ⟨e, he⟩
      exists e
      intro job
      show carryOut (ofParams params) perform = .fail e
      rw [horder]
      exact he

/-! ## All tools -/

/-- The parameters are refused by the same error in every job, or a call is made. -/
theorem carryOut_fails_or_faultsEarly {α β : Type} {checked : Except ToolError α}
    {perform : Job -> α -> Run β}
    (hperform : forall order, checked = .ok order ->
      forall job, (perform job order).Ensures FaultsEarly) :
    (exists e, forall job, carryOut checked (perform job) = .fail e) ∨
      forall job, (carryOut checked (perform job)).Ensures FaultsEarly := by
  cases checked with
  | error e =>
      apply Or.inl
      exact ⟨e, fun job => rfl⟩
  | ok order =>
      apply Or.inr
      exact hperform order rfl

theorem Tool.fails_or_faultsEarly {settings : ToolSettings} {tool : Tool}
    (htool : tool ∈ Tool.all settings) (params : Json) :
    (exists e, forall job, tool.run job params = .fail e) ∨
      forall job, (tool.run job params).Ensures FaultsEarly := by
  apply Tool.cases_of_mem_all htool
  case addImage =>
      exact carryOut_fails_or_faultsEarly (fun order _ job => AddImage.faultsEarly job order)
  case replaceImage =>
      exact carryOut_fails_or_faultsEarly
        (fun order _ job => ReplaceImage.faultsEarly job order)
  case modifyImage =>
      apply carryOut_fails_or_faultsEarly
      intro order horder job
      apply Modify.faultsEarly rfl
      intro element e
      exact modifyImage_error
  case modifyVideo =>
      apply carryOut_fails_or_faultsEarly
      intro order horder job
      apply Modify.faultsEarly rfl
      intro element e
      exact modifyVideo_error
  case deleteObjects =>
      exact carryOut_fails_or_faultsEarly (fun order _ _ => DeleteObjects.faultsEarly order)
  case createPresentation =>
      exact carryOut_fails_or_faultsEarly
        (fun order _ _ => CreatePresentation.faultsEarly order)
  case copyPresentation =>
      exact carryOut_fails_or_faultsEarly (fun order _ _ => CopyPresentation.faultsEarly order)
  case exportPdf =>
      exact carryOut_fails_or_faultsEarly (fun order _ _ => ExportPdf.faultsEarly _ order)
  case searchText =>
      exact carryOut_fails_or_faultsEarly (fun order _ _ => SearchText.faultsEarly order)
  case translate =>
      exact carryOut_fails_or_faultsEarly (fun order _ _ => Translate.faultsEarly order)
  case listComments =>
      exact carryOut_fails_or_faultsEarly
        (fun order _ job => ListComments.faultsEarly job order)
  case setTransition => exact Or.inl (SetTransition.run_fails params)

/-! ## Uploads -/

/-- Any other call comes after a presentation that was fetched and passed a check. -/
theorem ensures_fetched_and_checked {α β : Type} {id : String}
    {check : Deck -> Except ToolError α} {rest : Deck -> α -> Run β} :
    (fetch id >>= fun deck => Dialogue.ofExcept (check deck) >>= rest deck).Ensures
      fun turns _ => forall turn, turn ∈ turns -> turn.call.kind ≠ .getPresentation ->
        exists deck found later,
          turns = ⟨.getPresentation id, .ok deck⟩ :: later ∧ turn ∈ later ∧
            check deck = .ok found := by
  unfold fetch
  rw [ensures_call_bind]
  constructor
  · intro e turn hturn hkind
    rw [List.mem_singleton.mp hturn] at hkind
    exact absurd rfl hkind
  · intro deck
    rw [ensures_ofExcept_bind]
    constructor
    · intro e _ turn hturn hkind
      rw [List.mem_singleton.mp hturn] at hkind
      exact absurd rfl hkind
    -- From here on nothing matters but that the check was passed.
    · intro found hfound
      apply ensures_of_forall
      intro later outcome turn hturn hkind
      rcases List.mem_cons.mp hturn with heq | hlater
      · rw [heq] at hkind
        exact absurd rfl hkind
      · exact ⟨deck, found, later, rfl, hlater, hfound⟩

theorem ReplaceImage.target_eq_ok {order : ReplaceImage} {deck : Deck} {found : Located Float}
    (h : order.target deck = .ok found) :
    deck.locate? order.objectId = some found ∧ found.element.isImage = true := by
  unfold target at h
  rcases bind_eq_ok.mp h with ⟨other, hlocate, h⟩
  split at h
  case isTrue himage =>
      cases h
      refine ⟨?_, himage⟩
      unfold locate at hlocate
      split at hlocate
      case h_1 hsome =>
          cases hlocate
          exact hsome
      case h_2 => exact absurd hlocate failWith_ne_ok
  case isFalse => exact absurd h failWith_ne_ok

/-! ## Runs -/

/-- In every job, and whatever the services, a run fails with the error and makes no call. -/
def Tool.Refuses (tool : Tool) (params : Json) (e : ToolError) : Prop :=
  forall (job : Job) (σ : Type) (answer : (call : Call) -> σ -> call.Answer × σ) (state : σ),
    (tool.run job params).hold answer state = { outcome := .error e, turns := [], state }

/-- In every job, and whatever the services, a run makes a call. -/
def Tool.Asks (tool : Tool) (params : Json) : Prop :=
  forall (job : Job) (σ : Type) (answer : (call : Call) -> σ -> call.Answer × σ) (state : σ),
    ((tool.run job params).hold answer state).turns ≠ []

theorem Tool.refuses_or_asks {settings : ToolSettings} {tool : Tool}
    (htool : tool ∈ Tool.all settings) (params : Json) :
    (exists e, tool.Refuses params e) ∨ tool.Asks params := by
  rcases Tool.fails_or_faultsEarly htool params with ⟨e, hfails⟩ | hearly
  · apply Or.inl
    refine ⟨e, ?_⟩
    intro job σ answer state
    rw [hfails job]
    rfl
  · apply Or.inr
    intro job σ answer state
    exact ((hearly job).hold answer state).asked

section Held

variable {σ : Type} {job : Job} {params : Json}
  {answer : (call : Call) -> σ -> call.Answer × σ} {state : σ}
  {turn : Turn Call Call.Answer}

theorem Tool.faults_of_asked {settings : ToolSettings} {tool : Tool}
    (htool : tool ∈ Tool.all settings) {e : ToolError}
    (hasked : ((tool.run job params).hold answer state).turns ≠ [])
    (he : ((tool.run job params).hold answer state).outcome = .error e)
    (hinvalid : e.isInvalidInput = true) :
    (e.kind = .invalidObjectType ∨ e.kind = .invalidObjectState) ∧
      exists id, ((tool.run job params).hold answer state).calls = [.getPresentation id] := by
  rcases Tool.fails_or_faultsEarly htool params with ⟨other, hfails⟩ | hearly
  · rw [hfails job] at hasked
    exact absurd rfl hasked
  · exact ((hearly job).hold answer state).faults e he hinvalid

/-- A tool that makes a call carries an order out. -/
theorem exists_order_of_mem_turns {α : Type} {checked : Except ToolError α}
    {perform : α -> Run Json}
    (hturn : turn ∈ ((carryOut checked perform).hold answer state).turns) :
    exists order, checked = .ok order ∧ carryOut checked perform = perform order := by
  cases checked with
  | error e => cases hturn
  | ok order => exact ⟨order, rfl, rfl⟩

theorem AddImage.resolved_of_upload
    (hturn : turn ∈ ((Tool.addImage.run job params).hold answer state).turns)
    (hkind : turn.call.kind = .uploadFile) :
    exists order deck found later,
      ofParams params = .ok order ∧
      ((Tool.addImage.run job params).hold answer state).turns =
        ⟨.getPresentation order.presentationId, .ok deck⟩ :: later ∧
      turn ∈ later ∧ order.slide.resolve deck = .ok found := by
  rcases exists_order_of_mem_turns hturn with ⟨order, horder, hrun⟩
  have hperform : Tool.addImage.run job params = perform job order := hrun
  rw [hperform] at hturn ⊢
  have hother : turn.call.kind ≠ .getPresentation := by
    rw [hkind]
    intro heq
    cases heq
  rcases ensures_fetched_and_checked.hold answer state turn hturn hother with
    ⟨deck, found, later, hturns, hlater, hfound⟩
  exact ⟨order, deck, found, later, horder, hturns, hlater, hfound⟩

theorem ReplaceImage.resolved_of_upload
    (hturn : turn ∈ ((Tool.replaceImage.run job params).hold answer state).turns)
    (hkind : turn.call.kind = .uploadFile) :
    exists order deck found later,
      ofParams params = .ok order ∧
      ((Tool.replaceImage.run job params).hold answer state).turns =
        ⟨.getPresentation order.presentationId, .ok deck⟩ :: later ∧
      turn ∈ later ∧ deck.locate? order.objectId = some found ∧
      found.element.isImage = true := by
  rcases exists_order_of_mem_turns hturn with ⟨order, horder, hrun⟩
  have hperform : Tool.replaceImage.run job params = perform job order := hrun
  rw [hperform] at hturn ⊢
  have hother : turn.call.kind ≠ .getPresentation := by
    rw [hkind]
    intro heq
    cases heq
  rcases ensures_fetched_and_checked.hold answer state turn hturn hother with
    ⟨deck, found, later, hturns, hlater, htarget⟩
  exact ⟨order, deck, found, later, horder, hturns, hlater, target_eq_ok htarget⟩

end Held

/--
The input is checked first.  Whether a run makes a call depends on the tool and the
parameters alone; after a call only an object that was fetched is at fault; and images
are uploaded only for a slide or an image that was found in what was fetched.
-/
theorem Tool.run_checks_first {settings : ToolSettings} {tool : Tool}
    (htool : tool ∈ Tool.all settings) (params : Json) :
    ((exists e, tool.Refuses params e) ∨ tool.Asks params) ∧
      forall (job : Job) {σ : Type} (answer : (call : Call) -> σ -> call.Answer × σ)
        (state : σ),
        (forall e, ((tool.run job params).hold answer state).turns ≠ [] ->
          ((tool.run job params).hold answer state).outcome = .error e ->
          e.isInvalidInput = true ->
          (e.kind = .invalidObjectType ∨ e.kind = .invalidObjectState) ∧
            exists id,
              ((tool.run job params).hold answer state).calls = [.getPresentation id]) ∧
        (forall turn, turn ∈ ((Tool.addImage.run job params).hold answer state).turns ->
          turn.call.kind = .uploadFile ->
          exists order deck found later,
            AddImage.ofParams params = .ok order ∧
            ((Tool.addImage.run job params).hold answer state).turns =
              ⟨.getPresentation order.presentationId, .ok deck⟩ :: later ∧
            turn ∈ later ∧ order.slide.resolve deck = .ok found) ∧
        forall turn, turn ∈ ((Tool.replaceImage.run job params).hold answer state).turns ->
          turn.call.kind = .uploadFile ->
          exists order deck found later,
            ReplaceImage.ofParams params = .ok order ∧
            ((Tool.replaceImage.run job params).hold answer state).turns =
              ⟨.getPresentation order.presentationId, .ok deck⟩ :: later ∧
            turn ∈ later ∧ deck.locate? order.objectId = some found ∧
            found.element.isImage = true := by
  constructor
  · exact Tool.refuses_or_asks htool params
  · intro job σ answer state
    refine ⟨?_, ?_, ?_⟩
    · intro e hasked he hinvalid
      exact Tool.faults_of_asked htool hasked he hinvalid
    · intro turn hturn hkind
      exact AddImage.resolved_of_upload hturn hkind
    · intro turn hturn hkind
      exact ReplaceImage.resolved_of_upload hturn hkind

def ReplaceImage.sampleParams (objectId : String) : Json :=
  Json.object
    [("presentation_id", .str "pres-1"), ("object_id", .str objectId),
      ("image_data", .str "iVBORw0KGgo=")]

def ReplaceImage.sample (objectId : String) : ReplaceImage :=
  { presentationId := "pres-1"
    objectId
    image := { bytes := [0x89, 0x50, 0x4E, 0x47, 0x0D, 0x0A, 0x1A, 0x0A], format := .png }
    keepSize := true }

theorem ReplaceImage.run_eq_perform {params : Json} {order : ReplaceImage}
    (h : ofParams params = .ok order) (job : Job) :
    Tool.replaceImage.run job params = perform job order :=
  carryOut_of_ok h (perform job)

/-- A title is refused once it was fetched, and an image is uploaded once it was found. -/
theorem Tool.run_checks_first_replaceImage :
    Tool.replaceImage ∈ Tool.all { exportMaxBytes := 0, searchContext := 0 } ∧
      (exists held e,
        held = (Tool.replaceImage.run Job.sample (ReplaceImage.sampleParams "title-1")).hold
          Rehearsal.answer Rehearsal.readOnly ∧
        held.turns ≠ [] ∧ held.outcome = .error e ∧ e.isInvalidInput = true ∧
        (e.kind = .invalidObjectType ∨ e.kind = .invalidObjectState) ∧
        exists id, held.calls = [.getPresentation id]) ∧
      exists held turn order deck found later,
        held = (Tool.replaceImage.run Job.sample (ReplaceImage.sampleParams "image-1")).hold
          Rehearsal.answer Rehearsal.readOnly ∧
        turn.call.kind = .uploadFile ∧
        ReplaceImage.ofParams (ReplaceImage.sampleParams "image-1") = .ok order ∧
        held.turns = ⟨.getPresentation order.presentationId, .ok deck⟩ :: later ∧
        turn ∈ later ∧ deck.locate? order.objectId = some found ∧
        found.element.isImage = true := by
  have htool : Tool.replaceImage ∈ Tool.all { exportMaxBytes := 0, searchContext := 0 } := by
    simp [Tool.all]
  -- In both runs the order is read off the parameters first: a run is evaluated much
  -- faster from a closed order than from parameters that are still to be decoded.
  refine ⟨htool, ?_, ?_⟩
  · have hrun :
        Tool.replaceImage.run Job.sample (ReplaceImage.sampleParams "title-1") =
          (ReplaceImage.sample "title-1").perform Job.sample :=
      ReplaceImage.run_eq_perform rfl Job.sample
    have hfault := ((Tool.run_checks_first htool (ReplaceImage.sampleParams "title-1")).2
      Job.sample Rehearsal.answer Rehearsal.readOnly).1
    rw [hrun] at hfault ⊢
    have hasked : (((ReplaceImage.sample "title-1").perform Job.sample).hold
        Rehearsal.answer Rehearsal.readOnly).turns ≠ [] := by
      intro hnil
      cases hnil
    exact ⟨_, _, rfl, hasked, rfl, rfl, hfault _ hasked rfl rfl⟩
  · have hrun :
        Tool.replaceImage.run Job.sample (ReplaceImage.sampleParams "image-1") =
          (ReplaceImage.sample "image-1").perform Job.sample :=
      ReplaceImage.run_eq_perform rfl Job.sample
    have hupload := ((Tool.run_checks_first htool (ReplaceImage.sampleParams "image-1")).2
      Job.sample Rehearsal.answer Rehearsal.readOnly).2.2
    rw [hrun] at hupload ⊢
    have hkinds : (((ReplaceImage.sample "image-1").perform Job.sample).hold
        Rehearsal.answer Rehearsal.readOnly).turns.map (fun turn => turn.call.kind) =
          [.getPresentation, .uploadFile, .makePublic, .batchUpdate] := rfl
    have hmem : CallKind.uploadFile ∈ [CallKind.getPresentation, .uploadFile, .makePublic,
        .batchUpdate] := by simp
    rw [← hkinds] at hmem
    rcases List.mem_map.mp hmem with ⟨turn, hturn, hkind⟩
    rcases hupload turn hturn hkind with
      ⟨order, deck, found, later, horder, hturns, hlater, hfound⟩
    exact ⟨_, turn, order, deck, found, later, rfl, hkind, horder, hturns, hlater, hfound⟩

end DeckTools
