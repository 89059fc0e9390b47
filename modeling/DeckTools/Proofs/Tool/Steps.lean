import DeckTools.Proofs.Dialogue
import DeckTools.Proofs.Edit.Checked
import DeckTools.Tool.Registry

/-!
# What the steps of tools ensure

Runs of tools are put together from a few steps.  For each of them there is a rule
that says what the rest of the run has to ensure after it.
-/

namespace DeckTools

open Dialogue

abbrev Turns : Type := List (Turn Call Call.Answer)

variable {ε α β : Type} {P : Turns -> Outcome ε β -> Prop}

/-! ## Calls -/

theorem ensures_call_bind (call : Call) (onError : ApiError -> ε)
    (rest : call.Reply -> Remote ε β) :
    (Remote.call call onError >>= rest).Ensures P <->
      (forall e, P [⟨call, .error e⟩] (.error (onError e))) ∧
        forall reply,
          (rest reply).Ensures (fun later outcome => P (⟨call, .ok reply⟩ :: later) outcome) := by
  constructor
  · intro h
    constructor
    · intro e
      exact h (.error e)
    · intro reply
      exact h (.ok reply)
  · intro h answer
    cases answer with
    | error e => exact h.1 e
    | ok reply => exact h.2 reply

section Held

variable {σ : Type} {answer : (call : Call) -> σ -> call.Answer × σ} {state : σ}

/-- Once a call is answered the conversation goes on with the reply. -/
theorem hold_call_bind_of_ok {call : Call} {onError : ApiError -> ε}
    {rest : call.Reply -> Remote ε β} {reply : call.Reply}
    (h : (answer call state).1 = .ok reply) :
    (Remote.call call onError >>= rest).hold answer state =
      { outcome := ((rest reply).hold answer (answer call state).2).outcome
        turns :=
          ⟨call, .ok reply⟩ :: ((rest reply).hold answer (answer call state).2).turns
        state := ((rest reply).hold answer (answer call state).2).state } := by
  unfold Remote.call
  rw [ask_bind, hold]
  dsimp only
  rw [h]
  rfl

theorem hold_call_bind_of_error {call : Call} {onError : ApiError -> ε}
    {rest : call.Reply -> Remote ε β} {e : ApiError}
    (h : (answer call state).1 = .error e) :
    (Remote.call call onError >>= rest).hold answer state =
      { outcome := .error (onError e)
        turns := [⟨call, .error e⟩]
        state := (answer call state).2 } := by
  unfold Remote.call
  rw [ask_bind, hold]
  dsimp only
  rw [h]
  rfl

end Held

/-! ## Orders and uploads -/

section Tools

variable {P : Turns -> Outcome ToolError β -> Prop}

theorem ensures_carryOut (checked : Except ToolError α) (perform : α -> Run β) :
    (carryOut checked perform).Ensures P <->
      (forall e, checked = .error e -> P [] (.error e)) ∧
        forall order, checked = .ok order -> (perform order).Ensures P := by
  have heq : carryOut checked perform = ofExcept checked >>= perform := by
    cases checked <;> rfl
  rw [heq]
  exact ensures_ofExcept_bind checked perform

theorem carryOut_of_ok {checked : Except ToolError α} {order : α} (h : checked = .ok order)
    (perform : α -> Run β) :
    carryOut checked perform = perform order := by
  rw [h]
  rfl

def uploadCall (job : Job) (image : ImagePayload) : Call :=
  .uploadFile (uploadName job image.format) image.format.mimeType image.bytes

/-- An upload has two turns, unless it fails at the first; that sharing fails is no failure. -/
theorem ensures_uploadImage_bind (job : Job) (image : ImagePayload)
    (rest : Completion FileRef -> Run β) :
    (uploadImage job image >>= rest).Ensures P <->
      (forall e,
        P [⟨uploadCall job image, .error e⟩]
          (.error (e.toToolError .uploadFailed .uploadFailed))) ∧
      (forall file : FileRef,
        (rest (.full file)).Ensures fun later outcome =>
          P (⟨uploadCall job image, .ok file⟩ :: ⟨.makePublic file.id, .ok ()⟩ :: later)
            outcome) ∧
      forall (file : FileRef) (e : ApiError),
        (rest ((Completion.full file).warn
          ("uploaded image " ++ file.id ++ " could not be made public: " ++
            e.describe))).Ensures fun later outcome =>
          P (⟨uploadCall job image, .ok file⟩ :: ⟨.makePublic file.id, .error e⟩ :: later)
            outcome := by
  rw [ensures_bind]
  unfold uploadImage
  rw [ensures_call_bind]
  constructor
  · intro h
    rcases h with ⟨hfailed, huploaded⟩
    refine ⟨hfailed, ?_, ?_⟩
    · intro file
      exact huploaded file (.ok ())
    · intro file e
      exact huploaded file (.error e)
  · intro h
    rcases h with ⟨hfailed, hshared, hprivate⟩
    refine ⟨hfailed, ?_⟩
    intro file answer
    cases answer with
    | ok reply => exact hshared file
    | error e => exact hprivate file e

end Tools

/-! ## Filed presentations -/

/-- Filing a presentation is a move at most, and it does not fail. -/
theorem CreatePresentation.ensures_file (deck : Deck) (folder : Option String) :
    (file deck folder).Ensures fun turns outcome =>
      (forall turn, turn ∈ turns -> turn.call.kind = .moveFile) ∧
        exists warnings, outcome = .value { value := deck, warnings } := by
  cases folder with
  | none =>
      constructor
      · intro turn hturn
        cases hturn
      · exact ⟨[], rfl⟩
  | some folder =>
      intro answer
      cases answer with
      | ok reply =>
          constructor
          · intro turn hturn
            rw [List.mem_singleton.mp hturn]
            rfl
          · exact ⟨[], rfl⟩
      | error e =>
          constructor
          · intro turn hturn
            rw [List.mem_singleton.mp hturn]
            rfl
          · exact ⟨_, rfl⟩

/-! ## Case by case -/

/-- What holds of each tool holds of every tool there is. -/
theorem Tool.cases_of_mem_all {settings : ToolSettings} {tool : Tool} {motive : Tool -> Prop}
    (htool : tool ∈ Tool.all settings)
    (addImage : motive Tool.addImage) (replaceImage : motive Tool.replaceImage)
    (modifyImage : motive Tool.modifyImage) (modifyVideo : motive Tool.modifyVideo)
    (deleteObjects : motive Tool.deleteObjects)
    (createPresentation : motive Tool.createPresentation)
    (copyPresentation : motive Tool.copyPresentation)
    (exportPdf : motive (Tool.exportPdf settings.exportMaxBytes))
    (searchText : motive (Tool.searchText settings.searchContext))
    (translate : motive Tool.translate) (listComments : motive Tool.listComments)
    (setTransition : motive Tool.setTransition) :
    motive tool := by
  unfold Tool.all at htool
  simp only [List.mem_cons, List.not_mem_nil, or_false] at htool
  rcases htool with rfl | rfl | rfl | rfl | rfl | rfl | rfl | rfl | rfl | rfl | rfl | rfl <;>
    assumption

end DeckTools
