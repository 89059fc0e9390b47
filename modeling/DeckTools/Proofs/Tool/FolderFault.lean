import DeckTools.Proofs.Rehearsal
import DeckTools.Proofs.Tool.Fault
import DeckTools.Proofs.Tool.FollowUp
import DeckTools.Proofs.Tool.Refusal

/-!
# Folders at fault

A call that fails ends the run with the text of its error, unless it is a follow-up.  That
error blames a folder if its words are about a parent folder, whether or not the caller
named one: the words are looked at before the status, and nobody asks which folder they
mean.  Only a copy that names a folder looks for it in the message.
-/

namespace DeckTools

open Dialogue

/-! ## Errors that blame a folder -/

namespace ApiError

/-- The words of the error are about a parent folder; letters are compared without case. -/
def NamesParent (e : ApiError) : Prop :=
  namesParent (Text.asciiLower e.message) (Text.asciiLower (e.reason.getD "")) = true

/-- The error is about a parent folder, or says that the given folder is missing. -/
def BlamesFolder (e : ApiError) (folder : Option String) : Prop :=
  e.NamesParent ∨
    exists id, folder = some id ∧ e.errorClass = .notFound ∧
      CopyPresentation.namesId e.message id = true

/-- Any other class is told by the status or by other words. -/
theorem classByWords_ne_invalidParent (message reason : String) :
    classByWords message reason ≠ .invalidParent := by
  unfold classByWords
  split
  case isTrue => simp
  case isFalse => split <;> simp

theorem errorClass_eq_invalidParent_iff (e : ApiError) :
    e.errorClass = .invalidParent <-> e.NamesParent := by
  constructor
  · intro h
    unfold errorClass at h
    dsimp only at h
    split at h
    case isTrue hparent => exact hparent
    case isFalse =>
        split at h
        case h_4 => exact absurd h (classByWords_ne_invalidParent _ _)
        case h_5 => exact absurd h (classByWords_ne_invalidParent _ _)
        all_goals cases h
  · intro h
    unfold errorClass
    exact if_pos h

theorem blamesFolder_none_iff (e : ApiError) : e.BlamesFolder none <-> e.NamesParent := by
  constructor
  · intro h
    rcases h with h | ⟨id, hid, _⟩
    · exact h
    · cases hid
  · exact Or.inl

end ApiError

/-- How a failed call is reported: by its full text, and as a folder's fault if it blames one. -/
def TellsFault (folder : Option String) (onError : ApiError -> ToolError) : Prop :=
  forall e, (onError e).detail = e.describe ∧
    ((onError e).kind = .folderNotFound <-> e.BlamesFolder folder)

theorem tellsFault_toToolError {notFound failure : ApiError -> ToolErrorKind}
    (hnotFound : forall e, notFound e ≠ .folderNotFound)
    (hfailure : forall e, failure e ≠ .folderNotFound) :
    TellsFault none (fun e => e.toToolError (notFound e) (failure e)) := by
  intro e
  refine ⟨rfl, ?_⟩
  rw [ApiError.blamesFolder_none_iff, ← ApiError.errorClass_eq_invalidParent_iff]
  unfold ApiError.toToolError
  cases hclass : e.errorClass with
  | notFound => simp [hclass, hnotFound e]
  | forbidden => simp [hclass]
  | invalidParent => simp [hclass]
  | other => simp [hclass, hfailure e]

theorem CopyPresentation.tellsFault_failure (folder : Option String) :
    TellsFault folder (failure folder) := by
  have hplain : TellsFault none (fun e => e.toToolError .sourceNotFound .copyFailed) :=
    tellsFault_toToolError (by simp) (by simp)
  intro e
  cases folder with
  | none => exact hplain e
  | some folder =>
      unfold failure
      dsimp only
      split
      case isTrue hnamed =>
          refine ⟨rfl, iff_of_true rfl ?_⟩
          exact Or.inr ⟨folder, rfl, hnamed⟩
      case isFalse hnamed =>
          refine ⟨rfl, (hplain e).2.trans ?_⟩
          rw [ApiError.blamesFolder_none_iff]
          constructor
          · exact Or.inl
          · intro h
            rcases h with h | ⟨id, hid, hblames⟩
            · exact h
            · cases hid
              exact absurd hblames hnamed

/-! ## Runs that tell their faults -/

/-- The call failed, and it is not a follow-up. -/
def Turn.Breaks (turn : Turn Call Call.Answer) (e : ApiError) : Prop :=
  turn.call.kind.isFollowUp = false ∧ turn.Fails e

/--
A call that fails without being a follow-up ends the run with its text, and a run blames
a folder only if there is such a call and it does so.
-/
structure TellsFaults {α : Type} (folder : Option String) (turns : Turns)
    (outcome : Outcome ToolError α) : Prop where
  told :
    forall turn e, turn ∈ turns -> turn.Breaks e ->
      exists kind, outcome = .error { kind, detail := e.describe } ∧
        (kind = .folderNotFound <-> e.BlamesFolder folder)
  caused :
    forall e, outcome = .error e -> e.kind = .folderNotFound ->
      exists turn cause, turn ∈ turns ∧ turn.Breaks cause

namespace TellsFaults

variable {α β : Type} {folder : Option String} {turn : Turn Call Call.Answer}
  {turns later : Turns} {outcome : Outcome ToolError α}

theorem nil (h : forall e, outcome = .error e -> e.kind ≠ .folderNotFound) :
    TellsFaults folder [] outcome where
  told := by
    intro turn e hturn
    cases hturn
  caused := by
    intro e he hkind
    exact absurd hkind (h e he)

theorem nil_value (value : α) :
    TellsFaults folder [] (.value value : Outcome ToolError α) := by
  apply nil
  intro e he
  cases he

/-- Turns that end nothing may come before. -/
theorem append (hturns : forall turn e, turn ∈ turns -> ¬ turn.Breaks e)
    (hlater : TellsFaults folder later outcome) :
    TellsFaults folder (turns ++ later) outcome where
  told := by
    intro turn e hturn hbreaks
    rcases List.mem_append.mp hturn with hturn | hturn
    · exact absurd hbreaks (hturns turn e hturn)
    · exact hlater.told turn e hturn hbreaks
  caused := by
    intro e he hkind
    rcases hlater.caused e he hkind with ⟨turn, cause, hturn, hbreaks⟩
    exact ⟨turn, cause, List.mem_append_right turns hturn, hbreaks⟩

/-- A turn that ends nothing, and a value after it. -/
theorem single_value (hturn : forall e, ¬ turn.Breaks e) (value : α) :
    TellsFaults folder [turn] (.value value : Outcome ToolError α) := by
  have hquiet : forall other e, other ∈ [turn] -> ¬ other.Breaks e := by
    intro other e hother
    rw [List.mem_singleton.mp hother]
    exact hturn e
  exact (nil_value value).append hquiet

theorem single_error {onError : ApiError -> ToolError} {e : ApiError} (hturn : turn.Breaks e)
    (honError : TellsFault folder onError) :
    TellsFaults folder [turn] (.error (onError e) : Outcome ToolError α) where
  told := by
    intro other cause hother hbreaks
    rw [List.mem_singleton.mp hother] at hbreaks
    cases hturn.2.symm.trans hbreaks.2
    rcases honError e with ⟨hdetail, hkind⟩
    exact ⟨(onError e).kind, by rw [← hdetail], hkind⟩
  caused := by
    intro _ _ _
    exact ⟨turn, e, List.mem_cons_self, hturn⟩

/-- What a run is to end with does not matter once it has failed. -/
theorem recast {e : ToolError} (h : TellsFaults folder turns (.error e : Outcome ToolError α)) :
    TellsFaults folder turns (.error e : Outcome ToolError β) where
  told := by
    intro turn cause hturn hbreaks
    rcases h.told turn cause hturn hbreaks with ⟨kind, heq, hkind⟩
    cases heq
    exact ⟨kind, rfl, hkind⟩
  caused := by
    intro other hother hkind
    cases hother
    exact h.caused e rfl hkind

/-- Nothing has failed in a run that ended with a value or is unfinished. -/
theorem not_breaks (h : TellsFaults folder turns outcome)
    (houtcome : forall e, outcome ≠ .error e) :
    forall turn e, turn ∈ turns -> ¬ turn.Breaks e := by
  intro turn e hturn hbreaks
  rcases h.told turn e hturn hbreaks with ⟨kind, heq, _⟩
  exact houtcome _ heq

/-- A run blames a folder exactly if a call that ended it does. -/
theorem blames_iff (h : TellsFaults folder turns outcome) (detail : String) :
    outcome = .error { kind := .folderNotFound, detail } <->
      exists turn e, turn ∈ turns ∧ turn.Breaks e ∧ e.BlamesFolder folder ∧
        detail = e.describe := by
  constructor
  · intro houtcome
    rcases h.caused _ houtcome rfl with ⟨turn, e, hturn, hbreaks⟩
    rcases h.told turn e hturn hbreaks with ⟨kind, heq, hkind⟩
    rw [houtcome] at heq
    cases heq
    exact ⟨turn, e, hturn, hbreaks, hkind.mp rfl, rfl⟩
  · intro hexists
    rcases hexists with ⟨turn, e, hturn, hbreaks, hblames, hdetail⟩
    rcases h.told turn e hturn hbreaks with ⟨kind, heq, hkind⟩
    rw [heq, hkind.mpr hblames, hdetail]

end TellsFaults

/-! ## Steps -/

section Steps

variable {α β : Type} {folder : Option String}

theorem tellsFaults_done (value : α) :
    (done value : Run α).Ensures (TellsFaults folder) :=
  TellsFaults.nil_value value

theorem tellsFaults_call {call : Call} {onError : ApiError -> ToolError}
    (hcall : call.kind.isFollowUp = false) (honError : TellsFault folder onError) :
    (Remote.call call onError).Ensures (TellsFaults folder) := by
  intro answer
  cases answer with
  | ok reply =>
      apply TellsFaults.single_value
      intro e hbreaks
      cases hbreaks.2
  | error e =>
      have hbreaks : Turn.Breaks ⟨call, .error e⟩ e := ⟨hcall, rfl⟩
      exact TellsFaults.single_error hbreaks honError

theorem tellsFaults_attempt {call : Call} (hcall : call.kind.isFollowUp = true) :
    (Remote.attempt call : Run (Except ApiError call.Reply)).Ensures (TellsFaults folder) := by
  intro answer
  apply TellsFaults.single_value
  intro e hbreaks
  have hother : call.kind.isFollowUp = false := hbreaks.1
  rw [hcall] at hother
  cases hother

theorem tellsFaults_ofExcept {checked : Except ToolError α}
    (hchecked : forall e, checked = .error e -> e.kind ≠ .folderNotFound) :
    (Dialogue.ofExcept checked : Run α).Ensures (TellsFaults folder) := by
  cases checked with
  | ok value => exact TellsFaults.nil_value value
  | error e =>
      apply TellsFaults.nil
      intro other hother
      cases hother
      exact hchecked e rfl

theorem tellsFaults_bind {first : Run α} {rest : α -> Run β}
    (hfirst : first.Ensures (TellsFaults folder))
    (hrest : forall value, (rest value).Ensures (TellsFaults folder)) :
    (first >>= rest).Ensures (TellsFaults folder) := by
  rw [ensures_bind]
  apply hfirst.mono
  intro turns outcome hturns
  cases outcome with
  | value value =>
      apply (hrest value).mono
      intro later outcome hlater
      apply hlater.append
      apply hturns.not_breaks
      intro e he
      cases he
  | error e => exact hturns.recast
  | unfinished =>
      have hquiet := hturns.not_breaks (by intro e he; cases he)
      have hnil : TellsFaults folder [] (.unfinished : Outcome ToolError β) :=
        .nil (by intro e he; cases he)
      have happend := hnil.append hquiet
      rw [List.append_nil] at happend
      exact happend

theorem tellsFaults_carryOut {checked : Except ToolError α} {perform : α -> Run β}
    (hchecked : BlamesInput checked)
    (hperform : forall order, checked = .ok order ->
      (perform order).Ensures (TellsFaults folder)) :
    (carryOut checked perform).Ensures (TellsFaults folder) := by
  rw [ensures_carryOut]
  constructor
  · intro e he
    apply TellsFaults.nil
    intro other hother hkind
    cases hother
    have hinvalid := hchecked e he
    rw [ToolError.isInvalidInput_of_kind hkind rfl] at hinvalid
    cases hinvalid
  · exact hperform

/-- A call whose kinds of errors are fixed and none of them that of a folder. -/
theorem tellsFaults_plainCall {call : Call} {notFound failure : ToolErrorKind}
    (hcall : call.kind.isFollowUp = false) (hnotFound : notFound ≠ .folderNotFound)
    (hfailure : failure ≠ .folderNotFound) :
    (Remote.call call (ApiError.toToolError notFound failure)).Ensures (TellsFaults none) :=
  tellsFaults_call hcall (tellsFault_toToolError (fun _ => hnotFound) (fun _ => hfailure))

theorem tellsFaults_fetch (id : String) : (fetch id).Ensures (TellsFaults none) :=
  tellsFaults_plainCall rfl (by simp) (by simp)

theorem tellsFaults_submit_bind {id : String} {requests : List Edit} {failure : ToolErrorKind}
    {report : BatchReply -> β} (hfailure : failure ≠ .folderNotFound) :
    (submit id requests failure >>= fun reply => .done (report reply)).Ensures
      (TellsFaults none) := by
  have hmissing : forall e, missingInBatch e ≠ .folderNotFound := by
    intro e
    unfold missingInBatch
    split <;> simp
  have hfault : TellsFault none (fun e => e.toToolError (missingInBatch e) failure) :=
    tellsFault_toToolError hmissing (fun _ => hfailure)
  apply tellsFaults_bind (tellsFaults_call rfl hfault)
  intro reply
  exact tellsFaults_done (report reply)

/-- A follow-up, after which there is a value however it was answered. -/
theorem tellsFaults_attempt_bind {call : Call} {rest : Except ApiError call.Reply -> Run β}
    (hcall : call.kind.isFollowUp = true)
    (hrest : forall answer, exists value, rest answer = .done value) :
    (Remote.attempt call >>= rest).Ensures (TellsFaults folder) := by
  apply tellsFaults_bind (tellsFaults_attempt hcall)
  intro answer
  rcases hrest answer with ⟨value, hvalue⟩
  rw [hvalue]
  exact tellsFaults_done value

theorem tellsFaults_uploadImage (job : Job) (image : ImagePayload) :
    (uploadImage job image).Ensures (TellsFaults none) := by
  unfold uploadImage
  apply tellsFaults_bind (tellsFaults_plainCall rfl (by simp) (by simp))
  intro file
  apply tellsFaults_attempt_bind rfl
  intro shared
  cases shared with
  | ok reply => exact ⟨_, rfl⟩
  | error e => exact ⟨_, rfl⟩

end Steps

/-! ## Images and videos -/

theorem AddImage.tellsFaults (job : Job) (order : AddImage) :
    (perform job order).Ensures (TellsFaults none) := by
  unfold perform
  apply tellsFaults_bind (tellsFaults_fetch order.presentationId)
  intro deck
  apply tellsFaults_bind
  · apply tellsFaults_ofExcept
    intro e he
    rw [SlideRef.resolve_error he]
    simp
  · intro found
    apply tellsFaults_bind (tellsFaults_uploadImage job order.image)
    intro upload
    exact tellsFaults_submit_bind (by simp)

theorem ReplaceImage.tellsFaults (job : Job) (order : ReplaceImage) :
    (perform job order).Ensures (TellsFaults none) := by
  unfold perform
  apply tellsFaults_bind (tellsFaults_fetch order.presentationId)
  intro deck
  apply tellsFaults_bind
  · apply tellsFaults_ofExcept
    intro e he
    rcases target_error he with hkind | hkind
    · simp [hkind]
    · simp [hkind]
  · intro found
    apply tellsFaults_bind (tellsFaults_uploadImage job order.image)
    intro upload
    exact tellsFaults_submit_bind (by simp)

theorem Modify.tellsFaults {α : Type}
    {plan : Element Float -> α -> Except ToolError (EditPlan Float)} {failure : ToolErrorKind}
    {order : Modify α} (hfailure : failure ≠ .folderNotFound)
    (hplan : forall element e, plan element order.edit = .error e ->
      e.kind = .invalidObjectType ∨ e.kind = .invalidObjectState) :
    (perform plan failure order).Ensures (TellsFaults none) := by
  unfold perform
  apply tellsFaults_bind (tellsFaults_fetch order.presentationId)
  intro deck
  apply tellsFaults_bind
  · apply tellsFaults_ofExcept
    intro e he
    simp [locate_error he]
  · intro found
    apply tellsFaults_bind
    · apply tellsFaults_ofExcept
      intro e he
      rcases hplan found.element e he with hkind | hkind
      · simp [hkind]
      · simp [hkind]
    · intro planned
      exact tellsFaults_submit_bind hfailure

/-! ## Objects -/

theorem DeleteObjects.tellsFaults (order : DeleteObjects) :
    (perform order).Ensures (TellsFaults none) := by
  unfold perform
  apply tellsFaults_bind (tellsFaults_fetch order.presentationId)
  intro deck
  apply tellsFaults_bind
  · apply tellsFaults_ofExcept
    intro e he
    simp [partition_error he]
  · intro parts
    exact tellsFaults_submit_bind (by simp)

/-! ## Files -/

theorem CreatePresentation.tellsFaults (order : CreatePresentation) :
    (perform order).Ensures (TellsFaults none) := by
  have hfile (deck : Deck) : (file deck order.folder).Ensures (TellsFaults none) := by
    cases order.folder with
    | none => exact tellsFaults_done _
    | some folder =>
        apply tellsFaults_attempt_bind rfl
        intro moved
        cases moved with
        | ok reply => exact ⟨_, rfl⟩
        | error e => exact ⟨_, rfl⟩
  unfold perform
  apply tellsFaults_bind (tellsFaults_plainCall rfl (by simp) (by simp))
  intro created
  apply tellsFaults_bind (hfile created)
  intro filed
  exact tellsFaults_done _

theorem CopyPresentation.tellsFaults (order : CopyPresentation) :
    (perform order).Ensures (TellsFaults order.folder) := by
  unfold perform
  apply tellsFaults_bind (tellsFaults_call rfl (tellsFault_failure order.folder))
  intro copy
  exact tellsFaults_done _

theorem ExportPdf.tellsFaults (limit : Nat) (p : ExportParams) :
    (perform limit p).Ensures (TellsFaults none) := by
  unfold perform
  apply tellsFaults_bind (tellsFaults_plainCall rfl (by simp) (by simp))
  intro chunks
  apply tellsFaults_bind
  · apply tellsFaults_ofExcept
    intro e he
    simp [readCapped_error he]
  · intro body
    exact tellsFaults_done _

/-! ## Texts and comments -/

theorem SearchText.tellsFaults (order : SearchText) :
    (perform order).Ensures (TellsFaults none) := by
  unfold perform
  apply tellsFaults_bind (tellsFaults_fetch order.presentationId)
  intro deck
  exact tellsFaults_done _

theorem Translate.someTargets_ne_folderNotFound {deck : Deck} {order : Translate}
    {e : ToolError} (h : someTargets deck order = .error e) :
    e.kind ≠ .folderNotFound := by
  unfold someTargets at h
  rcases bind_eq_error.mp h with htargets | ⟨found, _, h⟩
  · rcases targets_error htargets with hkind | hkind
    · simp [hkind]
    · simp [hkind]
  · split at h
    case isTrue =>
        cases h
        simp
    case isFalse => cases h

theorem Translate.tellsFaults (order : Translate) :
    (perform order).Ensures (TellsFaults none) := by
  unfold perform
  apply tellsFaults_bind (tellsFaults_fetch order.presentationId)
  intro deck
  apply tellsFaults_bind
  · apply tellsFaults_ofExcept
    intro e he
    exact someTargets_ne_folderNotFound he
  · intro targets
    apply tellsFaults_bind (tellsFaults_plainCall rfl (by simp) (by simp))
    intro translations
    apply tellsFaults_bind
    · apply tellsFaults_ofExcept
      intro e he
      simp [checkCount_error he]
    · intro _
      dsimp only
      split
      case isTrue => exact tellsFaults_done _
      case isFalse => exact tellsFaults_submit_bind (by simp)

/-- By induction on the number of pages that may still follow. -/
theorem ListComments.readPages_tellsFaults (p : CommentParams) (budget : Nat)
    (visited : List String) (token : Option String) :
    (readPages p budget visited token).Ensures (TellsFaults none) := by
  induction budget generalizing visited token with
  | zero =>
      unfold readPages
      apply tellsFaults_bind (tellsFaults_plainCall rfl (by simp) (by simp))
      intro page
      cases nextToken? visited page with
      | none => exact tellsFaults_done _
      | some next => exact TellsFaults.nil (by intro e he; cases he)
  | succ budget ih =>
      unfold readPages
      apply tellsFaults_bind (tellsFaults_plainCall rfl (by simp) (by simp))
      intro page
      cases nextToken? visited page with
      | none => exact tellsFaults_done _
      | some next =>
          apply tellsFaults_bind (ih (next :: visited) (some next))
          intro rest
          exact tellsFaults_done _

theorem ListComments.tellsFaults (job : Job) (p : CommentParams) :
    (perform job p).Ensures (TellsFaults none) := by
  unfold perform
  apply tellsFaults_bind (readPages_tellsFaults p job.pageBudget [] none)
  intro comments
  exact tellsFaults_done _

theorem SetTransition.tellsFaults (order : SetTransition) :
    (perform order).Ensures (TellsFaults none) := by
  apply TellsFaults.nil
  intro e he
  cases he
  simp

/-! ## All tools -/

/-- The folder that a copy is to go to; no other tool looks for a folder in messages. -/
def Tool.destination? (tool : Tool) (params : Json) : Option String :=
  if tool.name = Tool.copyPresentation.name then
    match CopyParams.decode params with
    | .ok p => givenFolder p.destinationFolderId
    | .error _ => none
  else none

theorem Tool.destination?_of_ne {tool : Tool} (h : tool.name ≠ Tool.copyPresentation.name)
    (params : Json) :
    tool.destination? params = none :=
  if_neg h

theorem Tool.destination?_copyPresentation {params : Json} {order : CopyPresentation}
    (h : CopyPresentation.ofParams params = .ok order) :
    Tool.copyPresentation.destination? params = order.folder := by
  unfold CopyPresentation.ofParams at h
  rcases bind_eq_ok.mp h with ⟨p, hdecoded, h⟩
  rcases bind_eq_ok.mp h with ⟨source, _, h⟩
  rcases bind_eq_ok.mp h with ⟨name, _, h⟩
  cases h
  unfold decodeParams at hdecoded
  split at hdecoded
  case h_1 value hvalue =>
      cases hdecoded
      unfold destination?
      rw [if_pos rfl, hvalue]
  case h_2 => cases hdecoded

/-- A tool that is not the copy, by the lemma for its orders. -/
theorem Tool.tellsFaults_of_ne {α : Type} {tool : Tool} {params : Json}
    {checked : Except ToolError α} {perform : α -> Run Json}
    (hname : tool.name ≠ Tool.copyPresentation.name) (hchecked : BlamesInput checked)
    (hperform : forall order, checked = .ok order ->
      (perform order).Ensures (TellsFaults none)) :
    (carryOut checked perform).Ensures (TellsFaults (tool.destination? params)) := by
  rw [destination?_of_ne hname]
  exact tellsFaults_carryOut hchecked hperform

theorem Tool.ensures_tellsFaults {settings : ToolSettings} {tool : Tool}
    (htool : tool ∈ Tool.all settings) (job : Job) (params : Json) :
    (tool.run job params).Ensures (TellsFaults (tool.destination? params)) := by
  apply Tool.cases_of_mem_all htool
  case addImage =>
      exact Tool.tellsFaults_of_ne (by decide) (AddImage.ofParams_blamesInput params)
        (fun order _ => AddImage.tellsFaults job order)
  case replaceImage =>
      exact Tool.tellsFaults_of_ne (by decide) (ReplaceImage.ofParams_blamesInput params)
        (fun order _ => ReplaceImage.tellsFaults job order)
  case modifyImage =>
      apply Tool.tellsFaults_of_ne (by decide)
      · exact Modify.ofParams_blamesInput ImageChanges.check_blamesInput params
      · intro order horder
        apply Modify.tellsFaults (by simp)
        intro element e
        exact modifyImage_error
  case modifyVideo =>
      apply Tool.tellsFaults_of_ne (by decide)
      · exact Modify.ofParams_blamesInput VideoChanges.check_blamesInput params
      · intro order horder
        apply Modify.tellsFaults (by simp)
        intro element e
        exact modifyVideo_error
  case deleteObjects =>
      exact Tool.tellsFaults_of_ne (by decide) (DeleteObjects.ofParams_blamesInput params)
        (fun order _ => DeleteObjects.tellsFaults order)
  case createPresentation =>
      exact Tool.tellsFaults_of_ne (by decide) (CreatePresentation.ofParams_blamesInput params)
        (fun order _ => CreatePresentation.tellsFaults order)
  case copyPresentation =>
      apply tellsFaults_carryOut (CopyPresentation.ofParams_blamesInput params)
      intro order horder
      rw [Tool.destination?_copyPresentation horder]
      exact CopyPresentation.tellsFaults order
  case exportPdf =>
      exact Tool.tellsFaults_of_ne (by simp [Tool.exportPdf, Tool.copyPresentation])
        (ExportPdf.ofParams_blamesInput params) (fun order _ => ExportPdf.tellsFaults _ order)
  case searchText =>
      exact Tool.tellsFaults_of_ne (by simp [Tool.searchText, Tool.copyPresentation])
        (SearchText.ofParams_blamesInput _ params) (fun order _ => SearchText.tellsFaults order)
  case translate =>
      exact Tool.tellsFaults_of_ne (by decide) (Translate.ofParams_blamesInput params)
        (fun order _ => Translate.tellsFaults order)
  case listComments =>
      exact Tool.tellsFaults_of_ne (by decide) (ListComments.ofParams_blamesInput params)
        (fun order _ => ListComments.tellsFaults job order)
  case setTransition =>
      exact Tool.tellsFaults_of_ne (by decide) (SetTransition.ofParams_blamesInput params)
        (fun order _ => SetTransition.tellsFaults order)

/--
A run reports that a folder is not found exactly if a call other than a follow-up failed
with words about a parent folder, or if a copy failed because something is missing and
the message names the folder that the copy was to go to.  The report has the full text of
that failure.  So a caller who named no folder is told of one whenever the words say so.
-/
theorem Tool.run_folderNotFound_iff {settings : ToolSettings} {tool : Tool}
    (htool : tool ∈ Tool.all settings) (job : Job) (params : Json) {σ : Type}
    (answer : (call : Call) -> σ -> call.Answer × σ) (state : σ) (detail : String) :
    ((tool.run job params).hold answer state).outcome =
        .error { kind := .folderNotFound, detail } <->
      exists turn e, turn ∈ ((tool.run job params).hold answer state).turns ∧
        turn.Breaks e ∧ e.BlamesFolder (tool.destination? params) ∧ detail = e.describe :=
  ((Tool.ensures_tellsFaults htool job params).hold answer state).blames_iff detail

def SearchText.sampleParams (presentationId : String) : Json :=
  Json.object [("presentation_id", .str presentationId), ("query", .str "q")]

def ApiError.missingFile (id : String) : ApiError :=
  { status := some 404, message := "File not found: " ++ id ++ ".", reason := none }

def Rehearsal.withoutFile (id : String) : Rehearsal :=
  (start sampleDeck).failAlways .getPresentation (.missingFile id)

/-- The letters of a parent are found in the ID of a presentation. -/
theorem SearchText.exists_blaming_turn :
    exists turn e,
      turn ∈ (((Tool.searchText 0).run Job.sample (sampleParams "transparent-deck")).hold
        Rehearsal.answer (Rehearsal.withoutFile "transparent-deck")).turns ∧
      turn.Breaks e ∧
      e.BlamesFolder ((Tool.searchText 0).destination? (sampleParams "transparent-deck")) ∧
      "HTTP 404: File not found: transparent-deck." = e.describe := by
  have hturns :
      (((Tool.searchText 0).run Job.sample (sampleParams "transparent-deck")).hold
        Rehearsal.answer (Rehearsal.withoutFile "transparent-deck")).turns =
      [⟨.getPresentation "transparent-deck", .error (.missingFile "transparent-deck")⟩] := rfl
  have hparent : (ApiError.missingFile "transparent-deck").NamesParent := by
    show ApiError.namesParent _ _ = true
    decide +kernel
  rw [hturns]
  exact ⟨_, _, List.mem_cons_self, ⟨rfl, rfl⟩, Or.inl hparent, rfl⟩

/-- A search for which no folder was named reports one. -/
theorem Tool.run_folderNotFound_iff_searchText :
    Tool.searchText 0 ∈ Tool.all { exportMaxBytes := 0, searchContext := 0 } ∧
      (((Tool.searchText 0).run Job.sample (SearchText.sampleParams "transparent-deck")).hold
        Rehearsal.answer (Rehearsal.withoutFile "transparent-deck")).outcome =
        .error
          { kind := .folderNotFound
            detail := "HTTP 404: File not found: transparent-deck." } := by
  have htool : Tool.searchText 0 ∈ Tool.all { exportMaxBytes := 0, searchContext := 0 } := by
    simp [Tool.all]
  refine ⟨htool, ?_⟩
  apply (Tool.run_folderNotFound_iff htool Job.sample _ Rehearsal.answer _ _).mpr
  exact SearchText.exists_blaming_turn

/-- It is not so that a folder is only reported to callers who named one. -/
theorem Tool.blames_folder_not_named :
    ¬ forall (settings : ToolSettings) (tool : Tool), tool ∈ Tool.all settings ->
      tool.name ∉ ["copy_presentation", "create_presentation"] ->
      forall (job : Job) (params : Json) (σ : Type)
        (answer : (call : Call) -> σ -> call.Answer × σ) (state : σ) (e : ToolError),
        ((tool.run job params).hold answer state).outcome = .error e ->
          e.kind ≠ .folderNotFound := by
  intro h
  have htool : Tool.searchText 0 ∈ Tool.all { exportMaxBytes := 0, searchContext := 0 } := by
    simp [Tool.all]
  have htells := (Tool.ensures_tellsFaults htool Job.sample
    (SearchText.sampleParams "transparent-deck")).hold Rehearsal.answer
      (Rehearsal.withoutFile "transparent-deck")
  have hblames := (htells.blames_iff _).mpr SearchText.exists_blaming_turn
  exact h _ _ htool (by decide) _ _ _ _ _ _ hblames rfl

end DeckTools
