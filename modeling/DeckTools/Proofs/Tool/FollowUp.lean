import DeckTools.Proofs.Parallel
import DeckTools.Proofs.Rehearsal
import DeckTools.Proofs.Tool.FaultsEarly

/-!
# Follow-ups

Once an image is uploaded it is shared, and once a presentation is created it may be
moved to a folder.  How such a follow-up is answered shows in the warnings of the run
and nowhere else: not in the calls that come later, not in the other members of the
report, and not in the errors.
-/

namespace DeckTools

open Dialogue

/-! ## Calls that follow up -/

/-- Whether calls of a kind follow up on what was done before, so that they may fail. -/
def CallKind.isFollowUp : CallKind -> Bool
  | makePublic => true
  | moveFile => true
  | _ => false

def Call.IsFollowUp (call : Call) : Prop :=
  call.kind.isFollowUp = true

namespace Turn

def Fails (turn : Turn Call Call.Answer) (e : ApiError) : Prop :=
  turn.answer = .error e

/-- The call is a follow-up and was answered with an error. -/
def FollowUpFails (turn : Turn Call Call.Answer) (e : ApiError) : Prop :=
  turn.call.IsFollowUp ∧ turn.Fails e

theorem not_followUpFails {turn : Turn Call Call.Answer}
    (h : turn.call.kind.isFollowUp = false) (e : ApiError) :
    ¬ turn.FollowUpFails e := by
  intro hfails
  have hfollowUp : turn.call.kind.isFollowUp = true := hfails.1
  rw [h] at hfollowUp
  cases hfollowUp

end Turn

/-! ## Reports with warnings -/

namespace Keyed

theorem filter_insert {α : Type} (key : String) (value : α) (entries : List (String × α)) :
    (insert key value entries).filter (fun entry => entry.1 != key) =
      entries.filter (fun entry => entry.1 != key) := by
  induction entries with
  | nil => simp [insert]
  | cons entry rest ih =>
      unfold insert
      split
      case isTrue => simp
      case isFalse =>
          split
          case isTrue heq =>
              have hkey : entry.1 = key := (eq_of_beq heq).symm
              simp [hkey]
          case isFalse =>
              rw [List.filter_cons, List.filter_cons, ih]

theorem ofList_append_singleton {α : Type} (entries : List (String × α)) (key : String)
    (value : α) :
    ofList (entries ++ [(key, value)]) = insert key value (ofList entries) := by
  simp [ofList, List.foldl_append]

end Keyed

namespace Json

/-- An object without the member under a key. -/
def without (key : String) : Json -> Json
  | .obj members => .obj (members.filter (fun member => member.1 != key))
  | other => other

theorem without_object_append (key : String) (members : List (String × Json)) (value : Json) :
    (object (members ++ [(key, value)])).without key = (object members).without key := by
  show obj _ = obj _
  rw [Keyed.ofList_append_singleton, Keyed.filter_insert]

theorem get?_object_append (key : String) (members : List (String × Json)) (value : Json) :
    (object (members ++ [(key, value)])).get? key = some value := by
  show Keyed.find? key (Keyed.ofList (members ++ [(key, value)])) = some value
  rw [Keyed.ofList_append_singleton, Keyed.find?_insert_self]

end Json

/-! ## The same calls and the same end -/

/-- Two reports that differ in their warnings at most. -/
def SameButWarnings (report other : Json) : Prop :=
  report.without "warnings" = other.without "warnings"

/-- The warnings of a report are given as its last member. -/
theorem sameButWarnings_object (members : List (String × Json)) (warnings other : Json) :
    SameButWarnings (Json.object (members ++ [("warnings", warnings)]))
      (Json.object (members ++ [("warnings", other)])) := by
  unfold SameButWarnings
  rw [Json.without_object_append, Json.without_object_append]

section SideBySide

variable {α β γ δ : Type} {related : γ -> δ -> Prop}

theorem sideBySide_call_bind {ε : Type} {call : Call} {onError : ApiError -> ε}
    {rest : call.Reply -> Remote ε γ} {other : call.Reply -> Remote ε δ}
    (hcall : call.kind.isFollowUp = false)
    (hrest : forall reply, SideBySide Call.IsFollowUp related (rest reply) (other reply)) :
    SideBySide Call.IsFollowUp related (Remote.call call onError >>= rest)
      (Remote.call call onError >>= other) := by
  apply SideBySide.ask call
  intro answer otherAnswer hanswers
  rcases hanswers with hfree | heq
  · exact absurd (hcall.symm.trans hfree) Bool.false_ne_true
  · rw [← heq]
    cases answer with
    | ok reply => exact hrest reply
    | error e => exact .fail (onError e)

theorem sideBySide_ofExcept_bind {ε : Type} {checked : Except ε α} {rest : α -> Remote ε γ}
    {other : α -> Remote ε δ}
    (hrest : forall value, SideBySide Call.IsFollowUp related (rest value) (other value)) :
    SideBySide Call.IsFollowUp related (Dialogue.ofExcept checked >>= rest)
      (Dialogue.ofExcept checked >>= other) := by
  apply (SideBySide.ofExcept checked).bind
  intro value otherValue heq
  rw [← heq]
  exact hrest value

theorem sideBySide_carryOut {checked : Except ToolError α} {perform : α -> Run γ}
    {other : α -> Run δ}
    (hperform : forall order, SideBySide Call.IsFollowUp related (perform order) (other order)) :
    SideBySide Call.IsFollowUp related (carryOut checked perform)
      (carryOut checked other) := by
  cases checked with
  | error e => exact .fail e
  | ok order => exact hperform order

/-- What is uploaded does not depend on whether it could be shared. -/
theorem sideBySide_uploadImage (job : Job) (image : ImagePayload) :
    SideBySide Call.IsFollowUp (fun upload other => upload.value = other.value)
      (uploadImage job image) (uploadImage job image) := by
  apply sideBySide_call_bind rfl
  intro file
  apply SideBySide.ask
  intro answer other _
  cases answer <;> cases other <;> exact .done rfl

/-- What is filed does not depend on whether it could be moved. -/
theorem CreatePresentation.sideBySide_file (deck : Deck) (folder : Option String) :
    SideBySide Call.IsFollowUp (fun filed other => filed.value = other.value)
      (file deck folder) (file deck folder) := by
  cases folder with
  | none => exact .done rfl
  | some folder =>
      apply SideBySide.ask
      intro answer other _
      cases answer <;> cases other <;> exact .done rfl

/-- An image is uploaded once something was found; what comes then may look at the file only. -/
theorem sideBySide_fetch_bind {id : String} {check : Deck -> Except ToolError α} {job : Job}
    {image : ImagePayload} {rest : Deck -> α -> Completion FileRef -> Run γ}
    {other : Deck -> α -> Completion FileRef -> Run δ}
    (hrest : forall deck found upload otherUpload, upload.value = otherUpload.value ->
      SideBySide Call.IsFollowUp related (rest deck found upload)
        (other deck found otherUpload)) :
    SideBySide Call.IsFollowUp related
      (fetch id >>= fun deck => Dialogue.ofExcept (check deck) >>= fun found =>
        uploadImage job image >>= rest deck found)
      (fetch id >>= fun deck => Dialogue.ofExcept (check deck) >>= fun found =>
        uploadImage job image >>= other deck found) := by
  unfold fetch
  apply sideBySide_call_bind rfl
  intro deck
  apply sideBySide_ofExcept_bind
  intro found
  apply (sideBySide_uploadImage job image).bind
  intro upload otherUpload hupload
  exact hrest deck found upload otherUpload hupload

end SideBySide

theorem AddImage.sideBySide (job : Job) (order : AddImage) :
    SideBySide Call.IsFollowUp SameButWarnings (perform job order) (perform job order) := by
  apply sideBySide_fetch_bind
  intro deck found upload other hupload
  rw [hupload]
  apply sideBySide_call_bind rfl
  intro reply
  exact .done (sameButWarnings_object [_, _, _, _, _] _ _)

theorem ReplaceImage.sideBySide (job : Job) (order : ReplaceImage) :
    SideBySide Call.IsFollowUp SameButWarnings (perform job order) (perform job order) := by
  apply sideBySide_fetch_bind
  intro deck found upload other hupload
  rw [hupload]
  apply sideBySide_call_bind rfl
  intro reply
  exact .done (sameButWarnings_object [_, _, _, _, _] _ _)

theorem CreatePresentation.sideBySide (order : CreatePresentation) :
    SideBySide Call.IsFollowUp SameButWarnings (perform order) (perform order) := by
  unfold perform
  apply sideBySide_call_bind rfl
  intro created
  apply (sideBySide_file created order.folder).bind
  intro filed other hfiled
  rw [hfiled]
  exact .done (sameButWarnings_object [_, _, _, _] _ _)


/-! ## What the warnings tell -/

/--
There is no warning if no follow-up failed.  If one failed there is one warning, which
ends with the full text of the error.
-/
structure WarnsOf (turns : Turns) (warnings : List String) : Prop where
  quiet : (forall turn e, turn ∈ turns -> ¬ turn.FollowUpFails e) -> warnings = []
  told :
    forall turn e, turn ∈ turns -> turn.FollowUpFails e ->
      exists opening, warnings = [opening ++ e.describe]

namespace WarnsOf

variable {turn : Turn Call Call.Answer} {turns later : Turns} {warnings : List String}

theorem of_quiet (h : forall turn e, turn ∈ turns -> ¬ turn.FollowUpFails e) :
    WarnsOf turns [] where
  quiet := fun _ => rfl
  told := by
    intro turn e hturn hfails
    exact absurd hfails (h turn e hturn)

theorem single {e : ApiError} (h : turn.FollowUpFails e) (opening : String) :
    WarnsOf [turn] [opening ++ e.describe] where
  quiet := by
    intro hquiet
    exact absurd h (hquiet turn e List.mem_cons_self)
  told := by
    intro other cause hother hfails
    rw [List.mem_singleton.mp hother] at hfails
    cases h.2.symm.trans hfails.2
    exact ⟨opening, rfl⟩

/-- What comes before without being a follow-up calls for no warning. -/
theorem cons (hturn : turn.call.kind.isFollowUp = false) (hlater : WarnsOf later warnings) :
    WarnsOf (turn :: later) warnings where
  quiet := by
    intro hquiet
    apply hlater.quiet
    intro other e hother
    exact hquiet other e (List.mem_cons_of_mem _ hother)
  told := by
    intro other e hother hfails
    rcases List.mem_cons.mp hother with heq | hother
    · rw [heq] at hfails
      exact absurd hfails (Turn.not_followUpFails hturn e)
    · exact hlater.told other e hother hfails

/-- What comes after without being a follow-up calls for no warning. -/
theorem append (hturns : WarnsOf turns warnings)
    (hlater : forall turn, turn ∈ later -> turn.call.kind.isFollowUp = false) :
    WarnsOf (turns ++ later) warnings where
  quiet := by
    intro hquiet
    apply hturns.quiet
    intro other e hother
    exact hquiet other e (List.mem_append_left _ hother)
  told := by
    intro other e hother hfails
    rcases List.mem_append.mp hother with hother | hother
    · exact hturns.told other e hother hfails
    · exact absurd hfails (Turn.not_followUpFails (hlater other hother) e)

end WarnsOf

/-- The warnings of a completion tell how its follow-ups went. -/
def Warned {α : Type} (turns : Turns) (outcome : Outcome ToolError (Completion α)) : Prop :=
  forall completion, outcome = .value completion -> WarnsOf turns completion.warnings

/-- The warnings of a report tell how the follow-ups of the run went. -/
def ReportsFollowUps (turns : Turns) (outcome : Outcome ToolError Json) : Prop :=
  forall report, outcome = .value report ->
    exists warnings, report.get? "warnings" = some (Json.strings warnings) ∧
      WarnsOf turns warnings

/-- There is no follow-up any more, and a report has the warnings that are given. -/
def PassesOn (warnings : List String) (turns : Turns) (outcome : Outcome ToolError Json) :
    Prop :=
  (forall turn, turn ∈ turns -> turn.call.kind.isFollowUp = false) ∧
    forall report, outcome = .value report ->
      report.get? "warnings" = some (Json.strings warnings)

section Steps

variable {α : Type}

theorem uploadImage_warned (job : Job) (image : ImagePayload) :
    (uploadImage job image).Ensures Warned := by
  unfold uploadImage
  rw [ensures_call_bind]
  constructor
  · intro e completion heq
    cases heq
  · intro file answer
    cases answer with
    | ok reply =>
        intro completion heq
        cases heq
        apply WarnsOf.cons rfl
        apply WarnsOf.of_quiet
        intro turn e hturn hfails
        rw [List.mem_singleton.mp hturn] at hfails
        cases hfails.2
    | error e =>
        intro completion heq
        cases heq
        have hfails : Turn.FollowUpFails ⟨.makePublic file.id, .error e⟩ e := ⟨rfl, rfl⟩
        apply WarnsOf.cons rfl
        exact WarnsOf.single hfails _

theorem CreatePresentation.file_warned (deck : Deck) (folder : Option String) :
    (file deck folder).Ensures Warned := by
  cases folder with
  | none =>
      intro completion heq
      cases heq
      apply WarnsOf.of_quiet
      intro turn e hturn
      cases hturn
  | some folder =>
      intro answer
      cases answer with
      | ok reply =>
          intro completion heq
          cases heq
          apply WarnsOf.of_quiet
          intro turn e hturn hfails
          rw [List.mem_singleton.mp hturn] at hfails
          cases hfails.2
      | error e =>
          intro completion heq
          cases heq
          have hfails : Turn.FollowUpFails ⟨.moveFile deck.id folder, .error e⟩ e :=
            ⟨rfl, rfl⟩
          exact WarnsOf.single hfails _

theorem reportsFollowUps_bind {first : Run (Completion α)} {rest : Completion α -> Run Json}
    (hfirst : first.Ensures Warned)
    (hrest : forall completion, (rest completion).Ensures (PassesOn completion.warnings)) :
    (first >>= rest).Ensures ReportsFollowUps := by
  rw [ensures_bind]
  apply hfirst.mono
  intro turns outcome hturns
  cases outcome with
  | value completion =>
      apply (hrest completion).mono
      intro later outcome hlater report hreport
      exact ⟨completion.warnings, hlater.2 report hreport,
        (hturns completion rfl).append hlater.1⟩
  | error e =>
      intro report heq
      cases heq
  | unfinished =>
      intro report heq
      cases heq

theorem reportsFollowUps_call_bind {call : Call} {onError : ApiError -> ToolError}
    {rest : call.Reply -> Run Json} (hcall : call.kind.isFollowUp = false)
    (hrest : forall reply, (rest reply).Ensures ReportsFollowUps) :
    (Remote.call call onError >>= rest).Ensures ReportsFollowUps := by
  rw [ensures_call_bind]
  constructor
  · intro e report heq
    cases heq
  · intro reply
    apply (hrest reply).mono
    intro later outcome hlater report hreport
    rcases hlater report hreport with ⟨warnings, hwarnings, hwarns⟩
    exact ⟨warnings, hwarnings, hwarns.cons hcall⟩

theorem reportsFollowUps_carryOut {checked : Except ToolError α} {perform : α -> Run Json}
    (hperform : forall order, (perform order).Ensures ReportsFollowUps) :
    (carryOut checked perform).Ensures ReportsFollowUps := by
  rw [ensures_carryOut]
  constructor
  · intro e _ report heq
    cases heq
  · intro order _
    exact hperform order

/-- A report at the end has the warnings as its last member. -/
theorem passesOn_done (members : List (String × Json)) (warnings : List String) :
    PassesOn warnings []
      (.value (Json.object (members ++ [("warnings", Json.strings warnings)]))) := by
  constructor
  · intro turn hturn
    cases hturn
  · intro report heq
    cases heq
    exact Json.get?_object_append "warnings" members _

/-- A batch whose reply is reported together with the warnings. -/
theorem passesOn_submit_bind {id : String} {requests : List Edit} {failure : ToolErrorKind}
    {report : BatchReply -> Json} {warnings : List String}
    (hreport : forall reply, PassesOn warnings [] (.value (report reply))) :
    (submit id requests failure >>= fun reply => .done (report reply)).Ensures
      (PassesOn warnings) := by
  unfold submit
  rw [ensures_call_bind]
  have hkind : forall (answer : Except ApiError BatchReply) (turn : Turn Call Call.Answer),
      turn ∈ [⟨.batchUpdate id requests, answer⟩] -> turn.call.kind.isFollowUp = false := by
    intro answer turn hturn
    rw [List.mem_singleton.mp hturn]
    rfl
  constructor
  · intro e
    refine ⟨hkind (.error e), ?_⟩
    intro report heq
    cases heq
  · intro reply
    exact ⟨hkind (.ok reply), (hreport reply).2⟩

/-- An image is uploaded once something was found; what comes then passes the warnings on. -/
theorem reportsFollowUps_fetch_bind {id : String} {check : Deck -> Except ToolError α}
    {job : Job} {image : ImagePayload} {rest : Deck -> α -> Completion FileRef -> Run Json}
    (hrest : forall deck found upload,
      (rest deck found upload).Ensures (PassesOn upload.warnings)) :
    (fetch id >>= fun deck => Dialogue.ofExcept (check deck) >>= fun found =>
      uploadImage job image >>= rest deck found).Ensures ReportsFollowUps := by
  unfold fetch
  apply reportsFollowUps_call_bind rfl
  intro deck
  rw [ensures_ofExcept_bind]
  constructor
  · intro e _ report heq
    cases heq
  · intro found _
    apply reportsFollowUps_bind (uploadImage_warned job image)
    intro upload
    exact hrest deck found upload

end Steps

theorem AddImage.reportsFollowUps (job : Job) (order : AddImage) :
    (perform job order).Ensures ReportsFollowUps := by
  apply reportsFollowUps_fetch_bind
  intro deck found upload
  apply passesOn_submit_bind
  intro reply
  exact passesOn_done [_, _, _, _, _] upload.warnings

theorem ReplaceImage.reportsFollowUps (job : Job) (order : ReplaceImage) :
    (perform job order).Ensures ReportsFollowUps := by
  apply reportsFollowUps_fetch_bind
  intro deck found upload
  apply passesOn_submit_bind
  intro reply
  exact passesOn_done [_, _, _, _, _] upload.warnings

theorem CreatePresentation.reportsFollowUps (order : CreatePresentation) :
    (perform order).Ensures ReportsFollowUps := by
  unfold perform
  apply reportsFollowUps_call_bind rfl
  intro created
  apply reportsFollowUps_bind (file_warned created order.folder)
  intro filed
  exact passesOn_done [_, _, _, _] filed.warnings

/-! ## Runs -/

/-- The tools whose runs may have a follow-up. -/
def Tool.withFollowUps : List Tool :=
  [Tool.addImage, Tool.replaceImage, Tool.createPresentation]

theorem Tool.sideBySide_run {tool : Tool} (htool : tool ∈ Tool.withFollowUps) (job : Job)
    (params : Json) :
    SideBySide Call.IsFollowUp SameButWarnings (tool.run job params) (tool.run job params) := by
  unfold withFollowUps at htool
  simp only [List.mem_cons, List.not_mem_nil, or_false] at htool
  rcases htool with rfl | rfl | rfl
  · exact sideBySide_carryOut (AddImage.sideBySide job)
  · exact sideBySide_carryOut (ReplaceImage.sideBySide job)
  · exact sideBySide_carryOut CreatePresentation.sideBySide

theorem Tool.reportsFollowUps_run {tool : Tool} (htool : tool ∈ Tool.withFollowUps) (job : Job)
    (params : Json) :
    (tool.run job params).Ensures ReportsFollowUps := by
  unfold withFollowUps at htool
  simp only [List.mem_cons, List.not_mem_nil, or_false] at htool
  rcases htool with rfl | rfl | rfl
  · exact reportsFollowUps_carryOut (AddImage.reportsFollowUps job)
  · exact reportsFollowUps_carryOut (ReplaceImage.reportsFollowUps job)
  · exact reportsFollowUps_carryOut CreatePresentation.reportsFollowUps

/--
Services that answer alike but for follow-ups are asked the same by a tool that adds or
replaces an image or creates a presentation, with the same arguments in the same order.
The run fails with the same error, or its reports differ in the warnings at most, and the
warnings are those of the follow-ups.
-/
theorem Tool.run_alike_but_followUps {tool : Tool}
    (htool : tool ∈ Tool.withFollowUps) (job : Job) (params : Json) {σ τ : Type}
    {answer : (call : Call) -> σ -> call.Answer × σ}
    {other : (call : Call) -> τ -> call.Answer × τ} {related : σ -> τ -> Prop}
    (alike : AlikeBut Call.IsFollowUp answer other related) {s : σ} {t : τ}
    (hstates : related s t) :
    ((tool.run job params).hold answer s).calls =
        ((tool.run job params).hold other t).calls ∧
      ((exists e,
          ((tool.run job params).hold answer s).outcome = .error e ∧
          ((tool.run job params).hold other t).outcome = .error e) ∨
        exists report otherReport warnings otherWarnings,
          ((tool.run job params).hold answer s).outcome = .value report ∧
          ((tool.run job params).hold other t).outcome = .value otherReport ∧
          report.without "warnings" = otherReport.without "warnings" ∧
          report.get? "warnings" = some (Json.strings warnings) ∧
          WarnsOf ((tool.run job params).hold answer s).turns warnings ∧
          otherReport.get? "warnings" = some (Json.strings otherWarnings) ∧
          WarnsOf ((tool.run job params).hold other t).turns otherWarnings) := by
  have hreports := Tool.reportsFollowUps_run htool job params
  have hheld := hreports.hold answer s
  have hother := hreports.hold other t
  rcases (Tool.sideBySide_run htool job params).hold alike hstates with ⟨hcalls, hends⟩
  refine ⟨hcalls, ?_⟩
  rcases hends.error_or_value with hfailed | ⟨report, otherReport, hreport, hotherReport, hsame⟩
  · exact Or.inl hfailed
  · rcases hheld report hreport with ⟨warnings, hwarnings, hwarns⟩
    rcases hother otherReport hotherReport with ⟨otherWarnings, hotherWarnings, hotherWarns⟩
    exact Or.inr ⟨report, otherReport, warnings, otherWarnings, hreport, hotherReport, hsame,
      hwarnings, hwarns, hotherWarnings, hotherWarns⟩

/-- Answer follow-ups with an error, and everything else as before. -/
def refuseFollowUps {σ : Type} (e : ApiError) (answer : (call : Call) -> σ -> call.Answer × σ)
    (call : Call) (state : σ) : call.Answer × σ :=
  (if call.kind.isFollowUp then .error e else (answer call state).1, (answer call state).2)

theorem alikeBut_refuseFollowUps {σ : Type} (e : ApiError)
    (answer : (call : Call) -> σ -> call.Answer × σ) :
    AlikeBut Call.IsFollowUp answer (refuseFollowUps e answer) Eq where
  answers := by
    intro call s t hstates
    cases hstates
    by_cases hcall : call.IsFollowUp
    · exact Or.inl hcall
    · exact Or.inr (if_neg hcall).symm
  states := by
    intro call s t hstates
    cases hstates
    rfl

/-- An image is replaced all the same if it could not be shared. -/
theorem Tool.run_alike_but_followUps_replaceImage :
    Tool.replaceImage ∈ Tool.withFollowUps ∧
      AlikeBut Call.IsFollowUp Rehearsal.answer
        (refuseFollowUps (.transport "offline") Rehearsal.answer) Eq ∧
      exists held other report otherReport,
        held = (Tool.replaceImage.run Job.sample (ReplaceImage.sampleParams "image-1")).hold
          Rehearsal.answer (Rehearsal.start Rehearsal.sampleDeck) ∧
        other = (Tool.replaceImage.run Job.sample (ReplaceImage.sampleParams "image-1")).hold
          (refuseFollowUps (.transport "offline") Rehearsal.answer)
          (Rehearsal.start Rehearsal.sampleDeck) ∧
        held.calls = other.calls ∧
        held.outcome = .value report ∧ other.outcome = .value otherReport ∧
        report.without "warnings" = otherReport.without "warnings" ∧
        report.get? "warnings" = some (Json.strings []) ∧
        otherReport.get? "warnings" = some (Json.strings
          ["uploaded image file-1 could not be made public: offline"]) := by
  have htool : Tool.replaceImage ∈ Tool.withFollowUps := by simp [Tool.withFollowUps]
  have halike := alikeBut_refuseFollowUps (.transport "offline") Rehearsal.answer
  have hrun :
      Tool.replaceImage.run Job.sample (ReplaceImage.sampleParams "image-1") =
        (ReplaceImage.sample "image-1").perform Job.sample :=
    ReplaceImage.run_eq_perform rfl Job.sample
  have hboth := Tool.run_alike_but_followUps htool Job.sample
    (ReplaceImage.sampleParams "image-1") halike
    (rfl : Rehearsal.start Rehearsal.sampleDeck = Rehearsal.start Rehearsal.sampleDeck)
  rw [hrun] at hboth ⊢
  refine ⟨htool, halike, _, _, _, _, rfl, rfl, hboth.1, rfl, rfl, ?_, rfl, rfl⟩
  rcases hboth.2 with ⟨e, he, _⟩ | ⟨_, _, _, _, hreport, hother, hsame, _⟩
  · cases he
  · cases hreport
    cases hother
    exact hsame

end DeckTools
