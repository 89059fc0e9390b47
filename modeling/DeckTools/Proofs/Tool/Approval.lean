import DeckTools.Proofs.Rehearsal
import DeckTools.Proofs.Tool.AllOrNothing
import DeckTools.Proofs.Tool.FaultsEarly

/-!
# Approval

A tool may ask for approval before it runs, and some of the tools that change or create
files do.  Tools that only read never ask for it.  What a tool can do is found by its
steps: four of them make no call that changes anything, and each of the others makes one
in a rehearsal with the sample presentation.
-/

namespace DeckTools

open Dialogue

/-! ## Calls that change files -/

/-- Whether calls of a kind change or create files, presentations included. -/
def CallKind.changesFiles : CallKind -> Bool
  | batchUpdate => true
  | createPresentation => true
  | uploadFile => true
  | makePublic => true
  | copyFile => true
  | moveFile => true
  | _ => false

/-- Some run of the tool, for some answers, makes a call that changes or creates files. -/
def Tool.CanChangeFiles (tool : Tool) : Prop :=
  exists (job : Job) (params : Json) (σ : Type)
    (answer : (call : Call) -> σ -> call.Answer × σ) (state : σ) (call : Call),
    call ∈ ((tool.run job params).hold answer state).calls ∧ call.kind.changesFiles = true

/-! ## Tools that only read -/

/-- No call changes or creates files. -/
def OnlyReads {ε α : Type} (turns : Turns) (_outcome : Outcome ε α) : Prop :=
  forall turn, turn ∈ turns -> turn.call.kind.changesFiles = false

section Steps

variable {ε α β : Type}

theorem onlyReads_nil {outcome : Outcome ε α} : OnlyReads [] outcome := by
  intro turn hturn
  cases hturn

theorem OnlyReads.cons {turn : Turn Call Call.Answer} {later : Turns} {outcome : Outcome ε α}
    (hturn : turn.call.kind.changesFiles = false) (hlater : OnlyReads later outcome) :
    OnlyReads (turn :: later) outcome := by
  intro other hother
  rcases List.mem_cons.mp hother with heq | hother
  · rw [heq]
    exact hturn
  · exact hlater other hother

theorem onlyReads_call_bind {call : Call} {onError : ApiError -> ε}
    {rest : call.Reply -> Remote ε β} (hcall : call.kind.changesFiles = false)
    (hrest : forall reply, (rest reply).Ensures OnlyReads) :
    (Remote.call call onError >>= rest).Ensures OnlyReads := by
  rw [ensures_call_bind]
  constructor
  · intro e
    exact onlyReads_nil.cons hcall
  · intro reply
    apply (hrest reply).mono
    intro later outcome hlater
    exact hlater.cons hcall

theorem onlyReads_carryOut {checked : Except ToolError α} {perform : α -> Run β}
    (hperform : forall order, (perform order).Ensures OnlyReads) :
    (carryOut checked perform).Ensures OnlyReads := by
  rw [ensures_carryOut]
  constructor
  · intro e _
    exact onlyReads_nil
  · intro order _
    exact hperform order

end Steps

theorem SearchText.onlyReads (order : SearchText) :
    (perform order).Ensures OnlyReads := by
  unfold perform fetch
  apply onlyReads_call_bind rfl
  intro deck
  exact onlyReads_nil

theorem ExportPdf.onlyReads (limit : Nat) (p : ExportParams) :
    (perform limit p).Ensures OnlyReads := by
  unfold perform
  apply onlyReads_call_bind rfl
  intro chunks
  rw [ensures_ofExcept_bind]
  constructor
  · intro e _
    exact onlyReads_nil
  · intro body _
    exact onlyReads_nil

theorem ListComments.onlyReads (job : Job) (p : CommentParams) :
    (perform job p).Ensures OnlyReads := by
  apply (perform_onlyPages job p).mono
  intro turns outcome h turn hturn
  rw [h.kinds turn hturn]
  rfl

theorem SetTransition.onlyReads (order : SetTransition) :
    (perform order).Ensures OnlyReads :=
  onlyReads_nil

theorem Tool.not_canChangeFiles {tool : Tool}
    (h : forall job params, (tool.run job params).Ensures OnlyReads) :
    ¬ tool.CanChangeFiles := by
  intro hcan
  rcases hcan with ⟨job, params, σ, answer, state, call, hcall, hchanges⟩
  rcases List.mem_map.mp hcall with ⟨turn, hturn, heq⟩
  have hreads := (h job params).hold answer state turn hturn
  rw [heq, hchanges] at hreads
  cases hreads

/-! ## Tools that change files -/

/-- Whether a rehearsal with the sample presentation has a call that changes or creates files. -/
def Tool.changesSample (tool : Tool) (params : Json) : Bool :=
  ((tool.run Job.sample params).hold Rehearsal.answer
    (Rehearsal.start Rehearsal.sampleDeck)).calls.any (fun call => call.kind.changesFiles)

theorem Tool.canChangeFiles_of_sample {tool : Tool} (params : Json)
    (h : tool.changesSample params = true) :
    tool.CanChangeFiles := by
  rcases List.any_eq_true.mp h with ⟨call, hcall, hchanges⟩
  exact ⟨Job.sample, params, Rehearsal, Rehearsal.answer,
    Rehearsal.start Rehearsal.sampleDeck, call, hcall, hchanges⟩

def AddImage.sampleParams : Json :=
  Json.object
    [("presentation_id", .str "pres-1"), ("slide_index", .int 1),
      ("image_data", .str "iVBORw0KGgo=")]

def Modify.sampleParams (objectId property : String) (value : Json) : Json :=
  Json.object
    [("presentation_id", .str "pres-1"), ("object_id", .str objectId),
      ("properties", Json.object [(property, value)])]

def CreatePresentation.sampleParams : Json :=
  Json.object [("title", .str "Quarterly Review")]

def CopyPresentation.sampleParams : Json :=
  Json.object [("source_id", .str "pres-1"), ("name", .str "Quarterly Review")]

def Translate.sampleParams : Json :=
  Json.object
    [("presentation_id", .str "pres-1"), ("target_language", .str "es"),
      ("scope", .str "object"), ("object_id", .str "deep-shape")]

/-! ## All tools -/

/-- The names of the tools that only read, whatever they are answered. -/
def Tool.readerNames : List String :=
  ["search_text", "export_pdf", "list_comments", "set_transition"]

/-- The names of the tools that can change or create files and do not ask for approval. -/
def Tool.unannouncedNames : List String :=
  ["add_image", "modify_image", "modify_video", "create_presentation", "copy_presentation",
    "translate_presentation"]

/--
Whether a tool can change or create files is told by its name.  A tool that asks for
approval can do so, and those that can and do not ask are told by their names as well.
-/
structure Tool.ApprovalByName (tool : Tool) : Prop where
  changes : tool.CanChangeFiles <-> tool.name ∉ readerNames
  announced : tool.requiresApproval = true -> tool.CanChangeFiles
  unannounced :
    tool.CanChangeFiles ∧ tool.requiresApproval = false <-> tool.name ∈ unannouncedNames

namespace Tool.ApprovalByName

variable {tool : Tool}

theorem of_onlyReads (hreads : forall job params, (tool.run job params).Ensures OnlyReads)
    (hflag : tool.requiresApproval = false) (hname : tool.name ∈ readerNames)
    (hother : tool.name ∉ unannouncedNames) :
    tool.ApprovalByName := by
  have hcan := not_canChangeFiles hreads
  constructor
  case changes => exact iff_of_false hcan (not_not_intro hname)
  case announced =>
      intro htrue
      rw [hflag] at htrue
      cases htrue
  case unannounced => exact iff_of_false (fun h => hcan h.1) hother

theorem of_sample (params : Json) (hchanges : tool.changesSample params = true)
    (hname : tool.name ∉ readerNames)
    (hflag : tool.requiresApproval = false <-> tool.name ∈ unannouncedNames) :
    tool.ApprovalByName := by
  have hcan := canChangeFiles_of_sample params hchanges
  constructor
  case changes => exact iff_of_true hcan hname
  case announced =>
      intro _
      exact hcan
  case unannounced => exact (and_iff_right hcan).trans hflag

end Tool.ApprovalByName

/--
The tools that search, export, list comments or refuse transitions make no call that
changes or creates a file, whatever their parameters and the answers.  Every other tool
can; only two of these ask for approval, and the others are the ones listed.
-/
theorem Tool.approval_of_mem_all {settings : ToolSettings} {tool : Tool}
    (htool : tool ∈ Tool.all settings) :
    (tool.CanChangeFiles <-> tool.name ∉ readerNames) ∧
      (tool.requiresApproval = true -> tool.CanChangeFiles) ∧
      (tool.CanChangeFiles ∧ tool.requiresApproval = false <->
        tool.name ∈ unannouncedNames) := by
  have hnames : tool.ApprovalByName := by
    apply Tool.cases_of_mem_all htool
    case addImage =>
        exact .of_sample AddImage.sampleParams (by decide +kernel) (by decide) (by decide)
    case replaceImage =>
        exact .of_sample (ReplaceImage.sampleParams "image-1") (by decide +kernel) (by decide)
          (by decide)
    case modifyImage =>
        exact .of_sample (Modify.sampleParams "image-1" "recolor" (.str "SEPIA"))
          (by decide +kernel) (by decide) (by decide)
    case modifyVideo =>
        exact .of_sample (Modify.sampleParams "video-1" "mute" (.bool true))
          (by decide +kernel) (by decide) (by decide)
    case deleteObjects =>
        exact .of_sample DeleteObjects.sampleParams (by decide +kernel) (by decide) (by decide)
    case createPresentation =>
        exact .of_sample CreatePresentation.sampleParams (by decide +kernel) (by decide)
          (by decide)
    case copyPresentation =>
        exact .of_sample CopyPresentation.sampleParams (by decide +kernel) (by decide)
          (by decide)
    case exportPdf =>
        apply ApprovalByName.of_onlyReads
        case hreads =>
            intro job params
            exact onlyReads_carryOut (ExportPdf.onlyReads settings.exportMaxBytes)
        all_goals simp [exportPdf, readerNames, unannouncedNames]
    case searchText =>
        apply ApprovalByName.of_onlyReads
        case hreads =>
            intro job params
            exact onlyReads_carryOut SearchText.onlyReads
        all_goals simp [searchText, readerNames, unannouncedNames]
    case translate =>
        exact .of_sample Translate.sampleParams (by decide +kernel) (by decide) (by decide)
    case listComments =>
        apply ApprovalByName.of_onlyReads
        case hreads =>
            intro job params
            exact onlyReads_carryOut (ListComments.onlyReads job)
        all_goals simp [listComments, readerNames, unannouncedNames]
    case setTransition =>
        apply ApprovalByName.of_onlyReads
        case hreads =>
            intro job params
            exact onlyReads_carryOut SetTransition.onlyReads
        all_goals simp [setTransition, readerNames, unannouncedNames]
  exact ⟨hnames.changes, hnames.announced, hnames.unannounced⟩

/-- A deletion changes files and asks for approval; a search does neither. -/
theorem Tool.approval_of_mem_all_deleteObjects :
    Tool.deleteObjects ∈ Tool.all { exportMaxBytes := 0, searchContext := 0 } ∧
      Tool.deleteObjects.CanChangeFiles ∧ Tool.deleteObjects.requiresApproval = true ∧
      Tool.searchText 0 ∈ Tool.all { exportMaxBytes := 0, searchContext := 0 } ∧
      ¬ (Tool.searchText 0).CanChangeFiles := by
  have hdelete : Tool.deleteObjects ∈
      Tool.all { exportMaxBytes := 0, searchContext := 0 } := by simp [Tool.all]
  have hsearch : Tool.searchText 0 ∈
      Tool.all { exportMaxBytes := 0, searchContext := 0 } := by simp [Tool.all]
  have hname : (Tool.searchText 0).name ∈ readerNames := by decide
  refine ⟨hdelete, (Tool.approval_of_mem_all hdelete).2.1 rfl, rfl, hsearch, ?_⟩
  intro hcan
  exact (Tool.approval_of_mem_all hsearch).1.mp hcan hname

/-- A presentation is created without asking, though that creates a file. -/
theorem Tool.createPresentation_unannounced :
    ¬ forall (settings : ToolSettings) (tool : Tool), tool ∈ Tool.all settings ->
      tool.CanChangeFiles -> tool.requiresApproval = true := by
  intro h
  have hcan : Tool.createPresentation.CanChangeFiles :=
    canChangeFiles_of_sample CreatePresentation.sampleParams (by decide +kernel)
  have hflag := h { exportMaxBytes := 0, searchContext := 0 } Tool.createPresentation
    (by simp [Tool.all]) hcan
  cases hflag

end DeckTools
