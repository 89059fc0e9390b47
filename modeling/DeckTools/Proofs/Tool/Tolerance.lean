import DeckTools.Proofs.Json.Layout
import DeckTools.Proofs.Rehearsal

/-!
# Parameters that tools do not read

The parameters of a tool are a record, and the geometry and the changes in it are records too.
A tool reads the fields of these records alone, and takes null for an optional field that is
absent.  With such a member more a run is the same, call by call, and so is the error of
parameters that cannot be read.
-/

namespace DeckTools

open Fields

/-! ## Layouts of parameters -/

namespace Layout

open FieldLayout

def position : Layout :=
  .record [plain "x" .value, plain "y" .value]

def targetSize : Layout :=
  .record [maybe "width" .value, maybe "height" .value]

def crop : Layout :=
  .record
    [maybe "left" .value, maybe "right" .value, maybe "top" .value, maybe "bottom" .value]

def imageChanges : Layout :=
  .record
    [maybe "position" position, maybe "size" targetSize, maybe "brightness" .value,
      maybe "contrast" .value, maybe "transparency" .value, maybe "crop" crop,
      maybe "recolor" .value]

def videoChanges : Layout :=
  .record
    [maybe "position" position, maybe "size" targetSize, maybe "start_time" .value,
      maybe "end_time" .value, maybe "autoplay" .value, maybe "mute" .value]

def modify (changes : Layout) : Layout :=
  .record [plain "presentation_id" .value, plain "object_id" .value, plain "properties" changes]

def addImage : Layout :=
  .record
    [plain "presentation_id" .value, maybe "slide_index" .value, maybe "slide_id" .value,
      plain "image_data" .value, maybe "position" position, maybe "size" targetSize]

def replaceImage : Layout :=
  .record
    [plain "presentation_id" .value, plain "object_id" .value, plain "image_data" .value,
      plain "preserve_size" .value]

def deleteObjects : Layout :=
  .record
    [plain "presentation_id" .value, plain "object_ids" .value, maybe "object_id" .value]

def createPresentation : Layout :=
  .record [plain "title" .value, maybe "folder_id" .value]

def copyPresentation : Layout :=
  .record
    [plain "source_id" .value, plain "name" .value, maybe "destination_folder_id" .value]

def exportPdf : Layout :=
  .record [plain "presentation_id" .value, plain "include_content" .value]

def searchText : Layout :=
  .record
    [plain "presentation_id" .value, plain "query" .value, plain "case_sensitive" .value,
      maybe "context_chars" .value, plain "include_notes" .value, maybe "max_results" .value]

def translate : Layout :=
  .record
    [plain "presentation_id" .value, plain "target_language" .value,
      maybe "source_language" .value, plain "scope" .value, maybe "slide_index" .value,
      maybe "slide_id" .value, maybe "object_id" .value, plain "include_notes" .value]

def listComments : Layout :=
  .record
    [plain "presentation_id" .value, plain "include_deleted" .value,
      plain "include_resolved" .value]

def setTransition : Layout :=
  .record
    [plain "presentation_id" .value, maybe "slide_index" .value, maybe "slide_id" .value,
      plain "apply_to_all" .value, plain "transition_type" .value,
      maybe "duration_seconds" .value]

def ofTool (tool : Tool) : Layout :=
  (Keyed.find? tool.name
    [("add_image", addImage), ("replace_image", replaceImage),
      ("modify_image", modify imageChanges), ("modify_video", modify videoChanges),
      ("delete_objects", deleteObjects), ("create_presentation", createPresentation),
      ("copy_presentation", copyPresentation), ("export_pdf", exportPdf),
      ("search_text", searchText), ("translate_presentation", translate),
      ("list_comments", listComments), ("set_transition", setTransition)]).getD .value

end Layout

/-! ## Decoders -/

theorem follows_decodePosition : decodePosition.Follows .position := by
  apply Decoder.follows_record (by decide)
  exact ((Follows.required "x" (.value Decoder.double)).map Position.mk).seq
    (.required "y" (.value _))

theorem follows_decodeTargetSize : decodeTargetSize.Follows .targetSize := by
  apply Decoder.follows_record (by decide)
  exact ((Follows.optional "width" (.value Decoder.double)).map TargetSize.mk).seq
    (.optional "height" (.value _))

theorem follows_decodeCrop : decodeCrop.Follows .crop := by
  apply Decoder.follows_record (by decide)
  exact ((((Follows.optional "left" (.value Decoder.double)).map Crop.mk).seq
    (.optional "right" (.value _))).seq
    (.optional "top" (.value _))).seq
    (.optional "bottom" (.value _))

theorem follows_decodeImageChanges : decodeImageChanges.Follows .imageChanges := by
  apply Decoder.follows_record (by decide)
  exact (((((((Follows.optional "position" follows_decodePosition).map ImageChanges.mk).seq
    (.optional "size" follows_decodeTargetSize)).seq
    (.optional "brightness" (.value _))).seq
    (.optional "contrast" (.value _))).seq
    (.optional "transparency" (.value _))).seq
    (.optional "crop" follows_decodeCrop)).seq
    (.optional "recolor" (.value _))

theorem follows_decodeVideoChanges : decodeVideoChanges.Follows .videoChanges := by
  apply Decoder.follows_record (by decide)
  exact ((((((Follows.optional "position" follows_decodePosition).map VideoChanges.mk).seq
    (.optional "size" follows_decodeTargetSize)).seq
    (.optional "start_time" (.value _))).seq
    (.optional "end_time" (.value _))).seq
    (.optional "autoplay" (.value _))).seq
    (.optional "mute" (.value _))

/-- Parameters that the decoder takes for the same make the same order. -/
theorem decodeParams_of_follows {α : Type} {decode : Decoder α} {layout : Layout}
    (h : decode.Follows layout) {params params' : Json} (hadds : AddsMember layout params params') :
    decodeParams decode params' = decodeParams decode params := by
  unfold decodeParams
  rw [h params params' hadds]

section Orders

variable {params params' : Json}

theorem AddImage.ofParams_of_adds (h : AddsMember .addImage params params') :
    ofParams params' = ofParams params := by
  have hfollows : AddImageParams.decode.Follows .addImage := by
    apply Decoder.follows_record (by decide)
    exact ((((((Follows.required "presentation_id" (.value Decoder.text)).map
      AddImageParams.mk).seq
      (.optional "slide_index" (.value _))).seq
      (.optional "slide_id" (.value _))).seq
      (.required "image_data" (.value _))).seq
      (.optional "position" follows_decodePosition)).seq
      (.optional "size" follows_decodeTargetSize)
  unfold ofParams
  rw [decodeParams_of_follows hfollows h]

theorem ReplaceImage.ofParams_of_adds (h : AddsMember .replaceImage params params') :
    ofParams params' = ofParams params := by
  have hfollows : ReplaceImageParams.decode.Follows .replaceImage := by
    apply Decoder.follows_record (by decide)
    exact ((((Follows.required "presentation_id" (.value Decoder.text)).map
      ReplaceImageParams.mk).seq
      (.required "object_id" (.value _))).seq
      (.required "image_data" (.value _))).seq
      (.withDefault "preserve_size" (.value _) true)
  unfold ofParams
  rw [decodeParams_of_follows hfollows h]

/-- Both tools that modify one element, by the layout of the changes. -/
theorem Modify.ofParams_of_adds {α β : Type} {changes : Decoder α} {unchanged : α}
    {check : α -> Except ToolError β} {layout : Layout} (hchanges : changes.Follows layout)
    (h : AddsMember (.modify layout) params params') :
    ofParams changes unchanged check params' = ofParams changes unchanged check params := by
  have hfollows : (ModifyParams.decode changes unchanged).Follows (.modify layout) := by
    apply Decoder.follows_record (by simp [FieldLayout.plain])
    exact (((Follows.required "presentation_id" (.value Decoder.text)).map
      ModifyParams.mk).seq
      (.required "object_id" (.value _))).seq
      (.withDefault "properties" hchanges unchanged)
  unfold ofParams
  rw [decodeParams_of_follows hfollows h]

theorem DeleteObjects.ofParams_of_adds (h : AddsMember .deleteObjects params params') :
    ofParams params' = ofParams params := by
  have hfollows : DeleteParams.decode.Follows .deleteObjects := by
    apply Decoder.follows_record (by decide)
    exact (((Follows.required "presentation_id" (.value Decoder.text)).map
      DeleteParams.mk).seq
      (.withDefault "object_ids" (.value _) [])).seq
      (.optional "object_id" (.value _))
  unfold ofParams
  rw [decodeParams_of_follows hfollows h]

theorem CreatePresentation.ofParams_of_adds
    (h : AddsMember .createPresentation params params') :
    ofParams params' = ofParams params := by
  have hfollows : CreateParams.decode.Follows .createPresentation := by
    apply Decoder.follows_record (by decide)
    exact ((Follows.required "title" (.value Decoder.text)).map CreateParams.mk).seq
      (.optional "folder_id" (.value _))
  unfold ofParams
  rw [decodeParams_of_follows hfollows h]

theorem CopyPresentation.ofParams_of_adds
    (h : AddsMember .copyPresentation params params') :
    ofParams params' = ofParams params := by
  have hfollows : CopyParams.decode.Follows .copyPresentation := by
    apply Decoder.follows_record (by decide)
    exact (((Follows.required "source_id" (.value Decoder.text)).map CopyParams.mk).seq
      (.required "name" (.value _))).seq
      (.optional "destination_folder_id" (.value _))
  unfold ofParams
  rw [decodeParams_of_follows hfollows h]

theorem ExportPdf.ofParams_of_adds (h : AddsMember .exportPdf params params') :
    ofParams params' = ofParams params := by
  have hfollows : ExportParams.decode.Follows .exportPdf := by
    apply Decoder.follows_record (by decide)
    exact ((Follows.required "presentation_id" (.value Decoder.text)).map
      ExportParams.mk).seq
      (.withDefault "include_content" (.value _) true)
  unfold ofParams
  rw [decodeParams_of_follows hfollows h]

theorem SearchText.ofParams_of_adds (context : Nat) (h : AddsMember .searchText params params') :
    ofParams context params' = ofParams context params := by
  have hfollows : SearchParams.decode.Follows .searchText := by
    apply Decoder.follows_record (by decide)
    exact ((((((Follows.required "presentation_id" (.value Decoder.text)).map
      SearchParams.mk).seq
      (.required "query" (.value _))).seq
      (.withDefault "case_sensitive" (.value _) false)).seq
      (.optional "context_chars" (.value _))).seq
      (.withDefault "include_notes" (.value _) true)).seq
      (.optional "max_results" (.value _))
  unfold ofParams
  rw [decodeParams_of_follows hfollows h]

theorem Translate.ofParams_of_adds (h : AddsMember .translate params params') :
    ofParams params' = ofParams params := by
  have hfollows : TranslateParams.decode.Follows .translate := by
    apply Decoder.follows_record (by decide)
    have hlanguages := (((Follows.required "presentation_id" (.value Decoder.text)).map
      TranslateParams.mk).seq
      (.required "target_language" (.value Decoder.text))).seq
      (.optional "source_language" (.value Decoder.text))
    have hplace := ((hlanguages.seq
      (.withDefault "scope" (.value ScopeName.decode) .presentation)).seq
      (.optional "slide_index" (.value Decoder.signed64))).seq
      (.optional "slide_id" (.value Decoder.text))
    have hall := (hplace.seq
      (.optional "object_id" (.value Decoder.text))).seq
      (.withDefault "include_notes" (.value Decoder.boolean) false)
    exact hall
  unfold ofParams
  rw [decodeParams_of_follows hfollows h]

theorem ListComments.ofParams_of_adds (h : AddsMember .listComments params params') :
    ofParams params' = ofParams params := by
  have hfollows : CommentParams.decode.Follows .listComments := by
    apply Decoder.follows_record (by decide)
    exact (((Follows.required "presentation_id" (.value Decoder.text)).map
      CommentParams.mk).seq
      (.withDefault "include_deleted" (.value _) false)).seq
      (.withDefault "include_resolved" (.value _) true)
  unfold ofParams
  rw [decodeParams_of_follows hfollows h]

theorem SetTransition.ofParams_of_adds (h : AddsMember .setTransition params params') :
    ofParams params' = ofParams params := by
  have hfollows : TransitionParams.decode.Follows .setTransition := by
    apply Decoder.follows_record (by decide)
    exact ((((((Follows.required "presentation_id" (.value Decoder.text)).map
      TransitionParams.mk).seq
      (.optional "slide_index" (.value _))).seq
      (.optional "slide_id" (.value _))).seq
      (.withDefault "apply_to_all" (.value _) false)).seq
      (.required "transition_type" (.value _))).seq
      (.optional "duration_seconds" (.value _))
  unfold ofParams
  rw [decodeParams_of_follows hfollows h]

end Orders

/-! ## All tools -/

theorem Tool.run_of_adds {settings : ToolSettings} {tool : Tool}
    (htool : tool ∈ Tool.all settings) {params params' : Json}
    (h : AddsMember (.ofTool tool) params params') (job : Job) :
    tool.run job params' = tool.run job params := by
  revert h
  apply Tool.cases_of_mem_all htool <;> intro h
  case addImage =>
      exact congrArg (carryOut · (AddImage.perform job)) (AddImage.ofParams_of_adds h)
  case replaceImage =>
      exact congrArg (carryOut · (ReplaceImage.perform job)) (ReplaceImage.ofParams_of_adds h)
  case modifyImage =>
      exact congrArg (carryOut · _) (Modify.ofParams_of_adds follows_decodeImageChanges h)
  case modifyVideo =>
      exact congrArg (carryOut · _) (Modify.ofParams_of_adds follows_decodeVideoChanges h)
  case deleteObjects =>
      exact congrArg (carryOut · DeleteObjects.perform) (DeleteObjects.ofParams_of_adds h)
  case createPresentation =>
      exact congrArg (carryOut · CreatePresentation.perform)
        (CreatePresentation.ofParams_of_adds h)
  case copyPresentation =>
      exact congrArg (carryOut · CopyPresentation.perform)
        (CopyPresentation.ofParams_of_adds h)
  case exportPdf =>
      exact congrArg (carryOut · (ExportPdf.perform settings.exportMaxBytes))
        (ExportPdf.ofParams_of_adds h)
  case searchText =>
      exact congrArg (carryOut · SearchText.perform)
        (SearchText.ofParams_of_adds settings.searchContext h)
  case translate =>
      exact congrArg (carryOut · Translate.perform) (Translate.ofParams_of_adds h)
  case listComments =>
      exact congrArg (carryOut · (ListComments.perform job)) (ListComments.ofParams_of_adds h)
  case setTransition =>
      exact congrArg (carryOut · SetTransition.perform) (SetTransition.ofParams_of_adds h)

/--
A member more that is not read, or that is null for an optional field, changes nothing: the
run ends in the same way, after the same calls, whatever they are answered.
-/
theorem Tool.run_ignores_additions {settings : ToolSettings} {tool : Tool}
    (htool : tool ∈ Tool.all settings) {params params' : Json}
    (h : AddsMember (.ofTool tool) params params') (job : Job) {σ : Type}
    (answer : (call : Call) -> σ -> call.Answer × σ) (state : σ) :
    ((tool.run job params').hold answer state).outcome =
        ((tool.run job params).hold answer state).outcome ∧
      ((tool.run job params').hold answer state).turns =
        ((tool.run job params).hold answer state).turns := by
  rw [Tool.run_of_adds htool h job]
  exact ⟨rfl, rfl⟩

def Modify.sizeParams (size : List (String × Json)) : Json :=
  .obj
    [("object_id", .str "logo"), ("presentation_id", .str "deck"),
      ("properties", .obj [("size", .obj size)])]

/-- A depth is not read, and what is wrong is the width after it. -/
theorem Tool.run_ignores_additions_depth :
    ((Tool.modifyImage.run Job.sample
        (Modify.sizeParams [("depth", .int 3), ("width", .str "wide")])).hold
      Rehearsal.answer (Rehearsal.start Rehearsal.sampleDeck)).outcome =
        .error
          { kind := .invalidParameters
            detail := "invalid type: string \"wide\", expected f64" } := by
  have htool : Tool.modifyImage ∈ Tool.all { exportMaxBytes := 0, searchContext := 0 } := by
    simp [Tool.all]
  have hsize : AddsMember .targetSize (.obj [("width", .str "wide")])
      (.obj [("depth", .int 3), ("width", .str "wide")]) :=
    @AddsMember.unknown _ [] _ _ _ (by decide)
  have hchanges : AddsMember .imageChanges (.obj [("size", .obj [("width", .str "wide")])])
      (.obj [("size", .obj [("depth", .int 3), ("width", .str "wide")])]) :=
    @AddsMember.member _ [] [] (.maybe "size" .targetSize) _ _
      (List.mem_cons_of_mem _ List.mem_cons_self) hsize
  have hparams : AddsMember (.ofTool .modifyImage) (Modify.sizeParams [("width", .str "wide")])
      (Modify.sizeParams [("depth", .int 3), ("width", .str "wide")]) :=
    @AddsMember.member _ [("object_id", .str "logo"), ("presentation_id", .str "deck")] []
      (.plain "properties" .imageChanges) _ _
      (List.mem_cons_of_mem _ (List.mem_cons_of_mem _ List.mem_cons_self)) hchanges
  rw [(Tool.run_ignores_additions htool hparams Job.sample Rehearsal.answer
    (Rehearsal.start Rehearsal.sampleDeck)).1]
  rfl

end DeckTools
