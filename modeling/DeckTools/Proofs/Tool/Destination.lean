import DeckTools.Proofs.Text.Cut
import DeckTools.Proofs.Tool.StatusFault

/-!
# The folder a copy is to go to

A copy that fails because something is missing does not say what: the file that is copied or
the folder that it was to go to.  The message names an ID if the ID stands in it with no
character of the alphabet of IDs next to it, so that an ID inside a longer one does not count.
If the message names the folder, the folder is missing, and else the file is.
-/

namespace DeckTools

open Dialogue

namespace Text

/-- The alphabet of file IDs: ASCII letters and digits, the hyphen and the underscore. -/
def InIdAlphabet (c : Char) : Prop :=
  ('A' ≤ c ∧ c ≤ 'Z') ∨ ('a' ≤ c ∧ c ≤ 'z') ∨ ('0' ≤ c ∧ c ≤ '9') ∨ c = '-' ∨ c = '_'

instance (c : Char) : Decidable (InIdAlphabet c) :=
  inferInstanceAs (Decidable (_ ∨ _))

theorem isIdChar_iff (c : Char) : isIdChar c = true <-> InIdAlphabet c := by
  unfold isIdChar InIdAlphabet Char.isAlphanum Char.isAlpha Char.isUpper Char.isLower Char.isDigit
  simp [Char.le_def, or_assoc]

end Text

open Text

/-- The ID of a file is not empty, and all of its characters are from the alphabet of IDs. -/
def IsFileId (id : String) : Prop :=
  id ≠ "" ∧ forall c, c ∈ id.toList -> InIdAlphabet c

instance (id : String) : Decidable (IsFileId id) :=
  @instDecidableAnd _ _ _ (List.decidableBAll InIdAlphabet id.toList)

/-- The ID stands in the message, and the characters next to it are from no ID. -/
def NamesWhole (message id : String) : Prop :=
  exists before after : List Char, message.toList = before ++ id.toList ++ after ∧
    (forall c, before.getLast? = some c -> ¬ InIdAlphabet c) ∧
    forall c, after.head? = some c -> ¬ InIdAlphabet c

theorem standsAlone_isIdChar_iff (message id : String) :
    StandsAlone isIdChar id.toList message.toList <-> NamesWhole message id := by
  have hother (c : Char) : isIdChar c = false <-> ¬ InIdAlphabet c := by
    rw [← isIdChar_iff, Bool.not_eq_true]
  unfold StandsAlone NamesWhole
  simp only [hother]

namespace CopyPresentation

theorem namesId_iff {id : String} (hid : IsFileId id) (message : String) :
    namesId message id = true <-> NamesWhole message id := by
  have hword : forall c, c ∈ id.toList -> isIdChar c = true :=
    fun c hc => (isIdChar_iff c).mpr (hid.2 c hc)
  unfold namesId
  rw [List.contains_iff_mem, mem_words_iff, standsAlone_isIdChar_iff]
  exact and_iff_right hword

/-- The message names the folder, if there is one. -/
def NamesFolder (e : ApiError) (folder : Option String) : Prop :=
  exists id, folder = some id ∧ NamesWhole e.message id

/-- What is missing is the folder if it is named, and else the file that is copied. -/
structure TellsMissing (folder : Option String) (e : ApiError) (told : ToolError) : Prop where
  folderMissing : NamesFolder e folder ->
    told = { kind := .folderNotFound, detail := e.describe }
  sourceMissing : ¬ NamesFolder e folder ->
    told = { kind := .sourceNotFound, detail := e.describe }

theorem tellsMissing_failure {folder : Option String} {e : ApiError}
    (hclass : e.errorClass = .notFound) (hfolder : forall id, folder = some id -> IsFileId id) :
    TellsMissing folder e (failure folder e) := by
  have hsource : e.toToolError .sourceNotFound .copyFailed =
      { kind := .sourceNotFound, detail := e.describe } := by
    unfold ApiError.toToolError
    rw [hclass]
  unfold failure
  cases folder with
  | none =>
      constructor
      · rintro ⟨id, hid, _⟩
        cases hid
      · exact fun _ => hsource
  | some id =>
      have hnames : NamesFolder e (some id) <-> namesId e.message id = true := by
        rw [namesId_iff (hfolder id rfl)]
        constructor
        · rintro ⟨other, hother, hnamed⟩
          cases hother
          exact hnamed
        · intro hnamed
          exact ⟨id, rfl, hnamed⟩
      dsimp only
      constructor
      · intro hnamed
        rw [if_pos ⟨hclass, hnames.mp hnamed⟩]
      · intro hnamed
        rw [if_neg (fun h => hnamed (hnames.mpr h.2)), hsource]

/--
A message names a file ID exactly if the ID stands in it whole.  So a copy that fails because
something is missing ends with the folder missing if a folder was given and the message names
it whole, and with the source missing otherwise.
-/
theorem run_tells_missing :
    (forall message id : String, IsFileId id ->
      (namesId message id = true <-> NamesWhole message id)) ∧
    forall (params : Json) (order : CopyPresentation), ofParams params = .ok order ->
      (forall id, order.folder = some id -> IsFileId id) ->
      forall e : ApiError, e.errorClass = .notFound ->
      forall (job : Job) (σ : Type) (answer : (call : Call) -> σ -> call.Answer × σ) (state : σ),
        (answer (.copyFile order.source order.name order.folder) state).1 = .error e ->
        exists told,
          ((Tool.copyPresentation.run job params).hold answer state).outcome = .error told ∧
            TellsMissing order.folder e told := by
  refine ⟨fun message id hid => namesId_iff hid message, ?_⟩
  intro params order horder hfolder e hclass job σ answer state hfailed
  refine ⟨failure order.folder e, ?_, tellsMissing_failure hclass hfolder⟩
  have hrun : Tool.copyPresentation.run job params = perform order :=
    carryOut_of_ok horder perform
  rw [hrun]
  unfold perform
  rw [hold_call_bind_of_error hfailed]

def paramsInto (folder : String) : Json :=
  Json.object
    [("source_id", .str "pres-1"), ("name", .str "Quarterly Review"),
      ("destination_folder_id", .str folder)]

def withoutSource : Rehearsal :=
  (Rehearsal.start Rehearsal.sampleDeck).failAlways .copyFile (.missingFile "pres-1")

/-- A folder whose ID is the beginning of that of the missing file is not missing. -/
theorem run_tells_missing_partOfId :
    IsFileId "pres" ∧ ¬ NamesWhole "File not found: pres-1." "pres" ∧
      (ApiError.missingFile "pres-1").errorClass = .notFound ∧
      ofParams (paramsInto "pres") =
        .ok { source := "pres-1", name := "Quarterly Review", folder := some "pres" } ∧
      ((Tool.copyPresentation.run Job.sample (paramsInto "pres")).hold Rehearsal.answer
        withoutSource).outcome =
        .error { kind := .sourceNotFound, detail := "HTTP 404: File not found: pres-1." } := by
  have hid : IsFileId "pres" := by decide
  have hclass : (ApiError.missingFile "pres-1").errorClass = .notFound := by decide +kernel
  have hparams : ofParams (paramsInto "pres") =
      .ok { source := "pres-1", name := "Quarterly Review", folder := some "pres" } := rfl
  rcases run_tells_missing with ⟨hnames, hruns⟩
  have hother : ¬ NamesWhole "File not found: pres-1." "pres" := by
    rw [← hnames _ _ hid]
    decide
  refine ⟨hid, hother, hclass, hparams, ?_⟩
  rcases hruns (paramsInto "pres") _ hparams (by rintro id ⟨⟩; exact hid) _ hclass Job.sample _
    Rehearsal.answer withoutSource rfl with ⟨told, houtcome, htold⟩
  have hfolder : ¬ NamesFolder (ApiError.missingFile "pres-1") (some "pres") := by
    rintro ⟨id, heq, hnamed⟩
    cases heq
    exact hother hnamed
  rw [houtcome, htold.sourceMissing hfolder]
  rfl

end CopyPresentation

end DeckTools
