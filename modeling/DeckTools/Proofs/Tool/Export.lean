import DeckTools.Proofs.Text.Base64
import DeckTools.Proofs.Json.Canonical
import DeckTools.Proofs.Tool.Deletion
import DeckTools.Proofs.Tool.Fault

/-!
# Reading an export in chunks

An export comes in chunks, and its limit is tested as they are read.  It makes no
difference where the body was cut: the chunks are accepted if none fails and together they
keep to the limit, and all that is reported depends on their bytes in a row.
-/

namespace DeckTools

open Dialogue

namespace ExportPdf

/-! ## Chunks and their bytes in a row -/

/-- Bytes without a failure are read onto a body that keeps to the limit, and what follows after. -/
theorem readCapped_append {limit : Nat} {body : List UInt8} (bodies : List (List UInt8))
    (later : List (Except ApiError (List UInt8))) (h : body.length ≤ limit) :
    readCapped limit body (bodies.map .ok ++ later) =
      if (body ++ bodies.flatten).length ≤ limit then
        readCapped limit (body ++ bodies.flatten) later
      else
        failWith .exportFailed
          ("export is larger than the " ++ Text.natText limit ++ " byte limit") := by
  induction bodies generalizing body with
  | nil =>
      rw [List.flatten_nil, List.append_nil, if_pos h]
      rfl
  | cons chunk rest ih =>
      rw [List.map_cons, List.flatten_cons, ← List.append_assoc, List.cons_append, readCapped]
      by_cases hover : limit < body.length + chunk.length
      · -- What comes after a chunk that goes over the limit makes no body shorter.
        have hall : ¬ (body ++ chunk ++ rest.flatten).length ≤ limit := by
          simp only [List.length_append]
          omega
        rw [if_pos hover, if_neg hall]
      · have hnext : (body ++ chunk).length ≤ limit := by
          rw [List.length_append]
          omega
        rw [if_neg hover, ih hnext]

theorem readCapped_of_bodies {limit : Nat} {body : List UInt8} (bodies : List (List UInt8))
    (h : body.length ≤ limit) :
    readCapped limit body (bodies.map .ok) =
      if (body ++ bodies.flatten).length ≤ limit then .ok (body ++ bodies.flatten)
      else
        failWith .exportFailed
          ("export is larger than the " ++ Text.natText limit ++ " byte limit") := by
  have happend := readCapped_append bodies [] h
  rwa [List.append_nil] at happend

theorem readCapped_ne_ok {limit : Nat} {body result : List UInt8} {e : ApiError}
    {chunks : List (Except ApiError (List UInt8))} (h : .error e ∈ chunks) :
    readCapped limit body chunks ≠ .ok result := by
  induction chunks generalizing body with
  | nil => cases h
  | cons chunk rest ih =>
      cases chunk with
      | error cause => exact failWith_ne_ok
      | ok bytes =>
          have hrest : .error e ∈ rest := by
            rcases List.mem_cons.mp h with hfirst | hrest
            · cases hfirst
            · exact hrest
          unfold readCapped
          split
          case isTrue => exact failWith_ne_ok
          case isFalse => exact ih hrest

/-- A stream has a chunk that fails, or else it is made of bytes. -/
theorem fails_or_bodies (chunks : List (Except ApiError (List UInt8))) :
    (exists e, .error e ∈ chunks) ∨ exists bodies : List (List UInt8), chunks = bodies.map .ok := by
  induction chunks with
  | nil => exact Or.inr ⟨[], rfl⟩
  | cons chunk rest ih =>
      cases chunk with
      | error e => exact Or.inl ⟨e, List.mem_cons_self⟩
      | ok bytes =>
          rcases ih with ⟨e, he⟩ | ⟨bodies, rfl⟩
          · exact Or.inl ⟨e, List.mem_cons_of_mem _ he⟩
          · exact Or.inr ⟨bytes :: bodies, rfl⟩

theorem readCapped_eq_ok_iff {limit : Nat} {chunks : List (Except ApiError (List UInt8))}
    {body : List UInt8} :
    readCapped limit [] chunks = .ok body <->
      exists bodies : List (List UInt8),
        chunks = bodies.map .ok ∧ bodies.flatten = body ∧ body.length ≤ limit := by
  constructor
  · intro h
    rcases fails_or_bodies chunks with ⟨e, he⟩ | ⟨bodies, rfl⟩
    · exact absurd h (readCapped_ne_ok he)
    · rw [readCapped_of_bodies bodies (Nat.zero_le limit), List.nil_append] at h
      split at h
      case isTrue hle =>
          cases h
          exact ⟨bodies, rfl, rfl, hle⟩
      case isFalse => exact absurd h failWith_ne_ok
  · intro h
    rcases h with ⟨bodies, rfl, rfl, hle⟩
    rw [readCapped_of_bodies bodies (Nat.zero_le limit), List.nil_append, if_pos hle]

/-! ## Reports -/

/-- What has to be reported of a body: its length, its pages, and on demand its bytes. -/
structure Reports (includeContent : Bool) (body : List UInt8) (output : Json) : Prop where
  size : output.get? "size_bytes" = some (.ofNat body.length)
  pages : output.get? "page_count" = some (.ofNat (Pdf.countPages body))
  content : includeContent = true ->
    exists text, output.get? "content_base64" = some (.str text) ∧
      Text.Base64.decode? text = some body
  noContent : includeContent = false -> output.get? "content_base64" = none

theorem reports_report (p : ExportParams) (body : List UInt8) :
    Reports p.includeContent body (report p body) where
  size := by
    unfold report
    rw [Json.get?_object]
    cases p.includeContent <;> rfl
  pages := by
    unfold report
    rw [Json.get?_object]
    cases p.includeContent <;> rfl
  content := by
    intro h
    refine ⟨Text.Base64.encode body, ?_, Text.Base64.decode?_encode body⟩
    unfold report
    rw [Json.get?_object, h]
    rfl
  noContent := by
    intro h
    unfold report
    rw [Json.get?_object, h]
    rfl

/-! ## Runs -/

section Runs

variable {params : Json} {p : ExportParams} {id : String}

theorem run_eq_perform (hparams : ExportParams.decode params = .ok p)
    (hid : checkPresentationId p.presentationId = .ok id) (limit : Nat) (job : Job) :
    (Tool.exportPdf limit).run job params = perform limit { p with presentationId := id } := by
  have horder : ofParams params = .ok { p with presentationId := id } := by
    unfold ofParams
    rw [decodeParams_eq_ok hparams, ok_bind, hid, ok_bind]
  exact carryOut_of_ok horder (perform limit)

/-- Once the export is answered, a run ends as the reading of the chunks does. -/
theorem outcome_perform {σ : Type} {answer : (call : Call) -> σ -> call.Answer × σ} {state : σ}
    {chunks : List (Except ApiError (List UInt8))} (limit : Nat) (p : ExportParams)
    (hserved : (answer (.exportFile p.presentationId mimeType) state).1 = .ok chunks) :
    ((perform limit p).hold answer state).outcome =
      match readCapped limit [] chunks with
      | .ok body => .value (report p body)
      | .error e => .error e := by
  unfold perform
  rw [hold_call_bind_of_ok hserved]
  cases readCapped limit [] chunks <;> rfl

/--
A run whose export was answered succeeds exactly if no chunk fails and the chunks together
keep to the limit; otherwise the export fails.  It reports the length and the pages of the
bytes in a row and, on demand, their spelling in base64.  Two streams of the same bytes end
in the same way.
-/
theorem run_reads_bytes (hparams : ExportParams.decode params = .ok p)
    (hid : checkPresentationId p.presentationId = .ok id) {σ : Type}
    {answer : (call : Call) -> σ -> call.Answer × σ} {state : σ}
    {chunks : List (Except ApiError (List UInt8))}
    (hserved : (answer (.exportFile id mimeType) state).1 = .ok chunks) (limit : Nat)
    (job : Job) :
    (forall bodies : List (List UInt8), chunks = bodies.map .ok ->
      bodies.flatten.length ≤ limit ->
        exists output,
          (((Tool.exportPdf limit).run job params).hold answer state).outcome = .value output ∧
          Reports p.includeContent bodies.flatten output) ∧
    ((¬ exists bodies : List (List UInt8),
        chunks = bodies.map .ok ∧ bodies.flatten.length ≤ limit) ->
      exists detail,
        (((Tool.exportPdf limit).run job params).hold answer state).outcome =
          .error { kind := .exportFailed, detail }) ∧
    forall (bodies others : List (List UInt8)) {τ : Type}
      (other : (call : Call) -> τ -> call.Answer × τ) (start : τ),
      chunks = bodies.map .ok ->
      (other (.exportFile id mimeType) start).1 = .ok (others.map .ok) ->
      bodies.flatten = others.flatten ->
        (((Tool.exportPdf limit).run job params).hold other start).outcome =
          (((Tool.exportPdf limit).run job params).hold answer state).outcome := by
  rw [run_eq_perform hparams hid]
  refine ⟨?_, ?_, ?_⟩
  case refine_1 =>
      intro bodies hbodies hle
      have hread := readCapped_eq_ok_iff.mpr ⟨bodies, hbodies, rfl, hle⟩
      rw [outcome_perform limit { p with presentationId := id } hserved, hread]
      exact ⟨_, rfl, reports_report { p with presentationId := id } bodies.flatten⟩
  case refine_2 =>
      intro hnone
      rw [outcome_perform limit { p with presentationId := id } hserved]
      cases hread : readCapped limit [] chunks with
      | ok body =>
          rcases readCapped_eq_ok_iff.mp hread with ⟨bodies, hbodies, rfl, hle⟩
          exact absurd ⟨bodies, hbodies, hle⟩ hnone
      | error e =>
          have hkind : e.kind = .exportFailed := readCapped_error hread
          refine ⟨e.detail, ?_⟩
          rw [← hkind]
  case refine_3 =>
      intro bodies others τ other start hbodies hother hsame
      subst hbodies
      rw [outcome_perform limit { p with presentationId := id } hserved,
        outcome_perform limit { p with presentationId := id } hother,
        readCapped_of_bodies bodies (Nat.zero_le limit),
        readCapped_of_bodies others (Nat.zero_le limit), hsame]

end Runs

/-- A party that answers every export with a stream, and fails every other call. -/
def streams (chunks : List (Except ApiError (List UInt8))) (call : Call) (state : Unit) :
    call.Answer × Unit :=
  match call with
  | .exportFile _ _ => (.ok chunks, state)
  | _ => (.error (.transport "offline"), state)

def cutPage : List (List UInt8) :=
  [Text.Utf8.encode "/Type /Pa", [], Text.Utf8.encode "ge"]

/-- At its limit a cut page is read like the whole one; a byte less is too little. -/
theorem run_reads_bytes_cutPage :
    exists params p output detail,
      ExportParams.decode params = .ok p ∧ checkPresentationId p.presentationId = .ok "deck" ∧
      (((Tool.exportPdf 11).run Job.sample params).hold (streams (cutPage.map .ok)) ()).outcome =
        .value output ∧
      output.get? "page_count" = some (.ofNat 1) ∧
      (((Tool.exportPdf 11).run Job.sample params).hold
        (streams [.ok (Text.Utf8.encode "/Type /Page")]) ()).outcome = .value output ∧
      (((Tool.exportPdf 10).run Job.sample params).hold (streams (cutPage.map .ok)) ()).outcome =
        .error { kind := .exportFailed, detail } := by
  have hparams : ExportParams.decode (Json.object [("presentation_id", .str "deck")]) =
      .ok { presentationId := "deck", includeContent := true } := rfl
  have hid : checkPresentationId "deck" = .ok "deck" := rfl
  have hserved : (streams (cutPage.map .ok) (.exportFile "deck" mimeType) ()).1 =
      .ok (cutPage.map .ok) := rfl
  have hwhole : (streams [.ok (Text.Utf8.encode "/Type /Page")]
      (.exportFile "deck" mimeType) ()).1 =
        .ok ([Text.Utf8.encode "/Type /Page"].map .ok) := rfl
  have hlength : cutPage.flatten.length = 11 := rfl
  have hpages : Pdf.countPages cutPage.flatten = 1 := rfl
  have hsame : cutPage.flatten = [Text.Utf8.encode "/Type /Page"].flatten := rfl
  have hover : ¬ exists bodies : List (List UInt8),
      cutPage.map .ok = bodies.map (Except.ok (ε := ApiError)) ∧
        bodies.flatten.length ≤ 10 := by
    intro h
    rcases h with ⟨bodies, heq, hle⟩
    have hbodies : cutPage = bodies := (List.map_inj_right (fun _ _ => Except.ok.inj)).mp heq
    rw [← hbodies, hlength] at hle
    omega
  rcases run_reads_bytes hparams hid hserved 11 Job.sample with ⟨hread, _, hother⟩
  rcases run_reads_bytes hparams hid hserved 10 Job.sample with ⟨_, hfails, _⟩
  rcases hread cutPage rfl (Nat.le_of_eq hlength) with ⟨output, houtcome, hreports⟩
  rcases hfails hover with ⟨detail, hdetail⟩
  refine ⟨_, _, output, detail, hparams, hid, houtcome, ?_, ?_, hdetail⟩
  · rw [← hpages]
    exact hreports.pages
  · rw [← houtcome]
    exact hother cutPage _ _ () rfl hwhole hsame

end ExportPdf

end DeckTools
