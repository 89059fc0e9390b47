import DeckTools.Proofs.Deck.Ids
import DeckTools.Proofs.Rehearsal

/-!
# Deleting by ID

A deletion asks for IDs in two forms, with blanks around them and repeats.  What it
sends, what it reports as deleted and what it reports as unknown are the same IDs,
split by whether the presentation knows them.
-/

namespace DeckTools

open Dialogue

/-! ## Requested IDs -/

/-- The IDs asked for, trimmed, each where it is named first. -/
def DeleteParams.requested (p : DeleteParams) : List String :=
  ((p.objectIds ++ p.objectId.toList).map Text.trim).eraseDups

theorem eraseDups_eq_nil_iff {ids : List String} : ids.eraseDups = [] <-> ids = [] := by
  cases ids with
  | nil => simp
  | cons id rest => simp [List.eraseDups_cons]

theorem checkObjectId_eq_ok {raw : String} (h : Text.trim raw ≠ "") :
    checkObjectId raw = .ok (Text.trim raw) := by
  unfold checkObjectId
  dsimp only
  rw [if_neg]
  intro hempty
  exact h (String.isEmpty_iff.mp hempty)

theorem checkObjectId_eq_error {raw : String} (h : Text.trim raw = "") :
    checkObjectId raw = .error { kind := .invalidObjectId, detail := "object_id is required" } := by
  unfold checkObjectId
  rw [h]
  rfl

theorem mapM_checkObjectId_eq_ok {raws : List String} (h : "" ∉ raws.map Text.trim) :
    raws.mapM checkObjectId = .ok (raws.map Text.trim) := by
  induction raws with
  | nil => rfl
  | cons raw rest ih =>
      rw [List.map_cons, List.mem_cons, not_or] at h
      rw [List.mapM_cons, checkObjectId_eq_ok (Ne.symm h.1), ih h.2]
      rfl

theorem mapM_checkObjectId_eq_error {raws : List String} (h : "" ∈ raws.map Text.trim) :
    raws.mapM checkObjectId =
      .error { kind := .invalidObjectId, detail := "object_id is required" } := by
  induction raws with
  | nil => cases h
  | cons raw rest ih =>
      rw [List.mapM_cons]
      by_cases hraw : Text.trim raw = ""
      · rw [checkObjectId_eq_error hraw]
        rfl
      · rw [List.map_cons, List.mem_cons] at h
        rcases h with hfirst | hrest
        · exact absurd hfirst.symm hraw
        · rw [checkObjectId_eq_ok hraw, ih hrest]
          rfl

theorem decodeParams_eq_ok {α : Type} {decode : Decoder α} {params : Json} {value : α}
    (h : decode params = .ok value) :
    decodeParams decode params = .ok value := by
  unfold decodeParams
  rw [h]

namespace DeleteObjects

/-! ## Orders -/

section Orders

variable {params : Json} {p : DeleteParams} {id : String}

/-- Parameters that decode are refused if they ask for nothing, and else each ID is checked. -/
theorem ofParams_eq (hparams : decodeParams DeleteParams.decode params = .ok p)
    (hid : checkPresentationId p.presentationId = .ok id) :
    ofParams params =
      if p.requested = [] then
        .error { kind := .noObjectsSpecified, detail := "give object_ids or object_id" }
      else
        ((p.objectIds ++ p.objectId.toList).mapM checkObjectId).map
          (fun objectIds => { presentationId := id, objectIds }) := by
  have hnil : p.requested = [] <-> (p.objectIds ++ p.objectId.toList).isEmpty = true := by
    rw [List.isEmpty_iff, DeleteParams.requested, eraseDups_eq_nil_iff, List.map_eq_nil_iff]
  unfold ofParams
  rw [hparams, ok_bind, hid, ok_bind]
  dsimp only
  by_cases h : p.requested = []
  · rw [if_pos h, if_pos (hnil.mp h), failWith, error_bind]
  · rw [if_neg h, if_neg (mt hnil.mpr h), bind_ok_eq_map]

theorem ofParams_eq_ok (hparams : decodeParams DeleteParams.decode params = .ok p)
    (hid : checkPresentationId p.presentationId = .ok id) (hsome : p.requested ≠ [])
    (hnamed : "" ∉ p.requested) :
    exists order, ofParams params = .ok order ∧ order.presentationId = id ∧
      order.objectIds.eraseDups = p.requested := by
  have hnamed' : "" ∉ (p.objectIds ++ p.objectId.toList).map Text.trim := by
    intro hmem
    exact hnamed (List.mem_eraseDups.mpr hmem)
  refine ⟨{ presentationId := id
            objectIds := (p.objectIds ++ p.objectId.toList).map Text.trim }, ?_, rfl, rfl⟩
  rw [ofParams_eq hparams hid, if_neg hsome, mapM_checkObjectId_eq_ok hnamed']
  rfl

/-- Nothing to delete, and a blank among the IDs, are faults of the input. -/
theorem ofParams_eq_error (hparams : decodeParams DeleteParams.decode params = .ok p)
    (hid : checkPresentationId p.presentationId = .ok id)
    (h : p.requested = [] ∨ "" ∈ p.requested) :
    exists e : ToolError, ofParams params = .error e ∧
      (e.kind = .noObjectsSpecified ∨ e.kind = .invalidObjectId) := by
  rw [ofParams_eq hparams hid]
  by_cases hnil : p.requested = []
  · rw [if_pos hnil]
    exact ⟨_, rfl, Or.inl rfl⟩
  · have hblank : "" ∈ (p.objectIds ++ p.objectId.toList).map Text.trim :=
      List.mem_eraseDups.mp (h.resolve_left hnil)
    rw [if_neg hnil, mapM_checkObjectId_eq_error hblank]
    exact ⟨_, rfl, Or.inr rfl⟩

end Orders

/-! ## Carrying a deletion out -/

/-- The requests that delete the known ones among some IDs, in their order. -/
def deletions (deck : Deck) (ids : List String) : List Edit :=
  (ids.filter (fun id => deck.Names id)).map .deleteObject

/-- What is reported of some IDs: the known ones, how many they are, and the others. -/
def report (deck : Deck) (ids : List String) : Json :=
  Json.object
    [("deleted_ids", Json.strings (ids.filter (fun id => deck.Names id))),
      ("deleted_count", .ofNat (ids.filter (fun id => deck.Names id)).length),
      ("not_found_ids", Json.strings (ids.filter (fun id => ¬ deck.Names id)))]

theorem partition_eq_ok {order : DeleteObjects} {deck : Deck}
    (h : exists id, id ∈ order.objectIds.eraseDups ∧ deck.Names id) :
    order.partition deck =
      .ok
        { existing := order.objectIds.eraseDups.filter (fun id => deck.Names id)
          missing := order.objectIds.eraseDups.filter (fun id => ¬ deck.Names id) } := by
  have hsome : (order.objectIds.eraseDups.filter (fun id => deck.Names id)).isEmpty = false := by
    apply Bool.eq_false_iff.mpr
    intro hempty
    rcases h with ⟨id, hid, hnames⟩
    have hnone := List.filter_eq_nil_iff.mp (List.isEmpty_iff.mp hempty) id hid
    exact hnone (decide_eq_true hnames)
  unfold partition
  dsimp only
  rw [Presentation.categorize_eq, hsome, if_neg Bool.false_ne_true]

theorem partition_eq_error {order : DeleteObjects} {deck : Deck}
    (h : forall id, id ∈ order.objectIds.eraseDups -> ¬ deck.Names id) :
    exists detail, order.partition deck = .error { kind := .objectNotFound, detail } := by
  have hnone : order.objectIds.eraseDups.filter (fun id => deck.Names id) = [] := by
    apply List.filter_eq_nil_iff.mpr
    intro id hid hnames
    exact h id hid (of_decide_eq_true hnames)
  unfold partition
  dsimp only
  rw [Presentation.categorize_eq, hnone, List.isEmpty_nil, if_pos rfl]
  exact ⟨_, rfl⟩

section Held

variable {σ : Type} {answer : (call : Call) -> σ -> call.Answer × σ} {state : σ} {deck : Deck}
  {order : DeleteObjects}

theorem hold_perform_of_unknown
    (hserved : (answer (.getPresentation order.presentationId) state).1 = .ok deck)
    (h : forall id, id ∈ order.objectIds.eraseDups -> ¬ deck.Names id) :
    ((perform order).hold answer state).calls = [.getPresentation order.presentationId] ∧
      exists detail, ((perform order).hold answer state).outcome =
        .error { kind := .objectNotFound, detail } := by
  rcases partition_eq_error h with ⟨detail, hpartition⟩
  unfold perform fetch
  rw [hold_call_bind_of_ok hserved, hpartition]
  exact ⟨rfl, detail, rfl⟩

theorem hold_perform_of_known
    (hserved : (answer (.getPresentation order.presentationId) state).1 = .ok deck)
    (h : exists id, id ∈ order.objectIds.eraseDups ∧ deck.Names id) :
    exists answered : Except ApiError BatchReply,
      ((perform order).hold answer state).turns =
        [⟨.getPresentation order.presentationId, .ok deck⟩,
          ⟨.batchUpdate order.presentationId (deletions deck order.objectIds.eraseDups),
            answered⟩] ∧
      ((perform order).hold answer state).outcome =
        match answered with
        | .ok _ => .value (report deck order.objectIds.eraseDups)
        | .error e => .error (e.toToolError (missingInBatch e) .deleteFailed) := by
  unfold perform fetch submit
  rw [hold_call_bind_of_ok hserved, partition_eq_ok h]
  dsimp only [Dialogue.ofExcept, done_bind]
  rw [deleteObjects, ← deletions]
  -- The batch is answered in the state that the fetch has left behind.
  cases hanswered :
      (answer (.batchUpdate order.presentationId (deletions deck order.objectIds.eraseDups))
        (answer (.getPresentation order.presentationId) state).2).1 with
  | ok reply =>
      refine ⟨.ok reply, ?_⟩
      rw [hold_call_bind_of_ok hanswered]
      exact ⟨rfl, rfl⟩
  | error e =>
      refine ⟨.error e, ?_⟩
      rw [hold_call_bind_of_error hanswered]
      exact ⟨rfl, rfl⟩

end Held

/-! ## Runs -/

/--
What is sent as a batch and what is reported are the IDs that were asked for, split by
whether the presentation that was fetched knows them.  Asking for nothing or for a blank
fails before any call, and asking for unknown IDs alone before the batch.
-/
theorem run_deletes_known {params : Json} {p : DeleteParams} {id : String}
    (hparams : DeleteParams.decode params = .ok p)
    (hid : checkPresentationId p.presentationId = .ok id)
    {σ : Type} {answer : (call : Call) -> σ -> call.Answer × σ} {state : σ} {deck : Deck}
    (hserved : (answer (.getPresentation id) state).1 = .ok deck) (job : Job) :
    ((p.requested = [] ∨ "" ∈ p.requested) ->
      exists e : ToolError,
        ((Tool.deleteObjects.run job params).hold answer state).turns = [] ∧
        ((Tool.deleteObjects.run job params).hold answer state).outcome = .error e ∧
        (e.kind = .noObjectsSpecified ∨ e.kind = .invalidObjectId)) ∧
    (p.requested ≠ [] -> "" ∉ p.requested ->
      (forall objectId, objectId ∈ p.requested -> ¬ deck.Names objectId) ->
        ((Tool.deleteObjects.run job params).hold answer state).calls =
            [.getPresentation id] ∧
          exists detail, ((Tool.deleteObjects.run job params).hold answer state).outcome =
            .error { kind := .objectNotFound, detail }) ∧
    (p.requested ≠ [] -> "" ∉ p.requested ->
      (exists objectId, objectId ∈ p.requested ∧ deck.Names objectId) ->
        exists answered : Except ApiError BatchReply,
          ((Tool.deleteObjects.run job params).hold answer state).turns =
            [⟨.getPresentation id, .ok deck⟩,
              ⟨.batchUpdate id (deletions deck p.requested), answered⟩] ∧
          ((Tool.deleteObjects.run job params).hold answer state).outcome =
            match answered with
            | .ok _ => .value (report deck p.requested)
            | .error e => .error (e.toToolError (missingInBatch e) .deleteFailed)) := by
  have hdecoded := decodeParams_eq_ok hparams
  have hrun : Tool.deleteObjects.run job params = carryOut (ofParams params) perform := rfl
  rw [hrun]
  refine ⟨?_, ?_, ?_⟩
  case refine_1 =>
      intro hrefused
      rcases ofParams_eq_error hdecoded hid hrefused with ⟨e, he, hkind⟩
      rw [he]
      exact ⟨e, rfl, rfl, hkind⟩
  case refine_2 =>
      intro hsome hnamed hunknown
      rcases ofParams_eq_ok hdecoded hid hsome hnamed with ⟨order, horder, heq, hrequested⟩
      rw [horder]
      subst heq
      rw [← hrequested] at hunknown
      exact hold_perform_of_unknown hserved hunknown
  case refine_3 =>
      intro hsome hnamed hknown
      rcases ofParams_eq_ok hdecoded hid hsome hnamed with ⟨order, horder, heq, hrequested⟩
      rw [horder]
      subst heq
      rw [← hrequested] at hknown ⊢
      exact hold_perform_of_known hserved hknown

def mixedParams : Json :=
  Json.object
    [("presentation_id", .str " pres-1 "),
      ("object_ids", Json.strings [" image-1", "ghost", "image-1 "]),
      ("object_id", .str "deep-shape")]

def mixed : DeleteParams :=
  { presentationId := " pres-1 "
    objectIds := [" image-1", "ghost", "image-1 "]
    objectId := some "deep-shape" }

theorem run_deletes_known_mixed :
    DeleteParams.decode mixedParams = .ok mixed ∧
      checkPresentationId mixed.presentationId = .ok "pres-1" ∧
      exists held,
        held = (Tool.deleteObjects.run Job.sample mixedParams).hold Rehearsal.answer
          (Rehearsal.start Rehearsal.sampleDeck) ∧
        held.calls =
          [.getPresentation "pres-1",
            .batchUpdate "pres-1" [.deleteObject "image-1", .deleteObject "deep-shape"]] ∧
        held.outcome =
          .value (Json.object
            [("deleted_ids", Json.strings ["image-1", "deep-shape"]),
              ("deleted_count", .ofNat 2), ("not_found_ids", Json.strings ["ghost"])]) := by
  have hparams : DeleteParams.decode mixedParams = .ok mixed := rfl
  have hid : checkPresentationId mixed.presentationId = .ok "pres-1" := rfl
  have hserved : (Rehearsal.answer (.getPresentation "pres-1")
      (Rehearsal.start Rehearsal.sampleDeck)).1 = .ok Rehearsal.sampleDeck := rfl
  have hrequested : mixed.requested = ["image-1", "ghost", "deep-shape"] := rfl
  have hdeletions : deletions Rehearsal.sampleDeck mixed.requested =
      [.deleteObject "image-1", .deleteObject "deep-shape"] := rfl
  have hknown : exists objectId, objectId ∈ mixed.requested ∧
      Rehearsal.sampleDeck.Names objectId := by
    refine ⟨"image-1", ?_, ?_⟩
    · rw [hrequested]
      decide
    · decide
  have hrun : Tool.deleteObjects.run Job.sample mixedParams =
      perform
        { presentationId := "pres-1"
          objectIds := ["image-1", "ghost", "image-1", "deep-shape"] } := rfl
  have hkept : exists report, ((Tool.deleteObjects.run Job.sample mixedParams).hold
      Rehearsal.answer (Rehearsal.start Rehearsal.sampleDeck)).outcome = .value report := by
    rw [hrun]
    exact ⟨_, rfl⟩
  have hsome : mixed.requested ≠ [] := by
    rw [hrequested]
    decide
  have hnamed : "" ∉ mixed.requested := by
    rw [hrequested]
    decide
  rcases (run_deletes_known hparams hid hserved Job.sample).2.2 hsome hnamed hknown with
    ⟨answered, hturns, houtcome⟩
  refine ⟨hparams, hid, _, rfl, ?_, ?_⟩
  · rw [Conversation.calls, hturns, hdeletions]
    rfl
  · rw [houtcome]
    cases answered with
    | ok reply => rfl
    | error e =>
        rcases hkept with ⟨reported, hreported⟩
        rw [houtcome] at hreported
        cases hreported

end DeleteObjects

end DeckTools
