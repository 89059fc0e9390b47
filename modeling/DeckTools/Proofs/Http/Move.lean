import DeckTools.Http.Client
import DeckTools.Proofs.Dialogue

/-!
# Moving a file

The folders that a file is in are asked for first.  The request that follows puts the file into
its new folder and takes it out of all those that the reply brought.  If the new folder is one
of them, the request takes the file out of the folder it is put into.
-/

namespace DeckTools

open Dialogue

/-! ## Exchanges -/

/-- No character of the token is one that a header cannot hold. -/
def HttpRequest.Sendable (request : HttpRequest) : Prop :=
  (request.authorization.getD "").toList.all Exchange.isHeaderChar = true

namespace Exchange

variable {α β : Type} {words : JsonWords} {label : String} {decode : Decoder α}
  {request : HttpRequest}

/-- A complete response of success from which the value is read. -/
def Brings (words : JsonWords) (label : String) (decode : Decoder α) (answer : HttpAnswer)
    (value : α) : Prop :=
  exists response, answer = .response response ∧ 200 ≤ response.status ∧
    response.status < 300 ∧ decodeBody words label decode response = .ok value

theorem ensures_send_bind {rest : HttpResponse -> Exchange β}
    {P : List (Turn HttpRequest (fun _ => HttpAnswer)) -> Outcome ApiError β -> Prop}
    (hunsent : ¬ request.Sendable -> forall e, P [] (.error e))
    (hrefused : request.Sendable -> forall answer,
      (forall response, answer = .response response ->
        ¬ (200 ≤ response.status ∧ response.status < 300)) ->
      forall e, P [⟨request, answer⟩] (.error e))
    (hsent : request.Sendable -> forall response,
      200 ≤ response.status -> response.status < 300 ->
      (rest response).Ensures
        (fun later outcome => P (⟨request, .response response⟩ :: later) outcome)) :
    (send label request >>= rest).Ensures P := by
  unfold send
  split
  case isTrue h => exact hunsent (by simpa [HttpRequest.Sendable] using h) _
  case isFalse h =>
      have hsendable : request.Sendable := by
        unfold HttpRequest.Sendable
        rwa [Bool.not_eq_true', Bool.not_eq_false] at h
      rw [ask_bind, ensures_ask]
      intro answer
      cases answer with
      | lost reason =>
          apply hrefused hsendable
          intro response heq
          cases heq
      | response response =>
          dsimp only
          split
          case isTrue hok =>
              have hstatus : 200 ≤ response.status ∧ response.status < 300 := by
                simpa using hok
              exact hsent hsendable response hstatus.1 hstatus.2
          case isFalse hbad =>
              have hstatus : ¬ (200 ≤ response.status ∧ response.status < 300) := by
                simpa using hbad
              apply hrefused hsendable
              intro other heq
              cases heq
              exact hstatus

theorem ensures_fetchJson_bind {rest : α -> Exchange β}
    {P : List (Turn HttpRequest (fun _ => HttpAnswer)) -> Outcome ApiError β -> Prop}
    (hunsent : ¬ request.Sendable -> forall e, P [] (.error e))
    (hfailed : request.Sendable -> forall answer,
      (¬ exists value, Brings words label decode answer value) ->
      forall e, P [⟨request, answer⟩] (.error e))
    (hbrings : request.Sendable -> forall answer value, Brings words label decode answer value ->
      (rest value).Ensures (fun later outcome => P (⟨request, answer⟩ :: later) outcome)) :
    (fetchJson words label decode request >>= rest).Ensures P := by
  unfold fetchJson
  rw [ensures_bind]
  apply ensures_send_bind
  · exact hunsent
  · intro hsendable answer hstatus e
    apply hfailed hsendable
    rintro ⟨value, response, rfl, hlow, hhigh, _⟩
    exact hstatus response rfl ⟨hlow, hhigh⟩
  · intro hsendable response hlow hhigh
    cases hread : decodeBody words label decode response with
    | ok value => exact hbrings hsendable _ value ⟨response, rfl, hlow, hhigh, hread⟩
    | error e =>
        apply hfailed hsendable
        rintro ⟨value, other, heq, _, _, hvalue⟩
        cases heq
        rw [hread] at hvalue
        cases hvalue

theorem ensures_submit
    {P : List (Turn HttpRequest (fun _ => HttpAnswer)) -> Outcome ApiError Unit -> Prop}
    (hunsent : ¬ request.Sendable -> forall e, P [] (.error e))
    (hsent : request.Sendable -> forall answer outcome, P [⟨request, answer⟩] outcome) :
    (submit label request).Ensures P := by
  unfold submit
  apply ensures_send_bind
  · exact hunsent
  · intro hsendable answer _ e
    exact hsent hsendable answer _
  · intro hsendable response _ _
    exact hsent hsendable _ _

end Exchange

/-! ## Lists of IDs in a query -/

namespace HttpRequest

/-- The IDs that a parameter of the query lists, with commas between them. -/
def listed (request : HttpRequest) (name : String) : List String :=
  ((((request.query.lookup name).getD "").toList.splitOn ',').map String.ofList).filter
    (fun id => id ≠ "")

/-- The IDs are not empty, and a comma stands only between them. -/
def Listable (ids : List String) : Prop :=
  forall id, id ∈ ids -> id ≠ "" ∧ ',' ∉ id.toList

theorem listed_of_lookup {request : HttpRequest} {name : String} {ids : List String}
    (hids : Listable ids)
    (h : request.query.lookup name = some (String.intercalate "," ids)) :
    request.listed name = ids := by
  unfold listed
  rw [h, Option.getD_some]
  cases ids with
  | nil => rfl
  | cons first others =>
      have hcut : (String.intercalate "," (first :: others)).toList.splitOn ',' =
          (first :: others).map String.toList := by
        rw [String.toList_intercalate]
        apply List.splitOn_intercalate
        · intro cs hcs
          rcases List.mem_map.mp hcs with ⟨id, hid, rfl⟩
          exact (hids id hid).2
        · exact List.cons_ne_nil _ _
      rw [hcut, List.map_map]
      have hback : (first :: others).map (String.ofList ∘ String.toList) = first :: others :=
        List.map_id'' (fun _ => String.ofList_toList) _
      rw [hback]
      apply List.filter_eq_self.mpr
      intro id hid
      exact decide_eq_true (hids id hid).1

/-- The request puts a file into a folder and takes it out of all of its parents. -/
structure Moves (request : HttpRequest) (folder : String) (parents : List String) : Prop where
  method : request.method = .patch
  adds : request.query.lookup "addParents" = some folder
  removes : request.query.lookup "removeParents" = some (String.intercalate "," parents)
  lists : Listable parents -> request.listed "removeParents" = parents
  listsFolder : Listable parents ->
    (folder ∈ request.listed "removeParents" <-> folder ∈ parents)

end HttpRequest

namespace HttpClient

/-! ## Moves -/

theorem moves_moveRequest (client : HttpClient) (file folder : String) (parents : List String) :
    (client.moveRequest file folder parents).Moves folder parents := by
  have hremoves : (client.moveRequest file folder parents).query.lookup "removeParents" =
      some (String.intercalate "," parents) := rfl
  refine
    { method := rfl, adds := rfl, removes := hremoves, lists := ?_, listsFolder := ?_ }
  · intro hparents
    exact HttpRequest.listed_of_lookup hparents hremoves
  · intro hparents
    rw [HttpRequest.listed_of_lookup hparents hremoves]

def parentsRequest (client : HttpClient) (file : String) : HttpRequest :=
  client.bare .get (client.fileAddress file "") [("fields", "parents"), onAllDrives]

/-- The turns of a move: nothing is moved unless the parents of the file are known. -/
inductive MoveTurns (client : HttpClient) (file folder : String) :
    List (Turn HttpRequest (fun _ => HttpAnswer)) -> Prop where
  | unsent :
      ¬ (client.parentsRequest file).Sendable ->
      MoveTurns client file folder []
  | unread {answer : HttpAnswer} :
      (¬ exists parents, Exchange.Brings client.words driveLabel decodeParents answer parents) ->
      MoveTurns client file folder [⟨client.parentsRequest file, answer⟩]
  | moved {answer reply : HttpAnswer} {request : HttpRequest} {parents : List String} :
      Exchange.Brings client.words driveLabel decodeParents answer parents ->
      request.address = client.fileAddress file "" ->
      request.Moves folder parents ->
      MoveTurns client file folder [⟨client.parentsRequest file, answer⟩, ⟨request, reply⟩]

/--
A move takes the file out of each folder that it is in, the one it is moved to included, if it
is there already.
-/
theorem moveFile_removes_parents (client : HttpClient) (file folder : String) :
    (client.moveFile file folder).Ensures
      (fun turns _ => client.MoveTurns file folder turns) := by
  unfold moveFile
  apply Exchange.ensures_fetchJson_bind
  · intro hunsent _
    exact .unsent hunsent
  · intro _ answer hunread _
    exact .unread hunread
  · intro hsendable answer parents hbrings
    apply Exchange.ensures_submit
    · intro hunsent
      exact absurd hsendable hunsent
    · intro _ reply _
      exact .moved hbrings rfl (client.moves_moveRequest file folder parents)

/-! ## A file in two folders -/

def sampleClient : HttpClient :=
  { endpoints :=
      { slides := "https://slides.example/v1"
        drive := "https://drive.example/v3"
        upload := "https://upload.example/v3"
        translate := "https://translate.example/v2" }
    token := "token"
    translateKey := none
    boundaryDigits := "0"
    words := fun _ _ => "expected value at line 1 column 1" }

/-- The file service says that the file is in two folders, and accepts every move. -/
def sampleService (request : HttpRequest) (_ : Unit) : HttpAnswer × Unit :=
  let body :=
    if request.method = .get then "\x7b\"parents\":[\"folder-1\",\"folder-2\"]\x7d" else "\x7b\x7d"
  (.response { status := 200, body := Text.Utf8.encode body, broken := none }, ())

/-- The folders that each request of a move puts the file into and takes it out of. -/
def sampleMove (folder : String) : List (List String × List String) :=
  ((sampleClient.moveFile "deck-1" folder).hold sampleService ()).calls.map
    (fun request => (request.listed "addParents", request.listed "removeParents"))

theorem moveFile_removes_parents_elsewhere :
    sampleMove "folder-3" = [([], []), (["folder-3"], ["folder-1", "folder-2"])] ∧
    sampleClient.MoveTurns "deck-1" "folder-3"
      ((sampleClient.moveFile "deck-1" "folder-3").hold sampleService ()).turns := by
  constructor
  · decide +kernel
  · exact (moveFile_removes_parents sampleClient "deck-1" "folder-3").hold sampleService ()

/-- One request puts the file into the folder that it is in, and takes it out of it. -/
theorem move_takes_file_out_of_target :
    sampleMove "folder-1" = [([], []), (["folder-1"], ["folder-1", "folder-2"])] := by
  decide +kernel

end HttpClient

end DeckTools
