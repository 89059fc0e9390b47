import DeckTools.Proofs.Tool.Steps

/-!
# Changes of presentations

A run changes or creates a presentation by one call at most.  Nothing that can
fail comes after that call, so a run that fails has left every presentation as it
was.
-/

namespace DeckTools

open Dialogue

/-! ## Calls that change presentations -/

/-- Whether calls of a kind change or create presentations. -/
def CallKind.changesDecks : CallKind -> Bool
  | batchUpdate => true
  | createPresentation => true
  | copyFile => true
  | _ => false

namespace Turn

def changesDecks (turn : Turn Call Call.Answer) : Bool :=
  turn.call.kind.changesDecks

/-- The call did change or create a presentation. -/
def ChangedDecks (turn : Turn Call Call.Answer) : Prop :=
  turn.changesDecks = true ∧ exists reply, turn.answer = .ok reply

end Turn

variable {ε α β γ σ : Type}

/-- What services keep of presentations changes only by a changing call that succeeds. -/
def KeepsDecks (answer : (call : Call) -> σ -> call.Answer × σ) (decks : σ -> γ) : Prop :=
  forall call state,
    ¬ Turn.ChangedDecks ⟨call, (answer call state).1⟩ ->
      decks (answer call state).2 = decks state

theorem KeepsDecks.hold {answer : (call : Call) -> σ -> call.Answer × σ} {decks : σ -> γ}
    (keeps : KeepsDecks answer decks) (dialogue : Remote ε α) (state : σ)
    (unchanged : forall turn, turn ∈ (dialogue.hold answer state).turns -> ¬ turn.ChangedDecks) :
    decks (dialogue.hold answer state).state = decks state := by
  induction dialogue generalizing state with
  | done value => rfl
  | fail error => rfl
  | unfinished => rfl
  | ask call next ih =>
      have hfirst : decks (answer call state).2 = decks state := by
        apply keeps
        exact unchanged _ List.mem_cons_self
      have hlater := ih (answer call state).1 (answer call state).2 (by
        intro turn hturn
        exact unchanged turn (List.mem_cons_of_mem _ hturn))
      exact hlater.trans hfirst

/-! ## All or nothing -/

/--
One turn at most is for a change.  A batch is not empty and comes last, and a change
that was made is the success of the run.
-/
structure AllOrNothing (turns : Turns) (outcome : Outcome ε α) : Prop where
  once : turns.countP Turn.changesDecks ≤ 1
  full : forall id, Call.batchUpdate id [] ∉ turns.map Turn.call
  last :
    forall before turn after, turns = before ++ turn :: after ->
      turn.call.kind = .batchUpdate -> after = []
  reported :
    forall turn, turn ∈ turns -> turn.ChangedDecks -> exists value, outcome = .value value

namespace AllOrNothing

variable {turn : Turn Call Call.Answer} {turns later : Turns} {outcome : Outcome ε α}

theorem nil : AllOrNothing [] outcome where
  once := by simp
  full := by simp
  last := by
    intro before turn after h
    simp at h
  reported := by
    intro turn hturn
    cases hturn

/-- A turn that changes nothing may come before. -/
theorem cons (hturn : turn.changesDecks = false) (hlater : AllOrNothing later outcome) :
    AllOrNothing (turn :: later) outcome where
  once := by
    rw [List.countP_cons_of_neg (by simp [hturn])]
    exact hlater.once
  full := by
    intro id hmem
    rcases List.mem_cons.mp hmem with heq | hmem
    · rw [Turn.changesDecks, ← heq] at hturn
      cases hturn
    · exact hlater.full id hmem
  last := by
    intro before other after heq hkind
    cases before with
    | nil =>
        cases heq
        rw [Turn.changesDecks, hkind] at hturn
        cases hturn
    | cons first before =>
        cases heq
        exact hlater.last before other after rfl hkind
  reported := by
    intro other hother hchanged
    rcases List.mem_cons.mp hother with heq | hother
    · rw [heq, Turn.ChangedDecks, hturn] at hchanged
      cases hchanged.1
    · exact hlater.reported other hother hchanged

/-- Turns that change nothing may end in any way. -/
theorem quiet (h : forall turn, turn ∈ turns -> turn.changesDecks = false) :
    AllOrNothing turns outcome := by
  induction turns with
  | nil => exact nil
  | cons turn later ih =>
      apply cons
      · exact h turn List.mem_cons_self
      · apply ih
        intro other hother
        exact h other (List.mem_cons_of_mem _ hother)

/-- After a turn for a change only quiet turns come, and none after a batch. -/
theorem commit (hfull : forall id, turn.call ≠ .batchUpdate id [])
    (hlast : turn.call.kind = .batchUpdate -> later = [])
    (hlater : forall other, other ∈ later -> other.changesDecks = false)
    (hreported : turn.ChangedDecks -> exists value, outcome = .value value) :
    AllOrNothing (turn :: later) outcome where
  once := by
    have hquiet : later.countP Turn.changesDecks = 0 := by
      rw [List.countP_eq_zero]
      intro other hother
      simp [hlater other hother]
    rw [List.countP_cons, hquiet]
    split <;> omega
  full := by
    intro id hmem
    rcases List.mem_cons.mp hmem with heq | hmem
    · exact hfull id heq.symm
    · exact (quiet hlater : AllOrNothing later outcome).full id hmem
  last := by
    intro before other after heq hkind
    cases before with
    | nil =>
        cases heq
        exact hlast hkind
    | cons first before =>
        cases heq
        exact (quiet hlater : AllOrNothing _ outcome).last before other after rfl hkind
  reported := by
    intro other hother hchanged
    rcases List.mem_cons.mp hother with heq | hother
    · rw [heq] at hchanged
      exact hreported hchanged
    · exact (quiet hlater : AllOrNothing later outcome).reported other hother hchanged

end AllOrNothing

/-! ## Steps of all-or-nothing runs -/

section Steps

/-- A check before the rest of a run. -/
theorem allOrNothing_ofExcept_bind {checked : Except ε α} {rest : α -> Remote ε β}
    (hrest : forall value, checked = .ok value -> (rest value).Ensures AllOrNothing) :
    (Dialogue.ofExcept checked >>= rest).Ensures AllOrNothing := by
  rw [ensures_ofExcept_bind]
  constructor
  · intro error _
    exact AllOrNothing.nil
  · exact hrest

theorem allOrNothing_carryOut {checked : Except ToolError α} {perform : α -> Run β}
    (hperform : forall order, checked = .ok order -> (perform order).Ensures AllOrNothing) :
    (carryOut checked perform).Ensures AllOrNothing := by
  rw [ensures_carryOut]
  constructor
  · intro e _
    exact AllOrNothing.nil
  · exact hperform

/-- A call that changes nothing before the rest of a run. -/
theorem allOrNothing_call_bind {call : Call} {onError : ApiError -> ε}
    {rest : call.Reply -> Remote ε β} (hcall : call.kind.changesDecks = false)
    (hrest : forall reply, (rest reply).Ensures AllOrNothing) :
    (Remote.call call onError >>= rest).Ensures AllOrNothing := by
  rw [ensures_call_bind]
  constructor
  · intro e
    exact AllOrNothing.nil.cons hcall
  · intro reply
    apply (hrest reply).mono
    intro later outcome hlater
    exact hlater.cons hcall

/-- An upload before the rest of a run. -/
theorem allOrNothing_uploadImage_bind {job : Job} {image : ImagePayload}
    {rest : Completion FileRef -> Run β}
    (hrest : forall upload, (rest upload).Ensures AllOrNothing) :
    (uploadImage job image >>= rest).Ensures AllOrNothing := by
  rw [ensures_uploadImage_bind]
  refine ⟨?_, ?_, ?_⟩
  · intro e
    exact AllOrNothing.nil.cons rfl
  · intro file
    apply (hrest _).mono
    intro later outcome hlater
    exact (hlater.cons rfl).cons rfl
  · intro file e
    apply (hrest _).mono
    intro later outcome hlater
    exact (hlater.cons rfl).cons rfl

/-- A change, after which a run only makes quiet calls and succeeds. -/
theorem allOrNothing_commit_bind {call : Call} {onError : ApiError -> ε}
    {rest : call.Reply -> Remote ε β}
    (hfull : forall id, call ≠ .batchUpdate id [])
    (hrest : forall reply, (rest reply).Ensures fun later outcome =>
      (call.kind = .batchUpdate -> later = []) ∧
        (forall turn, turn ∈ later -> turn.changesDecks = false) ∧
        exists value, outcome = .value value) :
    (Remote.call call onError >>= rest).Ensures AllOrNothing := by
  rw [ensures_call_bind]
  constructor
  · intro e
    apply AllOrNothing.commit hfull
    · intro _
      rfl
    · intro other hother
      cases hother
    · intro h
      rcases h with ⟨_, reply, hreply⟩
      cases hreply
  · intro reply
    apply (hrest reply).mono
    intro later outcome hlater
    rcases hlater with ⟨hlast, hquiet, hvalue⟩
    exact AllOrNothing.commit hfull hlast hquiet (fun _ => hvalue)

/-- A batch at the end of a run. -/
theorem allOrNothing_submit_bind {id : String} {requests : List Edit}
    {failure : ToolErrorKind} {report : BatchReply -> β} (hrequests : requests ≠ []) :
    (submit id requests failure >>= fun reply => .done (report reply)).Ensures
      AllOrNothing := by
  apply allOrNothing_commit_bind
  · intro other heq
    cases heq
    exact hrequests rfl
  · intro reply
    refine ⟨fun _ => rfl, ?_, report reply, rfl⟩
    intro turn hturn
    cases hturn

end Steps

end DeckTools
