import DeckTools.Proofs.Tool.Steps

/-!
# Reading pages of comments

Whatever it is answered, a listing asks for nothing but pages of comments, and it
fails only with the error of a page.
-/

namespace DeckTools

open Dialogue

namespace ListComments

variable {α β : Type}

/-- The turns are for pages, one at least, and an error is the error of a page. -/
structure OnlyPages (turns : Turns) (outcome : Outcome ToolError α) : Prop where
  asked : turns ≠ []
  kinds : forall turn, turn ∈ turns -> turn.call.kind = .listComments
  failed :
    forall e, outcome = .error e ->
      exists cause : ApiError, e = cause.toToolError .presentationNotFound .serviceError

namespace OnlyPages

variable {turn : Turn Call Call.Answer} {turns later : Turns} {outcome : Outcome ToolError α}

theorem single (hturn : turn.call.kind = .listComments)
    (hfailed : forall e, outcome = .error e ->
      exists cause : ApiError, e = cause.toToolError .presentationNotFound .serviceError) :
    OnlyPages [turn] outcome where
  asked := by simp
  kinds := by
    intro other hother
    rw [List.mem_singleton.mp hother]
    exact hturn
  failed := hfailed

theorem cons (hturn : turn.call.kind = .listComments) (hlater : OnlyPages later outcome) :
    OnlyPages (turn :: later) outcome where
  asked := by simp
  kinds := by
    intro other hother
    rcases List.mem_cons.mp hother with heq | hother
    · rw [heq]
      exact hturn
    · exact hlater.kinds other hother
  failed := hlater.failed

/-- A report at the end adds no turn and no error. -/
theorem followed {report : α -> β} (h : OnlyPages turns outcome) :
    Followed (fun value => .done (report value)) OnlyPages turns outcome := by
  cases outcome with
  | value value =>
      show OnlyPages (turns ++ []) (.value (report value))
      rw [List.append_nil]
      refine ⟨h.asked, h.kinds, ?_⟩
      intro e heq
      cases heq
  | error e =>
      refine ⟨h.asked, h.kinds, ?_⟩
      intro other heq
      cases heq
      exact h.failed e rfl
  | unfinished =>
      refine ⟨h.asked, h.kinds, ?_⟩
      intro e heq
      cases heq

end OnlyPages

theorem onlyPages_bind_done {first : Run α} {report : α -> β}
    (h : first.Ensures OnlyPages) :
    (first >>= fun value => .done (report value)).Ensures OnlyPages := by
  rw [ensures_bind]
  apply h.mono
  intro turns outcome hturns
  exact hturns.followed

/-- One page and what follows it. -/
theorem onlyPages_page_bind {p : CommentParams} {token : Option String}
    {rest : CommentPage -> Run α}
    (hrest : forall page turn, turn.call.kind = .listComments ->
      (rest page).Ensures fun later outcome => OnlyPages (turn :: later) outcome) :
    (Remote.call (.listComments p.presentationId p.includeDeleted pageSize token)
      (ApiError.toToolError .presentationNotFound .serviceError) >>= rest).Ensures
        OnlyPages := by
  rw [ensures_call_bind]
  constructor
  · intro cause
    apply OnlyPages.single rfl
    intro e heq
    cases heq
    exact ⟨cause, rfl⟩
  · intro page
    exact hrest page _ rfl

/-- By induction on the number of pages that may still follow. -/
theorem readPages_onlyPages (p : CommentParams) (budget : Nat) (visited : List String)
    (token : Option String) :
    (readPages p budget visited token).Ensures OnlyPages := by
  induction budget generalizing visited token with
  | zero =>
      unfold readPages
      apply onlyPages_page_bind
      intro page turn hturn
      cases nextToken? visited page with
      | none => exact OnlyPages.single hturn (by intro e heq; cases heq)
      | some next => exact OnlyPages.single hturn (by intro e heq; cases heq)
  | succ budget ih =>
      unfold readPages
      apply onlyPages_page_bind
      intro page turn hturn
      cases nextToken? visited page with
      | none => exact OnlyPages.single hturn (by intro e heq; cases heq)
      | some next =>
          apply Ensures.mono (onlyPages_bind_done (ih (next :: visited) (some next)))
          intro later outcome hlater
          exact hlater.cons hturn

theorem perform_onlyPages (job : Job) (p : CommentParams) :
    (perform job p).Ensures OnlyPages :=
  onlyPages_bind_done (readPages_onlyPages p job.pageBudget [] none)

end ListComments

end DeckTools
