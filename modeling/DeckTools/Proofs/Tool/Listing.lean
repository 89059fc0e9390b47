import DeckTools.Proofs.Json.Canonical
import DeckTools.Proofs.Tool.Deletion
import Mathlib.Data.Finset.Card
import Mathlib.Data.List.Forall2

/-!
# Listing all comments

Each page may name the token of another one.  The tokens that are followed form a
chain that ends at the first page that fails or names no token, an empty one, or one
that was followed before.  If there are finitely many tokens such a chain exists, and
a listing requests its pages in order, each once, and reports what they hold.
-/

namespace DeckTools

open Dialogue

/-! ## Reports at the end -/

def Outcome.map {ε α β : Type} (f : α -> β) : Outcome ε α -> Outcome ε β
  | .value a => .value (f a)
  | .error e => .error e
  | .unfinished => .unfinished

theorem Dialogue.hold_bind_done {C : Type} {R : C -> Type} {ε α β σ : Type}
    (first : Dialogue C R ε α) (f : α -> β) (answer : (call : C) -> σ -> R call × σ)
    (state : σ) :
    (first >>= fun value => done (f value)).hold answer state =
      { outcome := (first.hold answer state).outcome.map f
        turns := (first.hold answer state).turns
        state := (first.hold answer state).state } := by
  induction first generalizing state with
  | done value => rfl
  | fail error => rfl
  | unfinished => rfl
  | ask call next ih =>
      rw [ask_bind, hold]
      dsimp only
      rw [ih]
      rfl

namespace ListComments

/-- A service that answers each token always in the same way; the first page has none. -/
abbrev Pages : Type := Option String -> Except ApiError CommentPage

variable {serve : Pages} {followed tokens : List String} {token : Option String}
  {next : String} {page : CommentPage}

/-! ## Chains of tokens -/

/-- The page at a token is served and names another token, which is not empty. -/
def Leads (serve : Pages) (token : Option String) (next : String) : Prop :=
  next ≠ "" ∧ exists page, serve token = .ok page ∧ page.nextToken = some next

/-- The tokens that lead on from one, as long as they were not followed before. -/
inductive Chain (serve : Pages) : List String -> Option String -> List String -> Prop where
  | last {followed : List String} {token : Option String} :
      (forall next, Leads serve token next -> next ∈ followed) ->
      Chain serve followed token []
  | next {followed : List String} {token : Option String} {next : String}
      {rest : List String} :
      Leads serve token next ->
      next ∉ followed ->
      Chain serve (next :: followed) (some next) rest ->
      Chain serve followed token (next :: rest)

theorem Leads.unique {other : String} (h : Leads serve token next)
    (hother : Leads serve token other) :
    next = other := by
  rcases h with ⟨_, page, hpage, hnext⟩
  rcases hother with ⟨_, page', hpage', hother⟩
  rw [hpage] at hpage'
  cases hpage'
  rw [hnext] at hother
  exact Option.some.inj hother

theorem leads_iff (hpage : serve token = .ok page) :
    Leads serve token next <-> next ≠ "" ∧ page.nextToken = some next := by
  unfold Leads
  rw [hpage]
  simp

namespace Chain

theorem not_mem (h : Chain serve followed token tokens) (hnext : next ∈ tokens) :
    next ∉ followed := by
  induction h with
  | last _ => cases hnext
  | next _ hfresh _ ih =>
      rcases List.mem_cons.mp hnext with heq | hrest
      · rw [heq]
        exact hfresh
      · exact fun hfollowed => ih hrest (List.mem_cons_of_mem _ hfollowed)

theorem nodup (h : Chain serve followed token tokens) : tokens.Nodup := by
  induction h with
  | last _ => exact List.nodup_nil
  | next _ _ hrest ih =>
      apply List.nodup_cons.mpr
      constructor
      · intro hmem
        exact hrest.not_mem hmem List.mem_cons_self
      · exact ih

theorem unique {others : List String} (h : Chain serve followed token tokens)
    (hothers : Chain serve followed token others) :
    others = tokens := by
  induction h generalizing others with
  | last hlast =>
      cases hothers with
      | last _ => rfl
      | next hleads hfresh _ => exact absurd (hlast _ hleads) hfresh
  | next hleads hfresh _ ih =>
      cases hothers with
      | last hlast => exact absurd (hlast _ hleads) hfresh
      | next hleads' _ hrest =>
          cases hleads.unique hleads'
          rw [ih hrest]

/-- By induction on the number of tokens that were not followed yet. -/
theorem exists_of_finite {names : Finset String}
    (hnames : forall token next, Leads serve token next -> next ∈ names ∨ next ∈ followed)
    (token : Option String) :
    exists tokens, Chain serve followed token tokens ∧ tokens.length ≤ names.card := by
  induction hcard : names.card generalizing names followed token with
  | zero =>
      refine ⟨[], last ?_, Nat.le_refl 0⟩
      intro next hleads
      rw [Finset.card_eq_zero.mp hcard] at hnames
      exact (hnames token next hleads).resolve_left (Finset.notMem_empty next)
  | succ count ih =>
      by_cases hlast : forall next, Leads serve token next -> next ∈ followed
      · exact ⟨[], last hlast, Nat.zero_le _⟩
      · push Not at hlast
        rcases hlast with ⟨next, hleads, hfresh⟩
        have hmem : next ∈ names := (hnames token next hleads).resolve_right hfresh
        have hcard' : (names.erase next).card = count := by
          rw [Finset.card_erase_of_mem hmem, hcard, Nat.add_sub_cancel]
        -- With `next` among the tokens that were followed, one name less is left.
        have hnames' : forall token other, Leads serve token other ->
            other ∈ names.erase next ∨ other ∈ next :: followed := by
          intro token other hother
          by_cases heq : other = next
          · exact Or.inr (List.mem_cons.mpr (Or.inl heq))
          · rcases hnames token other hother with hname | hfollowed
            · exact Or.inl (Finset.mem_erase.mpr ⟨heq, hname⟩)
            · exact Or.inr (List.mem_cons_of_mem next hfollowed)
        rcases ih hnames' (some next) hcard' with ⟨rest, hrest, hle⟩
        exact ⟨next :: rest, .next hleads hfresh hrest, Nat.succ_le_succ hle⟩

end Chain

/-! ## Reading the pages -/

theorem nextToken?_eq_some_iff :
    nextToken? followed page = some next <->
      page.nextToken = some next ∧ next ≠ "" ∧ next ∉ followed := by
  unfold nextToken?
  rw [Option.filter_eq_some_iff]
  simp

def pageTurn (p : CommentParams) (serve : Pages) (token : Option String) :
    Turn Call Call.Answer :=
  ⟨.listComments p.presentationId p.includeDeleted pageSize token, serve token⟩

/-- The end of reading some pages: their comments in a row, or the first failure. -/
def gathered (pages : Except ApiError (List CommentPage)) : Outcome ToolError (List Comment) :=
  match pages with
  | .ok pages => .value (pages.flatMap CommentPage.comments)
  | .error e => .error (e.toToolError .presentationNotFound .serviceError)

section Held

variable {p : CommentParams} {σ : Type} {answer : (call : Call) -> σ -> call.Answer × σ}

theorem gathered_cons (hpage : serve token = .ok page) (rest : List (Option String)) :
    gathered ((token :: rest).mapM serve) =
      (gathered (rest.mapM serve)).map (fun comments => page.comments ++ comments) := by
  rw [List.mapM_cons, hpage, ok_bind]
  cases rest.mapM serve with
  | ok pages => rfl
  | error e => rfl

theorem hold_readPages_last
    (hserved : forall state,
      (answer (.listComments p.presentationId p.includeDeleted pageSize token) state).1 =
        serve token)
    (hlast : forall next, Leads serve token next -> next ∈ followed) (budget : Nat)
    (state : σ) :
    ((readPages p budget followed token).hold answer state).turns = [pageTurn p serve token] ∧
      ((readPages p budget followed token).hold answer state).outcome =
        gathered ([token].mapM serve) := by
  unfold readPages
  cases hpage : serve token with
  | error e =>
      rw [hold_call_bind_of_error ((hserved state).trans hpage), pageTurn, hpage]
      rw [List.mapM_cons, hpage]
      exact ⟨rfl, rfl⟩
  | ok page =>
      have hnone : nextToken? followed page = none := by
        apply Option.eq_none_iff_forall_ne_some.mpr
        intro next hnext
        rcases nextToken?_eq_some_iff.mp hnext with ⟨hnamed, hsome, hfresh⟩
        exact hfresh (hlast next ((leads_iff hpage).mpr ⟨hsome, hnamed⟩))
      rw [hold_call_bind_of_ok ((hserved state).trans hpage), hnone, gathered_cons hpage,
        pageTurn, hpage]
      refine ⟨rfl, ?_⟩
      show Outcome.value page.comments = .value (page.comments ++ [])
      rw [List.append_nil]

theorem hold_readPages_next
    (hserved : forall state,
      (answer (.listComments p.presentationId p.includeDeleted pageSize token) state).1 =
        serve token)
    (hleads : Leads serve token next) (hfresh : next ∉ followed) (budget : Nat) (state : σ) :
    exists (page : CommentPage) (later : σ), serve token = .ok page ∧
      ((readPages p (budget + 1) followed token).hold answer state).turns =
        pageTurn p serve token ::
          ((readPages p budget (next :: followed) (some next)).hold answer later).turns ∧
      ((readPages p (budget + 1) followed token).hold answer state).outcome =
        ((readPages p budget (next :: followed) (some next)).hold answer later).outcome.map
          (fun comments => page.comments ++ comments) := by
  rcases hleads with ⟨hsome, page, hpage, hnamed⟩
  have hnext : nextToken? followed page = some next :=
    nextToken?_eq_some_iff.mpr ⟨hnamed, hsome, hfresh⟩
  refine ⟨page, (answer (.listComments p.presentationId p.includeDeleted pageSize token) state).2,
    hpage, ?_⟩
  rw [readPages, hold_call_bind_of_ok ((hserved state).trans hpage), hnext, pageTurn, hpage]
  dsimp only
  rw [hold_bind_done]
  exact ⟨rfl, rfl⟩

/-- By induction on the chain: its pages are requested in order, and their comments gathered. -/
theorem hold_readPages (h : Chain serve followed token tokens)
    (hserved : forall token state,
      (answer (.listComments p.presentationId p.includeDeleted pageSize token) state).1 =
        serve token)
    {budget : Nat} (hbudget : tokens.length ≤ budget) (state : σ) :
    ((readPages p budget followed token).hold answer state).turns =
        (token :: tokens.map some).map (pageTurn p serve) ∧
      ((readPages p budget followed token).hold answer state).outcome =
        gathered ((token :: tokens.map some).mapM serve) := by
  induction h generalizing budget state with
  | last hlast => exact hold_readPages_last (hserved _) hlast budget state
  | next hleads hfresh _ ih =>
      -- The token that is followed takes one from the budget.
      cases budget with
      | zero => exact absurd hbudget (Nat.not_succ_le_zero _)
      | succ budget =>
          rcases hold_readPages_next (hserved _) hleads hfresh budget state with
            ⟨page, later, hpage, hturns, houtcome⟩
          rcases ih (Nat.le_of_succ_le_succ hbudget) later with ⟨hlater, hgathered⟩
          constructor
          · rw [hturns, hlater]
            rfl
          · rw [houtcome, hgathered, gathered_cons hpage]
            rfl

end Held

/-! ## Failing pages -/

/-- Only the last page of a chain can fail, so it is the first failure. -/
theorem Chain.mapM_eq_error (h : Chain serve followed token tokens) {failing : Option String}
    {e : ApiError} (hmem : failing ∈ token :: tokens.map some) (hfails : serve failing = .error e) :
    (token :: tokens.map some).mapM serve = .error e := by
  induction h with
  | last _ =>
      cases List.mem_singleton.mp hmem
      rw [List.map_nil, List.mapM_cons, hfails]
      rfl
  | next hleads _ _ ih =>
      rcases hleads with ⟨_, page, hpage, _⟩
      rcases List.mem_cons.mp hmem with heq | hrest
      · rw [heq, hpage] at hfails
        cases hfails
      · rw [List.mapM_cons, hpage, ok_bind, List.map_cons, ih hrest]
        rfl

theorem mapM_serve_eq_ok {requested : List (Option String)} {pages : List CommentPage}
    (h : requested.map serve = pages.map .ok) :
    requested.mapM serve = .ok pages := by
  induction requested generalizing pages with
  | nil =>
      cases pages with
      | nil => rfl
      | cons page rest => cases h
  | cons token others ih =>
      cases pages with
      | nil => cases h
      | cons page rest =>
          rcases List.cons.inj h with ⟨hpage, hrest⟩
          rw [List.mapM_cons, hpage, ok_bind, ih hrest]
          rfl

/-! ## Reports -/

structure DescribesReply (reply : CommentReply) (item : Json) : Prop where
  id : item.get? "id" = some (.str reply.id)
  author : item.get? "author" = some (.str (authorName reply.author))
  content : item.get? "content" = some (.str reply.content)
  created : item.get? "created_time" = some (Json.ofOption .str reply.createdTime)

/-- What is reported of a comment, with all its answers or those that are not deleted. -/
structure Describes (includeDeleted : Bool) (comment : Comment) (item : Json) : Prop where
  id : item.get? "id" = some (.str comment.id)
  author : item.get? "author" = some (.str (authorName comment.author))
  content : item.get? "content" = some (.str comment.content)
  quoted : item.get? "quoted_text" =
    some (Json.ofOption .str (comment.quoted.filter (fun text => !text.isEmpty)))
  resolved : item.get? "resolved" = some (.bool comment.resolved)
  created : item.get? "created_time" = some (Json.ofOption .str comment.createdTime)
  modified : item.get? "modified_time" = some (Json.ofOption .str comment.modifiedTime)
  replies : exists items, item.get? "replies" = some (.arr items) ∧
    List.Forall₂ DescribesReply
      (if includeDeleted then comment.replies
        else comment.replies.filter (fun reply => !reply.deleted))
      items

/-- A listing describes all comments in order, or those that are not resolved. -/
def Lists (p : CommentParams) (comments : List Comment) (output : Json) : Prop :=
  exists items, output.get? "comments" = some (.arr items) ∧
    output.get? "total" = some (.ofNat items.length) ∧
    List.Forall₂ (Describes p.includeDeleted)
      (if p.includeResolved then comments
        else comments.filter (fun comment => !comment.resolved))
      items

theorem describesReply_replyReport (reply : CommentReply) :
    DescribesReply reply (replyReport reply) := by
  constructor
  all_goals
    rw [replyReport, Json.get?_object]
    rfl

theorem filter_or_not {α : Type} (always : Bool) (dropped : α -> Bool) (items : List α) :
    items.filter (fun item => always || !dropped item) =
      if always then items else items.filter (fun item => !dropped item) := by
  cases always with
  | true => exact List.filter_eq_self.mpr (fun _ _ => rfl)
  | false => rfl

theorem describes_commentReport (includeDeleted : Bool) (comment : Comment) :
    Describes includeDeleted comment (commentReport includeDeleted comment) := by
  constructor
  case replies =>
      rw [← filter_or_not, commentReport, Json.get?_object]
      refine ⟨_, rfl, List.forall₂_map_right_iff.mpr (List.forall₂_same.mpr ?_)⟩
      intro reply _
      exact describesReply_replyReport reply
  all_goals
    rw [commentReport, Json.get?_object]
    rfl

theorem lists_report (p : CommentParams) (comments : List Comment) :
    Lists p comments (report p comments) := by
  unfold Lists
  rw [← filter_or_not, ← wanted]
  refine ⟨(wanted p comments).map (commentReport p.includeDeleted), ?_, ?_, ?_⟩
  · rw [report, Json.get?_object]
    rfl
  · rw [report, Json.get?_object, List.length_map]
    rfl
  · apply List.forall₂_map_right_iff.mpr
    apply List.forall₂_same.mpr
    intro comment _
    exact describes_commentReport p.includeDeleted comment

/-! ## Runs -/

/--
The run requests the first page and those of the tokens, in order.  It lists what all of
them hold together, or it fails as the page that fails.
-/
structure Exhausts {σ : Type} (p : CommentParams) (serve : Pages) (tokens : List String)
    (held : Conversation Call Call.Answer ToolError Json σ) : Prop where
  requests : held.turns = (none :: tokens.map some).map (pageTurn p serve)
  finished : held.outcome ≠ .unfinished
  value : forall pages : List CommentPage, (none :: tokens.map some).map serve = pages.map .ok ->
    exists output, held.outcome = .value output ∧
      Lists p (pages.flatMap CommentPage.comments) output
  error : forall token e, token ∈ none :: tokens.map some -> serve token = .error e ->
    held.outcome = .error (e.toToolError .presentationNotFound .serviceError)

theorem exhausts_perform {p : CommentParams} (h : Chain serve [] none tokens) {σ : Type}
    {answer : (call : Call) -> σ -> call.Answer × σ}
    (hserved : forall token state,
      (answer (.listComments p.presentationId p.includeDeleted pageSize token) state).1 =
        serve token)
    {job : Job} (hbudget : tokens.length ≤ job.pageBudget) (state : σ) :
    Exhausts p serve tokens ((perform job p).hold answer state) := by
  rcases hold_readPages h hserved hbudget state with ⟨hturns, houtcome⟩
  unfold perform
  rw [hold_bind_done, houtcome]
  constructor
  case requests => exact hturns
  case finished =>
      intro heq
      cases hread : (none :: tokens.map some).mapM serve with
      | ok pages =>
          rw [hread] at heq
          cases heq
      | error e =>
          rw [hread] at heq
          cases heq
  case value =>
      intro pages hpages
      rw [mapM_serve_eq_ok hpages]
      exact ⟨_, rfl, lists_report p _⟩
  case error =>
      intro token e hmem hfails
      rw [h.mapM_eq_error hmem hfails]
      rfl

/--
Against a service that knows finitely many tokens, the tokens to follow are one chain
without repeats, and a run that may follow so many exhausts it.
-/
theorem run_exhausts_chain {params : Json} {p : CommentParams} {id : String}
    (hparams : CommentParams.decode params = .ok p)
    (hid : checkPresentationId p.presentationId = .ok id) {serve : Pages}
    {names : Finset String} (hfinite : forall token next, Leads serve token next -> next ∈ names)
    {σ : Type} {answer : (call : Call) -> σ -> call.Answer × σ}
    (hserved : forall token state,
      (answer (.listComments id p.includeDeleted pageSize token) state).1 = serve token) :
    exists tokens : List String,
      (forall others, Chain serve [] none others <-> others = tokens) ∧
      tokens.Nodup ∧ tokens.length ≤ names.card ∧
      forall (job : Job) (state : σ), tokens.length ≤ job.pageBudget ->
        Exhausts { p with presentationId := id } serve tokens
          ((Tool.listComments.run job params).hold answer state) := by
  have hrun (job : Job) :
      Tool.listComments.run job params = perform job { p with presentationId := id } := by
    have horder : ofParams params = .ok { p with presentationId := id } := by
      unfold ofParams
      rw [decodeParams_eq_ok hparams, ok_bind, hid, ok_bind]
    exact carryOut_of_ok horder (perform job)
  have hnames : forall token next, Leads serve token next ->
      next ∈ names ∨ next ∈ ([] : List String) := by
    intro token next hleads
    exact Or.inl (hfinite token next hleads)
  rcases Chain.exists_of_finite hnames none with ⟨tokens, hchain, hle⟩
  refine ⟨tokens, ?_, hchain.nodup, hle, ?_⟩
  · intro others
    constructor
    · exact hchain.unique
    · intro heq
      rw [heq]
      exact hchain
  · intro job state hbudget
    rw [hrun]
    exact exhausts_perform hchain hserved hbudget state

def singlePage (id : String) (resolved replyDeleted : Bool) (next : String) : CommentPage where
  comments :=
    [{ id, author := none, content := "Why?", quoted := none, resolved, deleted := false
       createdTime := none, modifiedTime := none
       replies :=
        [{ id := id ++ "-1", author := none, content := "So.", createdTime := none
           deleted := replyDeleted }] }]
  nextToken := some next

/-- Three pages, of which the last leads back to the second. -/
def circle : Pages
  | none => .ok (singlePage "c1" false false "a")
  | some "a" => .ok (singlePage "c2" true false "b")
  | some "b" => .ok (singlePage "c3" false true "a")
  | some _ => .error (.transport "no such page")

def servePages (serve : Pages) (call : Call) (state : Unit) : call.Answer × Unit :=
  match call with
  | .listComments _ _ _ token => (serve token, state)
  | _ => (.error (.transport "offline"), state)

theorem circle_leads {token : Option String} {next : String} (h : Leads circle token next) :
    next = "a" ∨ next = "b" := by
  rcases h with ⟨_, page, hpage, hnext⟩
  unfold circle at hpage
  split at hpage <;> cases hpage <;> cases hnext
  · exact Or.inl rfl
  · exact Or.inr rfl
  · exact Or.inl rfl

theorem circle_chain : Chain circle [] none ["a", "b"] := by
  refine .next ⟨by decide, _, rfl, rfl⟩ (by decide) (.next ⟨by decide, _, rfl, rfl⟩ (by decide) ?_)
  apply Chain.last
  intro next hleads
  rcases circle_leads hleads with rfl | rfl <;> decide

/-- Around the circle three requests are made, and two comments are not resolved. -/
theorem run_exhausts_chain_circle :
    exists params p,
      CommentParams.decode params = .ok p ∧ checkPresentationId p.presentationId = .ok "deck" ∧
      exists held output first second,
        held = (Tool.listComments.run { Job.sample with pageBudget := 2 } params).hold
          (servePages circle) () ∧
        held.calls = [none, some "a", some "b"].map (.listComments "deck" false pageSize) ∧
        held.outcome = .value output ∧ output.get? "total" = some (.ofNat 2) ∧
        output.get? "comments" = some (.arr [first, second]) ∧
        first.get? "id" = some (.str "c1") ∧ second.get? "id" = some (.str "c3") ∧
        second.get? "replies" = some (.arr []) := by
  have hparams : CommentParams.decode
      (Json.object [("presentation_id", .str "deck"), ("include_resolved", .bool false)]) =
        .ok { presentationId := "deck", includeDeleted := false, includeResolved := false } := rfl
  have hid : checkPresentationId "deck" = .ok "deck" := rfl
  have hfinite : forall token next, Leads circle token next ->
      next ∈ ({"a", "b"} : Finset String) := by
    intro token next hleads
    rcases circle_leads hleads with rfl | rfl <;> decide
  have hserved : forall token state,
      (servePages circle (.listComments "deck" false pageSize token) state).1 = circle token :=
    fun token state => rfl
  rcases run_exhausts_chain hparams hid hfinite hserved with ⟨tokens, hchain, _, _, hruns⟩
  cases (hchain ["a", "b"]).mp circle_chain
  rcases hruns { Job.sample with pageBudget := 2 } () (Nat.le_refl 2) with
    ⟨hrequests, _, hvalue, _⟩
  rcases hvalue [_, _, _] rfl with ⟨output, houtcome, items, hitems, htotal, hlisted⟩
  -- The comment in the middle is resolved and left out.
  rcases hlisted with _ | ⟨hfirst, _ | ⟨hsecond, _ | _⟩⟩
  refine ⟨_, _, hparams, hid, _, output, _, _, rfl, ?_, houtcome, htotal, hitems, hfirst.id,
    hsecond.id, ?_⟩
  · rw [Conversation.calls, hrequests]
    rfl
  · rcases hsecond.replies with ⟨replies, hreplies, hnone⟩
    cases hnone
    exact hreplies

end ListComments

end DeckTools
