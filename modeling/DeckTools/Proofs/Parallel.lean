import DeckTools.Dialogue

/-!
# Dialogues side by side

Two dialogues are held with two parties.  Some calls are free: the parties may answer
them differently.  The dialogues go side by side if they make the same calls and end
alike whatever the free calls are answered.
-/

namespace DeckTools

variable {C : Type} {R : C -> Type} {ε α β γ δ σ τ : Type}

/-- Two dialogues end alike: with the same error, or with values that are related. -/
inductive Outcome.Alike (related : α -> β -> Prop) : Outcome ε α -> Outcome ε β -> Prop where
  | value {value : α} {other : β} (h : related value other) :
      Alike related (.value value) (.value other)
  | error (error : ε) : Alike related (.error error) (.error error)

theorem Outcome.Alike.error_or_value {related : α -> β -> Prop} {outcome : Outcome ε α}
    {other : Outcome ε β} (h : Alike related outcome other) :
    (exists error, outcome = .error error ∧ other = .error error) ∨
      exists value otherValue, outcome = .value value ∧ other = .value otherValue ∧
        related value otherValue := by
  cases h with
  | value h => exact Or.inr ⟨_, _, rfl, rfl, h⟩
  | error error => exact Or.inl ⟨error, rfl, rfl⟩

/-- Two parties answer alike, but for the free calls; answering keeps their states related. -/
structure AlikeBut (free : C -> Prop) (answer : (call : C) -> σ -> R call × σ)
    (other : (call : C) -> τ -> R call × τ) (related : σ -> τ -> Prop) : Prop where
  answers : forall call s t, related s t -> free call ∨ (answer call s).1 = (other call t).1
  states : forall call s t, related s t -> related (answer call s).2 (other call t).2

namespace Dialogue

/-- The calls are the same, and the ends alike, as long as answers differ at free calls only. -/
inductive SideBySide (free : C -> Prop) (related : α -> β -> Prop) :
    Dialogue C R ε α -> Dialogue C R ε β -> Prop where
  | done {value : α} {other : β} (h : related value other) :
      SideBySide free related (done value) (done other)
  | fail (error : ε) : SideBySide free related (fail error) (fail error)
  | ask (call : C) {next : R call -> Dialogue C R ε α} {otherNext : R call -> Dialogue C R ε β}
      (later : forall answer other, free call ∨ answer = other ->
        SideBySide free related (next answer) (otherNext other)) :
      SideBySide free related (ask call next) (ask call otherNext)

namespace SideBySide

variable {free : C -> Prop}

theorem bind {related : α -> β -> Prop} {relatedEnds : γ -> δ -> Prop}
    {first : Dialogue C R ε α} {other : Dialogue C R ε β}
    {rest : α -> Dialogue C R ε γ} {otherRest : β -> Dialogue C R ε δ}
    (hfirst : SideBySide free related first other)
    (hrest : forall value otherValue, related value otherValue ->
      SideBySide free relatedEnds (rest value) (otherRest otherValue)) :
    SideBySide free relatedEnds (first >>= rest) (other >>= otherRest) := by
  induction hfirst with
  | done h => exact hrest _ _ h
  | fail error => exact .fail error
  | ask call _ ih =>
      apply SideBySide.ask call
      intro answer otherAnswer hanswers
      exact ih answer otherAnswer hanswers

theorem ofExcept (checked : Except ε α) :
    SideBySide free Eq (ofExcept checked : Dialogue C R ε α) (Dialogue.ofExcept checked) := by
  cases checked with
  | ok value => exact .done rfl
  | error error => exact .fail error

/-- Parties that answer alike but for the free calls are asked the same, up to the same end. -/
theorem hold {related : α -> β -> Prop} {dialogue : Dialogue C R ε α}
    {other : Dialogue C R ε β} (h : SideBySide free related dialogue other)
    {answer : (call : C) -> σ -> R call × σ} {otherAnswer : (call : C) -> τ -> R call × τ}
    {relatedStates : σ -> τ -> Prop} (alike : AlikeBut free answer otherAnswer relatedStates)
    {s : σ} {t : τ} (hstates : relatedStates s t) :
    (dialogue.hold answer s).calls = (other.hold otherAnswer t).calls ∧
      Outcome.Alike related (dialogue.hold answer s).outcome
        (other.hold otherAnswer t).outcome := by
  induction h generalizing s t with
  | done hvalues => exact ⟨rfl, .value hvalues⟩
  | fail error => exact ⟨rfl, .error error⟩
  | ask call _ ih =>
      have hlater := ih _ _ (alike.answers call s t hstates) (alike.states call s t hstates)
      constructor
      · exact congrArg (List.cons call) hlater.1
      · exact hlater.2

end SideBySide

end Dialogue

end DeckTools
