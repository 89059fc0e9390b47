import DeckTools.Dialogue

/-!
# What a dialogue ensures

A dialogue ensures a property if it has it whatever it is answered.  The property
is one of the turns that were taken together with the end.  For each way to put
dialogues together there is a rule that says what its parts have to ensure.
-/

namespace DeckTools

namespace Dialogue

variable {C : Type} {R : C -> Type} {ε α β σ : Type}

/-- Whatever the dialogue is answered, its turns and its end have the property. -/
def Ensures :
    Dialogue C R ε α -> (List (Turn C R) -> Outcome ε α -> Prop) -> Prop
  | done value, P => P [] (.value value)
  | fail error, P => P [] (.error error)
  | unfinished, P => P [] .unfinished
  | ask call next, P =>
      forall answer,
        (next answer).Ensures (fun later outcome => P (⟨call, answer⟩ :: later) outcome)

section Rules

variable {P Q : List (Turn C R) -> Outcome ε α -> Prop}

@[simp] theorem ensures_done (value : α) :
    (done value : Dialogue C R ε α).Ensures P <-> P [] (.value value) :=
  Iff.rfl

@[simp] theorem ensures_fail (error : ε) :
    (fail error : Dialogue C R ε α).Ensures P <-> P [] (.error error) :=
  Iff.rfl

@[simp] theorem ensures_unfinished :
    (unfinished : Dialogue C R ε α).Ensures P <-> P [] .unfinished :=
  Iff.rfl

theorem ensures_ask (call : C) (next : R call -> Dialogue C R ε α) :
    (ask call next).Ensures P <->
      forall answer,
        (next answer).Ensures (fun later outcome => P (⟨call, answer⟩ :: later) outcome) :=
  Iff.rfl

/-- What is ensured holds of every conversation. -/
theorem Ensures.hold {dialogue : Dialogue C R ε α} (h : dialogue.Ensures P)
    (answer : (call : C) -> σ -> R call × σ) (state : σ) :
    P (dialogue.hold answer state).turns (dialogue.hold answer state).outcome := by
  induction dialogue generalizing P state with
  | done value => exact h
  | fail error => exact h
  | unfinished => exact h
  | ask call next ih =>
      exact ih (answer call state).1 (h (answer call state).1) (answer call state).2

theorem Ensures.mono {dialogue : Dialogue C R ε α} (h : dialogue.Ensures P)
    (weaker : forall turns outcome, P turns outcome -> Q turns outcome) :
    dialogue.Ensures Q := by
  induction dialogue generalizing P Q with
  | done value => exact weaker _ _ h
  | fail error => exact weaker _ _ h
  | unfinished => exact weaker _ _ h
  | ask call next ih =>
      intro answer
      apply ih answer (h answer)
      intro later outcome hlater
      exact weaker _ _ hlater

theorem ensures_of_forall (h : forall turns outcome, P turns outcome)
    (dialogue : Dialogue C R ε α) :
    dialogue.Ensures P := by
  induction dialogue generalizing P with
  | done value => exact h _ _
  | fail error => exact h _ _
  | unfinished => exact h _ _
  | ask call next ih =>
      intro answer
      apply ih
      intro later outcome
      exact h _ _

end Rules

/-! ## Sequences -/

/-- What a first part has to ensure so that, with the rest after it, `P` holds. -/
def Followed (rest : α -> Dialogue C R ε β)
    (P : List (Turn C R) -> Outcome ε β -> Prop) :
    List (Turn C R) -> Outcome ε α -> Prop
  | before, .value value =>
      (rest value).Ensures (fun after outcome => P (before ++ after) outcome)
  | before, .error error => P before (.error error)
  | before, .unfinished => P before .unfinished

theorem ensures_bind {P : List (Turn C R) -> Outcome ε β -> Prop}
    (first : Dialogue C R ε α) (rest : α -> Dialogue C R ε β) :
    (first >>= rest).Ensures P <-> first.Ensures (Followed rest P) := by
  induction first generalizing P with
  | done value => exact Iff.rfl
  | fail error => exact Iff.rfl
  | unfinished => exact Iff.rfl
  | ask call next ih =>
      rw [ask_bind, ensures_ask, ensures_ask]
      constructor
      · intro h answer
        apply ((ih answer).mp (h answer)).mono
        intro later outcome hlater
        cases outcome <;> exact hlater
      · intro h answer
        apply (ih answer).mpr
        apply (h answer).mono
        intro later outcome hlater
        cases outcome <;> exact hlater

theorem ensures_ofExcept_bind {P : List (Turn C R) -> Outcome ε β -> Prop}
    (checked : Except ε α) (rest : α -> Dialogue C R ε β) :
    (ofExcept checked >>= rest).Ensures P <->
      (forall error, checked = .error error -> P [] (.error error)) ∧
        forall value, checked = .ok value -> (rest value).Ensures P := by
  cases checked with
  | ok value =>
      constructor
      · intro h
        constructor
        · intro error herror
          cases herror
        · intro other hother
          cases hother
          exact h
      · intro h
        exact h.2 value rfl
  | error error =>
      constructor
      · intro h
        constructor
        · intro other hother
          cases hother
          exact h
        · intro value hvalue
          cases hvalue
      · intro h
        exact h.1 error rfl

end Dialogue

end DeckTools
