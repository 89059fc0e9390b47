/-!
# Dialogues

A dialogue is a computation that may ask a remote party and go on with whatever
it answers.  It ends with a value or an error.  One that was given a bound and
reached it stays unfinished, which is neither.
-/

namespace DeckTools

/-- A computation that asks `C`, is answered by `R`, and ends in `ε` or `α`. -/
inductive Dialogue (C : Type) (R : C -> Type) (ε α : Type) where
  | done (value : α)
  | fail (error : ε)
  | unfinished
  | ask (call : C) (next : R call -> Dialogue C R ε α)

inductive Outcome (ε α : Type) where
  | value (value : α)
  | error (error : ε)
  | unfinished

structure Turn (C : Type) (R : C -> Type) where
  call : C
  answer : R call

structure Conversation (C : Type) (R : C -> Type) (ε α σ : Type) where
  outcome : Outcome ε α
  turns : List (Turn C R)
  state : σ

def Conversation.calls {C : Type} {R : C -> Type} {ε α σ : Type}
    (held : Conversation C R ε α σ) : List C :=
  held.turns.map Turn.call

namespace Dialogue

variable {C : Type} {R : C -> Type} {ε α β σ : Type}

def bind (dialogue : Dialogue C R ε α) (rest : α -> Dialogue C R ε β) :
    Dialogue C R ε β :=
  match dialogue with
  | done value => rest value
  | fail error => fail error
  | unfinished => unfinished
  | ask call next => ask call (fun answer => (next answer).bind rest)

instance : Monad (Dialogue C R ε) where
  pure := done
  bind := bind

def ofExcept : Except ε α -> Dialogue C R ε α
  | .ok value => done value
  | .error error => fail error

def request (call : C) : Dialogue C R ε (R call) :=
  ask call done

/-- Hold a dialogue with a party that answers calls and keeps a state. -/
def hold (answer : (call : C) -> σ -> R call × σ) :
    Dialogue C R ε α -> σ -> Conversation C R ε α σ
  | done value, state => { outcome := .value value, turns := [], state }
  | fail error, state => { outcome := .error error, turns := [], state }
  | unfinished, state => { outcome := .unfinished, turns := [], state }
  | ask call next, state =>
      let (reply, state) := answer call state
      let rest := hold answer (next reply) state
      { rest with turns := { call, answer := reply } :: rest.turns }

/-- Carry out every call by a dialogue with another party. -/
def through {C' : Type} {R' : C' -> Type} (carry : (call : C) -> Dialogue C' R' ε (R call)) :
    Dialogue C R ε α -> Dialogue C' R' ε α
  | done value => done value
  | fail error => fail error
  | unfinished => unfinished
  | ask call next => (carry call).bind (fun answer => (next answer).through carry)

/-- Take an error as a value, so that it does not end the dialogue. -/
def caught {ε' : Type} : Dialogue C R ε α -> Dialogue C R ε' (Except ε α)
  | done value => done (.ok value)
  | fail error => done (.error error)
  | unfinished => unfinished
  | ask call next => ask call (fun answer => (next answer).caught)

/-! ## Laws of sequencing -/

@[simp] theorem pure_eq (value : α) : (pure value : Dialogue C R ε α) = done value := rfl

@[simp] theorem done_bind (value : α) (rest : α -> Dialogue C R ε β) :
    (done value : Dialogue C R ε α) >>= rest = rest value := rfl

@[simp] theorem fail_bind (error : ε) (rest : α -> Dialogue C R ε β) :
    (fail error : Dialogue C R ε α) >>= rest = fail error := rfl

@[simp] theorem ask_bind (call : C) (next : R call -> Dialogue C R ε α)
    (rest : α -> Dialogue C R ε β) :
    ask call next >>= rest = ask call (fun answer => next answer >>= rest) := rfl

end Dialogue

end DeckTools
