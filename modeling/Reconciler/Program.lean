/-!
# Programs that ask

A program changes a state of its own and asks the outside world in between.  Every question carries
the state reached so far, which is what remains when the program is cut there: by a deadline, or by
a question that breaks down instead of being answered.
-/

namespace Reconciler

/-- What may be asked, and what answers look like. -/
structure Interface where
  Question : Type
  Answer : Question → Type

/-- A program over a state `σ` that ends with an `α`. -/
inductive Program (I : Interface) (σ α : Type) where
  | done (state : σ) (value : α)
  | ask (state : σ) (question : I.Question) (next : I.Answer question → Program I σ α)

/-- How asking may end. -/
inductive Outcome (α : Type) where
  | returned (value : α)
  | expired
  | panicked (text : String)
deriving DecidableEq, Inhabited

namespace Program

variable {I : Interface} {σ α β W : Type}

/-- Goes on with a second program where the first one ends. -/
def bind : Program I σ α → (σ → α → Program I σ β) → Program I σ β
  | .done state value, next => next state value
  | .ask state question answer, next => .ask state question fun a => (answer a).bind next

theorem bind_assoc {γ : Type} (first : Program I σ α) (second : σ → α → Program I σ β)
    (third : σ → β → Program I σ γ) :
    (first.bind second).bind third =
      first.bind fun state value => (second state value).bind third := by
  induction first with
  | done state value => rfl
  | ask state question next ih => simp only [bind, ih]

/-- Runs a program in a world that answers every question. -/
def eval (answer : (question : I.Question) → W → I.Answer question × W) :
    Program I σ α → W → (σ × α) × W
  | .done state value, world => ((state, value), world)
  | .ask _ question next, world =>
    let reply := answer question world
    (next reply.1).eval answer reply.2

/-- Runs a program in a world where a question may fail to be answered.  The state is the one at the
end, or at the question that was not answered. -/
def run (answer : (question : I.Question) → W → Outcome (I.Answer question) × W) :
    Program I σ α → W → (σ × Outcome α) × W
  | .done state value, world => ((state, .returned value), world)
  | .ask state question next, world =>
    match answer question world with
    | (.returned reply, world) => (next reply).run answer world
    | (.expired, world) => ((state, .expired), world)
    | (.panicked text, world) => ((state, .panicked text), world)

end Program

/-- A step of a program that may fail with an `ε`; what it did to the state before stays. -/
def Action (I : Interface) (ε σ α : Type) := σ → Program I σ (Except ε α)

namespace Action

variable {I : Interface} {ε σ α : Type}

/-- Goes on with a second step unless the first one failed. -/
def bind (first : Action I ε σ α) (next : α → Action I ε σ β) : Action I ε σ β := fun state =>
  (first state).bind fun state result =>
    match result with
    | .ok value => next value state
    | .error error => .done state (.error error)

instance : Monad (Action I ε σ) where
  pure value := fun state => .done state (.ok value)
  bind := bind

instance : MonadExceptOf ε (Action I ε σ) where
  throw error := fun state => .done state (.error error)
  tryCatch body handler := fun state =>
    (body state).bind fun state result =>
      match result with
      | .ok value => .done state (.ok value)
      | .error error => handler error state

instance : MonadStateOf σ (Action I ε σ) where
  get := fun state => .done state (.ok state)
  set state := fun _ => .done state (.ok ())
  modifyGet change := fun state => let (value, state) := change state; .done state (.ok value)

theorem bind_assoc {β γ : Type} (first : Action I ε σ α) (second : α → Action I ε σ β)
    (third : β → Action I ε σ γ) :
    first >>= second >>= third = first >>= fun value => second value >>= third := by
  funext state
  refine (Program.bind_assoc (first state) _ _).trans ?_
  congr 1
  funext state result
  cases result <;> rfl

/-- Asks a question. -/
def ask (question : I.Question) : Action I ε σ (I.Answer question) := fun state =>
  .ask state question fun answer => .done state (.ok answer)

/-- Takes a step and hands over its result instead of failing. -/
def attempt (step : Action I ε σ α) : Action I ε' σ (Except ε α) := fun state =>
  (step state).bind fun state result => .done state (.ok result)

/-- Takes over a result. -/
def ofExcept (result : Except ε α) : Action I ε σ α := fun state => .done state result

end Action

end Reconciler
