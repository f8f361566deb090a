import Reconciler.Pass.Body
import Reconciler.Proofs.Environment

/-!
# Steps of a body among their surroundings

For each of the steps that bodies are made of, what it ensures in an environment.  With these rules
a body is followed step by step without opening the steps again.
-/

namespace Reconciler

/-- The same end, with another error. -/
def Outcome.mapError {ε ε' α : Type} (change : ε → ε') :
    Outcome (Except ε α) → Outcome (Except ε' α)
  | .returned result => .returned (result.mapError change)
  | .expired => .expired
  | .panicked text => .panicked text

@[simp]
theorem Outcome.mapError_ok {ε ε' α : Type} (change : ε → ε') (value : α) :
    mapError change (.returned (.ok value)) = .returned (.ok value) := rfl

@[simp]
theorem Outcome.mapError_error {ε ε' α : Type} (change : ε → ε') (error : ε) :
    mapError change (.returned (.error error) : Outcome (Except ε α)) =
      .returned (.error (change error)) := rfl

@[simp]
theorem Outcome.mapError_expired {ε ε' α : Type} (change : ε → ε') :
    mapError change (.expired : Outcome (Except ε α)) = .expired := rfl

@[simp]
theorem Outcome.mapError_panicked {ε ε' α : Type} (change : ε → ε') (text : String) :
    mapError change (.panicked text : Outcome (Except ε α)) = .panicked text := rfl

theorem Outcome.mapError_eq_ok_iff {ε ε' α : Type} {change : ε → ε'}
    {ending : Outcome (Except ε α)} {value : α} :
    ending.mapError change = .returned (.ok value) ↔ ending = .returned (.ok value) := by
  rcases ending with (error | found) | _ | text <;> simp

/-- How removing something ends: that there was nothing to remove is as good as having removed
it. -/
def Outcome.removal {α : Type} (purpose : String) :
    Outcome (Except CloudError α) → Outcome (Except Error Unit)
  | .returned (.ok _) => .returned (.ok ())
  | .returned (.error error) =>
    .returned (if error.isNotFound then .ok () else .error (.context purpose (.cloud error)))
  | .expired => .expired
  | .panicked text => .panicked text

namespace Body

variable {S σ : Type} {managed : Managed} {environment : Environment (outside managed) S}

@[simp]
theorem ensures_attempt {call : managed.Call}
    {post : σ → Outcome (Except Error (Except CloudError (managed.Reply call))) → S → Prop}
    (state : σ) (surroundings : S) :
    Program.Ensures (α := Except Error (Except CloudError (no_index (managed.Reply call))))
        environment ((attempt managed call : Step managed σ _) state) post surroundings ↔
      ∀ (ending : Outcome (Except CloudError (managed.Reply call))) after,
        environment (.cloud call) ending surroundings after →
          ending.resume (fun result => post state (.returned (.ok result)) after)
            fun outcome => post state outcome after := Iff.rfl

@[simp]
theorem ensures_call {call : managed.Call}
    {post : σ → Outcome (Except Error (managed.Reply call)) → S → Prop}
    (state : σ) (surroundings : S) :
    Program.Ensures (α := Except Error (no_index (managed.Reply call))) environment
        ((Body.call managed call : Step managed σ _) state) post surroundings ↔
      ∀ (ending : Outcome (Except CloudError (managed.Reply call))) after,
        environment (.cloud call) ending surroundings after →
          post state (ending.mapError .cloud) after := by
  unfold Body.call
  rw [Action.ensures_bind, ensures_attempt]
  apply Environment.endings_congr environment (.cloud call)
  intro ending after
  cases ending <;> exact Iff.rfl

@[simp]
theorem ensures_callFor {purpose : String} {call : managed.Call}
    {post : σ → Outcome (Except Error (managed.Reply call)) → S → Prop}
    (state : σ) (surroundings : S) :
    Program.Ensures (α := Except Error (no_index (managed.Reply call))) environment
        ((callFor managed purpose call : Step managed σ _) state) post surroundings ↔
      ∀ (ending : Outcome (Except CloudError (managed.Reply call))) after,
        environment (.cloud call) ending surroundings after →
          post state (ending.mapError fun error => .context purpose (.cloud error)) after := by
  unfold callFor
  rw [Action.ensures_bind, ensures_attempt]
  apply Environment.endings_congr environment (.cloud call)
  intro ending after
  cases ending <;> exact Iff.rfl

@[simp]
theorem ensures_remove {purpose : String} {call : managed.Call}
    {post : σ → Outcome (Except Error Unit) → S → Prop} (state : σ) (surroundings : S) :
    ((remove managed purpose call : Step managed σ _) state).Ensures environment post
        surroundings ↔
      ∀ (ending : Outcome (Except CloudError (managed.Reply call))) after,
        environment (.cloud call) ending surroundings after →
          post state (ending.removal purpose) after := by
  unfold remove
  rw [Action.ensures_bind, ensures_attempt]
  apply Environment.endings_congr environment (.cloud call)
  intro ending after
  rcases ending with (error | value) | _ | text
  · by_cases hnotFound : error.isNotFound <;> simp [Outcome.removal, hnotFound]
  · exact Iff.rfl
  · exact Iff.rfl
  · exact Iff.rfl

@[simp]
theorem ensures_publish {event : Event}
    {post : managed.Resource → Outcome (Except Error Unit) → S → Prop}
    (object : managed.Resource) (surroundings : S) :
    ((publish event : Body managed Unit) object).Ensures environment post surroundings ↔
      ∀ (ending : Outcome (Except Error Unit)) after,
        environment (.publish event (ObjectReference.of managed.kind object.metadata)) ending
            surroundings after →
          ending.resume (fun _ => post object (.returned (.ok ())) after)
            fun outcome => post object outcome after := Iff.rfl

end Body

end Reconciler
