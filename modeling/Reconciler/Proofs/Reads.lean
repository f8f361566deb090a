import Reconciler.Proofs.Passing

/-!
# Providers whose answers do not change

A provider that is only read may answer every question the same way each time.  Steps of a body that
leave their state alone then end the same way wherever they are taken, unless they come to change
something at the provider.
-/

namespace Reconciler

/-- The call changes something at the provider. -/
def Managed.mutates : (managed : Managed) → managed.Call → Bool
  | .machine, .createInstance _ => true
  | .machine, .deleteInstance _ => true
  | .machine, .tagResource .. => true
  | .machine, .createMember .. => true
  | .machine, .deleteMember .. => true
  | .image, .createImportJob _ => true
  | .image, .deleteJob _ => true
  | .image, .deleteImage _ => true
  | _, _ => false

/-- How the questions of bodies end that change nothing.  Of an event it matters only that
publishing it comes to an end. -/
structure Reads (managed : Managed) where
  cloud : (call : managed.Call) → Outcome (Except CloudError (managed.Reply call))
  secret : («namespace» name : String) → Outcome (Except Error (Option Secret))
  published : Event → Outcome Unit

namespace Exchange

variable {managed : Managed}

/-- Something is to be changed at the provider. -/
def Mutates (exchange : Exchange (outside managed)) : Prop :=
  match exchange.question with
  | .cloud call => managed.mutates call = true
  | .secret .. => False
  | .publish .. => False

instance (exchange : Exchange (outside managed)) : Decidable exchange.Mutates := by
  unfold Mutates
  split <;> infer_instance

/-- The question ends the way it always ends. -/
def Follows (reads : Reads managed) : Exchange (outside managed) → Prop
  | ⟨.cloud call, ending⟩ => ending = reads.cloud call
  | ⟨.secret «namespace» name, ending⟩ => ending = reads.secret «namespace» name
  | ⟨.publish event _, ending⟩ =>
    ending.resume (fun _ => reads.published event = .returned ()) fun ended =>
      reads.published event = ended

end Exchange

/-- Surroundings in which only some exchanges take place. -/
def Environment.such {I : Interface} (allowed : Exchange I → Prop) : Environment I Unit :=
  fun question ending _ _ => allowed ⟨question, ending⟩

namespace Program

variable {I : Interface} {σ α : Type} {allowed narrower : Exchange I → Prop}

/-- What is ensured is ensured also where fewer exchanges take place. -/
theorem Ensures.fewer {program : Program I σ α} {post : σ → Outcome α → Unit → Prop}
    (hensures : program.Ensures (.such allowed) post ())
    (hfewer : ∀ exchange, narrower exchange → allowed exchange) :
    program.Ensures (.such narrower) post () := by
  induction program with
  | done state value => exact hensures
  | ask state question next ih =>
      intro ending _ hended
      have hafter := hensures ending () (hfewer _ hended)
      cases ending with
      | returned answer => exact ih answer hafter
      | expired => exact hafter
      | panicked text => exact hafter

/-- What is ensured where some exchanges take place holds unless another one takes place. -/
theorem Ensures.folding_such {program : Program I σ α} {holds : σ → Outcome α → Prop}
    (hensures : program.Ensures (.such allowed) (fun state outcome _ => holds state outcome) ())
    (fine : Prop) :
    program.Ensures (.folding fun fine exchange => fine ∧ allowed exchange)
      (fun state outcome fine => fine → holds state outcome) fine := by
  induction program generalizing fine with
  | done state value => exact fun _ => hensures
  | ask state question next ih =>
      rintro ending _ rfl
      by_cases hallowed : allowed ⟨question, ending⟩
      · have hended := hensures ending () hallowed
        cases ending with
        | returned answer => exact ih answer hended _
        | expired => exact fun _ => hended
        | panicked text => exact fun _ => hended
      · cases ending with
        | returned answer =>
            have hnever : (next answer).Ensures
                (.folding fun fine exchange => fine ∧ allowed exchange) (fun _ _ fine => ¬fine)
                (fine ∧ allowed ⟨question, .returned answer⟩) := by
              refine ensures_of_preserved ?_ (next answer) fun hfine => hallowed hfine.2
              rintro _ _ before _ rfl hbefore hfine
              exact hbefore hfine.1
            exact hnever.mono fun _ _ _ hnot hfine => absurd hfine hnot
        | expired => exact fun hfine => absurd hfine.2 hallowed
        | panicked text => exact fun hfine => absurd hfine.2 hallowed

end Program

section Stages

variable {W : Type} {managed : Managed} {«namespace» name : String} {world : World W}
variable {settings : Settings} {w after : W} {visit : Visit managed}
variable (stages : world.Stages settings «namespace» name w visit after)
variable {allowed : Exchange (Reconciler.outside managed) → Prop}
variable (holds : managed.Resource → Outcome (Except Error Requeue) → Prop)
include stages

/-- What a body ensures at the time of the pass, where some exchanges take place, holds of a pass
with such exchanges. -/
theorem World.Stages.of_such_now
    (hbody : (managed.body ⟨visit.opened.cluster, settings, world.now stages.opened⟩ visit.object
      visit.object).Ensures (.such allowed) (fun left outcome _ => holds left outcome) ())
    (hall : ∀ exchange ∈ visit.exchanges, allowed exchange) :
    holds visit.left.object visit.ending := by
  have hfold (exchanges : List (Exchange (Reconciler.outside managed))) (fine : Prop) :
      exchanges.foldl (fun fine exchange => fine ∧ allowed exchange) fine ↔
        fine ∧ ∀ exchange ∈ exchanges, allowed exchange := by
    induction exchanges generalizing fine with
    | nil => simp
    | cons exchange rest ih => simp [ih, and_assoc]
  have hended := stages.of_ensures_now (hbody.folding_such True)
  exact hended ((hfold _ True).mpr ⟨trivial, hall⟩)

/-- What a body ensures where some exchanges take place holds of every pass with such exchanges. -/
theorem World.Stages.of_such
    (hbody : ∀ now, (managed.body ⟨visit.opened.cluster, settings, now⟩ visit.object
      visit.object).Ensures (.such allowed) (fun left outcome _ => holds left outcome) ())
    (hall : ∀ exchange ∈ visit.exchanges, allowed exchange) :
    holds visit.left.object visit.ending :=
  stages.of_such_now holds (hbody _) hall

end Stages

namespace Reads

variable {managed : Managed} (reads : Reads managed)

/-- Nothing is changed at the provider, and what is asked ends as always. -/
abbrev quiet : Environment (outside managed) Unit :=
  .such fun exchange => ¬exchange.Mutates ∧ exchange.Follows reads

/-- What changes nothing at the provider ends as always. -/
abbrev steady : Environment (outside managed) Unit :=
  .such fun exchange => ¬exchange.Mutates → exchange.Follows reads

end Reads

theorem Program.Ensures.quietly {managed : Managed} {reads : Reads managed} {σ α : Type}
    {program : Program (outside managed) σ α} {post : σ → Outcome α → Unit → Prop}
    (hensures : program.Ensures reads.steady post ()) : program.Ensures reads.quiet post () :=
  hensures.fewer fun _ hquiet _ => hquiet.2

/-- The end of a step that hands over what it was answered. -/
def Outcome.asked {ε α : Type} : Outcome α → Outcome (Except ε α)
  | .returned answer => .returned (.ok answer)
  | .expired => .expired
  | .panicked text => .panicked text

namespace Step

variable {managed : Managed} {reads : Reads managed} {σ α β : Type}

/-- Wherever the step is taken, it leaves its state alone and ends this way. -/
def Ends (reads : Reads managed) (outcome : Outcome (Except Error α)) (step : Step managed σ α) :
    Prop :=
  ∀ state, (step state).Ensures reads.steady (fun after ended _ => after = state ∧ ended = outcome)
    ()

/-- The step comes to change something at the provider. -/
def Never (reads : Reads managed) (step : Step managed σ α) : Prop :=
  ∀ state, (step state).Ensures reads.quiet (fun _ _ _ => False) ()

/-- The step always ends the same way, unless it comes to change something at the provider. -/
def Determined (reads : Reads managed) (step : Step managed σ α) : Prop :=
  (∃ outcome, Ends reads outcome step) ∨ Never reads step

variable {outcome : Outcome (Except Error α)} {first : Step managed σ α}
variable {next : α → Step managed σ β} {state : σ}
variable {post : σ → Outcome (Except Error β) → Unit → Prop}

theorem Ends.steady_bind (hfirst : Ends reads outcome first)
    (hnext : outcome.follow (fun value => (next value state).Ensures reads.steady post ())
      fun ended => post state ended ()) :
    ((first >>= next) state).Ensures reads.steady post () := by
  rw [Action.ensures_bind]
  apply (hfirst state).mono
  rintro _ _ _ ⟨rfl, rfl⟩
  exact hnext

theorem Ends.quiet_bind (hfirst : Ends reads outcome first)
    (hnext : outcome.follow (fun value => (next value state).Ensures reads.quiet post ())
      fun ended => post state ended ()) :
    ((first >>= next) state).Ensures reads.quiet post () := by
  rw [Action.ensures_bind]
  apply (hfirst state).quietly.mono
  rintro _ _ _ ⟨rfl, rfl⟩
  exact hnext

/-- As long as nothing is changed, there is nothing to show of a step that comes to a change. -/
theorem Never.quiet {holds : σ → Outcome (Except Error α) → Unit → Prop}
    (hnever : Never reads first) (state : σ) : (first state).Ensures reads.quiet holds () :=
  (hnever state).mono fun _ _ _ => False.elim

theorem Never.quiet_bind (hfirst : Never reads first) :
    ((first >>= next) state).Ensures reads.quiet post () := by
  rw [Action.ensures_bind]
  exact hfirst.quiet state

theorem Ends.bind {value : α} {ended : Outcome (Except Error β)}
    (hfirst : Ends reads (.returned (.ok value)) first) (hnext : Ends reads ended (next value)) :
    Ends reads ended (first >>= next) := fun state => hfirst.steady_bind (hnext state)

/-- A step that ends without a value is also the end of everything after it. -/
theorem Ends.stops {ended : Outcome (Except Error β)} (hfirst : Ends reads outcome first)
    (hstops : outcome.follow (fun _ => False) fun stopped => stopped = ended) :
    Ends reads ended (first >>= next) := by
  intro state
  apply hfirst.steady_bind
  rcases outcome with (error | value) | _ | text
  · exact ⟨rfl, hstops⟩
  · exact hstops.elim
  · exact ⟨rfl, hstops⟩
  · exact ⟨rfl, hstops⟩

theorem Ends.pure (value : α) :
    Ends reads (.returned (.ok value)) (pure value : Step managed σ α) :=
  fun _ => ⟨rfl, rfl⟩

theorem Ends.throw (error : Error) :
    Ends reads (.returned (.error error)) (throw error : Step managed σ α) :=
  fun _ => ⟨rfl, rfl⟩

theorem Ends.ofExcept (result : Except Error α) :
    Ends reads (.returned result) (Action.ofExcept result : Step managed σ α) :=
  fun _ => ⟨rfl, rfl⟩

/-- What is asked without changing anything is always answered the same. -/
theorem Ends.ask {question : BodyQuestion managed} {ends : Outcome question.Answer}
    (hends : ∀ ending, (¬Exchange.Mutates ⟨question, ending⟩ →
      Exchange.Follows reads ⟨question, ending⟩) → ending = ends) :
    Ends reads ends.asked (Action.ask (I := outside managed) question : Step managed σ _) := by
  intro state
  rw [Action.ensures_ask]
  intro ending _ hended
  obtain rfl := hends ending hended
  cases ending <;> exact ⟨rfl, rfl⟩

theorem Ends.secret («namespace» name : String) : Ends reads (reads.secret «namespace» name).asked
    (Action.ask (I := outside managed) (.secret «namespace» name) : Step managed σ _) :=
  Ends.ask fun _ hended => hended id

theorem Ends.attempt {call : managed.Call} (hreads : managed.mutates call = false) :
    Ends reads (reads.cloud call).asked (Body.attempt managed call : Step managed σ _) :=
  Ends.ask fun _ hended => hended (by simp [Exchange.Mutates, hreads])

theorem Ends.call {call : managed.Call} (hreads : managed.mutates call = false) :
    Ends reads ((reads.cloud call).mapError .cloud)
      (Body.call managed call : Step managed σ _) := by
  intro state
  rw [Body.ensures_call]
  intro ending _ hended
  rw [show ending = reads.cloud call from hended (by simp [Exchange.Mutates, hreads])]
  exact ⟨rfl, rfl⟩

theorem Ends.callFor {purpose : String} {call : managed.Call}
    (hreads : managed.mutates call = false) :
    Ends reads ((reads.cloud call).mapError fun error => .context purpose (.cloud error))
      (Body.callFor managed purpose call : Step managed σ _) := by
  intro state
  rw [Body.ensures_callFor]
  intro ending _ hended
  rw [show ending = reads.cloud call from hended (by simp [Exchange.Mutates, hreads])]
  exact ⟨rfl, rfl⟩

theorem Never.bind (hfirst : Never reads first) : Never reads (first >>= next) :=
  fun _ => hfirst.quiet_bind

theorem Never.call {call : managed.Call} (hmutates : managed.mutates call = true) :
    Never reads (Body.call managed call : Step managed σ _) := by
  intro state
  rw [Body.ensures_call]
  exact fun ending _ hended => hended.1 hmutates

theorem Never.callFor {purpose : String} {call : managed.Call}
    (hmutates : managed.mutates call = true) :
    Never reads (Body.callFor managed purpose call : Step managed σ _) := by
  intro state
  rw [Body.ensures_callFor]
  exact fun ending _ hended => hended.1 hmutates

theorem Determined.pure (value : α) : Determined reads (pure value : Step managed σ α) :=
  .inl ⟨_, Ends.pure value⟩

theorem Determined.throw (error : Error) : Determined reads (throw error : Step managed σ α) :=
  .inl ⟨_, Ends.throw error⟩

theorem Determined.ofExcept (result : Except Error α) :
    Determined reads (Action.ofExcept result : Step managed σ α) :=
  .inl ⟨_, Ends.ofExcept result⟩

theorem Determined.call (call : managed.Call) :
    Determined reads (Body.call managed call : Step managed σ _) := by
  rcases hmutates : managed.mutates call with _ | _
  · exact .inl ⟨_, Ends.call hmutates⟩
  · exact .inr (Never.call hmutates)

theorem Determined.callFor (purpose : String) (call : managed.Call) :
    Determined reads (Body.callFor managed purpose call : Step managed σ _) := by
  rcases hmutates : managed.mutates call with _ | _
  · exact .inl ⟨_, Ends.callFor hmutates⟩
  · exact .inr (Never.callFor hmutates)

theorem Determined.bind (hfirst : Determined reads first)
    (hnext : ∀ value, Determined reads (next value)) : Determined reads (first >>= next) := by
  rcases hfirst with ⟨outcome, hfirst⟩ | hfirst
  · rcases outcome with (error | value) | _ | text
    · exact .inl ⟨.returned (.error error), hfirst.stops rfl⟩
    · rcases hnext value with ⟨outcome, hnext⟩ | hnext
      · exact .inl ⟨outcome, hfirst.bind hnext⟩
      · exact .inr fun state => hfirst.quiet_bind (hnext state)
    · exact .inl ⟨.expired, hfirst.stops rfl⟩
    · exact .inl ⟨.panicked text, hfirst.stops rfl⟩
  · exact .inr fun _ => hfirst.quiet_bind

theorem Determined.map (change : α → β) (hfirst : Determined reads first) :
    Determined reads (change <$> first) :=
  hfirst.bind fun value => Determined.pure (change value)

end Step

end Reconciler
