import Reconciler.Program

/-!
# Programs among their surroundings

What a program does depends on how its questions end.  An environment says which endings a question
may have and how each of them changes a state of the surroundings; a program ensures a statement in
an environment when the statement holds at its end however the questions turn out, including the
ends at a question that is not answered.  Runs in a world are one case of this.
-/

namespace Reconciler

/-- A question, and how asking it ended. -/
structure Exchange (I : Interface) where
  question : I.Question
  ending : Outcome (I.Answer question)

/-- The endings that a question may have, with the state of the surroundings before and after. -/
abbrev Environment (I : Interface) (S : Type) :=
  (question : I.Question) → Outcome (I.Answer question) → S → S → Prop

namespace Environment

variable {I : Interface} {S : Type}

/-- Surroundings that are not looked at. -/
def anything (I : Interface) : Environment I Unit := fun _ _ _ _ => True

/-- Surroundings that add up what was asked and how it ended. -/
def folding (step : S → Exchange I → S) : Environment I S :=
  fun question ending before after => after = step before ⟨question, ending⟩

/-- Surroundings that keep a record of what was asked, the last exchange at the end. -/
abbrev recording (I : Interface) : Environment I (List (Exchange I)) :=
  folding fun seen exchange => seen ++ [exchange]

/-- Surroundings that keep such a record, in which all exchanges are of a kind. -/
def noting (holds : Exchange I → Prop) : Environment I (List (Exchange I)) :=
  fun question ending before after =>
    holds ⟨question, ending⟩ ∧ after = before ++ [⟨question, ending⟩]

theorem endings_congr (environment : Environment I S) (question : I.Question) {before : S}
    {left right : Outcome (I.Answer question) → S → Prop}
    (hiff : ∀ ending after, left ending after ↔ right ending after) :
    (∀ ending after, environment question ending before after → left ending after) ↔
      ∀ ending after, environment question ending before after → right ending after :=
  forall_congr' fun ending => forall_congr' fun after => imp_congr_right fun _ => hiff ending after

end Environment

namespace Outcome

variable {ε α β : Type}

/-- What holds of a program's end: `go` of its value, or `stop` of an end that is also the end of
everything after it. -/
def resume (go : α → Prop) (stop : Outcome β → Prop) : Outcome α → Prop
  | .returned value => go value
  | .expired => stop .expired
  | .panicked text => stop (.panicked text)

/-- The same for a step that may also end with an error. -/
def follow (go : α → Prop) (stop : Outcome (Except ε β) → Prop) :
    Outcome (Except ε α) → Prop
  | .returned (.ok value) => go value
  | .returned (.error error) => stop (.returned (.error error))
  | .expired => stop .expired
  | .panicked text => stop (.panicked text)

/-- The step came to its end without an error. -/
def Succeeded : Outcome (Except ε α) → Prop
  | .returned (.ok _) => True
  | _ => False

@[simp]
theorem resume_returned (go : α → Prop) (stop : Outcome β → Prop) (value : α) :
    resume go stop (.returned value) = go value := rfl

@[simp]
theorem resume_expired (go : α → Prop) (stop : Outcome β → Prop) :
    resume go stop .expired = stop .expired := rfl

@[simp]
theorem resume_panicked (go : α → Prop) (stop : Outcome β → Prop) (text : String) :
    resume go stop (.panicked text) = stop (.panicked text) := rfl

@[simp]
theorem follow_ok (go : α → Prop) (stop : Outcome (Except ε β) → Prop) (value : α) :
    follow go stop (.returned (.ok value)) = go value := rfl

@[simp]
theorem follow_error (go : α → Prop) (stop : Outcome (Except ε β) → Prop) (error : ε) :
    follow go stop (.returned (.error error)) = stop (.returned (.error error)) := rfl

@[simp]
theorem follow_expired (go : α → Prop) (stop : Outcome (Except ε β) → Prop) :
    follow go stop .expired = stop .expired := rfl

@[simp]
theorem follow_panicked (go : α → Prop) (stop : Outcome (Except ε β) → Prop) (text : String) :
    follow go stop (.panicked text) = stop (.panicked text) := rfl

@[simp]
theorem succeeded_ok (value : α) : Succeeded (.returned (.ok value) : Outcome (Except ε α)) :=
  trivial

@[simp]
theorem not_succeeded_error (error : ε) :
    ¬Succeeded (.returned (.error error) : Outcome (Except ε α)) := id

@[simp]
theorem not_succeeded_expired : ¬Succeeded (.expired : Outcome (Except ε α)) := id

@[simp]
theorem not_succeeded_panicked (text : String) :
    ¬Succeeded (.panicked text : Outcome (Except ε α)) := id

end Outcome

namespace Program

variable {I : Interface} {S σ α β W : Type}

/-- However its questions end in the environment, the program leaves a state, an end and
surroundings as `post` says. -/
def Ensures (environment : Environment I S) :
    Program I σ α → (σ → Outcome α → S → Prop) → S → Prop
  | .done state value, post, surroundings => post state (.returned value) surroundings
  | .ask state question next, post, surroundings =>
    ∀ ending after, environment question ending surroundings after →
      ending.resume (fun answer => (next answer).Ensures environment post after)
        fun outcome => post state outcome after

/-- What a program asks in a world, and how each question ends. -/
def exchanges (answer : (question : I.Question) → W → Outcome (I.Answer question) × W) :
    Program I σ α → W → List (Exchange I)
  | .done _ _, _ => []
  | .ask _ question next, world =>
    match answer question world with
    | (.returned reply, world) =>
      ⟨question, .returned reply⟩ :: (next reply).exchanges answer world
    | (.expired, _) => [⟨question, .expired⟩]
    | (.panicked text, _) => [⟨question, .panicked text⟩]

section

variable {environment : Environment I S} {post weaker : σ → Outcome α → S → Prop}

theorem Ensures.mono {program : Program I σ α} {surroundings : S}
    (hensures : program.Ensures environment post surroundings)
    (himp : ∀ state outcome after, post state outcome after → weaker state outcome after) :
    program.Ensures environment weaker surroundings := by
  induction program generalizing surroundings with
  | done state value => exact himp _ _ _ hensures
  | ask state question next ih =>
      intro ending after hstep
      have hended := hensures ending after hstep
      cases ending with
      | returned answer => exact ih answer hended
      | expired => exact himp _ _ _ hended
      | panicked text => exact himp _ _ _ hended

/-- What no question disturbs still holds at the end of every program. -/
theorem ensures_of_preserved {keeps : S → Prop}
    (hstep : ∀ question ending before after, environment question ending before after →
      keeps before → keeps after)
    (program : Program I σ α) {surroundings : S} (hkeeps : keeps surroundings) :
    program.Ensures environment (fun _ _ after => keeps after) surroundings := by
  induction program generalizing surroundings with
  | done state value => exact hkeeps
  | ask state question next ih =>
      intro ending after hended
      have hafter := hstep question ending surroundings after hended hkeeps
      cases ending with
      | returned answer => exact ih answer hafter
      | expired => exact hafter
      | panicked text => exact hafter

theorem ensures_congr {other : σ → Outcome α → S → Prop} (program : Program I σ α)
    (surroundings : S)
    (hiff : ∀ state outcome after, post state outcome after ↔ other state outcome after) :
    program.Ensures environment post surroundings ↔
      program.Ensures environment other surroundings :=
  ⟨fun hensures => hensures.mono fun _ _ _ => (hiff _ _ _).mp,
    fun hensures => hensures.mono fun _ _ _ => (hiff _ _ _).mpr⟩

/-- A program followed by another one ensures what the second one ensures from where the first one
ends. -/
theorem ensures_bind {post : σ → Outcome β → S → Prop} (program : Program I σ α)
    (next : σ → α → Program I σ β) (surroundings : S) :
    (program.bind next).Ensures environment post surroundings ↔
      program.Ensures environment (fun state outcome after =>
        outcome.resume (fun value => (next state value).Ensures environment post after)
          fun outcome => post state outcome after) surroundings := by
  induction program generalizing surroundings with
  | done state value => rfl
  | ask state question answers ih =>
      simp only [Program.bind, Ensures]
      apply environment.endings_congr question
      intro ending after
      cases ending with
      | returned answer => exact ih answer after
      | expired => exact Iff.rfl
      | panicked text => exact Iff.rfl

/-- A statement that a program ensures holds of its run in any world that keeps to the environment,
however the state of the surroundings is read off the world. -/
theorem Ensures.run {program : Program I σ α}
    (answer : (question : I.Question) → W → Outcome (I.Answer question) × W) (view : W → S)
    (hkeeps : ∀ question world, environment question (answer question world).1 (view world)
      (view (answer question world).2))
    (world : W) (hensures : program.Ensures environment post (view world)) :
    post (program.run answer world).1.1 (program.run answer world).1.2
      (view (program.run answer world).2) := by
  induction program generalizing world with
  | done state value => exact hensures
  | ask state question next ih =>
      have hended := hensures _ _ (hkeeps question world)
      rcases hreply : answer question world with ⟨ending, after⟩
      rw [hreply] at hended
      cases ending with
      | returned reply =>
          simp only [Program.run, hreply]
          exact ih reply after hended
      | expired =>
          simp only [Program.run, hreply]
          exact hended
      | panicked text =>
          simp only [Program.run, hreply]
          exact hended

/-- The same for worlds that answer every question. -/
theorem Ensures.eval {program : Program I σ α}
    (answer : (question : I.Question) → W → I.Answer question × W) (view : W → S)
    (hkeeps : ∀ question world, environment question (.returned (answer question world).1)
      (view world) (view (answer question world).2))
    (world : W) (hensures : program.Ensures environment post (view world)) :
    post (program.eval answer world).1.1 (.returned (program.eval answer world).1.2)
      (view (program.eval answer world).2) := by
  induction program generalizing world with
  | done state value => exact hensures
  | ask state question next ih =>
      simp only [Program.eval]
      exact ih _ _ (hensures _ _ (hkeeps question world))

end

/-- What is ensured where the surroundings sum up the exchanges holds of the exchanges of a run in
any world whose answers the environment allows. -/
theorem Ensures.summed {environment : Environment I S} {step : S → Exchange I → S}
    {post : σ → Outcome α → S → Prop} {program : Program I σ α} {start : S}
    (hensures : program.Ensures environment post start)
    (answer : (question : I.Question) → W → Outcome (I.Answer question) × W)
    (hallows : ∀ question world sum, environment question (answer question world).1 sum
      (step sum ⟨question, (answer question world).1⟩)) (world : W) :
    post (program.run answer world).1.1 (program.run answer world).1.2
      ((program.exchanges answer world).foldl step start) := by
  induction program generalizing start world with
  | done state value => exact hensures
  | ask state question next ih =>
      have hallowed := hallows question world start
      rcases hreply : answer question world with ⟨ending, after⟩
      rw [hreply] at hallowed
      have hended := hensures ending _ hallowed
      cases ending with
      | returned reply =>
          simp only [Program.run, Program.exchanges, hreply, List.foldl_cons]
          exact ih reply hended after
      | expired =>
          simp only [Program.run, Program.exchanges, hreply, List.foldl_cons, List.foldl_nil]
          exact hended
      | panicked text =>
          simp only [Program.run, Program.exchanges, hreply, List.foldl_cons, List.foldl_nil]
          exact hended

/-- What is ensured of the sum of all exchanges holds of the exchanges of a run in any world. -/
theorem Ensures.exchanges {step : S → Exchange I → S} {post : σ → Outcome α → S → Prop}
    {program : Program I σ α} {start : S}
    (hensures : program.Ensures (.folding step) post start)
    (answer : (question : I.Question) → W → Outcome (I.Answer question) × W) (world : W) :
    post (program.run answer world).1.1 (program.run answer world).1.2
      ((program.exchanges answer world).foldl step start) :=
  hensures.summed answer (fun _ _ _ => rfl) world

theorem foldl_record (seen rest : List (Exchange I)) :
    rest.foldl (fun seen exchange => seen ++ [exchange]) seen = seen ++ rest := by
  induction rest generalizing seen with
  | nil => simp
  | cons exchange rest ih => simp [ih]

/-- What is ensured of the record of all exchanges holds of the exchanges of a run in any world. -/
theorem Ensures.exchanges_recording {post : σ → Outcome α → List (Exchange I) → Prop}
    {program : Program I σ α} (hensures : program.Ensures (.recording I) post [])
    (answer : (question : I.Question) → W → Outcome (I.Answer question) × W) (world : W) :
    post (program.run answer world).1.1 (program.run answer world).1.2
      (program.exchanges answer world) := by
  have hended := hensures.exchanges answer world
  rwa [foldl_record, List.nil_append] at hended

/-- The same for exchanges of a kind, in worlds with no others. -/
theorem Ensures.exchanges_noting {holds : Exchange I → Prop}
    {post : σ → Outcome α → List (Exchange I) → Prop} {program : Program I σ α}
    (hensures : program.Ensures (.noting holds) post [])
    (answer : (question : I.Question) → W → Outcome (I.Answer question) × W)
    (hanswer : ∀ question world, holds ⟨question, (answer question world).1⟩) (world : W) :
    post (program.run answer world).1.1 (program.run answer world).1.2
      (program.exchanges answer world) := by
  have hended : post (program.run answer world).1.1 (program.run answer world).1.2
      ((program.exchanges answer world).foldl (fun seen exchange => seen ++ [exchange]) []) :=
    hensures.summed answer (fun question world _ => ⟨hanswer question world, rfl⟩) world
  rwa [foldl_record, List.nil_append] at hended

end Program

namespace Action

variable {I : Interface} {S ε σ α β : Type}
variable {environment : Environment I S}

@[simp]
theorem ensures_pure {post : σ → Outcome (Except ε α) → S → Prop} (value : α) (state : σ)
    (surroundings : S) :
    ((pure value : Action I ε σ α) state).Ensures environment post surroundings ↔
      post state (.returned (.ok value)) surroundings := Iff.rfl

@[simp]
theorem ensures_throw {post : σ → Outcome (Except ε α) → S → Prop} (error : ε) (state : σ)
    (surroundings : S) :
    ((throw error : Action I ε σ α) state).Ensures environment post surroundings ↔
      post state (.returned (.error error)) surroundings := Iff.rfl

@[simp]
theorem ensures_get {post : σ → Outcome (Except ε σ) → S → Prop} (state : σ) (surroundings : S) :
    ((get : Action I ε σ σ) state).Ensures environment post surroundings ↔
      post state (.returned (.ok state)) surroundings := Iff.rfl

@[simp]
theorem ensures_set {post : σ → Outcome (Except ε PUnit) → S → Prop} (new state : σ)
    (surroundings : S) :
    ((set new : Action I ε σ PUnit) state).Ensures environment post surroundings ↔
      post new (.returned (.ok ⟨⟩)) surroundings := Iff.rfl

@[simp]
theorem ensures_modify {post : σ → Outcome (Except ε PUnit) → S → Prop} (change : σ → σ)
    (state : σ) (surroundings : S) :
    ((modify change : Action I ε σ PUnit) state).Ensures environment post surroundings ↔
      post (change state) (.returned (.ok ⟨⟩)) surroundings := Iff.rfl

@[simp]
theorem ensures_modifyGet {post : σ → Outcome (Except ε α) → S → Prop} (change : σ → α × σ)
    (state : σ) (surroundings : S) :
    ((modifyGet change : Action I ε σ α) state).Ensures environment post surroundings ↔
      post (change state).2 (.returned (.ok (change state).1)) surroundings := Iff.rfl

@[simp]
theorem ensures_ofExcept {post : σ → Outcome (Except ε α) → S → Prop} (result : Except ε α)
    (state : σ) (surroundings : S) :
    ((ofExcept result : Action I ε σ α) state).Ensures environment post surroundings ↔
      post state (.returned result) surroundings := Iff.rfl

@[simp]
theorem ensures_ask {question : I.Question}
    {post : σ → Outcome (Except ε (I.Answer question)) → S → Prop} (state : σ)
    (surroundings : S) :
    Program.Ensures (α := Except ε (no_index (I.Answer question))) environment
        ((ask question : Action I ε σ _) state) post surroundings ↔
      ∀ ending after, environment question ending surroundings after →
        ending.resume (fun answer => post state (.returned (.ok answer)) after)
          fun outcome => post state outcome after := Iff.rfl

@[simp]
theorem ensures_bind {post : σ → Outcome (Except ε β) → S → Prop} (first : Action I ε σ α)
    (next : α → Action I ε σ β) (state : σ) (surroundings : S) :
    ((first >>= next) state).Ensures environment post surroundings ↔
      (first state).Ensures environment (fun state outcome after =>
        outcome.follow (fun value => (next value state).Ensures environment post after)
          fun outcome => post state outcome after) surroundings := by
  change ((first state).bind _).Ensures environment post surroundings ↔ _
  rw [Program.ensures_bind]
  apply Program.ensures_congr _ _
  intro state outcome after
  rcases outcome with (error | value) | _ | text <;> exact Iff.rfl

@[simp]
theorem ensures_map {post : σ → Outcome (Except ε β) → S → Prop} (first : Action I ε σ α)
    (change : α → β) (state : σ) (surroundings : S) :
    ((change <$> first) state).Ensures environment post surroundings ↔
      (first state).Ensures environment (fun state outcome after =>
        outcome.follow (fun value => post state (.returned (.ok (change value))) after)
          fun outcome => post state outcome after) surroundings :=
  ensures_bind first (fun value => pure (change value)) state surroundings

@[simp]
theorem ensures_attempt {ε' : Type} {post : σ → Outcome (Except ε' (Except ε α)) → S → Prop}
    (step : Action I ε σ α) (state : σ) (surroundings : S) :
    ((attempt step : Action I ε' σ _) state).Ensures environment post surroundings ↔
      (step state).Ensures environment (fun state outcome after =>
        outcome.resume (fun result => post state (.returned (.ok result)) after)
          fun outcome => post state outcome after) surroundings :=
  Program.ensures_bind (step state) _ surroundings

/-- Where a statement holds of the state and the surroundings, the step leaves it true of them. -/
def Maintains (environment : Environment I S) (keeps : σ → S → Prop) (step : Action I ε σ α) :
    Prop :=
  ∀ state surroundings, keeps state surroundings →
    (step state).Ensures environment (fun state _ after => keeps state after) surroundings

namespace Maintains

variable {keeps : σ → S → Prop}

theorem ofExcept (result : Except ε α) : Maintains environment keeps (Action.ofExcept result) :=
  fun _ _ hkeeps => hkeeps

theorem bind {first : Action I ε σ α} {next : α → Action I ε σ β}
    (hfirst : Maintains environment keeps first)
    (hnext : ∀ value, Maintains environment keeps (next value)) :
    Maintains environment keeps (first >>= next) := by
  intro state surroundings hkeeps
  rw [ensures_bind]
  refine (hfirst state surroundings hkeeps).mono ?_
  rintro state ((error | value) | _ | text) after hafter
  · exact hafter
  · exact hnext value state after hafter
  · exact hafter
  · exact hafter

theorem attempt {ε' : Type} {step : Action I ε σ α} (hstep : Maintains environment keeps step) :
    Maintains environment keeps (Action.attempt step : Action I ε' σ (Except ε α)) := by
  intro state surroundings hkeeps
  rw [ensures_attempt]
  refine (hstep state surroundings hkeeps).mono ?_
  rintro state (result | _ | text) after hafter <;> exact hafter

end Maintains

end Action

end Reconciler
