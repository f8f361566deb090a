import Reconciler.Proofs.Environment

/-!
# Answers that end a program

A program may be over as soon as a question gets a certain answer: it asks nothing more, leaves its
state as it was at the question, and ends as the answer says.
-/

namespace Reconciler

namespace Program

variable {I : Interface} {σ α β W : Type}
variable {ends : (question : I.Question) → I.Answer question → Prop}
variable {fits : (question : I.Question) → I.Answer question → α → Prop}
variable {lasts : (question : I.Question) → I.Answer question → β → Prop}

/-- An answer that `ends` holds of is the last one, and the program ends with a value that fits
it. -/
def EndsOn (ends : (question : I.Question) → I.Answer question → Prop)
    (fits : (question : I.Question) → I.Answer question → α → Prop) : Program I σ α → Prop
  | .done _ _ => True
  | .ask state question next => ∀ answer, (next answer).EndsOn ends fits ∧
    (ends question answer → ∃ value, fits question answer value ∧ next answer = .done state value)

/-- Where a second program goes on from an end that fits, it ends there and then as well. -/
theorem EndsOn.bind {program : Program I σ α} {next : σ → α → Program I σ β}
    (hends : program.EndsOn ends fits)
    (hnext : ∀ state value, (next state value).EndsOn ends lasts)
    (hfits : ∀ question answer state value, ends question answer → fits question answer value →
      ∃ last, lasts question answer last ∧ next state value = .done state last) :
    (program.bind next).EndsOn ends lasts := by
  induction program with
  | done state value => exact hnext state value
  | ask state question answers ih =>
      intro answer
      obtain ⟨hrest, hended⟩ := hends answer
      refine ⟨ih answer hrest, fun hanswer => ?_⟩
      obtain ⟨value, hvalue, hdone⟩ := hended hanswer
      obtain ⟨last, hlast, hnextDone⟩ := hfits question answer state value hanswer hvalue
      refine ⟨last, hlast, ?_⟩
      dsimp only
      rw [hdone, Program.bind, hnextDone]

/-- In a run such an answer is the last one. -/
theorem EndsOn.last {program : Program I σ α} (hends : program.EndsOn ends fits)
    (answer : (question : I.Question) → W → Outcome (I.Answer question) × W) (w : W)
    {early late : List (Exchange I)} {exchange : Exchange I} {reply : I.Answer exchange.question}
    (hexchanges : program.exchanges answer w = early ++ exchange :: late)
    (hending : exchange.ending = .returned reply) (hreply : ends exchange.question reply) :
    late = [] ∧ ∃ value, fits exchange.question reply value ∧
      (program.run answer w).1.2 = .returned value := by
  induction program generalizing w early with
  | done state value => simp [exchanges] at hexchanges
  | ask state asked next ih =>
      -- A question that is not answered is the only one, and this one is answered.
      have hunanswered {ending : Outcome (I.Answer asked)}
          (hnone : ∀ value, ending ≠ .returned value)
          (hsplit : [⟨asked, ending⟩] = early ++ exchange :: late) : False := by
        obtain ⟨-, rfl, -⟩ : early = [] ∧ exchange = ⟨asked, ending⟩ ∧ late = [] := by
          simpa [List.append_eq_singleton_iff] using hsplit.symm
        exact hnone reply hending
      rcases hanswered : answer asked w with ⟨given | _ | text, after⟩
      · simp only [exchanges, run, hanswered] at hexchanges ⊢
        obtain ⟨hrest, hended⟩ := hends given
        cases early with
        | nil =>
            obtain ⟨rfl, rfl⟩ := List.cons.inj hexchanges
            obtain rfl := Outcome.returned.inj hending
            obtain ⟨value, hfits, hdone⟩ := hended hreply
            simp only [hdone, exchanges, run]
            exact ⟨trivial, value, hfits, rfl⟩
        | cons first early => exact ih given hrest after (List.cons.inj hexchanges).2
      · simp only [exchanges, hanswered] at hexchanges
        exact (hunanswered (by simp) hexchanges).elim
      · simp only [exchanges, hanswered] at hexchanges
        exact (hunanswered (by simp) hexchanges).elim

/-- A run in which every question is answered comes to a value. -/
theorem exists_returned (program : Program I σ α)
    (answer : (question : I.Question) → W → Outcome (I.Answer question) × W) (w : W)
    (hanswered : ∀ exchange ∈ program.exchanges answer w,
      ∃ reply, exchange.ending = .returned reply) :
    ∃ value, (program.run answer w).1.2 = .returned value := by
  induction program generalizing w with
  | done state value => exact ⟨value, rfl⟩
  | ask state question next ih =>
      rcases hreply : answer question w with ⟨reply | _ | text, after⟩
      · simp only [exchanges, run, hreply] at hanswered ⊢
        exact ih reply after (List.forall_mem_cons.mp hanswered).2
      · simp [exchanges, hreply] at hanswered
      · simp [exchanges, hreply] at hanswered

end Program

namespace Action

variable {I : Interface} {ε ε' σ α β : Type}
variable {ends : (question : I.Question) → I.Answer question → Prop}
variable {fits : (question : I.Question) → I.Answer question → Except ε α → Prop}
variable {lasts : (question : I.Question) → I.Answer question → Except ε' β → Prop}

/-- The same of a step, from wherever it is taken. -/
def EndsOn (ends : (question : I.Question) → I.Answer question → Prop)
    (fits : (question : I.Question) → I.Answer question → Except ε α → Prop)
    (step : Action I ε σ α) : Prop :=
  ∀ state, (step state).EndsOn ends fits

theorem EndsOn.pure (value : α) : EndsOn ends fits (pure value : Action I ε σ α) :=
  fun _ => trivial

theorem EndsOn.throw (error : ε) : EndsOn ends fits (throw error : Action I ε σ α) :=
  fun _ => trivial

theorem EndsOn.get {fits : (question : I.Question) → I.Answer question → Except ε σ → Prop} :
    EndsOn ends fits (get : Action I ε σ σ) := fun _ => trivial

theorem EndsOn.set {fits : (question : I.Question) → I.Answer question → Except ε PUnit → Prop}
    (state : σ) : EndsOn ends fits (set state : Action I ε σ PUnit) := fun _ => trivial

theorem EndsOn.modifyGet (change : σ → α × σ) :
    EndsOn ends fits (modifyGet change : Action I ε σ α) := fun _ => trivial

theorem EndsOn.ofExcept (result : Except ε α) :
    EndsOn ends fits (ofExcept result : Action I ε σ α) := fun _ => trivial

/-- A step that fails where the first one does, with the same error, and goes on from any value that
fits to an end that fits as well. -/
theorem EndsOn.bind {lasts : (question : I.Question) → I.Answer question → Except ε β → Prop}
    {first : Action I ε σ α} {next : α → Action I ε σ β} (hfirst : EndsOn ends fits first)
    (hnext : ∀ value, EndsOn ends lasts (next value))
    (herror : ∀ question answer error, fits question answer (.error error) →
      lasts question answer (.error error))
    (hok : ∀ question answer value state, fits question answer (.ok value) →
      ∃ last, lasts question answer last ∧ next value state = .done state last) :
    EndsOn ends lasts (first >>= next) := by
  intro state
  apply (hfirst state).bind
  · rintro state (error | value)
    · exact trivial
    · exact hnext value state
  · rintro question answer state (error | value) - hfits
    · exact ⟨.error error, herror question answer error hfits, rfl⟩
    · exact hok question answer value state hfits

/-- A step that begins with one that no answer ends. -/
theorem EndsOn.after {lasts : (question : I.Question) → I.Answer question → Except ε β → Prop}
    {first : Action I ε σ α} {next : α → Action I ε σ β}
    (hfirst : EndsOn ends (fun _ _ _ => False) first)
    (hnext : ∀ value, EndsOn ends lasts (next value)) : EndsOn ends lasts (first >>= next) :=
  hfirst.bind hnext (fun _ _ _ hnone => hnone.elim) fun _ _ _ _ hnone => hnone.elim

theorem EndsOn.ask {question : I.Question} {next : I.Answer question → Action I ε' σ β}
    (hnext : ∀ answer, EndsOn ends lasts (next answer))
    (hends : ∀ answer state, ends question answer →
      ∃ last, lasts question answer last ∧ next answer state = .done state last) :
    EndsOn ends lasts (Action.ask question >>= next) :=
  fun state answer => ⟨hnext answer state, hends answer state⟩

/-- A step that handles the failures of the first one itself. -/
theorem EndsOn.attempt {first : Action I ε σ α} {next : Except ε α → Action I ε' σ β}
    (hfirst : EndsOn ends fits first) (hnext : ∀ result, EndsOn ends lasts (next result))
    (hends : ∀ question answer result state, fits question answer result →
      ∃ last, lasts question answer last ∧ next result state = .done state last) :
    EndsOn ends lasts (Action.attempt first >>= next) := by
  have hresult : EndsOn ends
      (fun question answer (handed : Except ε' (Except ε α)) =>
        ∃ result, handed = .ok result ∧ fits question answer result)
      (Action.attempt first : Action I ε' σ (Except ε α)) := fun state =>
    (hfirst state).bind (fun _ _ => trivial) fun _ _ _ result _ hfits =>
      ⟨.ok result, ⟨result, rfl, hfits⟩, rfl⟩
  apply hresult.bind hnext
  · rintro question answer error ⟨result, ⟨⟩, -⟩
  · rintro question answer result state ⟨_, ⟨⟩, hfits⟩
    exact hends question answer result state hfits

end Action

end Reconciler
