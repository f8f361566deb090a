import Reconciler.Proofs.Client

/-!
# The requests of calls over HTTP

A call sends its requests to the provider one after the other.  Requests for tokens come in between;
they go to the identity service.  Here a call is seen from the provider: which requests it gets, in
their order, and what it replies.
-/

namespace Reconciler.Http

/-- A request to the provider, and how sending it ended. -/
structure Dispatch where
  request : Request
  ending : Outcome (Option Response)

/-- The request to the provider that is sent in an exchange, if one is. -/
def dispatch? : Exchange network → Option Dispatch
  | ⟨.send request, ending⟩ => if request.isAuthorised then some ⟨request, ending⟩ else none
  | _ => none

/-- The requests to the provider, in their order. -/
def dispatches (seen : List (Exchange network)) : List Dispatch := seen.filterMap dispatch?

theorem dispatches_append (seen rest : List (Exchange network)) :
    dispatches (seen ++ rest) = dispatches seen ++ dispatches rest := List.filterMap_append

/-- Surroundings in which requests to the provider are put on record. -/
abbrev dispatching : Environment network (List Dispatch) :=
  .folding fun sent exchange => sent ++ (dispatch? exchange).toList

theorem foldl_dispatch (sent : List Dispatch) (seen : List (Exchange network)) :
    seen.foldl (fun sent exchange => sent ++ (dispatch? exchange).toList) sent =
      sent ++ dispatches seen := by
  induction seen generalizing sent with
  | nil => simp [dispatches]
  | cons exchange rest ih =>
      rw [List.foldl_cons, ih]
      cases hexchange : dispatch? exchange <;> simp [dispatches, hexchange]

/-- What is ensured of the requests to the provider holds of those in a run in any world. -/
theorem ensures_dispatches {α σ W : Type} {post : σ → Outcome α → List Dispatch → Prop}
    {program : Program network σ α} (hensures : program.Ensures dispatching post [])
    (answer : (question : Question) → W → Outcome question.Answer × W) (world : W) :
    post (program.run (I := network) answer world).1.1 (program.run (I := network) answer world).1.2
      (dispatches (program.exchanges (I := network) answer world)) := by
  have hended := hensures.exchanges answer world
  rwa [foldl_dispatch, List.nil_append] at hended

namespace Dispatch

variable {α : Type}

def url (dispatch : Dispatch) : String := dispatch.request.url

/-- What comes of the request when its response is read so. -/
def outcome (read : Response → Except CloudError α) (dispatch : Dispatch) :
    Outcome (Except CloudError α) :=
  match dispatch.ending with
  | .returned delivery => .returned (delivered dispatch.request read delivery)
  | .expired => .expired
  | .panicked text => .panicked text

end Dispatch

namespace Account

variable {account : Account} {α : Type}

theorem exchange_sends_nothing (apiKey : String) (token : Option Token) (sent : List Dispatch) :
    (account.exchange apiKey token).Ensures dispatching (fun _ _ after => after = sent) sent := by
  rw [ensures_exchange]
  rintro (delivery | _ | text) _ rfl
  · rw [Outcome.resume_returned]
    rcases delivered (account.exchangeRequest apiKey) granted delivery with error | grant
    · simp [dispatch?]
    · rintro (refreshAt | _ | text) _ rfl <;> simp [dispatch?]
  · simp [dispatch?]
  · simp [dispatch?]

/-- Getting a token sends nothing to the provider. -/
theorem bearer_sends_nothing (token : Option Token) (sent : List Dispatch) :
    (account.bearer token).Ensures dispatching (fun _ _ after => after = sent) sent := by
  rw [ensures_bearer]
  rintro (now | _ | text) _ rfl
  · simp only [Outcome.resume_returned, dispatch?, Option.toList_none, List.append_nil]
    rcases usable token now with _ | kept
    · rcases account.apiKey with _ | apiKey
      · trivial
      · exact exchange_sends_nothing apiKey token sent
    · trivial
  · simp [dispatch?]
  · simp [dispatch?]

/-- A request goes out at most once, and it comes of it what is read from its response. -/
theorem requesting_dispatches (method : Method) (url : String) (document : Option Json)
    (read : Response → Except CloudError α) (token : Option Token) (sent : List Dispatch) :
    (account.requesting method url document read token).Ensures dispatching
      (fun _ outcome after =>
        after = sent ∧ ¬outcome.Succeeded ∨
          ∃ dispatch : Dispatch, dispatch.url = url ∧ outcome = dispatch.outcome read ∧
            after = sent ++ [dispatch]) sent := by
  rw [ensures_requesting]
  refine (bearer_sends_nothing token sent).mono ?_
  rintro token ((error | value) | _ | text) _ rfl
  · exact .inl ⟨rfl, id⟩
  · rintro ending _ rfl
    rcases ending with delivery | _ | text <;>
      exact .inr ⟨⟨.authorised method url document value, _⟩, rfl, rfl, rfl⟩
  · exact .inl ⟨rfl, id⟩
  · exact .inl ⟨rfl, id⟩

theorem get_dispatches (account : Account) (read : Json.Reader α) (url : String)
    (token : Option Token) (sent : List Dispatch) :
    (account.get read url token).Ensures dispatching
      (fun _ outcome after =>
        after = sent ∧ ¬outcome.Succeeded ∨
          ∃ dispatch : Dispatch, dispatch.url = url ∧
            outcome = dispatch.outcome
              (fun response => accepted .get url response >>= decoded read) ∧
            after = sent ++ [dispatch]) sent := by
  rw [get_eq]
  exact requesting_dispatches .get url none _ token sent

end Account

/-- The provider was sent nothing but requests to addresses of a kind. -/
def SentTo (holds : String → Prop) (_ : Option Token) (sent : List Dispatch) : Prop :=
  ∀ dispatch ∈ sent, holds dispatch.url

theorem Account.maintainsAt_sentTo {account : Account} {holds : String → Prop} {url : String}
    (hurl : holds url) : account.MaintainsAt dispatching (SentTo holds) url := by
  intro α method document read token sent hsent
  refine (requesting_dispatches method url document read token sent).mono ?_
  rintro token outcome after (⟨rfl, -⟩ | ⟨dispatch, rfl, -, rfl⟩)
  · exact hsent
  · rw [SentTo, List.forall_mem_append, List.forall_mem_singleton]
    exact ⟨hsent, hurl⟩

end Reconciler.Http
