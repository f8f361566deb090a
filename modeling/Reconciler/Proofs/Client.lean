import Reconciler.Http.Client
import Reconciler.Proofs.Environment

/-!
# Steps of an HTTP client among their surroundings

What getting a token, sending a request and reading its response ensure in an environment.  With
these rules a call is followed from one question to the next without opening its steps again.
-/

namespace Reconciler.Http

variable {S α : Type} {environment : Environment network S} {token : Option Token}
  {surroundings : S}

/-- A request with a token. -/
def Request.authorised (method : Method) (url : String) (document : Option Json) (token : String) :
    Request where
  method := method
  url := url
  headers := [("Authorization", "Bearer " ++ token), ("Accept", "application/json")]
  payload := document.map .json

/-- The request carries a token: it goes to the provider, not to the identity service. -/
def Request.isAuthorised (request : Request) : Bool :=
  request.headers.any (·.1 == "Authorization")

@[simp]
theorem Request.isAuthorised_authorised (method : Method) (url : String) (document : Option Json)
    (token : String) : (authorised method url document token).isAuthorised = true := rfl

@[simp]
theorem Account.isAuthorised_exchangeRequest (account : Account) (apiKey : String) :
    (account.exchangeRequest apiKey).isAuthorised = false := rfl

/-- What is read from the body of a response. -/
def decoded (read : Json.Reader α) (response : Response) : Except CloudError α :=
  ((Json.parse response.body).bind read).elim (.error (.transport .decoding)) .ok

/-- What comes of a response of the provider: itself, if it tells success. -/
def accepted (method : Method) (url : String) (response : Response) : Except CloudError Response :=
  if response.status == 404 then .error (.notFound url)
  else if !response.isSuccess then .error (.api method.word url response.status response.body)
  else .ok response

/-- What comes of a response of the identity service: the token that it grants. -/
def granted (response : Response) : Except CloudError TokenGrant :=
  if !response.isSuccess then
    .error (.auth ("token exchange returned " ++ statusLine response.status))
  else decoded TokenGrant.read response

/-- A request that no response arrives for fails, and others come to what `read` makes of it. -/
def delivered (request : Request) (read : Response → Except CloudError α) :
    Option Response → Except CloudError α
  | none => .error (.transport (.sending request.url))
  | some response => read response

theorem ensures_send {post : Option Token → Outcome (Except CloudError Response) → S → Prop}
    (request : Request) :
    (send request token).Ensures environment post surroundings ↔
      ∀ ending after, environment (.send request) ending surroundings after →
        ending.resume
          (fun delivery => post token (.returned (delivered request .ok delivery)) after)
          fun outcome => post token outcome after := by
  apply Environment.endings_congr (I := network)
  rintro ((_ | response) | _ | text) after <;> exact Iff.rfl

/-- Sending a request, and going on with what is read from the response. -/
theorem ensures_sent {post : Option Token → Outcome (Except CloudError α) → S → Prop}
    (request : Request) (read : Response → Except CloudError α) :
    ((send request >>= fun response => Action.ofExcept (read response)) token).Ensures environment
        post surroundings ↔
      ∀ ending after, environment (.send request) ending surroundings after →
        ending.resume
          (fun delivery => post token (.returned (delivered request read delivery)) after)
          fun outcome => post token outcome after := by
  apply Environment.endings_congr (I := network)
  rintro ((_ | response) | _ | text) after <;> exact Iff.rfl

theorem decode_eq (read : Json.Reader α) (response : Response) :
    decode read response = Action.ofExcept (decoded read response) := by
  unfold decode decoded
  cases (Json.parse response.body).bind read <;> rfl

namespace Account

variable {account : Account}

theorem exchange_eq (apiKey : String) :
    account.exchange apiKey =
      send (account.exchangeRequest apiKey) >>= fun response =>
      Action.ofExcept (granted response) >>= fun grant =>
      Action.ask (I := network) (.later grant.lifetime) >>= fun refreshAt =>
      set (some (Token.mk grant.accessToken refreshAt)) >>= fun _ =>
      pure grant.accessToken := by
  unfold exchange granted
  simp only [decode_eq]
  congr 1
  funext response
  cases response.isSuccess <;> rfl

/-- Gets a token, sends a request with it and goes on with what is read from the response. -/
def requesting (account : Account) (method : Method) (url : String) (document : Option Json)
    (read : Response → Except CloudError α) : Call α :=
  account.bearer >>= fun token =>
  send (.authorised method url document token) >>= fun response =>
  Action.ofExcept (read response)

theorem request_eq (method : Method) (url : String) (document : Option Json) :
    account.request method url document =
      account.requesting method url document (accepted method url) := by
  unfold request requesting accepted
  congr 1
  funext token
  congr 1
  funext response
  cases response.status == 404 <;> cases response.isSuccess <;> rfl

/-- A request for a token changes the token that is kept only where one is granted and the time to
keep it can be told. -/
theorem ensures_exchange {post : Option Token → Outcome (Except CloudError String) → S → Prop}
    (apiKey : String) :
    (account.exchange apiKey token).Ensures environment post surroundings ↔
      ∀ ending after,
        environment (.send (account.exchangeRequest apiKey)) ending surroundings after →
        ending.resume
          (fun delivery =>
            match delivered (account.exchangeRequest apiKey) granted delivery with
            | .error error => post token (.returned (.error error)) after
            | .ok grant => ∀ ending late, environment (.later grant.lifetime) ending after late →
              ending.resume
                (fun refreshAt =>
                  post (some ⟨grant.accessToken, refreshAt⟩) (.returned (.ok grant.accessToken))
                    late)
                fun outcome => post token outcome late)
          fun outcome => post token outcome after := by
  rw [exchange_eq, Action.ensures_bind, ensures_send]
  apply Environment.endings_congr (I := network)
  rintro ((_ | response) | _ | text) after
  · exact Iff.rfl
  · simp only [Outcome.resume_returned, delivered, Outcome.follow_ok, Action.ensures_bind,
      Action.ensures_ofExcept]
    cases granted response <;> exact Iff.rfl
  · exact Iff.rfl
  · exact Iff.rfl

/-- The token that is kept is used as long as the clock shows less than its time. -/
def usable (token : Option Token) (now : Nat) : Option Token := token.filter (now < ·.refreshAt)

theorem usable_eq_some_iff {now : Nat} {kept : Token} :
    usable token now = some kept ↔ token = some kept ∧ now < kept.refreshAt := by
  rw [usable, Option.filter_eq_some_iff, decide_eq_true_iff]

theorem usable_eq_none_iff {now : Nat} :
    usable token now = none ↔ ∀ kept, token = some kept → kept.refreshAt ≤ now := by
  simp [usable, Option.filter_eq_none_iff]

theorem ensures_bearer {post : Option Token → Outcome (Except CloudError String) → S → Prop} :
    (account.bearer token).Ensures environment post surroundings ↔
      ∀ ending after, environment .now ending surroundings after →
        ending.resume
          (fun now =>
            match usable token now, account.apiKey with
            | some kept, _ => post token (.returned (.ok kept.value)) after
            | none, some apiKey => (account.exchange apiKey token).Ensures environment post after
            | none, none =>
              post token (.returned (.error (.auth "no IAM API key configured"))) after)
          fun outcome => post token outcome after := by
  unfold bearer
  rw [Action.ensures_bind, Action.ensures_ask]
  apply Environment.endings_congr (I := network)
  rintro (now | _ | text) after
  · simp only [Outcome.resume_returned, Outcome.follow_ok, Action.ensures_bind, Action.ensures_get,
      usable]
    generalize Option.filter _ token = kept
    rcases kept with _ | kept
    · rcases account.apiKey with _ | apiKey <;> exact Iff.rfl
    · exact Iff.rfl
  · exact Iff.rfl
  · exact Iff.rfl

/-- What is done with the response may be read with it. -/
theorem requesting_bind {β : Type} (method : Method) (url : String) (document : Option Json)
    (read : Response → Except CloudError α) (next : α → Except CloudError β) :
    account.requesting method url document read >>= (fun value => Action.ofExcept (next value)) =
      account.requesting method url document fun response => read response >>= next := by
  unfold requesting
  simp only [Action.bind_assoc]
  congr 1
  funext token
  congr 1
  funext response
  cases read response <;> rfl

theorem get_eq (read : Json.Reader α) (url : String) :
    account.get read url =
      account.requesting .get url none fun response =>
        accepted .get url response >>= decoded read := by
  rw [← requesting_bind, ← request_eq, ← funext (decode_eq read)]
  rfl

theorem post_eq (read : Json.Reader α) (url : String) (document : Json) :
    account.post read url document =
      account.requesting .post url (some document) fun response =>
        accepted .post url response >>= decoded read := by
  rw [← requesting_bind, ← request_eq, ← funext (decode_eq read)]
  rfl

theorem delete_eq (url : String) :
    account.delete url =
      account.requesting .delete url none fun response =>
        accepted .delete url response >>= fun _ => .ok () := by
  rw [← requesting_bind, ← request_eq]
  rfl

theorem ensures_requesting {post : Option Token → Outcome (Except CloudError α) → S → Prop}
    (method : Method) (url : String) (document : Option Json)
    (read : Response → Except CloudError α) :
    (account.requesting method url document read token).Ensures environment post surroundings ↔
      (account.bearer token).Ensures environment (fun token outcome before =>
        outcome.follow
          (fun value => ∀ ending after,
            environment (.send (.authorised method url document value)) ending before after →
            ending.resume
              (fun delivery => post token (.returned (delivered
                (.authorised method url document value) read delivery)) after)
              fun outcome => post token outcome after)
          fun outcome => post token outcome before) surroundings := by
  unfold requesting
  rw [Action.ensures_bind]
  apply Program.ensures_congr
  rintro token ((error | value) | _ | text) before
  · exact Iff.rfl
  · simp only [Outcome.follow_ok, ensures_sent]
  · exact Iff.rfl
  · exact Iff.rfl

/-- Any request to the address leaves a statement about the token and the surroundings true. -/
def MaintainsAt (account : Account) (environment : Environment network S)
    (keeps : Option Token → S → Prop) (url : String) : Prop :=
  ∀ {α : Type} (method : Method) (document : Option Json) (read : Response → Except CloudError α),
    (account.requesting method url document read).Maintains environment keeps

section

variable {keeps : Option Token → S → Prop} {read : Json.Reader α} {url base : String}

theorem get_maintains (hurl : account.MaintainsAt environment keeps url) :
    (account.get read url).Maintains environment keeps := by
  rw [get_eq]
  exact hurl _ _ _

theorem post_maintains {document : Json} (hurl : account.MaintainsAt environment keeps url) :
    (account.post read url document).Maintains environment keeps := by
  rw [post_eq]
  exact hurl _ _ _

theorem delete_maintains (hurl : account.MaintainsAt environment keeps url) :
    (account.delete url).Maintains environment keeps := by
  rw [delete_eq]
  exact hurl _ _ _

theorem find_maintains (hurl : account.MaintainsAt environment keeps url) :
    (account.find read url).Maintains environment keeps := by
  refine (get_maintains hurl).attempt.bind ?_
  rintro (error | value)
  · cases error <;> exact .ofExcept _
  · exact .ofExcept _

theorem resolveImage_maintains {name : String}
    (hurl : account.MaintainsAt environment keeps (versioned base ("/images?name=" ++ name))) :
    (account.resolveImage base name).Maintains environment keeps := by
  refine (get_maintains hurl).bind fun ids => ?_
  cases ids.head? <;> exact .ofExcept _

theorem prototypeImage_maintains {prototype : InstancePrototype}
    (hurl : ∀ name, prototype.imageName = some name →
      account.MaintainsAt environment keeps (versioned base ("/images?name=" ++ name))) :
    (account.prototypeImage base prototype).Maintains environment keeps := by
  unfold prototypeImage
  split
  · exact .ofExcept (.ok _)
  · next name _ hname => exact resolveImage_maintains (hurl name hname)
  · exact .ofExcept (.error _)

theorem findLoadBalancer_maintains (hall : ∀ url, account.MaintainsAt environment keeps url)
    (name : String) (pages : Nat) (url : String) :
    (account.findLoadBalancer name pages url).Maintains environment keeps := by
  induction pages generalizing url with
  | zero => exact .ofExcept (.error _)
  | succ pages ih =>
      refine (get_maintains (hall url)).bind fun page => ?_
      split
      · exact .ofExcept (.ok _)
      · exact ih _
      · exact .ofExcept (.ok _)

end

end Account

namespace Provider

variable {provider : Provider} {keeps : Option Token → S → Prop}

open Account

theorem vpc_maintains (hall : ∀ url, provider.MaintainsAt environment keeps url) (pages : Nat)
    (region : Option String) (call : VpcCall) :
    (provider.vpc pages region call).Maintains environment keeps := by
  cases call with
  | getInstance id => exact find_maintains (hall _)
  | getInstanceByName name => exact (get_maintains (hall _)).bind fun _ => .ofExcept (.ok _)
  | createInstance prototype =>
      exact (prototypeImage_maintains fun _ _ => hall _).bind fun _ => post_maintains (hall _)
  | deleteInstance id => exact delete_maintains (hall _)
  | tagResource tag crn => exact post_maintains (hall _)
  | getLoadBalancer id => exact find_maintains (hall _)
  | getLoadBalancerByName name => exact findLoadBalancer_maintains hall name pages _
  | listMembers loadBalancer pool => exact get_maintains (hall _)
  | createMember loadBalancer pool address port weight => exact post_maintains (hall _)
  | deleteMember loadBalancer pool member => exact delete_maintains (hall _)

theorem workspace_maintains (hall : ∀ url, provider.MaintainsAt environment keeps url)
    (target : WorkspaceTarget) (call : WorkspaceCall) :
    (provider.workspace target call).Maintains environment keeps := by
  cases call with
  | createImportJob request => exact post_maintains (hall _)
  | getJob id => exact get_maintains (hall _)
  | deleteJob id => exact delete_maintains (hall _)
  | getAllImages => exact (get_maintains (hall _)).bind fun _ => .ofExcept (.ok _)
  | getImage id => exact get_maintains (hall _)
  | deleteImage id => exact delete_maintains (hall _)

/-- What all requests leave true, whatever their address, every call leaves true. -/
theorem call_maintains (hall : ∀ url, provider.MaintainsAt environment keeps url) (pages : Nat)
    (managed : Managed) (target : managed.Target) (call : managed.Call) :
    (provider.call pages managed target call).Maintains environment keeps := by
  cases managed with
  | machine => exact vpc_maintains hall pages target call
  | image => exact workspace_maintains hall target call

end Provider

end Reconciler.Http
