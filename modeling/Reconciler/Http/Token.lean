import Reconciler.Http.Exchange

/-!
# Bearer tokens

The identity service gives tokens in exchange for an API key.  A token serves until a minute before
it expires.
-/

namespace Reconciler.Http

open Json FieldReader

/-- Whose resources a client works on, and where it gets its tokens. -/
structure Account where
  identityEndpoint : String
  apiKey : Option String
deriving DecidableEq, Inhabited

/-- The identity service's address without slashes at its end. -/
def Account.identityBase (account : Account) : String :=
  String.ofList (account.identityEndpoint.toList.reverse.dropWhile (· == '/')).reverse

/-- The request that exchanges an API key for a token. -/
def Account.exchangeRequest (account : Account) (apiKey : String) : Request where
  method := .post
  url := account.identityBase ++ "/identity/token"
  headers := []
  payload := some <| .form
    [("grant_type", "urn:ibm:params:oauth:grant-type:apikey"), ("apikey", apiKey)]

/-- A token and the seconds until it expires. -/
structure TokenGrant where
  accessToken : String
  expiresIn : Nat
deriving DecidableEq, Inhabited

def TokenGrant.read : Reader TokenGrant := record do
  return {
    accessToken := ← required "access_token" Reader.text
    expiresIn := ← required "expires_in" Reader.uint64 }

/-- How many seconds a token may be used. -/
def TokenGrant.lifetime (grant : TokenGrant) : Nat := grant.expiresIn - 60

/-- Gets a token for an API key. -/
def Account.exchange (account : Account) (apiKey : String) : Call String := do
  let response ← send (account.exchangeRequest apiKey)
  if !response.isSuccess then
    throw (.auth ("token exchange returned " ++ statusLine response.status))
  let grant ← decode TokenGrant.read response
  let refreshAt ← Action.ask (I := network) (.later grant.lifetime)
  set (some (Token.mk grant.accessToken refreshAt))
  return grant.accessToken

/-- The token at hand while it is good, or else a new one. -/
def Account.bearer (account : Account) : Call String := do
  let now ← Action.ask (I := network) .now
  match (← get).filter (now < ·.refreshAt) with
  | some token => return token.value
  | none =>
    match account.apiKey with
    | some apiKey => account.exchange apiKey
    | none => throw (.auth "no IAM API key configured")

/-- Sends an authorised request.  Anything but success is an error. -/
def Account.request (account : Account) (method : Method) (url : String)
    (document : Option Json) : Call Response := do
  let token ← account.bearer
  let response ← send
    { method, url
      headers := [("Authorization", "Bearer " ++ token), ("Accept", "application/json")]
      payload := document.map .json }
  if response.status == 404 then throw (.notFound url)
  if !response.isSuccess then throw (.api method.word url response.status response.body)
  return response

def Account.get (account : Account) (read : Reader α) (url : String) : Call α := do
  decode read (← account.request .get url none)

/-- Gets something that need not be there. -/
def Account.find (account : Account) (read : Reader α) (url : String) : Call (Option α) := do
  match ← Action.attempt (account.get read url) with
  | .ok value => return some value
  | .error (.notFound _) => return none
  | .error error => throw error

def Account.post (account : Account) (read : Reader α) (url : String) (document : Json) :
    Call α := do
  decode read (← account.request .post url (some document))

def Account.delete (account : Account) (url : String) : Call Unit := do
  let _ ← account.request .delete url none

end Reconciler.Http
