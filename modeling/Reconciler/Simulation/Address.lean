import Reconciler.Resource.Kind

/-!
# Addresses on the API server

Requests reach the API server under an address that is put together from namespace and name as they
stand.  An address with characters that no address may hold is never sent; a question mark or a
number sign ends the part that says what the request is about.
-/

namespace Reconciler.Simulation

/-- What a request is about. -/
inductive Addressee where
  | object («namespace» name : String)
  | status («namespace» name : String)
  | events
  | nothing
deriving DecidableEq, Inhabited

namespace Address

/-- The address of the namespaces that hold objects of a kind. -/
def namespaces (kind : Kind) : String :=
  (if kind == .secret then "/api/" else "/apis/") ++ kind.apiVersion ++ "/namespaces"

/-- The address of an object. -/
def object (kind : Kind) («namespace» name : String) : String :=
  namespaces kind ++ "/" ++ «namespace» ++ "/" ++ kind.plural ++ "/" ++ name

/-- The address of the namespaces that hold events. -/
def eventNamespaces : String := "/apis/events.k8s.io/v1/namespaces"

/-- The address of the events about objects in a namespace.  An object without a namespace has its
events where the system's own are. -/
def events («namespace» : Option String) : String :=
  eventNamespaces ++ "/" ++ «namespace».getD "kube-system" ++ "/events"

/-- A character of the path. -/
def isPathChar (c : Char) : Bool :=
  c.toNat ≥ 0x80 || ('!' ≤ c && c ≤ '~' && !"#<>?`".contains c)

/-- A character of the query. -/
def isQueryChar (c : Char) : Bool :=
  c.toNat ≥ 0x80 || ('!' ≤ c && c ≤ '~' && !"\"#<>".contains c)

/-- How many bytes an address may have. -/
def maxLength : Nat := 65534

/-- The path of an address, if it can be sent. -/
def path? (address : String) : Option String :=
  let sent := address.toList.takeWhile (· != '#')
  let path := sent.takeWhile (· != '?')
  let query := sent.drop (path.length + 1)
  if address.utf8ByteSize ≤ maxLength && path.all isPathChar && query.all isQueryChar then
    some (String.ofList path)
  else none

/-- The steps of a path below another one. -/
def stepsBelow? (base path : String) : Option (List String) :=
  let steps := path.splitOn "/"
  let base := base.splitOn "/"
  if base.isPrefixOf steps then some (steps.drop base.length) else none

/-- What a path is about, for a request that means objects of a kind. -/
def addressee (kind : Kind) (path : String) : Addressee :=
  match stepsBelow? (namespaces kind) path with
  | some [«namespace», plural, name] =>
    if plural == kind.plural then .object «namespace» name else .nothing
  | some [«namespace», plural, name, "status"] =>
    if plural == kind.plural then .status «namespace» name else .nothing
  | _ => .nothing

/-- What a request that reads an object is about, if it can be sent. -/
def read? (kind : Kind) («namespace» name : String) : Option Addressee :=
  if name.isEmpty then none
  else (path? (object kind «namespace» name)).map (addressee kind)

/-- What a request that writes an object, or its status alone, is about, if it can be sent. -/
def write? (kind : Kind) (status : Bool) («namespace» name : String) : Option Addressee :=
  if name.isEmpty then none
  else
    let address := object kind «namespace» name ++ (if status then "/status" else "") ++ "?"
    (path? address).map (addressee kind)

/-- What a request that publishes an event is about, if it can be sent. -/
def publish? («namespace» : Option String) : Option Addressee :=
  (path? (events «namespace» ++ "?")).map fun path =>
    match stepsBelow? eventNamespaces path with
    | some [_, "events"] => .events
    | _ => .nothing

end Address

end Reconciler.Simulation
