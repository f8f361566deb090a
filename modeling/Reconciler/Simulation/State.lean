import Reconciler.Controller
import Reconciler.Http.Client
import Reconciler.Simulation.Address
import Reconciler.Simulation.Script
import Reconciler.Simulation.Store

/-!
# A simulated world

The API server is a store in memory with scripted faults, the provider gives scripted answers or is
called over a scripted network, and time passes only while a scripted answer is waited for.
Everything that is asked is written down.
-/

namespace Reconciler.Simulation

open Time

/-- What is done with the API server. -/
inductive Verb where
  | get
  | replace
  | replaceStatus
  | publish
deriving DecidableEq, Inhabited

/-- Something that goes wrong at the first access it fits. -/
structure Fault where
  verb : Verb
  kind : Option Kind
  /-- How many accesses it lets pass first. -/
  skip : Nat
  /-- The object is removed. -/
  remove : Bool
  /-- The object is changed by another writer. -/
  patch : Option Json
  /-- The access fails. -/
  failure : Option ApiError
deriving Inhabited

/-- A fault is about an access. -/
def Fault.fits (verb : Verb) (kind : Kind) (fault : Fault) : Bool :=
  fault.verb == verb && fault.kind.all (· == kind)

/-- The fault that strikes at an access, if one does, and the faults that are left.  Only the first
fault that fits counts. -/
def strike (verb : Verb) (kind : Kind) : List Fault → Option Fault × List Fault
  | [] => (none, [])
  | fault :: rest =>
    if fault.fits verb kind then
      if fault.skip > 0 then (none, { fault with skip := fault.skip - 1 } :: rest)
      else (some fault, rest)
    else
      let (struck, rest) := strike verb kind rest
      (struck, fault :: rest)

/-- Something that was asked of the world. -/
inductive Entry where
  | called (managed : Managed) (call : managed.Call)
  | requested (request : Http.Request)
  | fetched (kind : Kind) (key : String)
  | written (verb : Verb) (kind : Kind) (key : String) (version : Option String)
  | connected (managed : Managed) (target : managed.Target)
  | published (event : Event) (regarding : ObjectReference)

/-- A response of the scripted network; `none` stands for a broken connection. -/
abbrev Delivery := Option Http.Response

/-- Who answers provider calls. -/
inductive Backend where
  | script (script : Script)
  | network (provider : Http.Provider) (token : Option Http.Token) (deliveries : List Delivery)

/-- The state of a simulated world. -/
structure State where
  /-- Milliseconds since the beginning. -/
  clock : Nat := 0
  now : Instant
  store : Store := .empty
  faults : List Fault := []
  backend : Backend
  /-- What was asked, the latest first. -/
  trace : List Entry := []

namespace State

def note (entry : Entry) (state : State) : State := { state with trace := entry :: state.trace }

/-- Lets the fault that fits an access strike.  The answer is how the access fails, if it does. -/
def interfere (verb : Verb) (kind : Kind) (key : String) (state : State) :
    Option ApiError × State :=
  match strike verb kind state.faults with
  | (none, faults) => (none, { state with faults })
  | (some fault, faults) =>
    let store := if fault.remove then state.store.remove kind key else state.store
    let store := fault.patch.elim store fun change => (store.patch kind key change).2
    (fault.failure, { state with faults, store })

/-- A refusal that only says that there is no such object. -/
def saysAbsent : ApiError → Bool
  | .refused status => status.reason == "NotFound"
  | .unreadable => false

/-- Reads the object under a key. -/
def fetchAt (kind : Kind) (key : String) (state : State) :
    Except Error (Option (Resource kind)) × State :=
  match (state.note (.fetched kind key)).interfere .get kind key with
  | (none, state) => (.ok (state.store.get? kind key), state)
  | (some error, state) => (if saysAbsent error then .ok none else .error (.api error), state)

/-- Reads an object.  What can only be asked for in vain is not there. -/
def fetch (kind : Kind) («namespace» name : String) (state : State) :
    Except Error (Option (Resource kind)) × State :=
  match Address.read? kind «namespace» name with
  | none => (.error (.api .unreadable), state)
  | some (.object «namespace» name) => state.fetchAt kind («namespace» ++ "/" ++ name)
  | some _ => (.ok none, state)

/-- Writes an object under a key in the way that goes with a verb. -/
def writeAt (verb : Verb) (kind : Kind) (key : String) (object : Resource kind) (state : State) :
    Except Error (Resource kind) × State :=
  let entry := Entry.written verb kind key object.metadata.resourceVersion
  match (state.note entry).interfere verb kind key with
  | (some error, state) => (.error (.api error), state)
  | (none, state) =>
    let apply := if verb == .replaceStatus then Store.replaceStatus kind else Store.replace kind
    let (result, store) := apply key object state.store
    (result.mapError fun status => .api (.refused status), { state with store })

/-- Writes an object, or its status alone, to where its name leads. -/
def write (kind : Kind) (status : Bool) (object : Resource kind) (state : State) :
    Except Error (Resource kind) × State :=
  match Address.write? kind status object.metadata.namespaceAny object.metadata.nameAny with
  | none => (.error (.api .unreadable), state)
  | some (.object «namespace» name) =>
    state.writeAt .replace kind («namespace» ++ "/" ++ name) object
  | some (.status «namespace» name) =>
    state.writeAt .replaceStatus kind («namespace» ++ "/" ++ name) object
  | some _ => (.error (.api (.refused .notFound)), state)

/-- Publishes an event. -/
def publish (event : Event) (regarding : ObjectReference) (kind : Kind) (state : State) :
    Except Error Unit × State :=
  match Address.publish? regarding.namespace with
  | none => (.error (.api .unreadable), state)
  | some .events =>
    let key := regarding.namespace.getD "" ++ "/" ++ regarding.name.getD ""
    match (state.note (.published event regarding)).interfere .publish kind key with
    | (some error, state) => (.error (.api error), state)
    | (none, state) => (.ok (), state)
  | some _ => (.error (.api (.refused .notFound)), state)

/-- Answers about stored objects. -/
def access (managed : Managed) (question : AccessQuestion managed) (state : State) :
    question.Answer × State :=
  match question with
  | .fetch «namespace» name => state.fetch managed.kind «namespace» name
  | .fetchCluster «namespace» name => state.fetch managed.clusterKind «namespace» name
  | .connect target => ((), state.note (.connected managed target))
  | .replace object => state.write managed.kind false object
  | .replaceStatus object => state.write managed.kind true object

/-- Takes the next response from the network. -/
def deliver (request : Http.Request) (state : State) : Delivery × State :=
  let state := state.note (.requested request)
  match state.backend with
  | .network provider token (delivery :: deliveries) =>
    (delivery, { state with backend := .network provider token deliveries })
  | _ => (none, state)

/-- Answers a client of the network. -/
def network (question : Http.Question) (state : State) : Outcome question.Answer × State :=
  match question with
  | .now => (.returned state.clock, state)
  | .later seconds =>
    if seconds < Settings.clockReach then (.returned (state.clock + seconds * 1000), state)
    else (.panicked "overflow when adding duration to instant", state)
  | .send request =>
    let (delivery, state) := state.deliver request
    (.returned delivery, state)

/-- Remembers the token that a client was left with. -/
def keepToken (token : Option Http.Token) (state : State) : State :=
  match state.backend with
  | .network provider _ deliveries =>
    { state with backend := .network provider token deliveries }
  | .script _ => state

/-- Waits for a scripted answer, but not beyond the deadline. -/
def await (deadline : Option Nat) (answer : Answer α) (state : State) :
    Outcome (Except CloudError α) × State :=
  let arrival := state.clock + answer.delay
  let late : Option Nat :=
    deadline.filter fun deadline => deadline < arrival || answer.ending matches .never
  match late, answer.ending with
  | some deadline, _ => (.expired, { state with clock := deadline })
  | none, .returned value => (.returned (.ok value), { state with clock := arrival })
  | none, .failed error => (.returned (.error error), { state with clock := arrival })
  | none, .never => (.expired, { state with clock := arrival })
  | none, .panicked text => (.panicked text, { state with clock := arrival })

/-- Makes a provider call.  A call over the network takes no time. -/
def call (managed : Managed) (target : managed.Target) (deadline : Option Nat)
    (call : managed.Call) (state : State) :
    Outcome (Except CloudError (managed.Reply call)) × State :=
  match state.backend with
  | .script script =>
    let method := Method.ofCall managed call
    let (answer, script) := script.next method
    let state := { state.note (.called managed call) with backend := .script script }
    state.await deadline (Method.reply_ofCall managed call ▸ answer)
  | .network provider token deliveries =>
    let client := provider.call (deliveries.length + 1) managed target call
    let ((token, result), state) := (client token).run network state
    (result, state.keepToken token)

/-- A request to the API server that can be sent, but not before the deadline.  It is given up
before it begins. -/
def isLate (deadline : Option Nat) (addressee : Option Addressee) (state : State) : Bool :=
  addressee.isSome && deadline.any (· ≤ state.clock)

/-- Answers the body of a pass. -/
def outside (managed : Managed) (target : managed.Target) (deadline : Option Nat)
    (question : BodyQuestion managed) (state : State) : Outcome question.Answer × State :=
  match question with
  | .cloud call => state.call managed target deadline call
  | .secret «namespace» name =>
    if state.isLate deadline (Address.read? .secret «namespace» name) then (.expired, state)
    else
      let (result, state) := state.fetch .secret «namespace» name
      (.returned result, state)
  | .publish event regarding =>
    if state.isLate deadline (Address.publish? regarding.namespace) then (.expired, state)
    else
      let (result, state) := state.publish event regarding managed.kind
      (.returned result, state)

end State

/-- The simulated world. -/
def world : World State where
  access := State.access
  outside := State.outside
  clock := State.clock
  now := State.now

end Reconciler.Simulation
