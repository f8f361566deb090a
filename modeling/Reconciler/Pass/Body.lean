import Reconciler.Event
import Reconciler.Scope
import Reconciler.Settings

/-!
# The body of a pass

A body changes the working copy of its object.  It asks the provider, reads secrets and publishes
events; what it leaves in the working copy is written when the scope is closed.
-/

namespace Reconciler

open Time

/-- What the body of a pass asks for. -/
inductive BodyQuestion (managed : Managed) where
  | cloud (call : managed.Call)
  | secret («namespace» name : String)
  | publish (event : Event) (regarding : ObjectReference)

abbrev BodyQuestion.Answer {managed : Managed} : BodyQuestion managed → Type
  | .cloud call => Except CloudError (managed.Reply call)
  | .secret .. => Except Error (Option Secret)
  | .publish .. => Except Error Unit

/-- What bodies of passes over a managed kind may ask. -/
abbrev outside (managed : Managed) : Interface := ⟨BodyQuestion managed, BodyQuestion.Answer⟩

/-- A step of the body of a pass over a managed kind, whatever its state. -/
abbrev Step (managed : Managed) (σ α : Type) := Action (outside managed) Error σ α

/-- A step on the working copy of the object. -/
abbrev Body (managed : Managed) (α : Type) := Step managed managed.Resource α

/-- What a pass is given beside its object. -/
structure Surroundings (managed : Managed) where
  cluster : Option managed.Cluster
  settings : Settings
  now : Instant

namespace Body

variable {σ : Type}

/-- Makes a provider call and hands over its result. -/
def attempt (managed : Managed) (call : managed.Call) :
    Step managed σ (Except CloudError (managed.Reply call)) :=
  Action.ask (I := outside managed) (.cloud call)

/-- Makes a provider call. -/
def call (managed : Managed) (call : managed.Call) : Step managed σ (managed.Reply call) := do
  Action.ofExcept ((← attempt managed call).mapError .cloud)

/-- Makes a provider call; a failure says what it was for. -/
def callFor (managed : Managed) (purpose : String) (call : managed.Call) :
    Step managed σ (managed.Reply call) := do
  Action.ofExcept ((← attempt managed call).mapError fun error => .context purpose (.cloud error))

/-- Makes a call that removes something.  It is done also when there was nothing to remove. -/
def remove (managed : Managed) (purpose : String) (call : managed.Call) :
    Step managed σ Unit := do
  match ← attempt managed call with
  | .ok _ => return
  | .error error =>
    if error.isNotFound then return else throw (.context purpose (.cloud error))

variable {managed : Managed}

/-- Publishes an event about the object.  A failure to do so does not matter. -/
def publish (event : Event) : Body managed Unit := do
  let regarding := ObjectReference.of managed.kind (← get).metadata
  let _ ← Action.ask (I := outside managed) (.publish event regarding)

/-- Makes sure that the object carries its marks of ownership.  The answer says whether the
finalizer or the owner had to be added, in which case the object is to be written before anything
else. -/
def takeOwnership (cluster : Option managed.Cluster) : Body managed Bool := do
  if ← modifyGet (fun object => let (object, added) := managed.addFinalizer object; (added, object))
  then return true
  modify fun object => (managed.ensureClusterLabel cluster object).1
  if ← Action.ofExcept (managed.shouldAdopt cluster (← get)) then
    let (object, _) ← Action.ofExcept (managed.adopt cluster (← get))
    set object
    return true
  return false

end Body

end Reconciler
