import Reconciler.Metrics
import Reconciler.Pass.Image
import Reconciler.Pass.Machine

/-!
# Passes

A pass fetches its object, opens a scope, runs the body that fits the object under a deadline, and
closes the scope whatever became of the body.  A pass that failed is tried again after a while.
-/

namespace Reconciler

open Time

/-- The world around passes: how it answers, and what its clocks show. -/
structure World (W : Type) where
  access : (managed : Managed) → (question : AccessQuestion managed) → W → question.Answer × W
  /-- Answers a question of a body that calls a target, up to a reading of the clock, if there is
  one. -/
  outside : (managed : Managed) → managed.Target → Option Nat →
    (question : BodyQuestion managed) → W → Outcome question.Answer × W
  /-- Milliseconds on a clock that never goes back. -/
  clock : W → Nat
  /-- The time of day. -/
  now : W → Instant

namespace Managed

/-- The body of the pass that an object needs. -/
def body (managed : Managed) (surroundings : Surroundings managed) (object : managed.Resource) :
    Body managed Requeue :=
  match managed, surroundings, object with
  | .machine, surroundings, object =>
    if object.metadata.isDeleting then Machine.reconcileDelete surroundings
    else Machine.reconcileNormal surroundings
  | .image, surroundings, object =>
    if object.metadata.isDeleting then Image.reconcileDelete surroundings
    else Image.reconcileNormal surroundings

end Managed

namespace World

variable {W : Type} {managed : Managed} {α : Type}

/-- What the scope holds after a body, and how the body ended. -/
def runBody (world : World W) (deadline : Option Nat) (body : Body managed α)
    (scope : Scope managed) (w : W) : (Scope managed × Except Error α) × W :=
  match (body scope.object).run (world.outside managed scope.target deadline) w with
  | ((object, .returned result), w) => (({ scope with object }, result), w)
  | ((object, .expired), w) => (({ scope with object }, .error .deadlineExceeded), w)
  | ((object, .panicked text), w) => (({ scope with object }, .error (.panicked text)), w)

/-- Opens the scope of an object. -/
def openScope (world : World W) (object : managed.Resource) (w : W) :
    Except Error (Scope managed) × W :=
  match (Scope.enter object ()).eval (world.access managed) w with
  | ((_, result), w) => (result, w)

/-- Closes a scope, which then holds what is stored. -/
def closeScope (world : World W) (retries : Nat) (scope : Scope managed) (w : W) :
    (Scope managed × Except Error Unit) × W :=
  (Scope.close retries scope).eval (world.access managed) w

/-- Runs a body under the deadline of a pass and closes the scope in any case.  The error of the
body counts before one of closing. -/
def guarded (world : World W) (settings : Settings) (body : Body managed Requeue)
    (scope : Scope managed) (w : W) : Except Error Requeue × W :=
  let deadline := world.clock w + settings.bodyLimit
  match world.runBody (some deadline) body scope w with
  | ((scope, result), w) =>
    match world.closeScope settings.closeRetries scope w with
    | ((_, .error error), w) => (result.bind fun _ => .error error, w)
    | ((_, .ok ()), w) => (result, w)

/-- A pass over the object of a name, if it is there. -/
def pass (world : World W) (managed : Managed) (settings : Settings) («namespace» name : String)
    (w : W) : Except Error Requeue × W :=
  match world.access managed (.fetch «namespace» name) w with
  | (.error error, w) => (.error error, w)
  | (.ok none, w) => (.ok .none, w)
  | (.ok (some object), w) =>
    match world.openScope object w with
    | (.error error, w) => (.error error, w)
    | (.ok scope, w) =>
      let surroundings : Surroundings managed := ⟨scope.cluster, settings, world.now w⟩
      world.guarded settings (managed.body surroundings object) scope w

end World

/-- What the controller tells about itself. -/
structure Manager where
  /-- When a pass last began. -/
  lastEvent : Instant
  metrics : Metrics := {}
deriving DecidableEq, Inhabited

namespace Manager

variable {W : Type}

/-- Runs a pass and measures it. -/
def reconcile (manager : Manager) (world : World W) (managed : Managed) (settings : Settings)
    («namespace» name : String) (w : W) : Except Error Requeue × Manager × W :=
  let (result, after) := world.pass managed settings «namespace» name w
  let metrics := (manager.metrics.map (·.started) managed).map
    (·.ended (world.clock after - world.clock w)) managed
  (result, { lastEvent := world.now w, metrics }, after)

/-- Counts a failed pass.  The answer is after how many seconds the object comes up again. -/
def errorPolicy (manager : Manager) (managed : Managed) (settings : Settings)
    («namespace» name : String) (error : Error) : Nat × Manager :=
  let metrics := manager.metrics.map (·.failed («namespace» ++ "/" ++ name) error) managed
  (error.requeueAfter.getD settings.errorBackoff, { manager with metrics })

end Manager

end Reconciler
