/-!
# Settings

How long passes may take and how long to wait between them, in seconds.
-/

namespace Reconciler

structure Settings where
  /-- Between polls of an import job. -/
  jobPoll : Nat := 120
  /-- Between polls of an instance. -/
  instancePoll : Nat := 60
  /-- Between polls of an image. -/
  imagePoll : Nat := 60
  /-- After a failed pass that did not ask for anything else. -/
  errorBackoff : Nat := 300
  /-- The longest that the body of a pass may take. -/
  reconcileTimeout : Nat := 300
  /-- How often a write that met a conflict is tried again. -/
  closeRetries : Nat := 2
deriving DecidableEq, Inhabited

namespace Settings

/-- Seconds that no clock counts up to, whenever it began to run. -/
def clockReach : Nat := Nat.pow 2 63 - 1000

/-- How many milliseconds the body of a pass may take.  A limit out of the clock's reach counts as
thirty years. -/
def bodyLimit (settings : Settings) : Nat :=
  if settings.reconcileTimeout < clockReach then settings.reconcileTimeout * 1000
  else 30 * 365 * 86400 * 1000

end Settings

/-- What the work queue should do with an object after a pass. -/
inductive Requeue where
  /-- Wait for the next change. -/
  | none
  | immediate
  | after (seconds : Nat)
deriving DecidableEq, Inhabited

/-- After how many seconds the object comes up again, if it does without a change. -/
def Requeue.delay : Requeue → Option Nat
  | .none => Option.none
  | .immediate => some 0
  | .after seconds => some seconds

end Reconciler
