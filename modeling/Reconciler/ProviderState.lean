/-!
# Lifecycle words of the provider

The provider reports states as free text.  Each vocabulary is a closed set of known words and one
constructor that keeps any other word as it came, so that a state always shows the word it was read
from.
-/

namespace Reconciler

/-- State of an asynchronous import job. -/
inductive JobState where
  | queued
  | importing (word : String)
  | completed
  | failed
  | unknown (word : String)
deriving DecidableEq, Inhabited

/-- The words of a job in progress. -/
def JobState.progressWords : List String :=
  ["readyForProcessing", "inProgress", "running", "waiting"]

def JobState.ofWord (word : String) : JobState :=
  if word = "queued" then .queued
  else if word = "completed" then .completed
  else if word = "failed" then .failed
  else if word ∈ progressWords then .importing word
  else .unknown word

def JobState.word : JobState → String
  | .queued => "queued"
  | .importing word => word
  | .completed => "completed"
  | .failed => "failed"
  | .unknown word => word

/-- State of a boot image. -/
inductive ImageState where
  | queued
  | importing
  | active
  | failed
  | unknown (word : String)
deriving DecidableEq, Inhabited

def ImageState.ofWord (word : String) : ImageState :=
  if word = "queued" then .queued
  else if word = "importing" then .importing
  else if word = "active" then .active
  else if word = "failed" then .failed
  else .unknown word

def ImageState.word : ImageState → String
  | .queued => "queued"
  | .importing => "importing"
  | .active => "active"
  | .failed => "failed"
  | .unknown word => word

/-- State of a virtual server instance. -/
inductive InstanceStatus where
  | pending
  | running
  | stopped
  | failed
  | unknown (word : String)
deriving DecidableEq, Inhabited

def InstanceStatus.ofWord (word : String) : InstanceStatus :=
  if word = "pending" then .pending
  else if word = "running" then .running
  else if word = "stopped" then .stopped
  else if word = "failed" then .failed
  else .unknown word

def InstanceStatus.word : InstanceStatus → String
  | .pending => "pending"
  | .running => "running"
  | .stopped => "stopped"
  | .failed => "failed"
  | .unknown word => word

/-- Provisioning state of load balancers and of their pool members. -/
inductive ProvisioningStatus where
  | active
  | createPending
  | updatePending
  | deletePending
  | failed
  | unknown (word : String)
deriving DecidableEq, Inhabited

def ProvisioningStatus.ofWord (word : String) : ProvisioningStatus :=
  if word = "active" then .active
  else if word = "create_pending" then .createPending
  else if word = "update_pending" then .updatePending
  else if word = "delete_pending" then .deletePending
  else if word = "failed" then .failed
  else .unknown word

def ProvisioningStatus.word : ProvisioningStatus → String
  | .active => "active"
  | .createPending => "create_pending"
  | .updatePending => "update_pending"
  | .deletePending => "delete_pending"
  | .failed => "failed"
  | .unknown word => word

end Reconciler
