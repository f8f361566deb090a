import Reconciler.Resource.Kind

/-!
# Events

Events tell people what happened to an object.  Publishing one is best effort.
-/

namespace Reconciler

inductive EventType where
  | normal
  | warning
deriving DecidableEq, Inhabited

def EventType.word : EventType → String
  | .normal => "Normal"
  | .warning => "Warning"

structure Event where
  type : EventType
  reason : String
  note : Option String
  action : String
deriving DecidableEq, Inhabited

namespace Event

/-- The name under which events are published. -/
def reporter : String := "capibm-controller"

def warning (reason note action : String) : Event := ⟨.warning, reason, some note, action⟩

def failedBuildInstance (message : String) : Event :=
  warning "FailedBuildInstance" ("Failed to build the instance - " ++ message) "CreateInstance"

def finalizerRemoved (kind name : String) : Event :=
  ⟨.normal, "Deleted", some ("Released cloud resources of " ++ kind ++ " " ++ name), "Delete"⟩

end Event

/-- The object that an event is about. -/
structure ObjectReference where
  apiVersion : String
  kind : String
  name : Option String
  «namespace» : Option String
  uid : Option String
deriving DecidableEq, Inhabited

/-- How an object of a kind is referred to. -/
def ObjectReference.of (kind : Kind) (metadata : Metadata) : ObjectReference :=
  ⟨kind.apiVersion, kind.name, metadata.name, metadata.namespace, metadata.uid⟩

end Reconciler
