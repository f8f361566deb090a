import Reconciler.Json.Basic
import Reconciler.StringMap
import Reconciler.Time.Instant

/-!
# Stored objects

Every stored object has metadata and a specification, and may have a status.
-/

namespace Reconciler

open Time

/-- Says that an object belongs to another one. -/
structure OwnerReference where
  apiVersion : String
  kind : String
  name : String
  uid : String
  controller : Option Bool := none
  blockOwnerDeletion : Option Bool := none
deriving DecidableEq, Inhabited

/-- The fields of an object that a manager has set, as the server keeps account of them. -/
structure ManagedFields where
  apiVersion : Option String := none
  fieldsType : Option String := none
  fields : Option Json := none
  manager : Option String := none
  operation : Option String := none
  subresource : Option String := none
  time : Option Instant := none
deriving DecidableEq, Inhabited

structure Metadata where
  name : Option String := none
  generateName : Option String := none
  «namespace» : Option String := none
  uid : Option String := none
  resourceVersion : Option String := none
  generation : Option Int := none
  selfLink : Option String := none
  creationTimestamp : Option Instant := none
  labels : Option (StringMap String) := none
  annotations : Option (StringMap String) := none
  finalizers : Option (List String) := none
  ownerReferences : Option (List OwnerReference) := none
  deletionTimestamp : Option Instant := none
  deletionGracePeriodSeconds : Option Int := none
  managedFields : Option (List ManagedFields) := none
deriving DecidableEq, Inhabited

namespace Metadata

/-- The name, or what it would be generated from. -/
def nameAny (metadata : Metadata) : String :=
  (metadata.name <|> metadata.generateName).getD ""

def namespaceAny (metadata : Metadata) : String := metadata.namespace.getD ""

/-- Namespace and name, as the object is known by in logs, errors and requests. -/
def key (metadata : Metadata) : String := metadata.namespaceAny ++ "/" ++ metadata.nameAny

def isDeleting (metadata : Metadata) : Bool := metadata.deletionTimestamp.isSome

def label? (name : String) (metadata : Metadata) : Option String :=
  metadata.labels.bind (·.get? name)

def hasLabel (name : String) (metadata : Metadata) : Bool := (metadata.label? name).isSome

/-- Sets a label. -/
def setLabel (name value : String) (metadata : Metadata) : Metadata :=
  { metadata with labels := some ((metadata.labels.getD ∅).insert name value) }

def owners (metadata : Metadata) : List OwnerReference := metadata.ownerReferences.getD []

def hasFinalizer (finalizer : String) (metadata : Metadata) : Bool :=
  (metadata.finalizers.getD []).contains finalizer

/-- Puts a finalizer after the others. -/
def pushFinalizer (finalizer : String) (metadata : Metadata) : Metadata :=
  { metadata with finalizers := some (metadata.finalizers.getD [] ++ [finalizer]) }

/-- Takes a finalizer out, wherever it stands. -/
def dropFinalizer (finalizer : String) (metadata : Metadata) : Metadata :=
  { metadata with finalizers := metadata.finalizers.map (·.filter (· != finalizer)) }

end Metadata

/-- A stored object. -/
structure Object (Spec Status : Type) where
  metadata : Metadata
  spec : Spec
  status : Option Status
deriving DecidableEq, Inhabited

namespace Object

variable {Spec Status : Type}

/-- Changes the metadata alone. -/
def mapMetadata (change : Metadata → Metadata) (object : Object Spec Status) :
    Object Spec Status :=
  { object with metadata := change object.metadata }

/-- Changes the status alone, starting from the empty one where there is none. -/
def mapStatus [Inhabited Status] (change : Status → Status) (object : Object Spec Status) :
    Object Spec Status :=
  { object with status := some (change (object.status.getD default)) }

end Object

end Reconciler
