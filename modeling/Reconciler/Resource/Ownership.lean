import Reconciler.Error

/-!
# Marks of ownership on a managed object

Before anything is done for an object it carries the finalizer of its kind, the label that names its
cluster, and an owner reference to that cluster.
-/

namespace Reconciler.Managed

/-- The object carries the finalizer of its kind. -/
def hasFinalizer (managed : Managed) (object : managed.Resource) : Bool :=
  object.metadata.hasFinalizer managed.finalizer

/-- Adds the finalizer; the flag says that it was missing. -/
def addFinalizer (managed : Managed) (object : managed.Resource) : managed.Resource × Bool :=
  if managed.hasFinalizer object then (object, false)
  else (object.mapMetadata (·.pushFinalizer managed.finalizer), true)

def removeFinalizer (managed : Managed) (object : managed.Resource) : managed.Resource :=
  object.mapMetadata (·.dropFinalizer managed.finalizer)

/-- Labels the object with the name of its cluster unless it has such a label; the flag says that it
had none. -/
def ensureClusterLabel (managed : Managed) (cluster : Option managed.Cluster)
    (object : managed.Resource) : managed.Resource × Bool :=
  match cluster with
  | none => (object, false)
  | some cluster =>
    if object.metadata.hasLabel clusterNameLabel then (object, false)
    else (object.mapMetadata (·.setLabel clusterNameLabel cluster.metadata.nameAny), true)

/-- The reference to the cluster of a managed object. -/
def clusterReference (managed : Managed) (cluster : managed.Cluster) :
    Except Error OwnerReference :=
  (ownerReference managed.clusterKind cluster.metadata).mapError .resource

/-- No reference of the object names its cluster. -/
def shouldAdopt (managed : Managed) (cluster : Option managed.Cluster)
    (object : managed.Resource) : Except Error Bool :=
  match cluster with
  | none => .ok false
  | some cluster => do
    let owner ← managed.clusterReference cluster
    return !hasOwner object.metadata.owners owner

/-- Makes the cluster the owner of the object; the flag says that it was not. -/
def adopt (managed : Managed) (cluster : Option managed.Cluster) (object : managed.Resource) :
    Except Error (managed.Resource × Bool) :=
  match cluster with
  | none => .ok (object, false)
  | some cluster => do
    let owner ← managed.clusterReference cluster
    let changed := (ensureOwner object.metadata.owners owner).2
    return (object.mapMetadata (·.ensureOwner owner), changed)

/-- Changes the conditions of an object, giving it a status where it has none. -/
def mark (managed : Managed) (change : Conditions → Conditions) (object : managed.Resource) :
    managed.Resource :=
  object.mapStatus (managed.mapConditions change)

end Reconciler.Managed
