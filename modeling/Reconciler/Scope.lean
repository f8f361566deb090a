import Reconciler.Cloud.Call
import Reconciler.Program
import Reconciler.Resource.Ownership

/-!
# The scope of a pass

A pass works on a copy of one object.  Opening the scope finds the object's cluster and the target
of its cloud calls; closing it writes what changed, metadata before status.  A write that meets a
newer version is tried again on top of that version, a fixed number of times.
-/

namespace Reconciler

/-- What a pass asks of the API server about its object. -/
inductive AccessQuestion (managed : Managed) where
  | fetch («namespace» name : String)
  | fetchCluster («namespace» name : String)
  | connect (target : managed.Target)
  | replace (object : managed.Resource)
  | replaceStatus (object : managed.Resource)

/-- Objects that are not there are fetched as `none`; writes answer what is stored then. -/
abbrev AccessQuestion.Answer {managed : Managed} : AccessQuestion managed → Type
  | .fetch .. => Except Error (Option managed.Resource)
  | .fetchCluster .. => Except Error (Option managed.Cluster)
  | .connect _ => Unit
  | .replace _ => Except Error managed.Resource
  | .replaceStatus _ => Except Error managed.Resource

/-- Access to the API server for one managed kind. -/
abbrev access (managed : Managed) : Interface := ⟨AccessQuestion managed, AccessQuestion.Answer⟩

/-- What a pass knows. -/
structure Scope (managed : Managed) where
  /-- The object as last read or saved. -/
  stored : managed.Resource
  /-- The object as the pass wants it. -/
  object : managed.Resource
  cluster : Option managed.Cluster
  /-- Where cloud calls go. -/
  target : managed.Target

/-- The region of a machine's calls: the recorded one, or else its cluster's. -/
def Machine.target (machine : Machine) (cluster : Option VpcCluster) : Option String :=
  machine.region <|> cluster.map (·.spec.region)

/-- The workspace of an image's calls: the recorded one, or else what the image and its cluster
say. -/
def Image.target (image : Image) (cluster : Option PowerVsCluster) : WorkspaceTarget :=
  match image.status.bind (·.workspace) with
  | some recorded => ⟨some recorded.serviceInstanceId, recorded.zone, recorded.region⟩
  | none =>
    { serviceInstanceId :=
        (image.spec.serviceInstanceId <|> cluster.map (·.spec.serviceInstanceId)).filter
          (!·.isEmpty)
      zone := image.spec.zone <|> cluster.map (·.spec.zone)
      region := cluster.bind (·.spec.region) }

def Managed.targetOf : (managed : Managed) → managed.Resource → Option managed.Cluster →
    managed.Target
  | .machine, object, cluster => Machine.target object cluster
  | .image, object, cluster => Image.target object cluster

namespace Scope

variable {managed : Managed}

/-- The cluster that an object says it belongs to.  An object that is being deleted does without
one. -/
def resolveCluster (object : managed.Resource) :
    Action (access managed) Error Unit (Option managed.Cluster) := do
  let metadata := object.metadata
  match (managed.clusterName object).filter (!·.isEmpty) with
  | none =>
    if metadata.isDeleting then return none
    throw (.missingClusterName (managed.kind.name ++ " " ++ metadata.key))
  | some name =>
    match ← Action.ask (I := access managed) (.fetchCluster metadata.namespaceAny name) with
    | .ok (some cluster) => return some cluster
    | .ok none =>
      if metadata.isDeleting then return none
      throw (.clusterNotFound managed.clusterKind.name metadata.namespaceAny name)
    | .error error => if metadata.isDeleting then return none else throw error

/-- Opens the scope of an object. -/
def enter (object : managed.Resource) : Action (access managed) Error Unit (Scope managed) := do
  let cluster ← resolveCluster object
  let target := managed.targetOf object cluster
  Action.ask (I := access managed) (.connect target)
  return ⟨object, object, cluster, target⟩

/-- Finalizers, owner references or labels differ from the stored ones. -/
def metadataChanged (scope : Scope managed) : Bool :=
  scope.stored.metadata.finalizers != scope.object.metadata.finalizers ||
    scope.stored.metadata.ownerReferences != scope.object.metadata.ownerReferences ||
    scope.stored.metadata.labels != scope.object.metadata.labels

/-- The object goes away once its metadata is written. -/
def released (scope : Scope managed) : Bool :=
  scope.object.metadata.isDeleting && !managed.hasFinalizer scope.object

/-- Writes metadata and status, each only if it changed. -/
def persist : Action (access managed) Error (Scope managed) Unit := do
  let scope ← get
  if scope.metadataChanged then
    let saved ←
      Action.ofExcept (← Action.ask (I := access managed) (.replace scope.object))
    set { scope with stored := saved, object := { scope.object with metadata := saved.metadata } }
  let scope ← get
  if scope.released || scope.object.status == scope.stored.status then return
  match ← Action.ask (I := access managed) (.replaceStatus scope.object) with
  | .ok saved =>
    set { scope with
      stored := saved
      object := scope.object.mapMetadata fun metadata =>
        { metadata with resourceVersion := saved.metadata.resourceVersion } }
  | .error error => if error.isNotFound then return else throw error

/-- Moves the finalizer of the pass over to another copy, if the pass added or removed it. -/
def rebaseFinalizer (scope : Scope managed) (metadata : Metadata) : Metadata :=
  let wanted := managed.hasFinalizer scope.object
  if wanted == managed.hasFinalizer scope.stored then metadata
  else
    let others := (metadata.finalizers.getD []).filter (· != managed.finalizer)
    { metadata with finalizers := some (if wanted then others ++ [managed.finalizer] else others) }

/-- Moves the owner references that the pass added over to another copy. -/
def rebaseOwners (scope : Scope managed) (metadata : Metadata) : Metadata :=
  let added := scope.object.metadata.owners.filter (!scope.stored.metadata.owners.contains ·)
  added.foldl (fun metadata owner => metadata.ensureOwner owner) metadata

/-- Moves the labels that the pass set over to another copy. -/
def rebaseLabels (scope : Scope managed) (metadata : Metadata) : Metadata :=
  let labels := (scope.object.metadata.labels.map (·.entries)).getD []
  let added := labels.filter fun label => scope.stored.metadata.label? label.1 != some label.2
  added.foldl (fun metadata label => metadata.setLabel label.1 label.2) metadata

/-- The changes of the pass on top of the latest copy. -/
def rebased (scope : Scope managed) (latest : managed.Resource) : Scope managed :=
  { scope with
    stored := latest
    object :=
      { latest with
        metadata := scope.rebaseLabels (scope.rebaseOwners (scope.rebaseFinalizer latest.metadata))
        status := scope.object.status } }

/-- Puts the changes of the pass on top of the latest copy.  The answer is whether there is one. -/
def rebase : Action (access managed) Error (Scope managed) Bool := do
  let scope ← get
  let metadata := scope.object.metadata
  let latest ← Action.ofExcept
    (← Action.ask (I := access managed) (.fetch metadata.namespaceAny metadata.nameAny))
  match latest with
  | none => return false
  | some latest =>
    set (scope.rebased latest)
    return true

/-- Writes what changed.  After a conflict the object is read again, up to `retries` times; an
object that is gone needs no write. -/
def closeAfter (attempts : Nat) :
    (retries : Nat) → Action (access managed) Error (Scope managed) Unit
  | 0 => do
    match ← Action.attempt persist with
    | .ok () => return
    | .error error =>
      if error.isConflict then
        throw (.conflict (← get).object.metadata.key (attempts + 1))
      else throw error
  | retries + 1 => do
    match ← Action.attempt persist with
    | .ok () => return
    | .error error =>
      if error.isConflict then
        if ← rebase then closeAfter (attempts + 1) retries
      else throw error

/-- Closes a scope. -/
def close (retries : Nat) : Action (access managed) Error (Scope managed) Unit :=
  closeAfter 0 retries

end Scope

end Reconciler
