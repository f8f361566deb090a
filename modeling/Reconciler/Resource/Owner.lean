import Reconciler.Resource.Metadata

/-!
# Owners

An object is to have at most one owner of a kind.  Kinds are compared by group and name, whatever
the version; a reference names the owner exactly when its name and uid agree as well.
-/

namespace Reconciler

namespace OwnerReference

/-- The group of an API version: what stands before its last slash. -/
def groupOf (apiVersion : String) : String :=
  let reversed := apiVersion.toList.reverse
  String.ofList ((reversed.dropWhile (· != '/')).drop 1).reverse

/-- Both name an object of the same group and kind. -/
def sameKind (left right : OwnerReference) : Bool :=
  left.kind == right.kind && groupOf left.apiVersion == groupOf right.apiVersion

/-- Both name the same object. -/
def sameObject (left right : OwnerReference) : Bool :=
  sameKind left right && left.name == right.name && left.uid == right.uid

end OwnerReference

/-- One of the references names the wanted owner. -/
def hasOwner (references : List OwnerReference) (owner : OwnerReference) : Bool :=
  references.any (·.sameObject owner)

/-- Makes sure that the owner is referred to, in the place of any other owner of its kind.  The flag
says whether something changed. -/
def ensureOwner (references : List OwnerReference) (owner : OwnerReference) :
    List OwnerReference × Bool :=
  if hasOwner references owner then (references, false)
  else (references.filter (!·.sameKind owner) ++ [owner], true)

/-- Makes sure that an object is owned. -/
def Metadata.ensureOwner (owner : OwnerReference) (metadata : Metadata) : Metadata :=
  { metadata with ownerReferences := some (Reconciler.ensureOwner metadata.owners owner).1 }

end Reconciler
