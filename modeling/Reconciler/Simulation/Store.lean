import Reconciler.Codec.Object
import Reconciler.Error
import Reconciler.Json.Patch
import Reconciler.Text.Digits

/-!
# An object store in memory

Objects are kept by kind, and by namespace and name.  Every change gives an object the next version;
a write has to name the version it is made over.
-/

namespace Reconciler.Simulation

/-- The stored objects of every kind, by namespace and name. -/
abbrev Store := (kind : Kind) → StringMap (Resource kind)

/-- The key of an object in the store.  A name that is only to be generated does not count. -/
def storeKey (metadata : Metadata) : String :=
  metadata.namespaceAny ++ "/" ++ metadata.name.getD ""

/-- The version after another one, a number of 64 bits; what is not such a number counts as zero. -/
def nextVersion (version : Option String) : String :=
  let current := (version.bind Text.natural?).filter (· < Nat.pow 2 64)
  toString ((current.getD 0 + 1) % Nat.pow 2 64)

/-- Moves an object to its next version. -/
def bump (object : Object σ τ) : Object σ τ :=
  object.mapMetadata fun metadata =>
    { metadata with resourceVersion := some (nextVersion metadata.resourceVersion) }

namespace Store

def empty : Store := fun _ => ∅

/-- Changes the objects of a kind. -/
def update (kind : Kind) (change : StringMap (Resource kind) → StringMap (Resource kind))
    (store : Store) : Store :=
  fun other => if h : kind = other then h ▸ change (store kind) else store other

def get? (kind : Kind) (key : String) (store : Store) : Option (Resource kind) :=
  (store kind).get? key

def save (kind : Kind) (key : String) (object : Resource kind) (store : Store) : Store :=
  store.update kind (·.insert key object)

def remove (kind : Kind) (key : String) (store : Store) : Store :=
  store.update kind (·.erase key)

/-- Puts an object in; it has version one unless it says otherwise. -/
def put (kind : Kind) (object : Resource kind) (store : Store) : Store :=
  let object := object.mapMetadata fun metadata =>
    { metadata with resourceVersion := metadata.resourceVersion <|> some "1" }
  store.save kind (storeKey object.metadata) object

/-- Keeps a written object, unless it was only waiting for its last finalizer to go. -/
def settle (kind : Kind) (key : String) (object : Resource kind) (store : Store) : Store :=
  if object.metadata.isDeleting && (object.metadata.finalizers.getD []).isEmpty then
    store.remove kind key
  else store.save kind key object

/-- Writes an object over the version it names, where there is an object under the key.  What
becomes of the stored one is left to `combine`. -/
def write (kind : Kind) (combine : (stored sent : Resource kind) → Resource kind) (key : String)
    (sent : Resource kind) (store : Store) : Except ApiStatus (Resource kind) × Store :=
  match store.get? kind key with
  | none => (.error .notFound, store)
  | some stored =>
    if sent.metadata.resourceVersion != stored.metadata.resourceVersion then
      (.error .conflict, store)
    else
      let saved := bump (combine stored sent)
      (.ok saved, store.settle kind key saved)

/-- Writes metadata and specification; the status stays. -/
def replace (kind : Kind) :
    String → Resource kind → Store → Except ApiStatus (Resource kind) × Store :=
  write kind fun stored sent => { sent with status := stored.status }

/-- Writes the status alone. -/
def replaceStatus (kind : Kind) :
    String → Resource kind → Store → Except ApiStatus (Resource kind) × Store :=
  write kind fun stored sent => { stored with status := sent.status }

/-- Patches an object as some other writer.  The flag says whether the result could be understood;
an object that is not there needs no patch. -/
def patch (kind : Kind) (key : String) (change : Json) (store : Store) : Bool × Store :=
  match store.get? kind key with
  | none => (true, store)
  | some stored =>
    match Codec.readObject kind (Json.merge change (Codec.writeObject kind stored)) with
    | none => (false, store)
    | some changed => (true, store.save kind key (bump changed))

end Store

end Reconciler.Simulation
