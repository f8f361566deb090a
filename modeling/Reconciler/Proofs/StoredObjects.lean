import Reconciler.Codec.Object
import Reconciler.Proofs.Canonical
import Reconciler.Proofs.Documents

/-!
# Objects in storage

A managed object that was read of a document can be written and read back.  What comes back differs
from what was written in the instants of the metadata alone, which are stored to the second, and is
written just as before.
-/

namespace Reconciler

open Time

/-- The entry with its time in whole seconds. -/
def ManagedFields.wholeSeconds (managed : ManagedFields) : ManagedFields :=
  { managed with time := managed.time.map Instant.wholeSeconds }

/-- The metadata with its instants in whole seconds. -/
def Metadata.wholeSeconds (metadata : Metadata) : Metadata :=
  { metadata with
    creationTimestamp := metadata.creationTimestamp.map Instant.wholeSeconds
    deletionTimestamp := metadata.deletionTimestamp.map Instant.wholeSeconds
    managedFields := metadata.managedFields.map (·.map ManagedFields.wholeSeconds) }

namespace Codec

open Json FieldReader

/-! ## Instants in whole seconds -/

end Codec

namespace Managed

open Codec Json FieldReader

/-- The specification can be written and read back. -/
def SpecStorable : (managed : Managed) → managed.kind.Spec → Prop
  | .machine, spec => spec.Storable
  | .image, _ => True

/-- The status can be written and read back. -/
def StatusStorable : (managed : Managed) → managed.Status → Prop
  | .machine, status => status.Storable
  | .image, status => status.Storable

variable {managed : Managed}

/-- The parts of the object can be written and read back. -/
structure Storable (managed : Managed) (object : managed.Resource) : Prop where
  metadata : object.metadata.Storable
  spec : managed.SpecStorable object.spec
  status : ∀ status ∈ object.status, managed.StatusStorable status

theorem writeObject_eq (managed : Managed) :
    writeObject managed.kind = writeParts managed.kind := by
  cases managed <;> rfl

end Managed

end Reconciler
