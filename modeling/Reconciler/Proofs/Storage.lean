import Reconciler.Proofs.Bench
import Reconciler.Proofs.StatusChanges

/-!
# What storage keeps of an object

Objects are stored as documents.  Whatever a document holds, and whatever passes make of its status,
comes back from storage as it was, but for the fractions of seconds in the metadata.
-/

namespace Reconciler

open Time Codec

instance (exchange : Exchange (outside .image)) : Decidable exchange.Worded :=
  match exchange with
  | ⟨.cloud (.getImage _), .returned (.ok found)⟩ =>
    inferInstanceAs (Decidable (ImageState.ofWord found.state.word = found.state))
  | ⟨.cloud (.getImage _), .returned (.error _)⟩ | ⟨.cloud (.getImage _), .expired⟩
  | ⟨.cloud (.getImage _), .panicked _⟩ | ⟨.cloud (.createImportJob _), _⟩
  | ⟨.cloud (.getJob _), _⟩ | ⟨.cloud (.deleteJob _), _⟩ | ⟨.cloud .getAllImages, _⟩
  | ⟨.cloud (.deleteImage _), _⟩ | ⟨.secret .., _⟩ | ⟨.publish .., _⟩ =>
    inferInstanceAs (Decidable True)

namespace Managed

variable {managed : Managed}

/-- Whether metadata can be stored does not depend on the marks of ownership. -/
theorem storable_foreignMetadata_iff {metadata : Metadata} :
    (managed.foreignMetadata metadata).Storable ↔ metadata.Storable :=
  ⟨fun ⟨generation, creation, deletion, grace, managed⟩ =>
      ⟨generation, creation, deletion, grace, managed⟩,
    fun ⟨generation, creation, deletion, grace, managed⟩ =>
      ⟨generation, creation, deletion, grace, managed⟩⟩

/-- A pass leaves an object that can be stored, if it changes the status as passes do. -/
theorem Storable.of_edits {before after : managed.Resource} (hstorable : managed.Storable before)
    (hedits : managed.Edits before after) (hreaches : managed.Reaches before after) :
    managed.Storable after where
  metadata := by
    have hmetadata : managed.foreignMetadata after.metadata =
        managed.foreignMetadata before.metadata :=
      congrArg (fun part => part.metadata) hedits.foreign
    rw [← storable_foreignMetadata_iff, hmetadata, storable_foreignMetadata_iff]
    exact hstorable.metadata
  spec := by
    have hspec : after.spec = before.spec := congrArg (fun part => part.spec) hedits.foreign
    rw [hspec]
    exact hstorable.spec
  status := by
    obtain ⟨changes, hstatus⟩ := hreaches
    rw [hstatus]
    exact (hstorable.changed changes).status

end Managed

end Reconciler
