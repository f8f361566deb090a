import Reconciler.Codec.Image
import Reconciler.Codec.Machine
import Reconciler.Proofs.Maps
import Reconciler.Proofs.Timestamps

/-!
# Documents that read back

What can be read of a kind can be written, and what is written of it reads back as it was.  Both
need some care with what is more than text: integers have to fit, instants to be writable, and a
state of the provider to be the one that its word stands for.
-/

namespace Reconciler

/-- A state shows the word that it was read from. -/
theorem InstanceStatus.word_ofWord (word : String) : (InstanceStatus.ofWord word).word = word := by
  unfold ofWord
  repeat' split
  all_goals simp [InstanceStatus.word, *]

theorem ImageState.word_ofWord (word : String) : (ImageState.ofWord word).word = word := by
  unfold ofWord
  repeat' split
  all_goals simp [ImageState.word, *]

/-- The integer fits into a sign and so many bits. -/
def Fits (bits : Nat) (value : Int) : Prop :=
  -(Nat.pow 2 bits : Nat) ≤ value ∧ value ≤ (Nat.pow 2 bits : Nat) - 1

/-- The numbers of the membership fit. -/
structure PoolMembership.Storable (membership : PoolMembership) : Prop where
  port : Fits 63 membership.port
  weight : ∀ weight ∈ membership.weight, Fits 63 weight

/-- The numbers of the memberships fit. -/
def MachineSpec.Storable (spec : MachineSpec) : Prop :=
  ∀ membership ∈ spec.loadBalancerPoolMembers, membership.Storable

/-- The state is the one that its word stands for, and the conditions are of instants that can be
written. -/
structure MachineStatus.Storable (status : MachineStatus) : Prop where
  instanceStatus : ∀ state ∈ status.instanceStatus, InstanceStatus.ofWord state.word = state
  conditions : ∀ condition ∈ status.conditions, condition.lastTransitionTime.Writable

/-- The state is the one that its word stands for, and the conditions are of instants that can be
written. -/
structure ImageStatus.Storable (status : ImageStatus) : Prop where
  imageState : ∀ state ∈ status.imageState, ImageState.ofWord state.word = state
  conditions : ∀ condition ∈ status.conditions, condition.lastTransitionTime.Writable

/-- The account of the fields is kept as it is, and the time can be written. -/
structure ManagedFields.Storable (managed : ManagedFields) : Prop where
  fields : ∀ fields ∈ managed.fields, Codec.readFields fields = some fields
  time : ∀ time ∈ managed.time, time.Writable

/-- The numbers fit, the instants can be written, and so can what is kept of the managers. -/
structure Metadata.Storable (metadata : Metadata) : Prop where
  generation : ∀ generation ∈ metadata.generation, Fits 63 generation
  creationTimestamp : ∀ instant ∈ metadata.creationTimestamp, instant.Writable
  deletionTimestamp : ∀ instant ∈ metadata.deletionTimestamp, instant.Writable
  gracePeriod : ∀ seconds ∈ metadata.deletionGracePeriodSeconds, Fits 63 seconds
  managedFields : ∀ entries ∈ metadata.managedFields, ∀ entry ∈ entries, entry.Storable

namespace Codec

open Json FieldReader

variable {α : Type}

/-- Nothing is read but what is sound, and what is sound reads back as it was written. -/
structure Restores (read : Reader α) (write : α → Json) (sound : α → Prop) : Prop where
  sound_of_read : ∀ document value, read document = some value → sound value
  read_write : ∀ value, sound value → read (write value) = some value
  write_ne_null : ∀ value, write value ≠ .null

namespace Restores

variable {read : Reader α} {write : α → Json} {sound : α → Prop} {name : String}
variable {members : List (String × Json)}

theorem required (hrestores : Restores read write sound) {value : α}
    (hnamed : named name members = [write value]) (hsound : sound value) :
    Scans (required name read) (.named members) value (.named members) :=
  scans_required hnamed (hrestores.read_write value hsound)

theorem defaulted (hrestores : Restores read write sound) {value : α}
    (hnamed : named name members = [write value]) (hsound : sound value) (default : α) :
    Scans (defaulted name default read) (.named members) value (.named members) :=
  scans_defaulted hnamed (hrestores.read_write value hsound) default

/-- A value that may be absent reads back where there is one. -/
theorem reads (hrestores : Restores read write sound) {value : Option α}
    (hsound : ∀ known ∈ value, sound known) :
    ∀ known ∈ value, write known ≠ .null ∧ read (write known) = some (id known) :=
  fun known hknown =>
    ⟨hrestores.write_ne_null known, hrestores.read_write known (hsound known hknown)⟩

theorem optional (hrestores : Restores read write sound) {value : Option α}
    (hnamed : named name members = (value.map write).toList)
    (hsound : ∀ known ∈ value, sound known) :
    Scans (optional name read) (.named members) value (.named members) := by
  have hscans : Scans (FieldReader.optional name read) (.named members) (value.map id)
      (.named members) := scans_optional hnamed (hrestores.reads hsound)
  rwa [Option.map_id] at hscans

theorem latest (hrestores : Restores read write sound) {value : Option α}
    (hnamed : named name members = (value.map write).toList)
    (hsound : ∀ known ∈ value, sound known) :
    Scans (latest name read) (.named members) value (.named members) := by
  have hscans : Scans (FieldReader.latest name read) (.named members) (value.map id)
      (.named members) := scans_latest hnamed (hrestores.reads hsound)
  rwa [Option.map_id] at hscans

theorem nullable (hrestores : Restores read write sound) {value : Option α}
    (hnamed : named name members = (value.map write).toList)
    (hsound : ∀ known ∈ value, sound known) :
    Scans (nullable name read) (.named members) value (.named members) :=
  hrestores.optional hnamed hsound

theorem list (hrestores : Restores read write sound) :
    Restores (Reader.list read) (writeList write) (fun items => ∀ item ∈ items, sound item) where
  sound_of_read := holds_of_list hrestores.sound_of_read
  read_write items hsound := by
    change (items.map write).mapM read = some items
    rw [List.mapM_map]
    exact mapM_eq_some fun item hitem => hrestores.read_write item (hsound item hitem)
  write_ne_null _ := nofun

end Restores

end Codec

end Reconciler
