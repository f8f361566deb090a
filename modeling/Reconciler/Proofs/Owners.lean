import Mathlib.Data.List.Basic
import Reconciler.Resource.Owner

/-!
# One owner of a kind

To make sure of an owner replaces all references of its kind, unless one of them names the owner
already.  Then all of them stay, so that a reference to an earlier owner of that kind survives
beside the wanted one.
-/

namespace Reconciler

variable {references : List OwnerReference} {owner : OwnerReference}

namespace OwnerReference

@[simp]
theorem sameKind_self (owner : OwnerReference) : owner.sameKind owner = true := by
  simp [sameKind]

theorem sameObject_iff {left right : OwnerReference} :
    left.sameObject right = true ↔
      left.sameKind right = true ∧ left.name = right.name ∧ left.uid = right.uid := by
  simp [sameObject, and_assoc]

end OwnerReference

theorem hasOwner_iff :
    hasOwner references owner = true ↔
      ∃ reference ∈ references, reference.sameKind owner = true ∧
        reference.name = owner.name ∧ reference.uid = owner.uid := by
  simp [hasOwner, OwnerReference.sameObject_iff]

theorem ensureOwner_of_hasOwner (hthere : hasOwner references owner = true) :
    ensureOwner references owner = (references, false) := if_pos hthere

theorem ensureOwner_of_not_hasOwner (hmissing : hasOwner references owner = false) :
    ensureOwner references owner =
      (references.filter (!·.sameKind owner) ++ [owner], true) :=
  if_neg (by simp [hmissing])

/-- References of other groups and kinds are left alone. -/
theorem filter_not_sameKind_ensureOwner (references : List OwnerReference)
    (owner : OwnerReference) :
    (ensureOwner references owner).1.filter (!·.sameKind owner) =
      references.filter (!·.sameKind owner) := by
  cases howner : hasOwner references owner with
  | true => rw [ensureOwner_of_hasOwner howner]
  | false => simp [ensureOwner_of_not_hasOwner howner]

theorem filter_sameKind_ensureOwner (references : List OwnerReference) (owner : OwnerReference) :
    (ensureOwner references owner).1.filter (·.sameKind owner) =
      if hasOwner references owner then references.filter (·.sameKind owner) else [owner] := by
  cases howner : hasOwner references owner with
  | true => rw [ensureOwner_of_hasOwner howner, if_pos rfl]
  | false => simp [ensureOwner_of_not_hasOwner howner]

/-- The owner is referred to afterwards. -/
theorem hasOwner_ensureOwner (references : List OwnerReference) (owner : OwnerReference) :
    hasOwner (ensureOwner references owner).1 owner = true := by
  cases howner : hasOwner references owner with
  | true => rw [ensureOwner_of_hasOwner howner, howner]
  | false => simp [ensureOwner_of_not_hasOwner howner, hasOwner_iff]

/-- The flag tells whether something changed: a reference that is put in was not there. -/
theorem ensureOwner_changed_iff :
    (ensureOwner references owner).2 = true ↔ (ensureOwner references owner).1 ≠ references := by
  cases howner : hasOwner references owner with
  | true => simp [ensureOwner_of_hasOwner howner]
  | false =>
      have hother : (ensureOwner references owner).1 ≠ references := fun hsame => by
        have hthere := hasOwner_ensureOwner references owner
        rw [hsame, howner] at hthere
        simp at hthere
      simp only [ensureOwner_of_not_hasOwner howner] at hother ⊢
      simp [hother]

/-- Exactly one reference is of the owner's group and kind, and it has the owner's name and uid. -/
def OwnedOnce (references : List OwnerReference) (owner : OwnerReference) : Prop :=
  ∃ reference, references.filter (·.sameKind owner) = [reference] ∧
    reference.name = owner.name ∧ reference.uid = owner.uid

/-- Where an owner is referred to, this is the only reference of its kind if there is no more than
one. -/
theorem ownedOnce_iff_of_hasOwner (hthere : hasOwner references owner = true) :
    OwnedOnce references owner ↔ ¬1 < references.countP (·.sameKind owner) := by
  obtain ⟨named, hmem, hkind, hname, huid⟩ := hasOwner_iff.mp hthere
  have hfound : named ∈ references.filter (·.sameKind owner) := List.mem_filter.mpr ⟨hmem, hkind⟩
  rw [List.countP_eq_length_filter]
  constructor
  · rintro ⟨reference, honly, -, -⟩
    simp [honly]
  · intro hfew
    obtain ⟨reference, honly⟩ : ∃ reference, references.filter (·.sameKind owner) = [reference] :=
      List.length_eq_one_iff.mp (by have := List.length_pos_of_mem hfound; omega)
    obtain rfl : named = reference := by simpa [honly] using hfound
    exact ⟨named, honly, hname, huid⟩

/-- Making sure of an owner leaves exactly one reference of the owner's group and kind, the one that
names the owner, unless this reference was there already beside another one of that kind.  The
references of other groups and kinds stay in their order, the flag tells whether the list changed,
and making sure of the owner again changes nothing. -/
theorem one_owner_iff (references : List OwnerReference) (owner : OwnerReference) :
    (OwnedOnce (ensureOwner references owner).1 owner ↔
      ¬(hasOwner references owner = true ∧ 1 < references.countP (·.sameKind owner))) ∧
    (ensureOwner references owner).1.filter (!·.sameKind owner) =
      references.filter (!·.sameKind owner) ∧
    ((ensureOwner references owner).2 = true ↔ (ensureOwner references owner).1 ≠ references) ∧
    ensureOwner (ensureOwner references owner).1 owner =
      ((ensureOwner references owner).1, false) := by
  refine ⟨?_, filter_not_sameKind_ensureOwner references owner, ensureOwner_changed_iff,
    ensureOwner_of_hasOwner (hasOwner_ensureOwner references owner)⟩
  cases howner : hasOwner references owner with
  | true =>
      rw [ensureOwner_of_hasOwner howner, ownedOnce_iff_of_hasOwner howner]
      simp
  | false =>
      have honly := filter_sameKind_ensureOwner references owner
      rw [howner] at honly
      exact ⟨fun _ => by simp, fun _ => ⟨owner, honly, rfl, rfl⟩⟩

/-- A reference to an earlier cluster of the name stays where the present cluster has one too. -/
theorem earlier_owner_stays :
    let cluster (version uid : String) : OwnerReference :=
      ⟨"infrastructure.cluster.x-k8s.io/" ++ version, "IBMVPCCluster", "c1", uid, none, none⟩
    let references := [cluster "v1beta2" "new", cluster "v1beta1" "old"]
    ensureOwner references (cluster "v1beta2" "new") = (references, false) ∧
      ¬OwnedOnce (ensureOwner references (cluster "v1beta2" "new")).1
        (cluster "v1beta2" "new") := by
  intro cluster references
  have hthere : hasOwner references (cluster "v1beta2" "new") = true := by decide
  refine ⟨ensureOwner_of_hasOwner hthere, ?_⟩
  rw [ensureOwner_of_hasOwner hthere, ownedOnce_iff_of_hasOwner hthere, not_not]
  decide

end Reconciler
