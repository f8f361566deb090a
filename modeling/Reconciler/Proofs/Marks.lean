import Reconciler.Proofs.Maps
import Reconciler.Proofs.Owners
import Reconciler.Scope

/-!
# What a pass may change in an object

The engine writes the status and its marks of ownership: its finalizer, the label with the name of
the cluster, and the references to owners of the cluster's kind.  The rest of an object belongs to
other writers.  When the changes of a pass are moved to a newer copy of its object, the marks are
those the pass wanted and the rest is that of the newer copy.
-/

namespace Reconciler

namespace Managed

/-- The reference is to an owner of the kind of the clusters, whatever its version. -/
def refersToCluster (managed : Managed) (owner : OwnerReference) : Bool :=
  owner.kind == managed.clusterKind.name &&
    OwnerReference.groupOf owner.apiVersion == OwnerReference.groupOf managed.clusterKind.apiVersion

/-- What of the metadata belongs to other writers. -/
def foreignMetadata (managed : Managed) (metadata : Metadata) : Metadata :=
  { metadata with
    resourceVersion := none
    finalizers := some ((metadata.finalizers.getD []).filter (· != managed.finalizer))
    labels := some ((metadata.labels.getD ∅).erase clusterNameLabel)
    ownerReferences := some (metadata.owners.filter (!managed.refersToCluster ·)) }

/-- What of an object belongs to other writers. -/
def foreignPart (managed : Managed) (object : managed.Resource) : managed.Resource :=
  { object with metadata := managed.foreignMetadata object.metadata, status := none }

end Managed

/-- The marks of ownership on an object. -/
@[ext]
structure Marks where
  finalizer : Bool
  /-- The label with the name of the cluster. -/
  cluster : Option String
  /-- The owners of the kind of the clusters. -/
  owners : List OwnerReference
deriving DecidableEq

namespace Managed

def metadataMarks (managed : Managed) (metadata : Metadata) : Marks :=
  ⟨metadata.hasFinalizer managed.finalizer, metadata.label? clusterNameLabel,
    metadata.owners.filter managed.refersToCluster⟩

def marks (managed : Managed) (object : managed.Resource) : Marks :=
  managed.metadataMarks object.metadata

end Managed

/-- The marks come from earlier ones by the changes of a pass, which takes no label away and puts a
new owner in the place of all others. -/
structure Marks.MadeFrom (before after : Marks) : Prop where
  cluster : after.cluster = none → before.cluster = none
  owners : after.owners = before.owners ∨
    ∃ owner, hasOwner before.owners owner = false ∧ after.owners = [owner]

theorem Marks.MadeFrom.refl (marks : Marks) : marks.MadeFrom marks := ⟨id, .inl rfl⟩

section Owners

variable {managed : Managed} {owner : OwnerReference}

theorem sameKind_eq (howner : managed.refersToCluster owner = true) (reference : OwnerReference) :
    reference.sameKind owner = managed.refersToCluster reference := by
  simp only [Managed.refersToCluster, Bool.and_eq_true, beq_iff_eq] at howner
  simp [OwnerReference.sameKind, Managed.refersToCluster, howner.1, howner.2]

/-- Only owners of the kind of the clusters can be the same as one of them. -/
theorem hasOwner_filter (howner : managed.refersToCluster owner = true)
    (references : List OwnerReference) :
    hasOwner (references.filter managed.refersToCluster) owner = hasOwner references owner := by
  unfold hasOwner
  rw [List.any_filter]
  apply List.any_congr rfl
  intro reference
  simp only [OwnerReference.sameObject, sameKind_eq howner]
  cases managed.refersToCluster reference <;> simp

theorem filter_not_ensureOwner (howner : managed.refersToCluster owner = true)
    (references : List OwnerReference) :
    (ensureOwner references owner).1.filter (!managed.refersToCluster ·) =
      references.filter (!managed.refersToCluster ·) := by
  simpa only [sameKind_eq howner] using filter_not_sameKind_ensureOwner references owner

theorem filter_ensureOwner (howner : managed.refersToCluster owner = true)
    (references : List OwnerReference) :
    (ensureOwner references owner).1.filter managed.refersToCluster =
      if hasOwner references owner then references.filter managed.refersToCluster
      else [owner] := by
  simpa only [sameKind_eq howner] using filter_sameKind_ensureOwner references owner

end Owners

namespace Metadata

variable {managed : Managed}

/-- Making sure of owners changes the references only. -/
theorem foldl_ensureOwner_eq (added : List OwnerReference) (metadata : Metadata) :
    ∃ references, added.foldl (fun metadata owner => metadata.ensureOwner owner) metadata =
      { metadata with ownerReferences := references } := by
  induction added generalizing metadata with
  | nil => exact ⟨metadata.ownerReferences, rfl⟩
  | cons owner rest ih =>
      obtain ⟨references, hrest⟩ := ih (metadata.ensureOwner owner)
      exact ⟨references, by rw [List.foldl_cons, hrest]; rfl⟩

/-- Setting labels changes the labels only. -/
theorem foldl_setLabel_eq (added : List (String × String)) (metadata : Metadata) :
    ∃ labels, added.foldl (fun metadata label => metadata.setLabel label.1 label.2) metadata =
      { metadata with labels } := by
  induction added generalizing metadata with
  | nil => exact ⟨metadata.labels, rfl⟩
  | cons label rest ih =>
      obtain ⟨labels, hrest⟩ := ih (metadata.setLabel label.1 label.2)
      exact ⟨labels, by rw [List.foldl_cons, hrest]; rfl⟩

theorem foreignMetadata_ensureOwner {owner : OwnerReference}
    (howner : managed.refersToCluster owner = true) (metadata : Metadata) :
    managed.foreignMetadata (metadata.ensureOwner owner) = managed.foreignMetadata metadata := by
  have hfilter := filter_not_ensureOwner howner metadata.owners
  simp only [owners] at hfilter
  simp [Managed.foreignMetadata, Metadata.ensureOwner, owners, hfilter]

theorem foreignMetadata_foldl_ensureOwner (added : List OwnerReference)
    (hadded : ∀ owner ∈ added, managed.refersToCluster owner = true) (metadata : Metadata) :
    managed.foreignMetadata
        (added.foldl (fun metadata owner => metadata.ensureOwner owner) metadata) =
      managed.foreignMetadata metadata := by
  induction added generalizing metadata with
  | nil => rfl
  | cons owner rest ih =>
      rw [List.foldl_cons, ih fun owner hmem => hadded owner (List.mem_cons_of_mem _ hmem)]
      exact foreignMetadata_ensureOwner (hadded owner (List.mem_cons_self ..)) metadata

theorem foreignMetadata_setLabel (value : String) (metadata : Metadata) :
    managed.foreignMetadata (metadata.setLabel clusterNameLabel value) =
      managed.foreignMetadata metadata := by
  simp [Managed.foreignMetadata, setLabel, owners]

theorem foreignMetadata_foldl_setLabel (added : List (String × String))
    (hadded : ∀ label ∈ added, label.1 = clusterNameLabel) (metadata : Metadata) :
    managed.foreignMetadata
        (added.foldl (fun metadata label => metadata.setLabel label.1 label.2) metadata) =
      managed.foreignMetadata metadata := by
  induction added generalizing metadata with
  | nil => rfl
  | cons label rest ih =>
      rw [List.foldl_cons, ih fun label hmem => hadded label (List.mem_cons_of_mem _ hmem),
        hadded label (List.mem_cons_self ..)]
      exact foreignMetadata_setLabel label.2 metadata

theorem label?_foldl_setLabel {key value : String} (added : List (String × String))
    (hadded : ∀ label ∈ added, label = (key, value)) (metadata : Metadata) :
    (added.foldl (fun metadata label => metadata.setLabel label.1 label.2) metadata).label? key =
      if added = [] then metadata.label? key else some value := by
  induction added generalizing metadata with
  | nil => rfl
  | cons label rest ih =>
      rw [List.foldl_cons, ih fun label hmem => hadded label (List.mem_cons_of_mem _ hmem),
        hadded label (List.mem_cons_self ..)]
      simp [setLabel, label?]

theorem filter_owners_ensureOwner {owner : OwnerReference}
    (howner : managed.refersToCluster owner = true) (metadata : Metadata) :
    (metadata.ensureOwner owner).owners.filter managed.refersToCluster =
      if hasOwner metadata.owners owner then metadata.owners.filter managed.refersToCluster
      else [owner] :=
  filter_ensureOwner howner metadata.owners

theorem filter_owners_foldl_ensureOwner {owner : OwnerReference}
    (howner : managed.refersToCluster owner = true) (added : List OwnerReference)
    (hadded : ∀ reference ∈ added, reference = owner) (metadata : Metadata)
    (hreferences : metadata.owners.filter managed.refersToCluster = [owner]) :
    (added.foldl (fun metadata owner => metadata.ensureOwner owner) metadata).owners.filter
        managed.refersToCluster = [owner] := by
  induction added generalizing metadata with
  | nil => exact hreferences
  | cons reference rest ih =>
      rw [List.foldl_cons, hadded reference (List.mem_cons_self ..)]
      refine ih (fun reference hmem => hadded reference (List.mem_cons_of_mem _ hmem)) _ ?_
      rw [filter_owners_ensureOwner howner, hreferences, ite_self]

end Metadata

namespace Scope

variable {managed : Managed} {scope : Scope managed}

theorem metadata_rebased (latest : managed.Resource) :
    (scope.rebased latest).object.metadata =
      scope.rebaseLabels (scope.rebaseOwners (scope.rebaseFinalizer latest.metadata)) := rfl

theorem rebaseLabels_eq (metadata : Metadata) :
    ∃ labels, scope.rebaseLabels metadata = { metadata with labels } :=
  Metadata.foldl_setLabel_eq _ metadata

theorem rebaseOwners_eq (metadata : Metadata) :
    ∃ references, scope.rebaseOwners metadata = { metadata with ownerReferences := references } :=
  Metadata.foldl_ensureOwner_eq _ metadata

theorem rebaseFinalizer_eq (metadata : Metadata) :
    ∃ finalizers, scope.rebaseFinalizer metadata = { metadata with finalizers } := by
  unfold rebaseFinalizer
  dsimp only
  split
  · exact ⟨metadata.finalizers, rfl⟩
  · exact ⟨_, rfl⟩

/-- The owners that the pass added. -/
def addedOwners (scope : Scope managed) : List OwnerReference :=
  scope.object.metadata.owners.filter (!scope.stored.metadata.owners.contains ·)

/-- The labels that the pass set. -/
def addedLabels (scope : Scope managed) : List (String × String) :=
  ((scope.object.metadata.labels.map (·.entries)).getD []).filter fun label =>
    scope.stored.metadata.label? label.1 != some label.2

theorem rebaseOwners_eq_foldl (metadata : Metadata) :
    scope.rebaseOwners metadata =
      scope.addedOwners.foldl (fun metadata owner => metadata.ensureOwner owner) metadata := rfl

theorem rebaseLabels_eq_foldl (metadata : Metadata) :
    scope.rebaseLabels metadata =
      scope.addedLabels.foldl (fun metadata label => metadata.setLabel label.1 label.2)
        metadata := rfl

theorem mem_addedOwners_iff {owner : OwnerReference} :
    owner ∈ scope.addedOwners ↔
      owner ∈ scope.object.metadata.owners ∧ owner ∉ scope.stored.metadata.owners := by
  simp [addedOwners]

theorem mem_addedLabels_iff {label : String × String} :
    label ∈ scope.addedLabels ↔ scope.object.metadata.label? label.1 = some label.2 ∧
      scope.stored.metadata.label? label.1 ≠ some label.2 := by
  unfold addedLabels
  rw [List.mem_filter]
  refine and_congr ?_ (by simp)
  rcases hlabels : scope.object.metadata.labels with _ | labels
  · simp [Metadata.label?, hlabels]
  · simpa [Metadata.label?, hlabels] using StringMap.mem_entries_iff labels label.1 label.2

theorem foreignMetadata_rebaseFinalizer (metadata : Metadata) :
    managed.foreignMetadata (scope.rebaseFinalizer metadata) =
      managed.foreignMetadata metadata := by
  unfold rebaseFinalizer
  dsimp only
  split
  · rfl
  · split <;> simp [Managed.foreignMetadata, Metadata.owners, List.filter_append]

section Foreign

variable (hforeign : managed.foreignPart scope.object = managed.foreignPart scope.stored)
include hforeign

/-- The owners that the pass added are of the kind of the clusters. -/
theorem refersToCluster_of_mem_addedOwners {owner : OwnerReference}
    (hadded : owner ∈ scope.addedOwners) : managed.refersToCluster owner = true := by
  obtain ⟨hobject, hstored⟩ := mem_addedOwners_iff.mp hadded
  have hmetadata := congrArg (fun part => part.metadata.ownerReferences) hforeign
  simp only [Managed.foreignPart, Managed.foreignMetadata, Option.some.injEq] at hmetadata
  by_contra hother
  have hmem : owner ∈ scope.object.metadata.owners.filter (!managed.refersToCluster ·) :=
    List.mem_filter.mpr ⟨hobject, by simpa using hother⟩
  rw [hmetadata] at hmem
  exact hstored (List.mem_of_mem_filter hmem)

/-- The only label that the pass can have set is the one with the name of the cluster. -/
theorem eq_clusterNameLabel_of_mem_addedLabels {label : String × String}
    (hadded : label ∈ scope.addedLabels) : label.1 = clusterNameLabel := by
  obtain ⟨hobject, hstored⟩ := mem_addedLabels_iff.mp hadded
  have hmetadata := congrArg (fun part => part.metadata.labels) hforeign
  simp only [Managed.foreignPart, Managed.foreignMetadata, Option.some.injEq] at hmetadata
  have hget (metadata : Metadata) :
      metadata.label? label.1 = (metadata.labels.getD ∅).get? label.1 := by
    unfold Metadata.label?
    cases metadata.labels <;> rfl
  by_contra hne
  rw [hget] at hobject hstored
  rw [← StringMap.get?_erase hne, hmetadata, StringMap.get?_erase hne] at hobject
  exact hstored hobject

/-- However a pass changed its marks, moving the changes to another copy leaves everything else of
that copy as it is. -/
theorem foreignPart_rebased (latest : managed.Resource) :
    managed.foreignPart (scope.rebased latest).object = managed.foreignPart latest := by
  have howners (metadata : Metadata) :
      managed.foreignMetadata (scope.rebaseOwners metadata) = managed.foreignMetadata metadata :=
    Metadata.foreignMetadata_foldl_ensureOwner scope.addedOwners
      (fun _ hadded => refersToCluster_of_mem_addedOwners hforeign hadded) metadata
  have hlabels (metadata : Metadata) :
      managed.foreignMetadata (scope.rebaseLabels metadata) = managed.foreignMetadata metadata :=
    Metadata.foreignMetadata_foldl_setLabel scope.addedLabels
      (fun _ hadded => eq_clusterNameLabel_of_mem_addedLabels hforeign hadded) metadata
  have hmetadata : managed.foreignMetadata (scope.rebased latest).object.metadata =
      managed.foreignMetadata latest.metadata := by
    rw [metadata_rebased, hlabels, howners, foreignMetadata_rebaseFinalizer]
  simp only [Managed.foreignPart, hmetadata]
  rfl

end Foreign

/-- The finalizer is on the newer copy as the pass left it, if the pass changed it at all. -/
theorem hasFinalizer_rebased (latest : managed.Resource) :
    managed.hasFinalizer (scope.rebased latest).object =
      if managed.hasFinalizer scope.object = managed.hasFinalizer scope.stored then
        managed.hasFinalizer latest
      else managed.hasFinalizer scope.object := by
  have hsame : managed.hasFinalizer (scope.rebased latest).object =
      (scope.rebaseFinalizer latest.metadata).hasFinalizer managed.finalizer := by
    obtain ⟨references, howners⟩ :=
      scope.rebaseOwners_eq (scope.rebaseFinalizer latest.metadata)
    obtain ⟨labels, hlabels⟩ := scope.rebaseLabels_eq
      (scope.rebaseOwners (scope.rebaseFinalizer latest.metadata))
    unfold Managed.hasFinalizer
    rw [metadata_rebased, hlabels, howners]
    rfl
  rw [hsame]
  unfold rebaseFinalizer
  by_cases hunchanged : managed.hasFinalizer scope.object = managed.hasFinalizer scope.stored
  · simp only [hunchanged, beq_self_eq_true, if_true]
    rfl
  · cases hwanted : managed.hasFinalizer scope.object <;>
      simp_all [Metadata.hasFinalizer]

/-- A newer copy is changed in its finalizers, owners and labels only. -/
theorem metadata_rebased_eq (latest : managed.Resource) :
    ∃ finalizers references labels, (scope.rebased latest).object.metadata =
      { latest.metadata with finalizers, ownerReferences := references, labels } := by
  obtain ⟨finalizers, hfinalizers⟩ := scope.rebaseFinalizer_eq latest.metadata
  obtain ⟨references, howners⟩ := scope.rebaseOwners_eq (scope.rebaseFinalizer latest.metadata)
  obtain ⟨labels, hlabels⟩ := scope.rebaseLabels_eq
    (scope.rebaseOwners (scope.rebaseFinalizer latest.metadata))
  exact ⟨finalizers, references, labels, by rw [metadata_rebased, hlabels, howners, hfinalizers]⟩

theorem resourceVersion_rebased (latest : managed.Resource) :
    (scope.rebased latest).object.metadata.resourceVersion = latest.metadata.resourceVersion := by
  obtain ⟨_, _, _, hmetadata⟩ := scope.metadata_rebased_eq latest
  rw [hmetadata]

theorem label?_rebased (hforeign : managed.foreignPart scope.object =
      managed.foreignPart scope.stored) (latest : managed.Resource)
    (hmade : scope.object.metadata.label? clusterNameLabel = none →
      scope.stored.metadata.label? clusterNameLabel = none)
    (hlatest : latest.metadata.label? clusterNameLabel =
      scope.stored.metadata.label? clusterNameLabel) :
    (scope.rebased latest).object.metadata.label? clusterNameLabel =
      scope.object.metadata.label? clusterNameLabel := by
  obtain ⟨finalizers, hfinalizers⟩ := scope.rebaseFinalizer_eq latest.metadata
  obtain ⟨references, howners⟩ := scope.rebaseOwners_eq (scope.rebaseFinalizer latest.metadata)
  have hbefore : (scope.rebaseOwners (scope.rebaseFinalizer latest.metadata)).label?
      clusterNameLabel = scope.stored.metadata.label? clusterNameLabel := by
    rw [howners, hfinalizers, ← hlatest]
    rfl
  rw [metadata_rebased, rebaseLabels_eq_foldl]
  rcases hobject : scope.object.metadata.label? clusterNameLabel with _ | value
  · have hnone : scope.addedLabels = [] := by
      apply List.eq_nil_iff_forall_not_mem.mpr
      intro label hadded
      have hset := (mem_addedLabels_iff.mp hadded).1
      rw [eq_clusterNameLabel_of_mem_addedLabels hforeign hadded, hobject] at hset
      simp at hset
    rw [hnone, List.foldl_nil, hbefore, hmade hobject]
  · have hadded (label : String × String) (hmem : label ∈ scope.addedLabels) :
        label = (clusterNameLabel, value) := by
      have hkey := eq_clusterNameLabel_of_mem_addedLabels hforeign hmem
      have hset := (mem_addedLabels_iff.mp hmem).1
      rw [hkey, hobject] at hset
      exact Prod.ext hkey (Option.some.inj hset).symm
    rw [Metadata.label?_foldl_setLabel _ hadded, hbefore]
    split
    · next hnone =>
      by_contra hstored
      have hmem : (clusterNameLabel, value) ∈ scope.addedLabels :=
        mem_addedLabels_iff.mpr ⟨hobject, hstored⟩
      simp [hnone] at hmem
    · rfl

/-- The owners on the newer copy are not affected by the labels that the pass set. -/
theorem owners_rebased_eq (latest : managed.Resource) :
    (managed.marks (scope.rebased latest).object).owners =
      (scope.rebaseOwners (scope.rebaseFinalizer latest.metadata)).owners.filter
        managed.refersToCluster := by
  obtain ⟨labels, hlabels⟩ := scope.rebaseLabels_eq
    (scope.rebaseOwners (scope.rebaseFinalizer latest.metadata))
  unfold Managed.marks
  rw [metadata_rebased, hlabels]
  rfl

theorem owners_rebaseFinalizer (latest : managed.Resource) :
    (scope.rebaseFinalizer latest.metadata).owners = latest.metadata.owners := by
  obtain ⟨finalizers, hfinalizers⟩ := scope.rebaseFinalizer_eq latest.metadata
  rw [hfinalizers]
  rfl

/-- On a copy without it, the owner that the pass added stands in the place of all others. -/
theorem owners_rebased_of_new (hforeign : managed.foreignPart scope.object =
      managed.foreignPart scope.stored) {latest : managed.Resource} {owner : OwnerReference}
    (hnew : hasOwner scope.stored.metadata.owners owner = false)
    (hobject : (managed.marks scope.object).owners = [owner])
    (hlatest : hasOwner latest.metadata.owners owner = false) :
    (managed.marks (scope.rebased latest).object).owners = [owner] := by
  have hmarked : owner ∈ (managed.marks scope.object).owners :=
    hobject ▸ List.mem_singleton_self _
  obtain ⟨hmem, howner⟩ := List.mem_filter.mp hmarked
  have hadded (reference : OwnerReference) (hreference : reference ∈ scope.addedOwners) :
      reference = owner := by
    have hkind := refersToCluster_of_mem_addedOwners hforeign hreference
    have hsingle : reference ∈ (managed.marks scope.object).owners :=
      List.mem_filter.mpr ⟨(mem_addedOwners_iff.mp hreference).1, hkind⟩
    rwa [hobject, List.mem_singleton] at hsingle
  have hself : owner ∈ scope.addedOwners := by
    refine mem_addedOwners_iff.mpr ⟨hmem, fun hstored => ?_⟩
    have hfound : hasOwner scope.stored.metadata.owners owner = true :=
      List.any_eq_true.mpr ⟨owner, hstored, by
        simp [OwnerReference.sameObject, OwnerReference.sameKind]⟩
    simp [hnew] at hfound
  rw [owners_rebased_eq, rebaseOwners_eq_foldl]
  rcases hlist : scope.addedOwners with _ | ⟨first, rest⟩
  · simp [hlist] at hself
  · rw [hlist] at hadded
    rw [List.foldl_cons, hadded first (List.mem_cons_self ..)]
    refine Metadata.filter_owners_foldl_ensureOwner howner rest
      (fun reference hreference => hadded reference (List.mem_cons_of_mem _ hreference)) _ ?_
    rw [Metadata.filter_owners_ensureOwner howner, owners_rebaseFinalizer, hlatest]
    rfl

theorem owners_rebased (hforeign : managed.foreignPart scope.object =
      managed.foreignPart scope.stored) (latest : managed.Resource)
    (hmade : (managed.marks scope.stored).MadeFrom (managed.marks scope.object))
    (hlatest : (managed.marks latest).owners = (managed.marks scope.stored).owners) :
    (managed.marks (scope.rebased latest).object).owners = (managed.marks scope.object).owners := by
  rcases hmade.owners with hunchanged | ⟨owner, hnew, hobject⟩
  · have hnone : scope.addedOwners = [] := by
      apply List.eq_nil_iff_forall_not_mem.mpr
      intro owner hadded
      have howner := refersToCluster_of_mem_addedOwners hforeign hadded
      obtain ⟨hmem, hnot⟩ := mem_addedOwners_iff.mp hadded
      have hmarked : owner ∈ (managed.marks scope.object).owners :=
        List.mem_filter.mpr ⟨hmem, howner⟩
      rw [hunchanged] at hmarked
      exact hnot (List.mem_of_mem_filter hmarked)
    calc
      (managed.marks (scope.rebased latest).object).owners =
          (scope.rebaseFinalizer latest.metadata).owners.filter managed.refersToCluster := by
        rw [owners_rebased_eq, rebaseOwners_eq_foldl, hnone, List.foldl_nil]
      _ = (managed.marks latest).owners := by rw [owners_rebaseFinalizer]; rfl
      _ = (managed.marks scope.object).owners := hlatest.trans hunchanged.symm
  · have hmarked : owner ∈ (managed.marks scope.object).owners :=
      hobject ▸ List.mem_singleton_self _
    have howner : managed.refersToCluster owner = true := (List.mem_filter.mp hmarked).2
    have hmissing (copy : managed.Resource)
        (hcopy : (managed.marks copy).owners = (managed.marks scope.stored).owners) :
        hasOwner copy.metadata.owners owner = false := by
      rw [← hasOwner_filter howner, ← hnew, ← hcopy]
      rfl
    rw [owners_rebased_of_new hforeign (hmissing _ rfl) hobject (hmissing latest hlatest), hobject]

/-- Where other writers keep the marks, the newer copy gets those that the pass wanted. -/
theorem marks_rebased (hforeign : managed.foreignPart scope.object =
      managed.foreignPart scope.stored) (latest : managed.Resource)
    (hmade : (managed.marks scope.stored).MadeFrom (managed.marks scope.object))
    (hlatest : managed.marks latest = managed.marks scope.stored) :
    managed.marks (scope.rebased latest).object = managed.marks scope.object := by
  have hfinalizer : (managed.marks (scope.rebased latest).object).finalizer =
      (managed.marks scope.object).finalizer := by
    have hkept : managed.hasFinalizer latest = managed.hasFinalizer scope.stored :=
      congrArg Marks.finalizer hlatest
    have hrebased := scope.hasFinalizer_rebased latest
    rw [hkept] at hrebased
    refine hrebased.trans ?_
    split
    · next hunchanged => exact hunchanged.symm
    · rfl
  have hcluster := label?_rebased hforeign latest hmade.cluster (congrArg Marks.cluster hlatest)
  have howners := owners_rebased hforeign latest hmade (congrArg Marks.owners hlatest)
  exact Marks.ext hfinalizer hcluster howners

end Scope

end Reconciler
