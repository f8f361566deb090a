import Reconciler.Proofs.Requeues
import Reconciler.Proofs.Rest

/-!
# What an object needs first

Before anything is done for an object, the object has to carry the finalizer and a reference to its
cluster as the owner.  A normal pass that misses one of them supplies it, asks nothing, and wants to
come back at once; only a pass that finds both goes on.
-/

namespace Reconciler

inductive Requirement where
  | finalizer
  | owner (reference : OwnerReference)

namespace Managed

variable {managed : Managed} {cluster : managed.Cluster} {requirement : Requirement}
variable {before after later object : managed.Resource}

def meets (managed : Managed) (object : managed.Resource) : Requirement → Bool
  | .finalizer => managed.hasFinalizer object
  | .owner reference => hasOwner object.metadata.owners reference

/-- What an object of a cluster needs first.  A cluster that cannot be referred to can own
nothing. -/
def requirements (managed : Managed) (cluster : managed.Cluster) : List Requirement :=
  .finalizer :: (managed.clusterReference cluster).toOption.toList.map .owner

/-- How much an object of a cluster lacks. -/
def lacking (managed : Managed) (cluster : managed.Cluster) (object : managed.Resource) : Nat :=
  (managed.requirements cluster).countP (!managed.meets object ·)

theorem finalizer_mem_requirements : .finalizer ∈ managed.requirements cluster :=
  List.mem_cons_self ..

theorem owner_mem_requirements_iff {owner : OwnerReference} :
    .owner owner ∈ managed.requirements cluster ↔ managed.clusterReference cluster = .ok owner := by
  rcases hreference : managed.clusterReference cluster with error | reference <;>
    simp [requirements, hreference, Except.toOption, eq_comm]

theorem length_requirements_le : (managed.requirements cluster).length ≤ 2 := by
  rcases hreference : managed.clusterReference cluster with error | reference <;>
    simp [requirements, hreference, Except.toOption]

theorem lacking_le : managed.lacking cluster object ≤ 2 :=
  Nat.le_trans List.countP_le_length length_requirements_le

/-- The object is said to meet what the marks on it do. -/
theorem meets_of_marks (hrequired : requirement ∈ managed.requirements cluster)
    (hmarks : managed.marks later = managed.marks object) :
    managed.meets later requirement = managed.meets object requirement := by
  cases requirement with
  | finalizer => exact congrArg Marks.finalizer hmarks
  | owner owner => exact hasOwner_of_marks (owner_mem_requirements_iff.mp hrequired) hmarks

theorem lacking_of_marks (hmarks : managed.marks later = managed.marks object) :
    managed.lacking cluster later = managed.lacking cluster object := by
  apply List.countP_congr
  intro requirement hrequired
  rw [meets_of_marks hrequired hmarks]

/-- Of things that it goes on to meet, an object lacks no more than before. -/
theorem countP_missing_le {required : List Requirement} (hkeeps : ∀ requirement ∈ required,
      managed.meets before requirement = true → managed.meets after requirement = true) :
    required.countP (!managed.meets after ·) ≤ required.countP (!managed.meets before ·) := by
  apply List.countP_mono_left
  intro requirement hmem hmissing
  cases hmet : managed.meets before requirement with
  | false => rfl
  | true => simp [hkeeps requirement hmem hmet] at hmissing

/-- What was not met is met now; a new owner stands in the place of all others of its kind. -/
def Supplies (managed : Managed) (before after : managed.Resource) : Requirement → Prop
  | .finalizer => managed.hasFinalizer before = false ∧ managed.hasFinalizer after = true
  | .owner owner =>
    hasOwner before.metadata.owners owner = false ∧ (managed.marks after).owners = [owner]

theorem Supplies.missing (hsupplies : managed.Supplies before after requirement) :
    managed.meets before requirement = false := by
  cases requirement <;> exact hsupplies.1

theorem Supplies.met (hsupplies : managed.Supplies before after requirement) :
    managed.meets after requirement = true := by
  cases requirement with
  | finalizer => exact hsupplies.2
  | owner owner =>
      have hmem : owner ∈ (managed.marks after).owners := hsupplies.2 ▸ List.mem_singleton_self _
      exact List.any_eq_true.mpr ⟨owner, List.mem_of_mem_filter hmem, by
        simp [OwnerReference.sameObject, OwnerReference.sameKind]⟩

/-- An object that is supplied with something lacks less than before. -/
theorem lacking_lt (hrequired : requirement ∈ managed.requirements cluster)
    (hsupplies : managed.Supplies before after requirement)
    (hkeeps : ∀ requirement ∈ managed.requirements cluster,
      managed.meets before requirement = true → managed.meets after requirement = true) :
    managed.lacking cluster after < managed.lacking cluster before := by
  obtain ⟨early, late, hlist⟩ := List.append_of_mem hrequired
  unfold lacking
  rw [hlist] at hkeeps ⊢
  have hearly := countP_missing_le fun other hmem => hkeeps other (List.mem_append_left _ hmem)
  have hlate := countP_missing_le fun other hmem =>
    hkeeps other (List.mem_append_right _ (List.mem_cons_of_mem _ hmem))
  simp only [List.countP_append, List.countP_cons, hsupplies.missing, hsupplies.met]
  simp
  omega

/-- How taking ownership of an object for its cluster ends. -/
inductive Takes (managed : Managed) (cluster : managed.Cluster) (object : managed.Resource) :
    managed.Resource → Outcome (Except Error Bool) → Prop
  | marking (hmissing : managed.hasFinalizer object = false) :
      Takes managed cluster object (object.mapMetadata (·.pushFinalizer managed.finalizer))
        (.returned (.ok true))
  | nameless (error : Error) :
      Takes managed cluster object (managed.ensureClusterLabel (some cluster) object).1
        (.returned (.error error))
  | adopting (owner : OwnerReference) (hfinalizer : managed.hasFinalizer object = true)
      (hreference : managed.clusterReference cluster = .ok owner)
      (hnew : hasOwner object.metadata.owners owner = false) :
      Takes managed cluster object
        ((managed.ensureClusterLabel (some cluster) object).1.mapMetadata (·.ensureOwner owner))
        (.returned (.ok true))
  | owned (owner : OwnerReference) (hfinalizer : managed.hasFinalizer object = true)
      (hreference : managed.clusterReference cluster = .ok owner)
      (howner : hasOwner object.metadata.owners owner = true) :
      Takes managed cluster object (managed.ensureClusterLabel (some cluster) object).1
        (.returned (.ok false))

/-- The label with the name of the cluster is of no account for what is met. -/
theorem meets_ensureClusterLabel (cluster : managed.Cluster) (object : managed.Resource)
    (requirement : Requirement) :
    managed.meets (managed.ensureClusterLabel (some cluster) object).1 requirement =
      managed.meets object requirement := by
  obtain ⟨-, howners, hfinalizers, -⟩ := managed.edits_ensureClusterLabel (some cluster) object
  cases requirement with
  | finalizer => simp only [meets, hasFinalizer, Metadata.hasFinalizer, hfinalizers]
  | owner owner => simp only [meets, howners]

variable {ended : Outcome (Except Error Bool)}

/-- To take ownership takes nothing away. -/
theorem Takes.keeps (htakes : managed.Takes cluster object after ended)
    (hrequired : requirement ∈ managed.requirements cluster)
    (hmet : managed.meets object requirement = true) :
    managed.meets after requirement = true := by
  cases htakes with
  | marking hmissing =>
      cases requirement with
      | finalizer => exact absurd hmet (by simp [meets, hmissing])
      | owner owner => exact hmet
  | nameless error => rwa [meets_ensureClusterLabel]
  | adopting owner hfinalizer hreference hnew =>
      cases requirement with
      | finalizer =>
          exact (meets_ensureClusterLabel cluster object .finalizer).trans hmet
      | owner other =>
          obtain rfl := Except.ok.inj (hreference.symm.trans
            (owner_mem_requirements_iff.mp hrequired))
          exact absurd hmet (by simp [meets, hnew])
  | owned owner hfinalizer hreference howner => rwa [meets_ensureClusterLabel]

/-- If something had to be added, it was missing. -/
theorem Takes.supplies (htakes : managed.Takes cluster object after (.returned (.ok true))) :
    ∃ requirement ∈ managed.requirements cluster, managed.Supplies object after requirement := by
  cases htakes with
  | marking hmissing =>
      refine ⟨.finalizer, finalizer_mem_requirements, hmissing, ?_⟩
      simp [hasFinalizer, Object.mapMetadata, Metadata.hasFinalizer, Metadata.pushFinalizer]
  | adopting owner hfinalizer hreference hnew =>
      refine ⟨.owner owner, owner_mem_requirements_iff.mpr hreference, hnew, ?_⟩
      obtain ⟨-, howners, -, -⟩ := managed.edits_ensureClusterLabel (some cluster) object
      have hother : hasOwner (managed.ensureClusterLabel (some cluster) object).1.metadata.owners
          owner = false := by rw [howners, hnew]
      change (Metadata.ensureOwner owner _).owners.filter _ = [owner]
      rw [Metadata.filter_owners_ensureOwner (refersToCluster_of_clusterReference hreference),
        hother]
      rfl

end Managed

namespace Body

variable {managed : Managed} {cluster : managed.Cluster}

theorem takeOwnership_takes {S : Type} {environment : Environment (outside managed) S}
    (object : managed.Resource) (start : S) :
    ((takeOwnership (some cluster) : Body managed Bool) object).Ensures environment
      (fun after ended surroundings =>
        managed.Takes cluster object after ended ∧ surroundings = start) start := by
  obtain ⟨-, howners, -, -⟩ := managed.edits_ensureClusterLabel (some cluster) object
  unfold takeOwnership
  simp only [Action.ensures_bind, Action.ensures_modifyGet, Outcome.follow_ok, Managed.addFinalizer]
  cases hfinalizer : managed.hasFinalizer object with
  | false => exact ⟨.marking hfinalizer, rfl⟩
  | true =>
      simp only [if_true, Bool.false_eq_true, if_false, Action.ensures_bind, Action.ensures_modify,
        Action.ensures_get, Action.ensures_ofExcept, Outcome.follow_ok]
      rcases hreference : managed.clusterReference cluster with error | owner
      · have hshould : managed.shouldAdopt (some cluster)
            (managed.ensureClusterLabel (some cluster) object).1 = .error error := by
          simp [Managed.shouldAdopt, hreference, bind, Except.bind]
        rw [hshould]
        exact ⟨.nameless error, trivial⟩
      · have hshould : managed.shouldAdopt (some cluster)
            (managed.ensureClusterLabel (some cluster) object).1 =
              .ok !hasOwner object.metadata.owners owner := by
          simp [Managed.shouldAdopt, hreference, howners, bind, Except.bind, pure, Except.pure]
        rw [hshould]
        cases howner : hasOwner object.metadata.owners owner with
        | false =>
            have hadopt : managed.adopt (some cluster)
                (managed.ensureClusterLabel (some cluster) object).1 =
                  .ok ((managed.ensureClusterLabel (some cluster) object).1.mapMetadata
                    (·.ensureOwner owner), true) := by
              simp [Managed.adopt, hreference, ensureOwner, howners, howner, bind, Except.bind,
                pure, Except.pure]
            simp only [Bool.not_false, Outcome.follow_ok, if_true, Action.ensures_bind,
              Action.ensures_get, Action.ensures_ofExcept, Action.ensures_set,
              Action.ensures_pure, hadopt]
            exact ⟨.adopting owner hfinalizer hreference howner, trivial⟩
        | true => exact ⟨.owned owner hfinalizer hreference howner, rfl⟩

end Body

namespace Managed

variable {managed : Managed} {cluster : managed.Cluster} {requirement : Requirement}
variable {before after first object : managed.Resource}
variable {outcome : Outcome (Except Error Requeue)} {asked : Prop}

/-- The finalizer and the reference to the cluster are there. -/
def SetUp (managed : Managed) (cluster : managed.Cluster) (object : managed.Resource) : Prop :=
  managed.hasFinalizer object = true ∧ ∃ owner, managed.clusterReference cluster = .ok owner ∧
    hasOwner object.metadata.owners owner = true

/-- What a normal pass does for the requirements of its object. -/
structure SetsUp (managed : Managed) (cluster : managed.Cluster) (before after : managed.Resource)
    (outcome : Outcome (Except Error Requeue)) (asked : Prop) : Prop where
  keeps : ∀ requirement ∈ managed.requirements cluster,
    managed.meets before requirement = true → managed.meets after requirement = true
  supplies : outcome = .returned (.ok .immediate) →
    ∃ requirement ∈ managed.requirements cluster, managed.Supplies before after requirement
  asks : asked → managed.SetUp cluster before

/-- The requirements are about the metadata. -/
theorem SetsUp.congr (hsetsUp : managed.SetsUp cluster first after outcome asked)
    (hmetadata : first.metadata = before.metadata) :
    managed.SetsUp cluster before after outcome asked := by
  have hmeets (requirement : Requirement) :
      managed.meets first requirement = managed.meets before requirement := by
    cases requirement <;> simp only [meets, hasFinalizer, hmetadata]
  refine ⟨fun requirement hrequired hmet => ?_, fun hended => ?_, fun hasked => ?_⟩
  · exact hsetsUp.keeps requirement hrequired ((hmeets requirement).trans hmet)
  · obtain ⟨requirement, hrequired, hsupplies⟩ := hsetsUp.supplies hended
    refine ⟨requirement, hrequired, ?_⟩
    cases requirement <;> simpa only [Supplies, hasFinalizer, hmetadata] using hsupplies
  · simpa only [SetUp, hasFinalizer, hmetadata] using hsetsUp.asks hasked

/-- A pass that goes on with `rest` once it has ownership sets its object up first. -/
theorem setsUp_of_owned {rest : Body managed Requeue} (hkeeps : Step.Keeps managed.unmarked rest)
    (hyields : Step.Yields (· ≠ .immediate) rest) (object : managed.Resource) :
    Program.Ensures (.recording _) ((do
        if ← Body.takeOwnership (some cluster) then return .immediate
        rest : Body managed Requeue) object)
      (fun after outcome seen => managed.SetsUp cluster object after outcome (seen ≠ [])) [] := by
  rw [Action.ensures_bind]
  apply (Body.takeOwnership_takes object []).mono
  rintro middle ended _ ⟨htakes, rfl⟩
  have hends {outcome : Outcome (Except Error Requeue)}
      (hnever : outcome ≠ .returned (.ok .immediate)) :
      managed.SetsUp cluster object middle outcome
        ([] ≠ ([] : List (Exchange (outside managed)))) :=
    ⟨fun _ => htakes.keeps, fun hended => absurd hended hnever, fun hasked => absurd rfl hasked⟩
  rcases ended with (error | _ | _) | _ | text
  · exact hends (by simp)
  · apply (((hkeeps middle).anywhere []).and ((hyields middle).anywhere [])).mono
    rintro after outcome seen ⟨hsame, hyielded⟩
    obtain ⟨hmetadata, -⟩ := Prod.mk.injEq .. ▸ hsame
    cases htakes with
    | owned owner hfinalizer hreference howner =>
        refine ⟨fun requirement _ hmet => ?_, fun hended => absurd rfl (hyielded _ hended),
          fun _ => ⟨hfinalizer, owner, hreference, howner⟩⟩
        rw [← meets_ensureClusterLabel cluster] at hmet
        cases requirement <;> simpa only [meets, hasFinalizer, hmetadata] using hmet
  · exact ⟨fun _ => htakes.keeps, fun _ => htakes.supplies, fun hasked => absurd rfl hasked⟩
  · exact hends (by simp)
  · exact hends (by simp)

/-- Wherever a normal pass ends, it has set up its object before it asks anything. -/
theorem normal_setsUp (settings : Settings) (now : Time.Instant)
    (hnormal : object.metadata.isDeleting = false) :
    (managed.body ⟨some cluster, settings, now⟩ object object).Ensures (.recording _)
      (fun after outcome seen => managed.SetsUp cluster object after outcome (seen ≠ [])) [] := by
  cases managed with
  | machine =>
      rw [body_of_normal _ hnormal, Machine.reconcileNormal_eq, Action.ensures_bind]
      apply (Machine.recordRegion_prepares (some cluster) object []).mono
      rintro first _ _ ⟨-, hmetadata, rfl, rfl⟩
      apply (setsUp_of_owned (Machine.keeps_owned (fun _ _ => Managed.machine.keeps_update _) _)
        (Machine.yields_owned _) first).mono
      exact fun after outcome seen hsetsUp => hsetsUp.congr hmetadata
  | image =>
      have hbody : Managed.image.body ⟨some cluster, settings, now⟩ object =
          Image.reconcileNormal ⟨some cluster, settings, now⟩ :=
        if_neg (Bool.eq_false_iff.mp hnormal)
      rw [hbody, Image.reconcileNormal_eq]
      exact setsUp_of_owned ((Image.keeps_recordWorkspace _).bind fun _ =>
        Image.keeps_owned (fun _ _ => Managed.image.keeps_update _) _)
        (Step.Yields.bind _ fun _ => Image.yields_owned _) object

end Managed

end Reconciler
