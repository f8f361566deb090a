import Reconciler.Controller
import Reconciler.Proofs.Body
import Reconciler.Proofs.Marks

/-!
# What bodies leave alone

A normal pass puts its marks of ownership on the object first and from then on changes nothing but
the status.  A delete pass changes nothing but the finalizer.  Both hold at every end of a body,
also at those that cut it short.
-/

namespace Reconciler

/-- What is ensured whatever happens is ensured in every environment. -/
theorem Program.Ensures.anywhere {I : Interface} {S σ α : Type} {program : Program I σ α}
    {holds : σ → Outcome α → Prop}
    (hensures : program.Ensures (.anything I) (fun state outcome _ => holds state outcome) ())
    {environment : Environment I S} (surroundings : S) :
    program.Ensures environment (fun state outcome _ => holds state outcome) surroundings := by
  induction program generalizing surroundings with
  | done state value => exact hensures
  | ask state question next ih =>
      intro ending after _
      have hended := hensures ending () trivial
      cases ending with
      | returned answer => exact ih answer hended after
      | expired => exact hended
      | panicked text => exact hended

namespace Step

variable {managed : Managed} {σ α β γ : Type} {part : σ → γ}

/-- Wherever the step ends, a part of the state is what it was before. -/
def Keeps (part : σ → γ) (step : Step managed σ α) : Prop :=
  ∀ state, (step state).Ensures (.anything _) (fun after _ _ => part after = part state) ()

theorem Keeps.pure (value : α) : Keeps part (pure value : Step managed σ α) := fun _ => rfl

theorem Keeps.throw (error : Error) : Keeps part (throw error : Step managed σ α) := fun _ => rfl

theorem Keeps.get : Keeps part (get : Step managed σ σ) := fun _ => rfl

theorem Keeps.ofExcept (result : Except Error α) :
    Keeps part (Action.ofExcept result : Step managed σ α) := fun _ => rfl

theorem Keeps.modify {change : σ → σ} (hchange : ∀ state, part (change state) = part state) :
    Keeps part (modify change : Step managed σ PUnit) := hchange

theorem Keeps.ask (question : (outside managed).Question) :
    Keeps part (Action.ask question : Step managed σ _) := by
  intro state
  rw [Action.ensures_ask]
  rintro (answer | _ | text) _ - <;> rfl

theorem Keeps.bind {first : Step managed σ α} {next : α → Step managed σ β}
    (hfirst : Keeps part first) (hnext : ∀ value, Keeps part (next value)) :
    Keeps part (first >>= next) := by
  intro state
  rw [Action.ensures_bind]
  apply (hfirst state).mono
  intro middle outcome _ hmiddle
  rcases outcome with (error | value) | _ | text
  · exact hmiddle
  · exact (hnext value middle).mono fun after _ _ hafter => hafter.trans hmiddle
  · exact hmiddle
  · exact hmiddle

theorem Keeps.map {first : Step managed σ α} (change : α → β) (hfirst : Keeps part first) :
    Keeps part (change <$> first) :=
  Keeps.bind hfirst fun value => Keeps.pure (change value)

theorem Keeps.attempt (call : managed.Call) :
    Keeps part (Body.attempt managed call : Step managed σ _) :=
  Keeps.ask (.cloud call)

theorem Keeps.call (call : managed.Call) :
    Keeps part (Body.call managed call : Step managed σ _) :=
  (Keeps.attempt call).bind fun _ => Keeps.ofExcept _

theorem Keeps.callFor (purpose : String) (call : managed.Call) :
    Keeps part (Body.callFor managed purpose call : Step managed σ _) :=
  (Keeps.attempt call).bind fun _ => Keeps.ofExcept _

theorem Keeps.comp {δ : Type} {step : Step managed σ α} (hkeeps : Keeps part step) (view : γ → δ) :
    Keeps (fun state => view (part state)) step :=
  fun state => (hkeeps state).mono fun _ _ _ => congrArg view

theorem Keeps.publish {part : managed.Resource → γ} (event : Event) :
    Keeps part (Body.publish event : Body managed Unit) :=
  Keeps.get.bind fun _ => (Keeps.ask _).bind fun _ => Keeps.pure ()

end Step

namespace Membership

open Step (Keeps)

variable {σ γ : Type} {part : σ → γ}

theorem keeps_findLoadBalancer (reference : ResourceReference) :
    Keeps part (findLoadBalancer reference : Calls σ _) := by
  unfold findLoadBalancer
  split
  · exact Keeps.call _
  · exact Keeps.call _
  · exact Keeps.pure none

theorem keeps_ensureMember (loadBalancer : LoadBalancer) (pool : Pool) (address : String)
    (port : Int) (weight : Option Int) :
    Keeps part (ensureMember loadBalancer pool address port weight : Calls σ _) := by
  unfold ensureMember
  apply (Keeps.call _).bind
  intro members
  split
  · exact Keeps.pure _
  · split
    · exact Keeps.pure true
    · exact (Keeps.call _).bind fun _ => Keeps.pure _

theorem keeps_registerOne (membership : PoolMembership) (address : String) :
    Keeps part (registerOne membership address : Calls σ _) := by
  unfold registerOne
  apply (keeps_findLoadBalancer _).bind
  intro found
  split
  · exact Keeps.throw _
  · split
    · exact Keeps.throw _
    · exact keeps_ensureMember _ _ _ _ _

theorem keeps_register (address : String) (memberships : List PoolMembership) :
    Keeps part (register address memberships : Calls σ _) := by
  induction memberships with
  | nil => exact Keeps.pure false
  | cons membership rest ih =>
      exact (keeps_registerOne membership address).bind fun _ => ih.bind fun _ => Keeps.pure _

theorem keeps_controlPlanePool (cluster : VpcCluster) :
    Keeps part (controlPlanePool cluster : Calls σ _) := by
  unfold controlPlanePool
  split
  · exact Keeps.throw _
  · apply (Keeps.call _).bind
    intro found
    split
    · exact Keeps.throw _
    · split
      · exact Keeps.throw _
      · exact Keeps.pure _

theorem keeps_registerControlPlane (cluster : VpcCluster) (address : Option String) :
    Keeps part (registerControlPlane cluster address : Calls σ _) := by
  unfold registerControlPlane
  apply (Keeps.ofExcept _).bind
  intro address
  exact (keeps_controlPlanePool cluster).bind fun _ => keeps_ensureMember _ _ _ _ _

end Membership

/-- The status of an object, the empty one while there is none. -/
def Object.standing {Spec Status : Type} [Inhabited Status] (object : Object Spec Status) :
    Status :=
  object.status.getD default

@[simp]
theorem Object.standing_mapStatus {Spec Status : Type} [Inhabited Status]
    (change : Status → Status) (object : Object Spec Status) :
    (object.mapStatus change).standing = change object.standing := rfl

theorem Object.mapStatus_congr {Spec Status : Type} [Inhabited Status]
    {left right : Status → Status} {object : Object Spec Status}
    (hsame : left object.standing = right object.standing) :
    object.mapStatus left = object.mapStatus right :=
  congrArg (fun status => { object with status := some status }) hsame

/-- What of an object a body never changes once the marks are on it. -/
def Managed.unmarked (managed : Managed) (object : managed.Resource) :
    Metadata × managed.kind.Spec :=
  (object.metadata, object.spec)

theorem Managed.keeps_update (managed : Managed) (change : managed.Status → managed.Status) :
    Step.Keeps managed.unmarked (modify (·.mapStatus change) : Body managed Unit) :=
  Step.Keeps.modify fun _ => rfl

namespace Machine

open Step (Keeps)

theorem keeps_bootstrapData {γ : Type} {part : Machine → γ} (machine : Machine) :
    Keeps part (bootstrapData machine) := by
  unfold bootstrapData
  apply (Keeps.ask _).bind
  intro answer
  apply (Keeps.ofExcept _).bind
  intro secret
  split
  · exact Keeps.pure _
  · exact Keeps.throw _

theorem keeps_findInstance {γ : Type} {part : Machine → γ} (machine : Machine) :
    Keeps part (findInstance machine) := by
  unfold findInstance
  split
  · apply (Keeps.pure none).bind
    intro recorded
    rcases recorded with _ | found
    · exact Keeps.call _
    · exact Keeps.pure _
  · apply (Keeps.call _).bind
    intro recorded
    rcases recorded with _ | found
    · exact Keeps.call _
    · exact Keeps.pure _

theorem keeps_getOrCreate {γ : Type} {part : Machine → γ} (surroundings : Surroundings) :
    Keeps part (getOrCreate surroundings) := by
  unfold getOrCreate
  apply Keeps.get.bind
  intro machine
  apply (keeps_findInstance machine).bind
  intro found
  split
  · exact Keeps.pure _
  · split
    · exact Keeps.pure _
    · split
      · exact Keeps.pure _
      · apply (keeps_bootstrapData machine).bind
        intro userData
        exact (Keeps.callFor _ _).bind fun _ => Keeps.pure _

/-- What is on record about the instance: all of a status but how ready it is. -/
def record (status : MachineStatus) : MachineStatus :=
  { status with ready := false, failureReason := none, failureMessage := none, conditions := [] }

section Part

variable {γ : Type} {part : Machine → γ}

theorem keeps_recordInstance (hpart : ∀ change, (∀ status, (change status).region =
      status.region) → Keeps part (update change))
    (surroundings : Surroundings) (instance_ : Instance) :
    Keeps part (recordInstance surroundings instance_) := by
  have hobserved : Keeps part (update (observed instance_)) := hpart _ fun _ => rfl
  unfold recordInstance
  apply Keeps.get.bind
  intro machine
  dsimp only
  split
  · split
    · exact Keeps.bind (hpart _ fun _ => rfl) fun _ => hobserved
    · exact (Keeps.callFor _ _).bind fun _ =>
        Keeps.bind (hpart _ fun _ => rfl) fun _ => hobserved
  · exact hobserved

theorem keeps_registerRunning (surroundings : Surroundings) (instance_ : Instance) :
    Keeps part (registerRunning surroundings instance_) := by
  unfold registerRunning
  apply Keeps.get.bind
  intro machine
  dsimp only
  split
  · exact (Keeps.ofExcept _).bind fun _ => Keeps.map _ (Membership.keeps_register _ _)
  · split
    · split
      · exact Keeps.pure _
      · exact Keeps.map _ (Membership.keeps_registerControlPlane _ _)
    · exact Keeps.pure _

/-- Once the instance is recorded, a normal pass changes nothing but how ready the machine is. -/
theorem keeps_reconcileInstance (hpart : ∀ change, (∀ status, record (change status) =
      record status) → Keeps part (update change))
    (surroundings : Surroundings) (instance_ : Instance) :
    Keeps part (reconcileInstance surroundings instance_) := by
  have hupdate {change : MachineStatus → MachineStatus} (requeue : Requeue)
      (hchange : ∀ status, record (change status) = record status) :
      Keeps part (do update change; return requeue : Pass Requeue) :=
    (hpart change hchange).bind fun _ => Keeps.pure requeue
  unfold reconcileInstance
  dsimp only
  split
  · exact hupdate _ fun _ => rfl
  · exact hupdate _ fun _ => rfl
  · exact Keeps.bind (hpart _ fun _ => rfl) fun _ =>
      Keeps.bind (Keeps.publish _) fun _ => Keeps.pure _
  · unfold reconcileRunning
    apply (keeps_registerRunning surroundings instance_).bind
    rintro (_ | _ | _)
    · exact Keeps.pure _
    · exact hupdate _ fun _ => rfl
    · exact hupdate _ fun _ => rfl
  · exact hupdate _ fun _ => rfl

/-- What a normal pass does once its marks are on the machine. -/
def owned (surroundings : Surroundings) : Pass Requeue := do
  let poll := surroundings.settings.instancePoll
  if (← get).spec.bootstrapDataSecretName.isNone then return .after poll
  match ← getOrCreate surroundings with
  | none =>
    update (unknownState "instance does not exist yet" surroundings.now)
    return .after poll
  | some instance_ =>
    recordInstance surroundings instance_
    reconcileInstance surroundings instance_

theorem reconcileNormal_eq (surroundings : Surroundings) : reconcileNormal surroundings = (do
    recordRegion surroundings.cluster
    if ← Body.takeOwnership surroundings.cluster then return .immediate
    owned surroundings) := rfl

theorem keeps_owned (hpart : ∀ change, (∀ status, (change status).region = status.region) →
      Keeps part (update change)) (surroundings : Surroundings) :
    Keeps part (owned surroundings) := by
  unfold owned
  apply Keeps.get.bind
  intro machine
  split
  · exact Keeps.pure _
  · apply (keeps_getOrCreate surroundings).bind
    rintro (_ | found)
    · exact Keeps.bind (hpart _ fun _ => rfl) fun _ => Keeps.pure _
    · refine (keeps_recordInstance hpart _ found).bind fun _ =>
        keeps_reconcileInstance (fun change hchange => hpart change fun status => ?_) _ found
      exact (congrArg MachineStatus.region (hchange status) :)

end Part

end Machine

namespace Image

open Step (Keeps)

theorem keeps_recordWorkspace (cluster : Option PowerVsCluster) :
    Keeps Managed.image.unmarked (recordWorkspace cluster) := by
  unfold recordWorkspace
  apply Keeps.get.bind
  intro image
  split
  · exact Keeps.pure _
  · dsimp only
    split
    · exact Keeps.pure _
    · exact Managed.image.keeps_update _

section Part

variable {γ : Type} {part : Image → γ}
variable (hpart : ∀ change, (∀ status, (change status).workspace = status.workspace) →
  Keeps part (update change))
include hpart

theorem keeps_reconcileJob (surroundings : Surroundings) :
    Keeps part (reconcileJob surroundings) := by
  unfold reconcileJob
  apply Keeps.get.bind
  intro image
  split
  · exact Keeps.pure _
  · apply (Keeps.attempt _).bind
    intro result
    split
    · exact Keeps.throw _
    · split
      · exact Keeps.bind (hpart _ fun _ => rfl) fun _ => Keeps.pure _
      · exact Keeps.bind (hpart _ fun _ => rfl) fun _ => Keeps.throw _
      · exact Keeps.bind (hpart _ fun _ => rfl) fun _ => Keeps.pure _
      · exact Keeps.bind (hpart _ fun _ => rfl) fun _ => Keeps.pure _
      · exact Keeps.bind (hpart _ fun _ => rfl) fun _ => Keeps.pure _

theorem keeps_getOrCreate (now : Time.Instant) : Keeps part (getOrCreate now) := by
  unfold getOrCreate
  apply Keeps.get.bind
  intro image
  apply (Keeps.callFor _ _).bind
  intro listing
  split
  · exact Keeps.pure _
  · split
    · exact Keeps.pure _
    · apply (Keeps.ofExcept _).bind
      intro request
      apply (Keeps.callFor _ _).bind
      intro jobId
      exact Keeps.bind (hpart _ fun _ => rfl) fun _ => Keeps.pure _

theorem keeps_reconcileImage (surroundings : Surroundings) (id : String) :
    Keeps part (reconcileImage surroundings id) := by
  unfold reconcileImage
  apply (Keeps.callFor _ _).bind
  intro found
  refine Keeps.bind (hpart _ fun _ => rfl) fun _ => ?_
  split
  · exact Keeps.bind (hpart _ fun _ => rfl) fun _ => Keeps.pure _
  · exact Keeps.bind (hpart _ fun _ => rfl) fun _ => Keeps.pure _
  · exact Keeps.bind (hpart _ fun _ => rfl) fun _ => Keeps.pure _

end Part

/-- The rest of a normal pass once the image was looked for. -/
def recording (surroundings : Surroundings) : Option String → Pass Requeue
  | some id => reconcileImage surroundings id
  | none => return .after surroundings.settings.jobPoll

/-- What a normal pass does once its marks and its workspace are on the image. -/
def owned (surroundings : Surroundings) : Pass Requeue := do
  match ← reconcileJob surroundings with
  | some requeue => return requeue
  | none => getOrCreate surroundings.now >>= recording surroundings

theorem reconcileNormal_eq (surroundings : Surroundings) : reconcileNormal surroundings = (do
    if ← Body.takeOwnership surroundings.cluster then return .immediate
    recordWorkspace surroundings.cluster
    owned surroundings) := rfl

theorem keeps_owned {γ : Type} {part : Image → γ} (hpart : ∀ change, (∀ status,
      (change status).workspace = status.workspace) → Keeps part (update change))
    (surroundings : Surroundings) : Keeps part (owned surroundings) := by
  unfold owned
  apply (keeps_reconcileJob hpart _).bind
  rintro (_ | requeue)
  · apply (keeps_getOrCreate hpart _).bind
    rintro (_ | id)
    · exact Keeps.pure _
    · exact keeps_reconcileImage hpart _ id
  · exact Keeps.pure _

end Image

namespace Managed

variable {managed : Managed}

/-- What a pass may do to its object beside changing the status. -/
structure Edits (managed : Managed) (before after : managed.Resource) : Prop where
  foreign : managed.foreignPart after = managed.foreignPart before
  version : after.metadata.resourceVersion = before.metadata.resourceVersion
  marks : (managed.marks before).MadeFrom (managed.marks after)

theorem foreignPart_congr {before after : managed.Resource}
    (hsame : managed.unmarked after = managed.unmarked before) :
    managed.foreignPart after = managed.foreignPart before := by
  obtain ⟨hmetadata, hspec⟩ := Prod.mk.injEq .. ▸ hsame
  simp only [foreignPart, hmetadata, hspec]

/-- What bodies read of the part that belongs to other writers. -/
def readPart (managed : Managed) (object : managed.Resource) : managed.Resource :=
  let part := managed.foreignPart object
  { part with
    metadata := {
      name := part.metadata.name
      generateName := part.metadata.generateName
      «namespace» := part.metadata.namespace
      labels := part.metadata.labels
      deletionTimestamp := part.metadata.deletionTimestamp } }

theorem readPart_congr {before after : managed.Resource}
    (hforeign : managed.foreignPart after = managed.foreignPart before) :
    managed.readPart after = managed.readPart before := by
  simp only [readPart, hforeign]

theorem marks_congr {before after : managed.Resource}
    (hsame : managed.unmarked after = managed.unmarked before) :
    managed.marks after = managed.marks before :=
  congrArg (fun part : Metadata × managed.kind.Spec => managed.metadataMarks part.1) hsame

theorem hasFinalizer_congr {before after : managed.Resource}
    (hsame : managed.unmarked after = managed.unmarked before) :
    managed.hasFinalizer after = managed.hasFinalizer before :=
  congrArg Marks.finalizer (marks_congr hsame)

theorem Edits.refl (object : managed.Resource) : managed.Edits object object :=
  ⟨rfl, rfl, .refl _⟩

theorem Edits.congr {before after first last : managed.Resource}
    (hedits : managed.Edits before after)
    (hfirst : managed.unmarked before = managed.unmarked first)
    (hlast : managed.unmarked last = managed.unmarked after) : managed.Edits first last where
  foreign :=
    calc
      managed.foreignPart last = managed.foreignPart after := foreignPart_congr hlast
      _ = managed.foreignPart before := hedits.foreign
      _ = managed.foreignPart first := foreignPart_congr hfirst
  version :=
    calc
      last.metadata.resourceVersion = after.metadata.resourceVersion :=
        congrArg (·.1.resourceVersion) hlast
      _ = before.metadata.resourceVersion := hedits.version
      _ = first.metadata.resourceVersion := congrArg (·.1.resourceVersion) hfirst
  marks := by
    rw [marks_congr hlast, ← marks_congr hfirst]
    exact hedits.marks

theorem foreignPart_mapMetadata {change : Metadata → Metadata} {object : managed.Resource}
    (hchange : managed.foreignMetadata (change object.metadata) =
      managed.foreignMetadata object.metadata) :
    managed.foreignPart (object.mapMetadata change) = managed.foreignPart object := by
  simp only [foreignPart, Object.mapMetadata, hchange]

theorem edits_pushFinalizer (object : managed.Resource) :
    managed.Edits object (object.mapMetadata (·.pushFinalizer managed.finalizer)) where
  foreign := foreignPart_mapMetadata (by
    simp [foreignMetadata, Metadata.pushFinalizer, Metadata.owners, List.filter_append])
  version := rfl
  marks := ⟨id, .inl rfl⟩

theorem edits_removeFinalizer (object : managed.Resource) :
    managed.Edits object (managed.removeFinalizer object) where
  foreign := foreignPart_mapMetadata (by
    rcases hfinalizers : object.metadata.finalizers with _ | finalizers <;>
      simp [foreignMetadata, Metadata.dropFinalizer, Metadata.owners, hfinalizers])
  version := rfl
  marks := ⟨id, .inl rfl⟩

theorem edits_ensureClusterLabel (cluster : Option managed.Cluster) (object : managed.Resource) :
    managed.Edits object (managed.ensureClusterLabel cluster object).1 ∧
      (managed.ensureClusterLabel cluster object).1.metadata.owners = object.metadata.owners ∧
      (managed.ensureClusterLabel cluster object).1.metadata.finalizers =
        object.metadata.finalizers ∧
      (managed.ensureClusterLabel cluster object).1.status = object.status := by
  unfold ensureClusterLabel
  split
  · exact ⟨Edits.refl object, rfl, rfl, rfl⟩
  · split
    · exact ⟨Edits.refl object, rfl, rfl, rfl⟩
    · refine ⟨⟨foreignPart_mapMetadata (Metadata.foreignMetadata_setLabel _ _), rfl, ?_, .inl rfl⟩,
        rfl, rfl, rfl⟩
      intro hnone
      simp [marks, metadataMarks, Object.mapMetadata, Metadata.setLabel, Metadata.label?] at hnone

theorem refersToCluster_of_clusterReference {cluster : managed.Cluster} {owner : OwnerReference}
    (howner : managed.clusterReference cluster = .ok owner) :
    managed.refersToCluster owner = true := by
  unfold clusterReference ownerReference at howner
  rcases hname : cluster.metadata.name with _ | name
  · rw [hname] at howner
    change Except.error _ = Except.ok owner at howner
    simp at howner
  · rcases huid : cluster.metadata.uid with _ | uid
    · rw [hname, huid] at howner
      change Except.error _ = Except.ok owner at howner
      simp at howner
    · rw [hname, huid] at howner
      rw [← Except.ok.inj howner]
      simp [refersToCluster]

/-- Adopting an object by a cluster that does not own it yet replaces all owners of the kind. -/
theorem Edits.adopt {before after : managed.Resource} (hedits : managed.Edits before after)
    (howners : after.metadata.owners = before.metadata.owners) {owner : OwnerReference}
    (howner : managed.refersToCluster owner = true)
    (hnew : hasOwner after.metadata.owners owner = false) :
    managed.Edits before (after.mapMetadata (·.ensureOwner owner)) where
  foreign := (foreignPart_mapMetadata (Metadata.foreignMetadata_ensureOwner howner _)).trans
    hedits.foreign
  version := hedits.version
  marks := by
    refine ⟨hedits.marks.cluster, .inr ⟨owner, ?_, ?_⟩⟩
    · change hasOwner (before.metadata.owners.filter _) owner = false
      rw [hasOwner_filter howner, ← howners, hnew]
    · change (after.metadata.ensureOwner owner).owners.filter _ = [owner]
      rw [Metadata.filter_owners_ensureOwner howner, hnew]
      rfl

theorem adopt_of_shouldAdopt {cluster : Option managed.Cluster} {object : managed.Resource}
    (hshould : managed.shouldAdopt cluster object = .ok true) :
    ∃ owner, managed.refersToCluster owner = true ∧
      hasOwner object.metadata.owners owner = false ∧
      managed.adopt cluster object = .ok (object.mapMetadata (·.ensureOwner owner), true) := by
  rcases cluster with _ | cluster
  · simp [shouldAdopt] at hshould
  · rcases hreference : managed.clusterReference cluster with error | owner
    · simp [shouldAdopt, hreference, bind, Except.bind] at hshould
    · have hnew : hasOwner object.metadata.owners owner = false := by
        simpa [shouldAdopt, hreference, bind, Except.bind, pure, Except.pure] using hshould
      refine ⟨owner, refersToCluster_of_clusterReference hreference, hnew, ?_⟩
      simp [adopt, hreference, bind, Except.bind, pure, Except.pure, ensureOwner, hnew]

end Managed

namespace Body

variable {managed : Managed}

/-- What has become of an object once ownership is taken. -/
structure Owns (before after : managed.Resource) : Prop where
  edits : managed.Edits before after
  finalizer : managed.hasFinalizer after = true
  status : after.status = before.status

/-- Taking ownership asks nothing, and however it ends, the object carries the finalizer then. -/
theorem takeOwnership_ensures {S : Type} {environment : Environment (outside managed) S}
    (cluster : Option managed.Cluster) (object : managed.Resource) (start : S) :
    ((takeOwnership cluster : Body managed Bool) object).Ensures environment
      (fun after _ surroundings => Owns object after ∧ surroundings = start) start := by
  unfold takeOwnership
  simp only [Action.ensures_bind, Action.ensures_modifyGet, Outcome.follow_ok]
  by_cases hfinalizer : managed.hasFinalizer object = true
  · obtain ⟨hlabelled, howners, hfinalizers, hstatus⟩ :=
      managed.edits_ensureClusterLabel cluster object
    have hkept : managed.hasFinalizer (managed.ensureClusterLabel cluster object).1 = true := by
      rw [← hfinalizer]
      simp only [Managed.hasFinalizer, Metadata.hasFinalizer, hfinalizers]
    simp only [Managed.addFinalizer, if_pos hfinalizer, Bool.false_eq_true, if_false,
      Action.ensures_bind, Action.ensures_modify, Action.ensures_get, Action.ensures_ofExcept,
      Outcome.follow_ok]
    generalize (managed.ensureClusterLabel cluster object).1 = labelled
      at hlabelled howners hkept hstatus ⊢
    rcases hshould : managed.shouldAdopt cluster labelled with error | _ | _
    · exact ⟨⟨hlabelled, hkept, hstatus⟩, trivial⟩
    · exact ⟨⟨hlabelled, hkept, hstatus⟩, rfl⟩
    · obtain ⟨owner, howner, hnew, hadopt⟩ := Managed.adopt_of_shouldAdopt hshould
      simp only [Outcome.follow_ok, if_true, Action.ensures_bind, Action.ensures_get,
        Action.ensures_ofExcept, Action.ensures_set, Action.ensures_pure, hadopt]
      exact ⟨⟨hlabelled.adopt howners howner hnew, hkept, hstatus⟩, trivial⟩
  · simp only [Managed.addFinalizer, if_neg hfinalizer, if_true, Action.ensures_pure]
    refine ⟨⟨managed.edits_pushFinalizer object, ?_, rfl⟩, trivial⟩
    simp [Managed.hasFinalizer, Object.mapMetadata, Metadata.hasFinalizer, Metadata.pushFinalizer]

end Body

theorem Machine.recordRegion_ensures (cluster : Option VpcCluster) (machine : Machine) :
    (recordRegion cluster machine).Ensures (.anything _) (fun after outcome _ =>
      Managed.machine.unmarked after = Managed.machine.unmarked machine ∧
        outcome = .returned (.ok ())) () := by
  unfold recordRegion
  simp only [Action.ensures_bind, Action.ensures_get, Outcome.follow_ok]
  split
  · exact ⟨rfl, rfl⟩
  · split
    · exact ⟨rfl, rfl⟩
    · exact ⟨rfl, rfl⟩

/-- Wherever a normal pass over a machine ends, it has changed no more than it may, and the machine
carries the finalizer. -/
theorem Machine.reconcileNormal_ensures (surroundings : Surroundings) (machine : Machine) :
    (reconcileNormal surroundings machine).Ensures (.anything _) (fun after _ _ =>
      Managed.machine.Edits machine after ∧ Managed.machine.hasFinalizer after = true) () := by
  unfold reconcileNormal
  rw [Action.ensures_bind]
  apply (recordRegion_ensures surroundings.cluster machine).mono
  intro first outcome _ hfirst
  obtain ⟨hfirst, rfl⟩ := hfirst
  rw [Outcome.follow_ok, Action.ensures_bind]
  apply (Body.takeOwnership_ensures surroundings.cluster first ()).mono
  intro owned outcome _ hend
  obtain ⟨⟨hedits, hfinalizer, _⟩, _⟩ := hend
  have howned := hedits.congr hfirst rfl
  rcases outcome with (error | _ | _) | _ | text
  · exact ⟨howned, hfinalizer⟩
  · apply (Machine.keeps_owned (fun _ _ => Managed.machine.keeps_update _) surroundings owned).mono
    intro after _ _ hafter
    exact ⟨howned.congr rfl hafter, (Managed.hasFinalizer_congr hafter).trans hfinalizer⟩
  · exact ⟨howned, hfinalizer⟩
  · exact ⟨howned, hfinalizer⟩
  · exact ⟨howned, hfinalizer⟩

theorem Image.reconcileNormal_ensures (surroundings : Surroundings) (image : Image) :
    (reconcileNormal surroundings image).Ensures (.anything _) (fun after _ _ =>
      Managed.image.Edits image after ∧ Managed.image.hasFinalizer after = true) () := by
  rw [reconcileNormal_eq, Action.ensures_bind]
  apply (Body.takeOwnership_ensures surroundings.cluster image ()).mono
  intro owned outcome _ hend
  obtain ⟨⟨hedits, hfinalizer, _⟩, _⟩ := hend
  rcases outcome with (error | _ | _) | _ | text
  · exact ⟨hedits, hfinalizer⟩
  · have hkeeps : Step.Keeps Managed.image.unmarked (do
        recordWorkspace surroundings.cluster
        Image.owned surroundings : Pass Requeue) :=
      (keeps_recordWorkspace _).bind fun _ =>
        keeps_owned (fun _ _ => Managed.image.keeps_update _) surroundings
    apply (hkeeps owned).mono
    intro after _ _ hafter
    exact ⟨hedits.congr rfl hafter, (Managed.hasFinalizer_congr hafter).trans hfinalizer⟩
  · exact ⟨hedits, hfinalizer⟩
  · exact ⟨hedits, hfinalizer⟩
  · exact ⟨hedits, hfinalizer⟩

/-- Whatever happens to a normal pass, it leaves an object with the finalizer on it. -/
theorem Managed.normal_ensures {managed : Managed} (surroundings : Surroundings managed)
    {object : managed.Resource} (hnormal : object.metadata.isDeleting = false) :
    (managed.body surroundings object object).Ensures (.anything _) (fun after _ _ =>
      managed.Edits object after ∧ managed.hasFinalizer after = true) () := by
  cases managed with
  | machine =>
      simp only [body, hnormal, Bool.false_eq_true, if_false]
      exact Machine.reconcileNormal_ensures surroundings object
  | image =>
      simp only [body, hnormal, Bool.false_eq_true, if_false]
      exact Image.reconcileNormal_ensures surroundings object

end Reconciler
