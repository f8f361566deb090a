import Reconciler.Proofs.QuietImage
import Reconciler.Proofs.QuietMachine
import Reconciler.Proofs.Teardown

/-!
# What is recorded once

The status has the region or the workspace that the calls for an object go to and, for machines, the
identifier of the node.  Bodies record these where they are missing and leave them alone from then
on.  A normal pass has its target on record before it asks anything.
-/

namespace Reconciler

/-- The question is a call to the provider. -/
def BodyQuestion.isCall {managed : Managed} : BodyQuestion managed → Bool
  | .cloud _ => true
  | .secret .. => false
  | .publish .. => false

namespace Machine

open Time (Instant)

variable {machine : Machine} {id : String}

/-- The recorded identifier of the node, unless the record is empty. -/
def nodeId (machine : Machine) : Option String :=
  (machine.status.bind (·.providerId)).filter (!·.isEmpty)

/-- What is on record about a machine for good: the identifier of its node and its region. -/
@[mk_iff]
structure Retains (before after : Machine) : Prop where
  nodeId : ∀ id, before.nodeId = some id → after.nodeId = some id
  region : ∀ region, before.region = some region → after.region = some region

theorem nodeId_eq_standing (machine : Machine) :
    machine.nodeId = machine.standing.providerId.filter (!·.isEmpty) := by
  rcases hstatus : machine.status with _ | status <;>
    simp [nodeId, Object.standing, hstatus, default]

theorem nodeId_eq_recorded (machine : Machine) :
    machine.nodeId = machine.recorded.providerId.filter (!·.isEmpty) :=
  nodeId_eq_standing machine

/-- The identifier of the node is recorded once. -/
theorem nodeId_noted (hid : machine.nodeId = some id) (cluster : Option VpcCluster)
    (found : Instance) : nodeId (machine.mapStatus (noted cluster found)) = some id := by
  rw [nodeId_eq_standing] at hid
  rw [nodeId_eq_standing, Object.standing_mapStatus, noted, identified, if_pos (by rw [hid]; rfl)]
  exact hid

theorem owned_nodeId (surroundings : Surroundings) (hid : machine.nodeId = some id) :
    (owned surroundings machine).Ensures (.anything _) (fun after _ _ => after.nodeId = some id)
      () := by
  have hkeeps : Step.Keeps (fun machine => machine) (getOrCreate surroundings) :=
    keeps_getOrCreate surroundings
  unfold owned
  simp only [Action.ensures_bind, Action.ensures_get, Outcome.follow_ok]
  split
  · exact hid
  · rw [Action.ensures_bind]
    apply (hkeeps machine).mono
    rintro _ ((error | _ | found) | _ | text) _ rfl
    · exact hid
    · rw [nodeId_eq_standing] at hid
      exact (nodeId_eq_standing _).trans hid
    · rw [Outcome.follow_ok, Action.ensures_bind]
      apply (recordInstance_ensures surroundings found _ ()).mono
      rintro _ outcome _ (⟨rfl, hfailed⟩ | ⟨rfl, rfl⟩)
      · rcases outcome with (error | _) | _ | text
        · exact hid
        · exact absurd trivial hfailed
        · exact hid
        · exact hid
      · rw [Outcome.follow_ok]
        apply (keeps_recorded_reconcileInstance surroundings found _).mono
        intro after _ _ hrecorded
        rw [nodeId_eq_recorded, hrecorded, ← nodeId_eq_recorded]
        exact nodeId_noted hid _ found
    · exact hid
    · exact hid

theorem reconcileNormal_nodeId (surroundings : Surroundings) (hid : machine.nodeId = some id) :
    (reconcileNormal surroundings machine).Ensures (.anything _)
      (fun after _ _ => after.nodeId = some id) () := by
  have hcontinued {later : Machine} (hthis : Continued machine later) : later.nodeId = some id := by
    rw [nodeId_eq_standing] at hid ⊢
    rw [← hid]
    exact congrArg (fun status : MachineStatus => status.providerId.filter (!·.isEmpty))
      hthis.status
  exact reconcileNormal_ensures_of_continued (fun _ _ hthis => hcontinued hthis) fun _ hthis =>
    owned_nodeId surroundings (hcontinued hthis)

/-- Where the calls of a normal pass go is on record as soon as it starts. -/
theorem region_withRegion (cluster : VpcCluster) (machine : Machine) :
    (withRegion cluster machine).region =
      (Machine.target machine (some cluster)).filter (!·.isEmpty) := by
  have hfilter : machine.region.filter (!·.isEmpty) = machine.region := by
    simp [region, Option.filter_filter]
  unfold withRegion Machine.target
  rcases hregion : machine.region with _ | region
  · rfl
  · rw [hregion] at hfilter
    rw [Option.isSome_some, if_pos rfl, hregion]
    exact hfilter.symm

theorem reconcileNormal_region (cluster : VpcCluster) (settings : Settings) (now : Instant)
    (machine : Machine) :
    (reconcileNormal ⟨some cluster, settings, now⟩ machine).Ensures (.anything _) (fun after _ _ =>
      after.region = (Machine.target machine (some cluster)).filter (!·.isEmpty)) () := by
  rw [reconcileNormal_eq, Action.ensures_bind]
  apply (recordRegion_ensures_withRegion cluster machine ()).mono
  rintro _ _ _ ⟨rfl, rfl, -⟩
  apply (keeps_region_marked ⟨some cluster, settings, now⟩ _).mono
  intro after _ _ (hregion : after.recorded.region = (withRegion cluster machine).recorded.region)
  rw [region_eq_recorded, hregion, ← region_eq_recorded, region_withRegion]

/-- Without the finalizer a delete pass asks nothing. -/
theorem reconcileDelete_idle (surroundings : Surroundings)
    (hreleased : Managed.machine.hasFinalizer machine = false) :
    (reconcileDelete surroundings machine).Ensures (.recording _)
      (fun _ _ seen => seen = []) [] := by
  unfold reconcileDelete
  simp [hreleased]

end Machine

/-- Where the calls for an object go that has the workspace on record. -/
def Workspace.target (workspace : Workspace) : WorkspaceTarget :=
  ⟨some workspace.serviceInstanceId, workspace.zone, workspace.region⟩

namespace Image

open Time (Instant)

variable {image : Image}

theorem target_eq_of_workspace {workspace : Workspace}
    (hworkspace : image.workspace = some workspace) (cluster : Option PowerVsCluster) :
    image.target cluster = workspace.target := by
  rw [← workspace_eq] at hworkspace
  rw [Image.target, hworkspace]
  rfl

theorem workspace_withWorkspace_of_recorded {workspace : Workspace}
    (hworkspace : image.workspace = some workspace) (cluster : PowerVsCluster) :
    (withWorkspace cluster image).workspace = some workspace := by
  rw [withWorkspace, if_pos (by rw [hworkspace]; rfl), hworkspace]

/-- Once the workspace is recorded, the calls go to what is on record. -/
theorem exists_workspace_withWorkspace (cluster : PowerVsCluster) {id : String}
    (hid : (image.target (some cluster)).serviceInstanceId = some id) :
    ∃ workspace, (withWorkspace cluster image).workspace = some workspace ∧
      workspace.target = image.target (some cluster) := by
  rcases hworkspace : image.workspace with _ | workspace
  · have hrecorded : (withWorkspace cluster image).workspace =
        some ⟨id, (image.target (some cluster)).zone, (image.target (some cluster)).region⟩ := by
      rw [withWorkspace, hworkspace, Option.isSome_none, if_neg Bool.false_ne_true]
      simp only [hid]
      rfl
    refine ⟨_, hrecorded, ?_⟩
    rw [Workspace.target, ← hid]
  · exact ⟨workspace, workspace_withWorkspace_of_recorded hworkspace cluster,
      (target_eq_of_workspace hworkspace _).symm⟩

/-- A normal pass either ends before it has asked anything, or has its workspace on record. -/
theorem reconcileNormal_workspace (cluster : PowerVsCluster) (settings : Settings) (now : Instant)
    (image : Image) :
    (reconcileNormal ⟨some cluster, settings, now⟩ image).Ensures (.recording _)
      (fun after _ seen => (after.status = image.status ∧ seen = []) ∨
        after.workspace = (withWorkspace cluster image).workspace) [] := by
  rw [reconcileNormal_eq, Action.ensures_bind]
  apply (@Body.takeOwnership_ensures .image _ _ (some cluster) image []).mono
  rintro marked outcome _ ⟨howns, rfl⟩
  have hmarked : (withWorkspace cluster marked).workspace =
      (withWorkspace cluster image).workspace := by
    have hworkspace : workspace marked = image.workspace := by
      simp only [workspace, howns.status]
    have htarget : Image.target marked (some cluster) = image.target (some cluster) :=
      target_congr (Prod.ext hworkspace
        (spec_of_readPart (Managed.readPart_congr howns.edits.foreign))) cluster
    have hstanding (change : ImageStatus → ImageStatus) :
        workspace (Object.mapStatus change marked) = workspace (image.mapStatus change) := by
      simp only [workspace, Object.mapStatus, howns.status]
    unfold withWorkspace
    rw [hworkspace, htarget]
    split
    · exact hworkspace
    · dsimp only
      split
      · exact hworkspace
      · exact hstanding _
  rcases outcome with (error | _ | _) | _ | text
  · exact .inl ⟨howns.status, rfl⟩
  · rw [Outcome.follow_ok, if_neg Bool.false_ne_true, Action.ensures_bind]
    apply (recordWorkspace_ensures_withWorkspace cluster marked []).mono
    rintro _ _ _ ⟨rfl, rfl, rfl⟩
    apply ((keeps_placement_owned ⟨some cluster, settings, now⟩ _).anywhere []).mono
    intro after _ _ hplacement
    exact .inr ((congrArg Prod.fst hplacement).trans hmarked)
  · exact .inl ⟨howns.status, rfl⟩
  · exact .inl ⟨howns.status, rfl⟩
  · exact .inl ⟨howns.status, rfl⟩

/-- With neither an image nor a job on record a delete pass makes no call. -/
theorem reconcileDelete_callless (surroundings : Surroundings) (himage : image.imageId = none)
    (hjob : image.jobId = none) :
    (reconcileDelete surroundings image).Ensures (.recording _) (fun _ _ seen =>
      ∀ exchange ∈ seen, exchange.question.isCall = false) [] := by
  cases hfinalizer : Managed.image.hasFinalizer image with
  | false =>
      unfold reconcileDelete
      simp [hfinalizer]
  | true =>
      apply (reconcileDelete_tornDown surroundings image hfinalizer).mono
      rintro after _ seen ⟨hplanned, -⟩ ⟨question, ending⟩ hmem
      rcases question with call | _ | _
      · have hnothing := hplanned _ hmem call rfl
        simp [teardownCall, himage, hjob] at hnothing
      · rfl
      · rfl

end Image

namespace Managed

variable {managed : Managed} {before after : managed.Resource}

/-- Where calls go according to what is on record. -/
def recordedTarget : (managed : Managed) → managed.Resource → Option managed.Target
  | .machine, object => (Machine.region object).map some
  | .image, object => (Image.workspace object).map (·.target)

/-- The target says where calls go: it has a region or a workspace that is not empty. -/
def Names : (managed : Managed) → managed.Target → Prop
  | .machine, region => (region.filter (!·.isEmpty)).isSome = true
  | .image, target => (target.serviceInstanceId.filter (!·.isEmpty)).isSome = true

instance (target : Managed.machine.Target) : Decidable (Managed.machine.Names target) :=
  inferInstanceAs (Decidable (_ = true))

/-- What is on record about an object for good is still on record: for machines the identifier of
the node and the region, for images the workspace. -/
def Retains : (managed : Managed) → managed.Resource → managed.Resource → Prop
  | .machine, before, after => Machine.Retains before after
  | .image, before, after =>
    ∀ workspace, Image.workspace before = some workspace → Image.workspace after = some workspace

/-- Delete passes over the object make no calls unless their target is on record. -/
def Anchored : (managed : Managed) → managed.Resource → Prop
  | .machine, object =>
    Managed.machine.hasFinalizer object = true → (Machine.region object).isSome = true
  | .image, object =>
    (Image.workspace object).isSome = true ∨ Image.imageId object = none ∧ Image.jobId object = none

theorem Retains.refl (object : managed.Resource) : managed.Retains object object := by
  cases managed with
  | machine => exact ⟨fun _ => id, fun _ => id⟩
  | image => exact fun _ => id

theorem Retains.trans {first second third : managed.Resource}
    (hfirst : managed.Retains first second) (hsecond : managed.Retains second third) :
    managed.Retains first third := by
  cases managed with
  | machine =>
      exact ⟨fun id hid => hsecond.nodeId id (hfirst.nodeId id hid),
        fun region hregion => hsecond.region region (hfirst.region region hregion)⟩
  | image => exact fun workspace hworkspace => hsecond workspace (hfirst workspace hworkspace)

/-- What is on record is so in the status. -/
theorem retains_congr {first last : managed.Resource} (hfirst : first.status = before.status)
    (hlast : last.status = after.status) :
    managed.Retains first last ↔ managed.Retains before after := by
  cases managed with
  | machine =>
      simp only [Retains, Machine.retains_iff, Machine.nodeId, Machine.region, hfirst, hlast]
  | image => simp only [Retains, Image.workspace, hfirst, hlast]

theorem recordedTarget_congr (hstatus : after.status = before.status) :
    managed.recordedTarget after = managed.recordedTarget before := by
  cases managed <;> simp only [recordedTarget, Machine.region, Image.workspace, hstatus]

variable {target : managed.Target}

/-- What is on record decides where calls go, whatever the cluster says. -/
theorem targetOf_of_recorded (hrecorded : managed.recordedTarget before = some target)
    (cluster : Option managed.Cluster) : managed.targetOf before cluster = target := by
  cases managed with
  | machine =>
      obtain ⟨region, hregion, rfl⟩ := Option.map_eq_some_iff.mp hrecorded
      simp [targetOf, Machine.target, hregion]
  | image =>
      obtain ⟨workspace, hworkspace, rfl⟩ := Option.map_eq_some_iff.mp hrecorded
      exact Image.target_eq_of_workspace hworkspace cluster

theorem Retains.recordedTarget (hretains : managed.Retains before after)
    (hrecorded : managed.recordedTarget before = some target) :
    managed.recordedTarget after = some target := by
  cases managed with
  | machine =>
      obtain ⟨region, hregion, rfl⟩ := Option.map_eq_some_iff.mp hrecorded
      exact Option.map_eq_some_iff.mpr ⟨region, hretains.region region hregion, rfl⟩
  | image =>
      obtain ⟨workspace, hworkspace, rfl⟩ := Option.map_eq_some_iff.mp hrecorded
      exact Option.map_eq_some_iff.mpr ⟨workspace, hretains workspace hworkspace, rfl⟩

/-- Without a finalizer that it did not have before, an object stays anchored. -/
theorem Anchored.congr (hanchored : managed.Anchored before)
    (hstatus : after.status = before.status)
    (hfinalizer : managed.hasFinalizer after = true → managed.hasFinalizer before = true) :
    managed.Anchored after := by
  cases managed with
  | machine =>
      intro hthis
      have hregion := hanchored (hfinalizer hthis)
      rwa [Machine.region, ← hstatus] at hregion
  | image =>
      simp only [Anchored, Image.workspace, Image.imageId, Image.jobId] at hanchored ⊢
      rwa [hstatus]

end Managed

end Reconciler
