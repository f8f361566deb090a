import Reconciler.Proofs.Asking

/-!
# Machines once their marks are on

A normal pass over a machine records the region and takes ownership before it asks anything.  What
it goes on with differs from the machine as fetched in the region and in the marks only.
-/

namespace Reconciler

namespace Managed

variable {managed : Managed} {left right : managed.Resource}

theorem label?_of_readPart (hread : managed.readPart right = managed.readPart left)
    {key : String} (hkey : key ≠ clusterNameLabel) :
    right.metadata.label? key = left.metadata.label? key := by
  have hlabels : (right.metadata.labels.getD ∅).erase clusterNameLabel =
      (left.metadata.labels.getD ∅).erase clusterNameLabel :=
    Option.some.inj (congrArg (fun part : managed.Resource => part.metadata.labels) hread)
  have hget (labels : Option (StringMap String)) :
      labels.bind (·.get? key) = (labels.getD ∅).get? key := by
    cases labels <;> rfl
  unfold Metadata.label?
  rw [hget, hget, ← StringMap.get?_erase hkey, hlabels, StringMap.get?_erase hkey]

theorem body_of_normal (surroundings : Surroundings .machine) {machine : Machine}
    (hnormal : machine.metadata.isDeleting = false) :
    Managed.machine.body surroundings machine = Machine.reconcileNormal surroundings :=
  if_neg (Bool.eq_false_iff.mp hnormal)

theorem body_of_deleting (surroundings : Surroundings .machine) {machine : Machine}
    (hdeleting : machine.metadata.isDeleting = true) :
    Managed.machine.body surroundings machine = Machine.reconcileDelete surroundings :=
  if_pos hdeleting

end Managed

namespace Machine

open Step (Keeps)

/-- What bodies read of a machine beside its marks and its status is the same. -/
structure Alike (left right : Machine) : Prop where
  spec : right.spec = left.spec
  named : right.metadata.nameAny = left.metadata.nameAny
  placed : right.metadata.namespaceAny = left.metadata.namespaceAny
  controlPlane : right.isControlPlane = left.isControlPlane

theorem Alike.of_readPart {left right : Machine}
    (hread : Managed.machine.readPart right = Managed.machine.readPart left) :
    Alike left right where
  spec := (congrArg (fun part => part.spec) hread :)
  named := (congrArg (fun part => part.metadata.nameAny) hread :)
  placed := (congrArg (fun part => part.metadata.namespaceAny) hread :)
  controlPlane := congrArg Option.isSome (Managed.label?_of_readPart hread (by decide))

theorem Alike.instanceName {left right : Machine} (halike : Alike left right) :
    right.instanceName = left.instanceName := by
  rw [Machine.instanceName, Machine.instanceName, halike.spec, halike.named]

/-- The machine that a normal pass goes on with once its marks are on. -/
structure Prepared (fetched machine : Machine) : Prop where
  alike : Alike fetched machine
  instanceId : machine.instanceId = fetched.instanceId
  internalAddress : machine.internalAddress = fetched.internalAddress

/-- All of a status but the region. -/
def regionless (status : MachineStatus) : MachineStatus := { status with region := none }

/-- Beside the region, the status of the machine is the fetched one as well. -/
structure Continued (fetched machine : Machine) : Prop extends Prepared fetched machine where
  status : regionless machine.standing = regionless fetched.standing

/-- The record of a machine. -/
def recorded (machine : Machine) : MachineStatus := record (machine.status.getD default)

theorem instanceId_eq_recorded (machine : Machine) :
    machine.instanceId = machine.recorded.instanceId.filter (!·.isEmpty) := by
  rcases hstatus : machine.status with _ | status <;>
    simp [instanceId, recorded, record, hstatus, default]

theorem region_eq_recorded (machine : Machine) :
    machine.region = machine.recorded.region.filter (!·.isEmpty) := by
  rcases hstatus : machine.status with _ | status <;>
    simp [region, recorded, record, hstatus, default]

theorem internalAddress_eq_recorded (machine : Machine) : machine.internalAddress =
    (machine.recorded.addresses.find? (·.type == .internalIP)).map (·.address) := by
  rcases hstatus : machine.status with _ | status <;>
    simp [internalAddress, recorded, record, hstatus, default]

/-- Changes of how ready the machine is leave the record alone. -/
theorem keeps_recorded {change : MachineStatus → MachineStatus}
    (hchange : ∀ status, record (change status) = record status) :
    Keeps recorded (update change) :=
  Keeps.modify fun machine => hchange (machine.status.getD default)

/-- Once the instance is recorded, the rest of a normal pass leaves the record alone. -/
theorem keeps_recorded_reconcileInstance (surroundings : Surroundings) (found : Instance) :
    Keeps recorded (reconcileInstance surroundings found) :=
  keeps_reconcileInstance (fun _ hchange => keeps_recorded hchange) surroundings found

theorem keeps_regionless_recordRegion (cluster : Option VpcCluster) :
    Keeps (fun machine : Machine => regionless machine.standing) (recordRegion cluster) := by
  unfold recordRegion
  apply Keeps.get.bind
  intro machine
  split
  · exact Keeps.pure _
  · split
    · exact Keeps.pure _
    · exact Keeps.modify fun _ => rfl

/-- The identifier of the node is known, or else it is the one of the instance. -/
def identified (cluster : Option VpcCluster) (found : Instance) (status : MachineStatus) :
    MachineStatus :=
  if (status.providerId.filter (!·.isEmpty)).isSome then status
  else { status with
    providerId := some (providerId ((cluster.map (·.metadata.nameAny)).getD "") found.id) }

/-- What is on record once an instance was recorded. -/
def noted (cluster : Option VpcCluster) (found : Instance) (status : MachineStatus) :
    MachineStatus :=
  observed found (identified cluster found status)

variable {S : Type} {environment : Environment (outside .machine) S}

/-- To record an instance records all there is to it, unless the instance cannot be tagged. -/
theorem recordInstance_ensures (surroundings : Surroundings) (found : Instance) (machine : Machine)
    (start : S) :
    (recordInstance surroundings found machine).Ensures environment (fun after outcome _ =>
      (after = machine ∧ ¬outcome.Succeeded) ∨
        (after = machine.mapStatus (noted surroundings.cluster found) ∧
          outcome = .returned (.ok ()))) start := by
  have hknown : (machine.status.bind (·.providerId)).filter (!·.isEmpty) =
      machine.standing.providerId.filter (!·.isEmpty) := by
    rcases hstatus : machine.status with _ | status <;>
      simp [Object.standing, hstatus, default]
  unfold recordInstance
  rw [Action.ensures_bind, Action.ensures_get, Outcome.follow_ok]
  dsimp only
  rw [hknown]
  by_cases hidentified : (machine.standing.providerId.filter (!·.isEmpty)).isSome = true
  · rw [if_neg (by simp [hidentified])]
    refine .inr ⟨Object.mapStatus_congr ?_, rfl⟩
    rw [noted, identified, if_pos hidentified]
  · have hrecorded (start : S) : Program.Ensures environment ((do
        update fun status => { status with
          providerId := some (providerId
            ((surroundings.cluster.map (·.metadata.nameAny)).getD "") found.id) }
        update (observed found) : Pass Unit) machine) (fun after outcome _ =>
          (after = machine ∧ ¬outcome.Succeeded) ∨
            (after = machine.mapStatus (noted surroundings.cluster found) ∧
              outcome = .returned (.ok ()))) start := by
      have hnoted := congrArg (observed found)
        (if_neg hidentified : identified surroundings.cluster found machine.standing = _)
      exact .inr ⟨congrArg (fun status => { machine with status := some status }) hnoted.symm, rfl⟩
    rw [if_pos (by simpa using hidentified)]
    rcases found.crn with _ | crn
    · exact hrecorded start
    · simp only [Action.ensures_bind, Body.ensures_callFor]
      rintro ((error | _) | _ | text) after -
      · exact .inl ⟨trivial, Outcome.not_succeeded_error _⟩
      · exact hrecorded after
      · exact .inl ⟨trivial, Outcome.not_succeeded_expired⟩
      · exact .inl ⟨trivial, Outcome.not_succeeded_panicked _⟩

/-- Recording the region leaves a machine as it was, or one with another region in its status. -/
theorem recordRegion_prepares (cluster : Option VpcCluster) (machine : Machine) (start : S) :
    (recordRegion cluster machine).Ensures environment (fun after outcome surroundings =>
      Prepared machine after ∧ after.metadata = machine.metadata ∧
        outcome = .returned (.ok ()) ∧ surroundings = start) start := by
  have hsame : Prepared machine machine := ⟨.of_readPart rfl, rfl, rfl⟩
  unfold recordRegion
  simp only [Action.ensures_bind, Action.ensures_get, Outcome.follow_ok]
  split
  · exact ⟨hsame, rfl, rfl, rfl⟩
  · split
    · exact ⟨hsame, rfl, rfl, rfl⟩
    · refine ⟨⟨⟨rfl, rfl, rfl, rfl⟩, ?_, ?_⟩, rfl, rfl, rfl⟩ <;>
        rcases hstatus : machine.status with _ | status <;>
          simp [Machine.instanceId, Machine.internalAddress, Object.mapStatus, hstatus, default]

/-- A normal pass ends where it has taken ownership, wanting to come back at once unless that
failed, or goes on from there. -/
theorem reconcileNormal_ensures_of_marked {surroundings : Surroundings} {fetched : Machine}
    {post : Machine → Outcome (Except Error Requeue) → S → Prop} {start : S}
    (hended : ∀ machine outcome, Continued fetched machine →
      (∀ requeue, outcome = .returned (.ok requeue) → requeue = .immediate) →
      post machine outcome start)
    (howned : ∀ machine, Continued fetched machine →
      (owned surroundings machine).Ensures environment post start) :
    (reconcileNormal surroundings fetched).Ensures environment post start := by
  rw [reconcileNormal_eq, Action.ensures_bind]
  apply ((recordRegion_prepares surroundings.cluster fetched start).and
    ((keeps_regionless_recordRegion surroundings.cluster fetched).anywhere start)).mono
  rintro recorded _ _ ⟨⟨hrecorded, hmetadata, rfl, rfl⟩, hregionless⟩
  rw [Outcome.follow_ok, Action.ensures_bind]
  apply (Body.takeOwnership_ensures surroundings.cluster recorded _).mono
  rintro machine outcome _ ⟨howns, rfl⟩
  have halike : Alike recorded machine :=
    .of_readPart (Managed.readPart_congr howns.edits.foreign)
  have hcontinued : Continued fetched machine :=
    { alike :=
        { spec := halike.spec.trans hrecorded.alike.spec
          named := halike.named.trans hrecorded.alike.named
          placed := halike.placed.trans hrecorded.alike.placed
          controlPlane := halike.controlPlane.trans hrecorded.alike.controlPlane }
      instanceId := by
        rw [← hrecorded.instanceId, Machine.instanceId, Machine.instanceId, howns.status]
      internalAddress := by
        rw [← hrecorded.internalAddress, Machine.internalAddress, Machine.internalAddress,
          howns.status]
      status := by
        refine Eq.trans ?_ hregionless
        simp only [Object.standing, howns.status] }
  rcases outcome with (error | _ | _) | _ | text
  · exact hended machine _ hcontinued nofun
  · exact howned machine hcontinued
  · exact hended machine _ hcontinued (by rintro _ ⟨⟩; rfl)
  · exact hended machine _ hcontinued nofun
  · exact hended machine _ hcontinued nofun

theorem reconcileNormal_ensures_of_continued {surroundings : Surroundings} {fetched : Machine}
    {post : Machine → Outcome (Except Error Requeue) → S → Prop} {start : S}
    (hended : ∀ machine outcome, Continued fetched machine → post machine outcome start)
    (howned : ∀ machine, Continued fetched machine →
      (owned surroundings machine).Ensures environment post start) :
    (reconcileNormal surroundings fetched).Ensures environment post start :=
  reconcileNormal_ensures_of_marked
    (fun machine outcome hcontinued _ => hended machine outcome hcontinued)
    howned

theorem reconcileNormal_ensures_of_owned {surroundings : Surroundings} {fetched : Machine}
    {post : Machine → Outcome (Except Error Requeue) → S → Prop} {start : S}
    (hended : ∀ machine outcome, Prepared fetched machine → post machine outcome start)
    (howned : ∀ machine, Prepared fetched machine →
      (owned surroundings machine).Ensures environment post start) :
    (reconcileNormal surroundings fetched).Ensures environment post start :=
  reconcileNormal_ensures_of_continued
    (fun machine outcome hcontinued => hended machine outcome hcontinued.toPrepared)
    fun machine hcontinued => howned machine hcontinued.toPrepared

end Machine

end Reconciler
