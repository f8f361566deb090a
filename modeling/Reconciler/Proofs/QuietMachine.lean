import Reconciler.Proofs.Conditions
import Reconciler.Proofs.Owned
import Reconciler.Proofs.Rest

/-!
# Machines at rest

A normal pass over a machine that changes nothing at the provider finds the instance and records it,
or finds that there is none to record yet.  Taken again on what it left, it goes by the recorded id
instead of the name, comes to the same instance, and finds everything recorded already.
-/

namespace Reconciler

/-- Instances are looked up in one set, where no two have the same id or the same name. -/
def Reads.Coherent : {managed : Managed} → Reads managed → Prop
  | .machine, reads =>
    (∀ id found, reads.cloud (.getInstance id) = .returned (.ok (some found)) → found.id = id) ∧
    ∀ name found, reads.cloud (.getInstanceByName name) = .returned (.ok (some found)) →
      reads.cloud (.getInstance found.id) = .returned (.ok (some found))
  | .image, _ => True

namespace Membership

open Step (Determined)

variable {σ : Type} {reads : Reads .machine}

theorem determined_findLoadBalancer (reference : ResourceReference) :
    Determined reads (findLoadBalancer reference : Calls σ _) := by
  unfold findLoadBalancer
  split
  · exact Determined.call _
  · exact Determined.call _
  · exact Determined.pure none

theorem determined_ensureMember (loadBalancer : LoadBalancer) (pool : Pool) (address : String)
    (port : Int) (weight : Option Int) :
    Determined reads (ensureMember loadBalancer pool address port weight : Calls σ _) := by
  unfold ensureMember
  apply (Determined.call _).bind
  intro members
  split
  · exact Determined.pure _
  · split
    · exact Determined.pure true
    · exact (Determined.call _).bind fun _ => Determined.pure _

theorem determined_registerOne (membership : PoolMembership) (address : String) :
    Determined reads (registerOne membership address : Calls σ _) := by
  unfold registerOne
  apply (determined_findLoadBalancer _).bind
  intro found
  split
  · exact Determined.throw _
  · split
    · exact Determined.throw _
    · exact determined_ensureMember _ _ _ _ _

theorem determined_register (address : String) (memberships : List PoolMembership) :
    Determined reads (register address memberships : Calls σ _) := by
  induction memberships with
  | nil => exact Determined.pure false
  | cons membership rest ih =>
      exact (determined_registerOne membership address).bind fun _ =>
        ih.bind fun _ => Determined.pure _

theorem determined_controlPlanePool (cluster : VpcCluster) :
    Determined reads (controlPlanePool cluster : Calls σ _) := by
  unfold controlPlanePool
  split
  · exact Determined.throw _
  · apply (Determined.call _).bind
    intro found
    split
    · exact Determined.throw _
    · split
      · exact Determined.throw _
      · exact Determined.pure _

theorem determined_registerControlPlane (cluster : VpcCluster) (address : Option String) :
    Determined reads (registerControlPlane cluster address : Calls σ _) := by
  unfold registerControlPlane
  apply (Determined.ofExcept _).bind
  intro address
  exact (determined_controlPlanePool cluster).bind fun _ => determined_ensureMember _ _ _ _ _

end Membership

namespace Machine

open Step (Calms Determined Ends Keeps Never Rests Settled Settles)
open Time (Instant)

theorem settles_notReady (reason : String) (severity : ConditionSeverity) (message : String) :
    Settles (notReady reason severity message) := fun earlier later status =>
  congrArg (fun conditions : Conditions => { status with ready := false, conditions })
    (Conditions.markFalse_markFalse _ _ _ _ earlier later status.conditions)

theorem settles_unknownState (message : String) : Settles (unknownState message) :=
  fun earlier later status =>
    congrArg (fun conditions : Conditions => { status with ready := false, conditions })
      (Conditions.markUnknown_markUnknown _ _ _ earlier later status.conditions)

theorem settles_errored (message : String) : Settles (errored message) :=
  fun earlier later status =>
    congrArg (fun conditions : Conditions => { status with
      ready := false, failureReason := some updateError, failureMessage := some message,
      conditions }) (Conditions.markFalse_markFalse _ _ _ _ earlier later status.conditions)

theorem settles_nowReady : Settles nowReady := fun earlier later status =>
  congrArg (fun conditions : Conditions => { status with
    ready := true, failureReason := none, failureMessage := none, conditions })
    (Conditions.markTrue_markTrue _ earlier later status.conditions)

/-- Registers a machine where its spec and its labels say. -/
def registration (cluster : Option VpcCluster) (found : Instance) (machine : Machine) :
    Pass (Option Bool) := do
  let members := machine.spec.loadBalancerPoolMembers
  if !members.isEmpty then
    let address ← Action.ofExcept (Membership.usableAddress found.primaryAddress)
    some <$> Membership.register address members
  else if machine.isControlPlane then
    match cluster with
    | none => return none
    | some cluster => some <$> Membership.registerControlPlane cluster found.primaryAddress
  else return some false

theorem registerRunning_eq (surroundings : Surroundings) (found : Instance) :
    registerRunning surroundings found =
      get >>= registration surroundings.cluster found := rfl

variable {reads : Reads .machine}

theorem determined_registration (cluster : Option VpcCluster) (found : Instance)
    (machine : Machine) : Determined reads (registration cluster found machine) := by
  unfold registration
  dsimp only
  split
  · apply (Determined.ofExcept _).bind
    intro address
    exact (Membership.determined_register _ _).map _
  · split
    · split
      · exact Determined.pure _
      · exact (Membership.determined_registerControlPlane _ _).map _
    · exact Determined.pure _

theorem Alike.registration {left right : Machine} (halike : Alike left right)
    (cluster : Option VpcCluster) (found : Instance) :
    registration cluster found right = registration cluster found left := by
  unfold Machine.registration
  rw [halike.spec, halike.controlPlane]

theorem reconcileRunning_calms (cluster : Option VpcCluster) (settings : Settings)
    (found : Instance) (machine : Machine) :
    Calms reads (fun now => reconcileRunning ⟨cluster, settings, now⟩ found) machine := by
  apply Calms.bind_of_keeps Managed.machine.readPart fun hreturned => hreturned.read
  · intro now
    rw [registerRunning_eq, Action.ensures_bind, Action.ensures_get, Outcome.follow_ok]
    have hregistered : Determined reads (registration cluster found machine) :=
      determined_registration cluster found machine
    rcases hregistered with ⟨outcome, hends⟩ | hnever
    · apply (hends machine).quietly.mono
      rintro after _ _ ⟨hafter, rfl⟩
      subst hafter
      refine ⟨fun later hread now => ?_, ?_⟩
      · dsimp only
        rw [registerRunning_eq, Action.ensures_bind, Action.ensures_get, Outcome.follow_ok,
          (Alike.of_readPart hread).registration]
        exact hends later
      · rintro (_ | _ | _) rfl <;> dsimp only
        · exact Determined.calms (Determined.pure _) _
        · exact Calms.update .machine settles_nowReady (Determined.pure _) after
        · exact Calms.update .machine (settles_notReady _ _ _) (Determined.pure _) after
    · exact hnever.quiet machine
  · have hupdate (change : MachineStatus → MachineStatus) (requeue : Requeue) :
        Keeps Managed.machine.readPart (do update change; return requeue : Pass Requeue) :=
      Keeps.bind (Keeps.modify fun _ => rfl : Keeps Managed.machine.readPart (update change))
        fun _ => Keeps.pure requeue
    rintro now (_ | _ | _)
    · exact Keeps.pure _
    · exact hupdate _ _
    · exact hupdate _ _

/-- Once the instance is recorded, the rest of a normal pass settles what it leaves. -/
theorem reconcileInstance_calms (cluster : Option VpcCluster) (settings : Settings)
    (found : Instance) (machine : Machine) :
    Calms reads (fun now => reconcileInstance ⟨cluster, settings, now⟩ found) machine := by
  unfold reconcileInstance
  dsimp only
  rcases found.status with _ | _ | _ | _ | word
  · exact Calms.update .machine (settles_notReady _ _ _) (Determined.pure _) machine
  · exact reconcileRunning_calms cluster settings found machine
  · exact Calms.update .machine (settles_notReady _ _ _) (Determined.pure _) machine
  · exact Calms.update .machine (settles_errored _)
      ((Determined.publish _).bind fun _ => Determined.pure _) machine
  · exact Calms.update .machine (settles_unknownState _) (Determined.pure _) machine

/-- How looking for the instance of a machine ends. -/
def search (reads : Reads .machine) (machine : Machine) :
    Outcome (Except Error (Option Instance)) :=
  let named := (reads.cloud (.getInstanceByName machine.instanceName)).mapError .cloud
  match machine.instanceId with
  | none => named
  | some id =>
    match reads.cloud (.getInstance id) with
    | .returned (.ok none) => named
    | ending => ending.mapError .cloud

theorem findInstance_ends (machine : Machine) :
    Ends reads (search reads machine) (findInstance machine) := by
  have hnamed : Ends reads ((reads.cloud (.getInstanceByName machine.instanceName)).mapError .cloud)
      (Body.call .machine (.getInstanceByName machine.instanceName) : Pass (Option Instance)) :=
    Ends.call rfl
  unfold findInstance search
  rcases machine.instanceId with _ | id
  · exact (Ends.pure none).bind hnamed
  · have hrecorded : Ends reads ((reads.cloud (.getInstance id)).mapError .cloud)
        (Body.call .machine (.getInstance id) : Pass (Option Instance)) := Ends.call rfl
    dsimp only
    rcases hending : reads.cloud (.getInstance id) with (error | _ | found) | _ | text <;>
      rw [hending] at hrecorded
    · exact hrecorded.stops rfl
    · exact hrecorded.bind hnamed
    · exact hrecorded.bind (Ends.pure _)
    · exact hrecorded.stops rfl
    · exact hrecorded.stops rfl

theorem search_eq_some_iff {machine : Machine} {found : Instance} :
    search reads machine = .returned (.ok (some found)) ↔
      (∃ id, machine.instanceId = some id ∧
        reads.cloud (.getInstance id) = .returned (.ok (some found))) ∨
      ((∀ id, machine.instanceId = some id →
          reads.cloud (.getInstance id) = .returned (.ok none)) ∧
        reads.cloud (.getInstanceByName machine.instanceName) = .returned (.ok (some found))) := by
  unfold search
  rcases machine.instanceId with _ | id
  · simp [Outcome.mapError_eq_ok_iff]
  · dsimp only
    rcases hending : reads.cloud (.getInstance id) with (error | _ | other) | _ | text <;>
      simp [hending, Outcome.mapError_eq_ok_iff]

/-- The instance that was found is found again once its id is on record. -/
theorem search_of_recorded (hcoherent : reads.Coherent) {machine later : Machine} {found : Instance}
    (hfound : search reads machine = .returned (.ok (some found)))
    (hname : later.instanceName = machine.instanceName)
    (hid : later.instanceId = (some found.id).filter (!·.isEmpty)) :
    search reads later = .returned (.ok (some found)) := by
  have hbyId : reads.cloud (.getInstance found.id) = .returned (.ok (some found)) := by
    rcases search_eq_some_iff.mp hfound with ⟨id, -, hfound⟩ | ⟨-, hfound⟩
    · rwa [hcoherent.1 id found hfound]
    · exact hcoherent.2 _ found hfound
  by_cases hempty : found.id.isEmpty = true
  · have hnone : later.instanceId = none := by simp [hid, Option.filter, hempty]
    refine search_eq_some_iff.mpr (.inr ⟨by simp [hnone], ?_⟩)
    rw [hname]
    rcases search_eq_some_iff.mp hfound with ⟨id, hrecorded, hfound⟩ | ⟨-, hfound⟩
    · -- No id on record is empty.
      rw [instanceId, Option.filter_eq_some_iff] at hrecorded
      rw [hcoherent.1 id found hfound] at hempty
      simp [hempty] at hrecorded
    · exact hfound
  · have hsome : later.instanceId = some found.id := by simp [hid, Option.filter, hempty]
    exact search_eq_some_iff.mpr (.inl ⟨found.id, hsome, hbyId⟩)

theorem determined_bootstrapData (machine : Machine) :
    Determined reads (bootstrapData machine) := by
  unfold bootstrapData
  refine Determined.bind (.inl ⟨_, Ends.secret _ _⟩) ?_
  intro answer
  apply (Determined.ofExcept _).bind
  intro secret
  split
  · exact Determined.pure _
  · exact Determined.throw _

variable (reads) in
/-- No instance comes of creating it, unless it is created. -/
theorem create_cases (cluster : Option VpcCluster) (machine : Machine) :
    (∃ outcome, (∀ found, outcome ≠ .returned (.ok (some found))) ∧
      Ends reads outcome (create cluster machine)) ∨ Never reads (create cluster machine) := by
  have hnothing : Ends reads (.returned (.ok none)) (pure none : Pass (Option Instance)) :=
    Ends.pure none
  unfold create
  rcases cluster with _ | cluster
  · exact .inl ⟨_, by simp, hnothing⟩
  · dsimp only
    rcases machine.subnet cluster with _ | subnet
    · exact .inl ⟨_, by simp, hnothing⟩
    · dsimp only
      have hdata : Determined reads (bootstrapData machine) := determined_bootstrapData machine
      rcases hdata with ⟨outcome, hends⟩ | hnever
      · rcases outcome with (error | userData) | _ | text
        · exact .inl ⟨.returned (.error error), by simp, hends.stops rfl⟩
        · exact .inr fun state => hends.quiet_bind ((Never.callFor rfl).quiet_bind)
        · exact .inl ⟨.expired, by simp, hends.stops rfl⟩
        · exact .inl ⟨.panicked text, by simp, hends.stops rfl⟩
      · exact .inr fun state => hnever.quiet_bind

/-- An instance comes only of looking for it, unless it is created. -/
theorem provision_cases (cluster : Option VpcCluster) (machine : Machine) :
    (∃ outcome, (∀ found, outcome = .returned (.ok (some found)) →
        search reads machine = .returned (.ok (some found))) ∧
      Ends reads outcome (provision cluster machine)) ∨
    Never reads (provision cluster machine) := by
  have hends := (findInstance_ends machine : Ends reads _ _)
  unfold provision
  rcases hsearch : search reads machine with (error | _ | found) | _ | text <;>
    rw [hsearch] at hends
  · exact .inl ⟨.returned (.error error), by simp, hends.stops rfl⟩
  · rcases create_cases reads cluster machine with ⟨outcome, hnone, hcreate⟩ | hnever
    · exact .inl ⟨outcome, fun found hfound => absurd hfound (hnone found), hends.bind hcreate⟩
    · exact .inr fun state => hends.quiet_bind (hnever state)
  · exact .inl ⟨.returned (.ok (some found)), by simp, hends.bind (Ends.pure _)⟩
  · exact .inl ⟨.expired, by simp, hends.stops rfl⟩
  · exact .inl ⟨.panicked text, by simp, hends.stops rfl⟩

theorem provision_of_search {machine : Machine} {found : Instance}
    (hfound : search reads machine = .returned (.ok (some found))) (cluster : Option VpcCluster) :
    Ends reads (.returned (.ok (some found))) (provision cluster machine) := by
  have hends := (findInstance_ends machine : Ends reads _ _)
  rw [hfound] at hends
  exact hends.bind (Ends.pure _)

theorem Alike.provision {left right : Machine} (halike : Alike left right)
    (hid : right.instanceId = left.instanceId) (cluster : Option VpcCluster) :
    provision cluster right = provision cluster left := by
  unfold Machine.provision findInstance create bootstrapData subnet prototype
  rw [halike.spec, halike.instanceName, halike.placed, hid]

/-- The record says what there is to record about an instance. -/
structure Records (found : Instance) (status : MachineStatus) : Prop where
  observed : observed found status = status
  known : (status.providerId.filter (!·.isEmpty)).isSome

theorem Records.instanceId {found : Instance} {status : MachineStatus}
    (hrecords : Records found status) : status.instanceId = some found.id := by
  rw [← hrecords.observed]
  rfl

theorem recordInstance_records (surroundings : Surroundings) (found : Instance)
    (machine : Machine) :
    (recordInstance surroundings found machine).Ensures reads.quiet (fun after outcome _ =>
      outcome = .returned (.ok ()) ∧ Records found after.recorded) () := by
  unfold recordInstance
  rw [Action.ensures_bind, Action.ensures_get, Outcome.follow_ok]
  dsimp only
  by_cases hknown : ((machine.status.bind (·.providerId)).filter (!·.isEmpty)).isSome = true
  · rw [if_neg (by simp [hknown])]
    refine ⟨rfl, rfl, ?_⟩
    rcases hstatus : machine.status with _ | status
    · simp [hstatus] at hknown
    · simpa [recorded, record, observed, Object.mapStatus, hstatus] using hknown
  · have hrecorded (cluster : String) (machine : Machine) : ((do
        update fun status => { status with providerId := some (providerId cluster found.id) }
        update (observed found) : Pass Unit) machine).Ensures reads.quiet (fun after outcome _ =>
          outcome = .returned (.ok ()) ∧ Records found after.recorded) () := by
      refine ⟨rfl, rfl, ?_⟩
      simp [recorded, record, observed, Object.mapStatus, providerId, Option.filter]
    rw [if_pos (by simpa using hknown)]
    rcases found.crn with _ | crn
    · exact hrecorded _ machine
    · exact (Never.callFor rfl).quiet_bind

theorem recordInstance_rests {cluster : Option VpcCluster} {settings : Settings}
    {found : Instance} {machine : Machine} (hrecords : Records found machine.recorded) :
    Rests reads (.returned (.ok ())) (fun now => recordInstance ⟨cluster, settings, now⟩ found)
      machine := by
  intro now
  rcases hstatus : machine.status with _ | status
  · have hnone := hrecords.instanceId
    simp [recorded, record, hstatus, default] at hnone
  · have hrecord : machine.recorded = record status := by rw [recorded, hstatus]; rfl
    rw [hrecord] at hrecords
    have hknown : ((machine.status.bind (·.providerId)).filter (!·.isEmpty)).isSome = true := by
      rw [hstatus]
      exact hrecords.known
    have hobserved : observed found status = status := by
      have hid := congrArg MachineStatus.instanceId hrecords.observed
      have hstate := congrArg MachineStatus.instanceStatus hrecords.observed
      have haddresses := congrArg MachineStatus.addresses hrecords.observed
      simp only [observed, record] at hid hstate haddresses
      simp only [observed, hid, hstate, haddresses]
    unfold recordInstance
    rw [Action.ensures_bind, Action.ensures_get, Outcome.follow_ok]
    dsimp only
    rw [if_neg (by simp [hknown])]
    exact ⟨Object.mapStatus_eq_self hstatus hobserved, rfl⟩

/-- The rest of a normal pass once the instance was looked for. -/
def recording (surroundings : Surroundings) : Option Instance → Pass Requeue
  | none => do
    update (unknownState "instance does not exist yet" surroundings.now)
    return .after surroundings.settings.instancePoll
  | some found => do
    recordInstance surroundings found
    reconcileInstance surroundings found

theorem owned_eq (surroundings : Surroundings) : owned surroundings = (do
    if ← (·.spec.bootstrapDataSecretName.isNone) <$> get then
      return .after surroundings.settings.instancePoll
    getOrCreate surroundings >>= recording surroundings) := rfl

theorem recording_calms (cluster : Option VpcCluster) (settings : Settings)
    (found : Option Instance) (machine : Machine) :
    Calms reads (fun now => recording ⟨cluster, settings, now⟩ found) machine := by
  rcases found with _ | found
  · dsimp only [recording]
    exact Calms.update .machine (settles_unknownState _) (Determined.pure _) machine
  · refine @Calms.bind_of_keeps .machine _ _ _ reads machine _ _ recorded (fun hreturned =>
      congrArg (fun status : Option MachineStatus => record (status.getD default))
        hreturned.status) ?_ ?_
    · intro now
      apply (recordInstance_records _ found machine).mono
      rintro middle _ _ ⟨rfl, hrecords⟩
      refine ⟨fun later hlater => recordInstance_rests (hlater ▸ hrecords), fun value _ => ?_⟩
      exact reconcileInstance_calms cluster settings found middle
    · exact fun now value => keeps_recorded_reconcileInstance _ found

theorem keeps_recording (surroundings : Surroundings) (found : Option Instance) :
    Keeps Managed.machine.unmarked (recording surroundings found) := by
  rcases found with _ | found
  · exact (Managed.machine.keeps_update _).bind fun _ => Keeps.pure _
  · exact (keeps_recordInstance (fun _ _ => Managed.machine.keeps_update _) _ found).bind fun _ =>
      keeps_reconcileInstance (fun _ _ => Managed.machine.keeps_update _) _ found

theorem recording_instanceId (surroundings : Surroundings) (found : Instance) (machine : Machine) :
    (recording surroundings (some found) machine).Ensures reads.quiet (fun after _ _ =>
      after.recorded.instanceId = some found.id) () := by
  dsimp only [recording]
  rw [Action.ensures_bind]
  apply (recordInstance_records surroundings found machine).mono
  rintro middle _ _ ⟨rfl, hrecords⟩
  apply ((keeps_recorded_reconcileInstance surroundings found middle).anywhere ()).mono
  intro after _ _ hkept
  rw [hkept]
  exact hrecords.instanceId

theorem getOrCreate_settled {cluster : Option VpcCluster} {settings : Settings} {machine : Machine}
    {outcome : Outcome (Except Error (Option Instance))}
    (hends : ∀ later, Managed.machine.Returned machine later →
      Ends reads outcome (provision cluster later)) :
    Settled reads outcome (fun now => getOrCreate ⟨cluster, settings, now⟩) machine := by
  intro later hreturned now
  dsimp only
  rw [getOrCreate_eq, Action.ensures_bind, Action.ensures_get, Outcome.follow_ok]
  exact hends later hreturned later

theorem recorded_of_returned {left later : Machine}
    (hreturned : Managed.machine.Returned left later) : later.recorded = left.recorded := by
  rw [recorded, hreturned.status]
  rfl

/-- Where the instance has been recorded, the next pass finds it by its id, and where there is none
to record, the next pass finds as little. -/
theorem found_calms (hcoherent : reads.Coherent) (cluster : Option VpcCluster)
    (settings : Settings) (machine : Machine) :
    Calms reads (fun now => getOrCreate ⟨cluster, settings, now⟩ >>=
      recording ⟨cluster, settings, now⟩) machine := by
  refine Calms.bind fun now => ?_
  rw [getOrCreate_eq, Action.ensures_bind, Action.ensures_get, Outcome.follow_ok]
  rcases provision_cases cluster machine with ⟨outcome, hsearch, hends⟩ | hnever
  · have hunrecorded {left later : Machine} (hread : Managed.machine.readPart left =
        Managed.machine.readPart machine) (hrecorded : left.recorded = machine.recorded)
        (hreturned : Managed.machine.Returned left later) :
        Ends reads outcome (provision cluster later) := by
      have halike : Alike machine later := .of_readPart (hreturned.read.trans hread)
      have hid : later.instanceId = machine.instanceId := by
        rw [instanceId_eq_recorded, recorded_of_returned hreturned, hrecorded,
          instanceId_eq_recorded]
      rwa [halike.provision hid]
    have hfound {found : Instance} {left later : Machine}
        (hsearch : search reads machine = .returned (.ok (some found)))
        (hunmarked : Managed.machine.unmarked left = Managed.machine.unmarked machine)
        (hid : left.recorded.instanceId = some found.id)
        (hreturned : Managed.machine.Returned left later) :
        Ends reads (.returned (.ok (some found))) (provision cluster later) := by
      have halike : Alike machine later := .of_readPart
        (hreturned.read.trans (Managed.readPart_congr (Managed.foreignPart_congr hunmarked)))
      refine provision_of_search ?_ cluster
      refine search_of_recorded hcoherent hsearch halike.instanceName ?_
      rw [instanceId_eq_recorded, recorded_of_returned hreturned, hid]
    apply (hends machine).quietly.mono
    rintro _ _ _ ⟨rfl, rfl⟩
    refine ⟨getOrCreate_settled fun later => hunrecorded rfl rfl, fun found hvalue =>
      ⟨recording_calms cluster settings found _, fun now => ?_⟩⟩
    rcases found with _ | found
    · exact getOrCreate_settled fun later => hunrecorded rfl rfl
    · apply (((keeps_recording _ (some found) _).anywhere ()).and
        (recording_instanceId _ found _)).mono
      rintro last _ _ ⟨hunmarked, hid⟩
      rw [hvalue]
      exact getOrCreate_settled fun later => hfound (hsearch found hvalue) hunmarked hid
  · exact hnever.quiet machine

/-- Once its marks are on the machine, a normal pass settles what it leaves. -/
theorem owned_calms (hcoherent : reads.Coherent) (cluster : Option VpcCluster)
    (settings : Settings) (machine : Machine) :
    Calms reads (fun now => owned ⟨cluster, settings, now⟩) machine := by
  simp only [owned_eq]
  apply Calms.bind_of_keeps Managed.machine.readPart fun hreturned => hreturned.read
  · intro now
    refine ⟨fun later hread now => ⟨rfl, ?_⟩, fun unbootstrapped _ => ?_⟩
    · have hspec : later.spec = machine.spec := (Alike.of_readPart hread).spec
      simp only [hspec]
    · cases unbootstrapped
      · exact found_calms hcoherent cluster settings machine
      · exact Determined.calms (Determined.pure _) _
  · have hkeeps {α : Type} {step : Pass α} (hunmarked : Keeps Managed.machine.unmarked step) :
        Keeps Managed.machine.readPart step :=
      fun state => (hunmarked state).mono fun _ _ _ hkept =>
        Managed.readPart_congr (Managed.foreignPart_congr hkept)
    rintro now (_ | _)
    · exact hkeeps ((keeps_getOrCreate _).bind fun _ => keeps_recording _ _)
    · exact Keeps.pure _

/-- The machine with the region of its cluster, unless a region is recorded already. -/
def withRegion (cluster : VpcCluster) (machine : Machine) : Machine :=
  if machine.region.isSome then machine
  else machine.mapStatus fun status => { status with region := some cluster.spec.region }

variable {cluster : VpcCluster} {machine later : Machine}

theorem recordRegion_ensures_withRegion {S : Type} {environment : Environment (outside .machine) S}
    (cluster : VpcCluster) (machine : Machine) (start : S) :
    (recordRegion (some cluster) machine).Ensures environment (fun after outcome surroundings =>
      after = withRegion cluster machine ∧ outcome = .returned (.ok ()) ∧ surroundings = start)
      start := by
  unfold recordRegion withRegion
  rw [Action.ensures_bind, Action.ensures_get, Outcome.follow_ok]
  split
  · exact ⟨rfl, rfl, rfl⟩
  · exact ⟨rfl, rfl, rfl⟩

theorem withRegion_of_recorded (hregion : later.recorded.region =
    (withRegion cluster machine).recorded.region) : withRegion cluster later = later := by
  by_cases hlater : later.region.isSome = true
  · exact if_pos hlater
  · have hmissing : ¬machine.region.isSome = true := by
      intro hmachine
      rw [withRegion, if_pos hmachine] at hregion
      rw [region_eq_recorded, hregion, ← region_eq_recorded] at hlater
      exact hlater hmachine
    rw [withRegion, if_neg hmissing] at hregion
    rw [withRegion, if_neg hlater]
    rcases hstatus : later.status with _ | status
    · simp [recorded, record, Object.mapStatus, hstatus, default] at hregion
    · refine Object.mapStatus_eq_self hstatus ?_
      have hsame : status.region = some cluster.spec.region := by
        simpa [recorded, record, Object.mapStatus, hstatus] using hregion
      rw [← hsame]

/-- Recording the region changes nothing about where calls go. -/
theorem target_of_recorded (hregion : later.recorded.region =
    (withRegion cluster machine).recorded.region) :
    Machine.target later (some cluster) = Machine.target machine (some cluster) := by
  unfold Machine.target
  rw [region_eq_recorded later, hregion]
  by_cases hmachine : machine.region.isSome = true
  · rw [withRegion, if_pos hmachine, ← region_eq_recorded]
  · have hnone : machine.region = none := by simpa using hmachine
    rw [withRegion, if_neg hmachine, hnone]
    by_cases hempty : cluster.spec.region.isEmpty = true <;>
      simp [recorded, record, Object.mapStatus, Option.filter, hempty]

theorem keeps_region_marked (surroundings : Surroundings) :
    Keeps (fun machine => machine.recorded.region) (do
      if ← Body.takeOwnership surroundings.cluster then return .immediate
      owned surroundings : Pass Requeue) := by
  apply ((Body.keeps_status_takeOwnership surroundings.cluster).comp
    fun status : Option MachineStatus => (record (status.getD default)).region).bind
  rintro (_ | _)
  · exact keeps_owned (fun change hchange => Keeps.modify fun machine =>
      hchange (machine.status.getD default)) surroundings
  · exact Keeps.pure _

/-- Wherever a normal pass ends, it has not changed where calls go. -/
theorem reconcileNormal_target (cluster : VpcCluster) (settings : Settings) (now : Instant)
    (machine : Machine) :
    (reconcileNormal ⟨some cluster, settings, now⟩ machine).Ensures (.anything _) (fun after _ _ =>
      Machine.target after (some cluster) = Machine.target machine (some cluster)) () := by
  rw [reconcileNormal_eq, Action.ensures_bind]
  apply (recordRegion_ensures_withRegion cluster machine ()).mono
  rintro _ _ _ ⟨rfl, rfl, -⟩
  apply (keeps_region_marked ⟨some cluster, settings, now⟩ _).mono
  exact fun after _ _ => target_of_recorded

/-- A normal pass over a machine that carries its marks settles what it leaves. -/
theorem reconcileNormal_calms (hcoherent : reads.Coherent) (settings : Settings)
    {owner : OwnerReference} (hfinalizer : Managed.machine.hasFinalizer machine = true)
    (hreference : Managed.machine.clusterReference cluster = .ok owner)
    (howner : hasOwner machine.metadata.owners owner = true) :
    Calms reads (fun now => reconcileNormal ⟨some cluster, settings, now⟩) machine := by
  have hunmarked : Managed.machine.unmarked (withRegion cluster machine) =
      Managed.machine.unmarked machine := by
    unfold withRegion
    split <;> rfl
  simp only [reconcileNormal_eq]
  refine @Calms.bind_of_keeps .machine _ _ _ reads machine _ _
    (fun machine : Machine => machine.recorded.region)
    (fun hreturned => congrArg MachineStatus.region (recorded_of_returned hreturned)) ?_
    fun now _ => keeps_region_marked ⟨some cluster, settings, now⟩
  intro now
  apply (recordRegion_ensures_withRegion cluster machine ()).mono
  rintro _ _ _ ⟨rfl, rfl, -⟩
  refine ⟨fun later hregion now => ?_, fun _ _ => ?_⟩
  · apply (recordRegion_ensures_withRegion cluster later ()).mono
    rintro _ _ _ ⟨rfl, rfl, -⟩
    exact ⟨withRegion_of_recorded hregion, rfl⟩
  · refine Calms.owned ?_ hreference ?_ (Keeps.pure _)
        (fun now => keeps_owned (fun _ _ => Managed.machine.keeps_update _) _)
      (owned_calms hcoherent (some cluster) settings _)
    · rw [Managed.hasFinalizer_congr hunmarked, hfinalizer]
    · rw [← howner]
      exact congrArg (fun part : Metadata × MachineSpec => hasOwner part.1.owners owner) hunmarked

end Machine

end Reconciler
