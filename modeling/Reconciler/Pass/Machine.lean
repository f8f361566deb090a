import Reconciler.Pass.Membership

/-!
# Passes over machines

A normal pass finds or creates the instance, records what the provider says about it, and keeps the
machine registered in its pools while the instance runs.  A delete pass undoes both and then lets
the object go.
-/

namespace Reconciler.Machine

open Time

/-- A step on the working copy of a machine. -/
abbrev Pass (α : Type) := Step .machine Machine α

abbrev Surroundings := Reconciler.Surroundings .machine

/-- Changes the status of the working copy. -/
def update (change : MachineStatus → MachineStatus) : Pass Unit :=
  modify (·.mapStatus change)

/-- Changes the conditions of a status. -/
def withConditions (change : Conditions → Conditions) (status : MachineStatus) : MachineStatus :=
  { status with conditions := change status.conditions }

/-- The machine is not ready, for a reason. -/
def notReady (reason : String) (severity : ConditionSeverity) (message : String) (now : Instant)
    (status : MachineStatus) : MachineStatus :=
  withConditions (·.markFalse instanceReady reason severity message now)
    { status with ready := false }

/-- It is not known whether the machine is ready. -/
def unknownState (message : String) (now : Instant) (status : MachineStatus) : MachineStatus :=
  withConditions (·.markUnknown instanceReady instanceStateUnknown message now)
    { status with ready := false }

/-- The instance has failed. -/
def errored (message : String) (now : Instant) (status : MachineStatus) : MachineStatus :=
  withConditions (·.markFalse instanceReady instanceErrored .error message now)
    { status with
      ready := false, failureReason := some updateError, failureMessage := some message }

/-- The machine is ready. -/
def nowReady (now : Instant) (status : MachineStatus) : MachineStatus :=
  withConditions (·.markTrue instanceReady now)
    { status with ready := true, failureReason := none, failureMessage := none }

/-- Records the region of the cluster, unless a region is recorded already. -/
def recordRegion (cluster : Option VpcCluster) : Pass Unit := do
  if (← get).region.isSome then return
  match cluster with
  | none => return
  | some cluster => update fun status => { status with region := some cluster.spec.region }

/-- The bootstrap data of a machine. -/
def bootstrapData (machine : Machine) : Pass String := do
  let name := machine.spec.bootstrapDataSecretName.getD ""
  let secret ← Action.ofExcept
    (← Action.ask (I := outside .machine) (.secret machine.metadata.namespaceAny name))
  match secret.bind (·.text? Secret.bootstrapKey) with
  | some text => return text
  | none => throw (.missingBootstrapData name)

/-- The subnet of a new instance: the cluster's, or else the machine's own. -/
def subnet (machine : Machine) (cluster : VpcCluster) : Option String :=
  cluster.subnetId <|> machine.spec.primaryNetworkInterface.bind (·.subnet)

/-- What the instance of a machine is created from. -/
def prototype (machine : Machine) (cluster : VpcCluster) (subnet userData : String) :
    InstancePrototype :=
  { name := machine.instanceName
    zone := machine.spec.zone
    profile := machine.spec.profile
    vpc := cluster.vpcId
    subnet
    imageId := machine.spec.image.id
    imageName := machine.spec.image.name
    sshKeys := machine.spec.sshKeys.filterMap fun key => key.id <|> key.name
    resourceGroup := cluster.spec.resourceGroup
    userData := some userData }

/-- The instance of a machine that the provider already has: the recorded one, or else the one of
that name. -/
def findInstance (machine : Machine) : Pass (Option Instance) := do
  let recorded : Option Instance ←
    match machine.instanceId with
    | none => pure none
    | some id => Body.call .machine (.getInstance id)
  match recorded with
  | some found => return some found
  | none => Body.call .machine (.getInstanceByName machine.instanceName)

/-- Finds the instance or creates it.  Without a cluster or a subnet there is nothing to create it
in yet. -/
def getOrCreate (surroundings : Surroundings) : Pass (Option Instance) := do
  let machine ← get
  match ← findInstance machine with
  | some found => return some found
  | none =>
    match surroundings.cluster with
    | none => return none
    | some cluster =>
      match machine.subnet cluster with
      | none => return none
      | some subnet =>
        let userData ← bootstrapData machine
        let created : Instance ←
          Body.callFor .machine ("creating instance " ++ machine.instanceName)
            (.createInstance (machine.prototype cluster subnet userData))
        return some created

/-- How the node of an instance is known outside. -/
def providerId (cluster instanceId : String) : String :=
  "ibmvpc://" ++ cluster ++ "/" ++ instanceId

/-- What the provider reports about the instance. -/
def observed (instance_ : Instance) (status : MachineStatus) : MachineStatus :=
  { status with
    instanceId := some instance_.id
    instanceStatus := some instance_.status
    addresses := instance_.primaryAddress.toList.map (⟨.internalIP, ·⟩) }

/-- Tags the instance and records its identifier the first time it is seen, then records what the
provider reports about it. -/
def recordInstance (surroundings : Surroundings) (instance_ : Instance) : Pass Unit := do
  let known := (((← get).status.bind (·.providerId)).filter (!·.isEmpty)).isSome
  if !known then
    let cluster := (surroundings.cluster.map (·.metadata.nameAny)).getD ""
    match instance_.crn with
    | none => pure ()
    | some crn =>
      Body.callFor .machine ("tagging instance " ++ instance_.id)
        (.tagResource cluster crn)
    update fun status => { status with providerId := some (providerId cluster instance_.id) }
  update (observed instance_)

/-- Registers a running machine where it belongs.  The answer is whether a membership is still to
become active, or nothing for a control plane machine whose cluster is not known. -/
def registerRunning (surroundings : Surroundings) (instance_ : Instance) : Pass (Option Bool) := do
  let machine ← get
  let members := machine.spec.loadBalancerPoolMembers
  if !members.isEmpty then
    let address ← Action.ofExcept (Membership.usableAddress instance_.primaryAddress)
    some <$> Membership.register address members
  else if machine.isControlPlane then
    match surroundings.cluster with
    | none => return none
    | some cluster =>
      some <$> Membership.registerControlPlane cluster instance_.primaryAddress
  else return some false

/-- The rest of a normal pass once the instance runs. -/
def reconcileRunning (surroundings : Surroundings) (instance_ : Instance) : Pass Requeue := do
  let poll := surroundings.settings.instancePoll
  match ← registerRunning surroundings instance_ with
  | none => return .after poll
  | some true =>
    update (notReady instanceNotReady .info "waiting for load balancer pool membership"
      surroundings.now)
    return .after poll
  | some false =>
    update (nowReady surroundings.now)
    return .none

/-- What the provider says about the health of an instance: its last reason. -/
def failureText (instance_ : Instance) : String :=
  (instance_.healthReasons.getLast?.map fun reason => reason.code ++ ": " ++ reason.message).getD ""

/-- The rest of a normal pass once the instance is recorded. -/
def reconcileInstance (surroundings : Surroundings) (instance_ : Instance) : Pass Requeue := do
  let poll := surroundings.settings.instancePoll
  let now := surroundings.now
  match instance_.status with
  | .pending =>
    update (notReady instanceNotReady .warning "" now)
    return .after poll
  | .stopped =>
    update (notReady instanceStopped .error "" now)
    return .after poll
  | .failed =>
    let message := failureText instance_
    update (errored message now)
    Body.publish (.failedBuildInstance message)
    return .none
  | .running => reconcileRunning surroundings instance_
  | .unknown word =>
    update (unknownState ("instance is " ++ word) now)
    return .after poll

/-- The body of a pass over a machine that is to exist. -/
def reconcileNormal (surroundings : Surroundings) : Pass Requeue := do
  recordRegion surroundings.cluster
  if ← Body.takeOwnership surroundings.cluster then return .immediate
  let poll := surroundings.settings.instancePoll
  if (← get).spec.bootstrapDataSecretName.isNone then return .after poll
  match ← getOrCreate surroundings with
  | none =>
    update (unknownState "instance does not exist yet" surroundings.now)
    return .after poll
  | some instance_ =>
    recordInstance surroundings instance_
    reconcileInstance surroundings instance_

/-- Takes the machine's address out of its pools. -/
def deregister (surroundings : Surroundings) (machine : Machine) : Pass Unit := do
  match machine.internalAddress with
  | none => return
  | some address =>
    let members := machine.spec.loadBalancerPoolMembers
    if !members.isEmpty then Membership.deregister address members
    else if machine.isControlPlane then
      match surroundings.cluster with
      | none => return
      | some cluster => Membership.deregisterControlPlane cluster address

/-- The instance to delete: the recorded one, or else the one of that name. -/
def instanceToDelete (machine : Machine) : Pass (Option String) := do
  match machine.instanceId with
  | some id => return some id
  | none =>
    let found : Option Instance ←
      Body.call .machine (.getInstanceByName machine.instanceName)
    return found.map (·.id)

/-- The body of a pass over a machine that is being deleted. -/
def reconcileDelete (surroundings : Surroundings) : Pass Requeue := do
  let machine ← get
  if !Managed.machine.hasFinalizer machine then return .none
  if machine.region.isNone && surroundings.cluster.isNone then
    throw (.unknownTarget machine.metadata.key)
  deregister surroundings machine
  match ← instanceToDelete machine with
  | none => pure ()
  | some id =>
    Body.remove .machine ("deleting instance " ++ id) (.deleteInstance id)
  modify (Managed.machine.removeFinalizer ·)
  Body.publish (.finalizerRemoved Kind.machine.name machine.metadata.nameAny)
  return .none

end Reconciler.Machine
