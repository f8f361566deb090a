import Reconciler.Condition
import Reconciler.ProviderState
import Reconciler.Reference
import Reconciler.Resource.Metadata

/-!
# Machines

A machine is a virtual server instance in a VPC that backs a node of a cluster.
-/

namespace Reconciler

/-- A declared membership in a load balancer pool. -/
structure PoolMembership where
  loadBalancer : ResourceReference
  pool : ResourceReference
  port : Int
  weight : Option Int
deriving DecidableEq, Inhabited

structure NetworkInterface where
  subnet : Option String
deriving DecidableEq, Inhabited

structure MachineSpec where
  /-- The instance name, where it is not the object's. -/
  name : Option String
  zone : String
  profile : String
  image : ResourceReference
  sshKeys : List ResourceReference
  primaryNetworkInterface : Option NetworkInterface
  /-- The secret with the bootstrap data. -/
  bootstrapDataSecretName : Option String
  /-- Pools to join; control plane machines without any join the cluster's own. -/
  loadBalancerPoolMembers : List PoolMembership
deriving DecidableEq, Inhabited

inductive AddressType where
  | internalIP
  | externalIP
  | hostname
deriving DecidableEq, Inhabited

structure MachineAddress where
  type : AddressType
  address : String
deriving DecidableEq, Inhabited

structure MachineStatus where
  ready : Bool := false
  instanceId : Option String := none
  /-- The region of the instance, kept for teardown. -/
  region : Option String := none
  instanceStatus : Option InstanceStatus := none
  /-- The identifier of the node at the provider, written once. -/
  providerId : Option String := none
  addresses : List MachineAddress := []
  failureReason : Option String := none
  failureMessage : Option String := none
  conditions : Conditions := []
deriving DecidableEq

instance : Inhabited MachineStatus := ⟨{}⟩

abbrev Machine := Object MachineSpec MachineStatus

namespace Machine

def finalizer : String := "ibmvpcmachine.infrastructure.cluster.x-k8s.io"

def instanceReady : String := "InstanceReady"
def instanceNotReady : String := "InstanceNotReady"
def instanceStopped : String := "InstanceStopped"
def instanceErrored : String := "InstanceErrored"
def instanceStateUnknown : String := "InstanceStateUnknown"

/-- The failure reason of a machine whose instance the provider reports as failed. -/
def updateError : String := "UpdateError"

/-- The label that machines of a control plane carry. -/
def controlPlaneLabel : String := "cluster.x-k8s.io/control-plane-name"

/-- The name of the instance at the provider. -/
def instanceName (machine : Machine) : String :=
  machine.spec.name.getD machine.metadata.nameAny

def isControlPlane (machine : Machine) : Bool := machine.metadata.hasLabel controlPlaneLabel

/-- The recorded instance, unless the record is empty. -/
def instanceId (machine : Machine) : Option String :=
  (machine.status.bind (·.instanceId)).filter (!·.isEmpty)

/-- The recorded region, unless the record is empty. -/
def region (machine : Machine) : Option String :=
  (machine.status.bind (·.region)).filter (!·.isEmpty)

/-- The first internal address. -/
def internalAddress (machine : Machine) : Option String :=
  machine.status.bind fun status =>
    (status.addresses.find? (·.type == .internalIP)).map (·.address)

end Machine

end Reconciler
