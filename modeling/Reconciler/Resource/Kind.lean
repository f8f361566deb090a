import Reconciler.Cluster
import Reconciler.Image
import Reconciler.Machine
import Reconciler.Secret

/-!
# Kinds of stored objects

The store holds objects of five kinds.  Two of them, machines and images, are managed: each belongs
to a cluster of its own kind and carries a finalizer while cloud resources may depend on it.
-/

namespace Reconciler

/-- The group of every kind defined here. -/
def apiGroup : String := "infrastructure.cluster.x-k8s.io"

/-- The version of every kind defined here. -/
def apiVersion : String := "v1beta2"

/-- The label that names the owning cluster. -/
def clusterNameLabel : String := "cluster.x-k8s.io/cluster-name"

inductive Kind where
  | machine
  | image
  | vpcCluster
  | powerVsCluster
  | secret
deriving DecidableEq, Inhabited

namespace Kind

/-- The name of a kind. -/
def name : Kind → String
  | .machine => "IBMVPCMachine"
  | .image => "IBMPowerVSImage"
  | .vpcCluster => "IBMVPCCluster"
  | .powerVsCluster => "IBMPowerVSCluster"
  | .secret => "Secret"

/-- The name of a kind in addresses. -/
def plural (kind : Kind) : String := kind.name.toLower ++ "s"

/-- The group and version that objects of a kind are known by. -/
def apiVersion : Kind → String
  | .secret => "v1"
  | _ => apiGroup ++ "/" ++ Reconciler.apiVersion

abbrev Spec : Kind → Type
  | .machine => MachineSpec
  | .image => ImageSpec
  | .vpcCluster => VpcClusterSpec
  | .powerVsCluster => PowerVsClusterSpec
  | .secret => SecretContent

abbrev Status : Kind → Type
  | .machine => MachineStatus
  | .image => ImageStatus
  | .vpcCluster => VpcClusterStatus
  | .powerVsCluster => PowerVsClusterStatus
  | .secret => Unit

instance (kind : Kind) : DecidableEq kind.Spec :=
  match kind with
  | .machine => inferInstanceAs (DecidableEq MachineSpec)
  | .image => inferInstanceAs (DecidableEq ImageSpec)
  | .vpcCluster => inferInstanceAs (DecidableEq VpcClusterSpec)
  | .powerVsCluster => inferInstanceAs (DecidableEq PowerVsClusterSpec)
  | .secret => inferInstanceAs (DecidableEq SecretContent)

instance (kind : Kind) : DecidableEq kind.Status :=
  match kind with
  | .machine => inferInstanceAs (DecidableEq MachineStatus)
  | .image => inferInstanceAs (DecidableEq ImageStatus)
  | .vpcCluster => inferInstanceAs (DecidableEq VpcClusterStatus)
  | .powerVsCluster => inferInstanceAs (DecidableEq PowerVsClusterStatus)
  | .secret => inferInstanceAs (DecidableEq Unit)

instance (kind : Kind) : Inhabited kind.Spec :=
  match kind with
  | .machine => inferInstanceAs (Inhabited MachineSpec)
  | .image => inferInstanceAs (Inhabited ImageSpec)
  | .vpcCluster => inferInstanceAs (Inhabited VpcClusterSpec)
  | .powerVsCluster => inferInstanceAs (Inhabited PowerVsClusterSpec)
  | .secret => inferInstanceAs (Inhabited SecretContent)

instance (kind : Kind) : Inhabited kind.Status :=
  match kind with
  | .machine => inferInstanceAs (Inhabited MachineStatus)
  | .image => inferInstanceAs (Inhabited ImageStatus)
  | .vpcCluster => inferInstanceAs (Inhabited VpcClusterStatus)
  | .powerVsCluster => inferInstanceAs (Inhabited PowerVsClusterStatus)
  | .secret => inferInstanceAs (Inhabited Unit)

end Kind

/-- An object of a kind. -/
abbrev Resource (kind : Kind) := Object kind.Spec kind.Status

/-- The kinds that are reconciled here. -/
inductive Managed where
  | machine
  | image
deriving DecidableEq, Inhabited

namespace Managed

abbrev kind : Managed → Kind
  | .machine => .machine
  | .image => .image

/-- The kind of the clusters that objects of a managed kind belong to. -/
abbrev clusterKind : Managed → Kind
  | .machine => .vpcCluster
  | .image => .powerVsCluster

abbrev Resource (managed : Managed) := Reconciler.Resource managed.kind

abbrev Cluster (managed : Managed) := Reconciler.Resource managed.clusterKind

abbrev Status (managed : Managed) := managed.kind.Status

/-- The finalizer that keeps an object until its cloud resources are released. -/
def finalizer : Managed → String
  | .machine => Machine.finalizer
  | .image => Image.finalizer

/-- The name of the cluster that an object says it belongs to. -/
def clusterName : (managed : Managed) → managed.Resource → Option String
  | .machine, object => object.metadata.label? clusterNameLabel
  | .image, object => some object.spec.clusterName

/-- The conditions of a status. -/
def conditions : (managed : Managed) → managed.Status → Conditions
  | .machine, status => status.conditions
  | .image, status => status.conditions

/-- Changes the conditions of a status. -/
def mapConditions (change : Conditions → Conditions) :
    (managed : Managed) → managed.Status → managed.Status
  | .machine, status => { status with conditions := change status.conditions }
  | .image, status => { status with conditions := change status.conditions }

end Managed

end Reconciler
