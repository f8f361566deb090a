import Reconciler.Reference
import Reconciler.Resource.Metadata

/-!
# Clusters

Machines belong to a VPC cluster and images to a Power VS cluster.  Both kinds are only read here.
-/

namespace Reconciler

structure ApiEndpoint where
  host : String
  port : Int
deriving DecidableEq, Inhabited

structure LoadBalancerReference where
  id : String
  name : Option String
deriving DecidableEq, Inhabited

structure VpcClusterSpec where
  region : String
  resourceGroup : Option String
  vpc : Option ResourceReference
  controlPlaneEndpoint : Option ApiEndpoint
deriving DecidableEq, Inhabited

structure VpcClusterStatus where
  ready : Bool := false
  vpcId : Option String := none
  subnetId : Option String := none
  /-- The load balancer in front of the control plane. -/
  controlPlaneLoadBalancer : Option LoadBalancerReference := none
deriving DecidableEq

instance : Inhabited VpcClusterStatus := ⟨{}⟩

abbrev VpcCluster := Object VpcClusterSpec VpcClusterStatus

namespace VpcCluster

/-- The port of the API server where the endpoint names none. -/
def defaultApiServerPort : Int := 6443

/-- The port of the API server; a port that is not positive does not count. -/
def apiServerPort (cluster : VpcCluster) : Int :=
  ((cluster.spec.controlPlaneEndpoint.map (·.port)).filter (0 < ·)).getD defaultApiServerPort

def subnetId (cluster : VpcCluster) : Option String := cluster.status.bind (·.subnetId)

/-- The VPC found for the cluster, or else the declared one. -/
def vpcId (cluster : VpcCluster) : Option String :=
  cluster.status.bind (·.vpcId) <|> cluster.spec.vpc.bind (·.id)

def controlPlaneLoadBalancer (cluster : VpcCluster) : Option LoadBalancerReference :=
  cluster.status.bind (·.controlPlaneLoadBalancer)

end VpcCluster

structure PowerVsClusterSpec where
  /-- The workspace of the cluster. -/
  serviceInstanceId : String
  zone : String
  region : Option String
deriving DecidableEq, Inhabited

structure PowerVsClusterStatus where
  ready : Bool := false
deriving DecidableEq

instance : Inhabited PowerVsClusterStatus := ⟨{}⟩

abbrev PowerVsCluster := Object PowerVsClusterSpec PowerVsClusterStatus

end Reconciler
