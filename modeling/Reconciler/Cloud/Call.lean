import Reconciler.Cloud.Resource
import Reconciler.Error

/-!
# Calls to the provider

Machines need compute, tagging and load balancer calls in one region, images need import calls in
one workspace.
-/

namespace Reconciler

/-- A call against a VPC region. -/
inductive VpcCall where
  | getInstance (id : String)
  | getInstanceByName (name : String)
  | createInstance (prototype : InstancePrototype)
  | deleteInstance (id : String)
  | tagResource (tag crn : String)
  | getLoadBalancer (id : String)
  | getLoadBalancerByName (name : String)
  | listMembers (loadBalancer pool : String)
  | createMember (loadBalancer pool address : String) (port : Int) (weight : Option Int)
  | deleteMember (loadBalancer pool member : String)
deriving DecidableEq, Inhabited

/-- What a call against a VPC region returns. -/
abbrev VpcCall.Reply : VpcCall → Type
  | .getInstance _ => Option Instance
  | .getInstanceByName _ => Option Instance
  | .createInstance _ => Instance
  | .deleteInstance _ => Unit
  | .tagResource .. => Unit
  | .getLoadBalancer _ => Option LoadBalancer
  | .getLoadBalancerByName _ => Option LoadBalancer
  | .listMembers .. => List PoolMember
  | .createMember .. => PoolMember
  | .deleteMember .. => Unit

/-- A call against a workspace. -/
inductive WorkspaceCall where
  | createImportJob (request : ImportRequest)
  | getJob (id : String)
  | deleteJob (id : String)
  | getAllImages
  | getImage (id : String)
  | deleteImage (id : String)
deriving DecidableEq, Inhabited

/-- What a call against a workspace returns. -/
abbrev WorkspaceCall.Reply : WorkspaceCall → Type
  | .createImportJob _ => String
  | .getJob _ => Job
  | .deleteJob _ => Unit
  | .getAllImages => List ImageReference
  | .getImage _ => BootImage
  | .deleteImage _ => Unit

namespace Managed

/-- The calls that passes over a managed kind make. -/
abbrev Call : Managed → Type
  | .machine => VpcCall
  | .image => WorkspaceCall

abbrev Reply : (managed : Managed) → managed.Call → Type
  | .machine => VpcCall.Reply
  | .image => WorkspaceCall.Reply

/-- Where the calls of a pass go: a region, where one is known, or a workspace. -/
abbrev Target : Managed → Type
  | .machine => Option String
  | .image => WorkspaceTarget

end Managed

end Reconciler
