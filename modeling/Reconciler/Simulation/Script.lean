import Reconciler.Cloud.Call

/-!
# Scripted answers

A script gives the answers to provider calls in advance, method by method.  Answers are used up in
order, and the last one of a method stays for ever.
-/

namespace Reconciler.Simulation

/-- The methods of the provider. -/
inductive Method where
  | getInstance
  | getInstanceByName
  | createInstance
  | deleteInstance
  | tagResource
  | getLoadBalancer
  | getLoadBalancerByName
  | listMembers
  | createMember
  | deleteMember
  | createImportJob
  | getJob
  | deleteJob
  | getAllImages
  | getImage
  | deleteImage
deriving DecidableEq, Inhabited

namespace Method

def all : List Method :=
  [.getInstance, .getInstanceByName, .createInstance, .deleteInstance, .tagResource,
    .getLoadBalancer, .getLoadBalancerByName, .listMembers, .createMember, .deleteMember,
    .createImportJob, .getJob, .deleteJob, .getAllImages, .getImage, .deleteImage]

def name : Method → String
  | .getInstance => "get_instance"
  | .getInstanceByName => "get_instance_by_name"
  | .createInstance => "create_instance"
  | .deleteInstance => "delete_instance"
  | .tagResource => "tag_resource"
  | .getLoadBalancer => "get_load_balancer"
  | .getLoadBalancerByName => "get_load_balancer_by_name"
  | .listMembers => "list_load_balancer_pool_members"
  | .createMember => "create_load_balancer_pool_member"
  | .deleteMember => "delete_load_balancer_pool_member"
  | .createImportJob => "create_image_import_job"
  | .getJob => "get_job"
  | .deleteJob => "delete_job"
  | .getAllImages => "get_all_images"
  | .getImage => "get_image"
  | .deleteImage => "delete_image"

/-- What a method returns. -/
abbrev Reply : Method → Type
  | .getInstance => Option Instance
  | .getInstanceByName => Option Instance
  | .createInstance => Instance
  | .deleteInstance => Unit
  | .tagResource => Unit
  | .getLoadBalancer => Option LoadBalancer
  | .getLoadBalancerByName => Option LoadBalancer
  | .listMembers => List PoolMember
  | .createMember => PoolMember
  | .deleteMember => Unit
  | .createImportJob => String
  | .getJob => Job
  | .deleteJob => Unit
  | .getAllImages => List ImageReference
  | .getImage => BootImage
  | .deleteImage => Unit

/-- The method of a compute call. -/
def ofVpcCall : VpcCall → Method
  | .getInstance _ => .getInstance
  | .getInstanceByName _ => .getInstanceByName
  | .createInstance _ => .createInstance
  | .deleteInstance _ => .deleteInstance
  | .tagResource .. => .tagResource
  | .getLoadBalancer _ => .getLoadBalancer
  | .getLoadBalancerByName _ => .getLoadBalancerByName
  | .listMembers .. => .listMembers
  | .createMember .. => .createMember
  | .deleteMember .. => .deleteMember

/-- The method of an image call. -/
def ofWorkspaceCall : WorkspaceCall → Method
  | .createImportJob _ => .createImportJob
  | .getJob _ => .getJob
  | .deleteJob _ => .deleteJob
  | .getAllImages => .getAllImages
  | .getImage _ => .getImage
  | .deleteImage _ => .deleteImage

/-- The method of a call of a managed kind. -/
def ofCall : (managed : Managed) → managed.Call → Method
  | .machine, call => ofVpcCall call
  | .image, call => ofWorkspaceCall call

theorem reply_ofCall : (managed : Managed) → (call : managed.Call) →
    (ofCall managed call).Reply = managed.Reply call
  | .machine, call => by cases call <;> rfl
  | .image, call => by cases call <;> rfl

end Method

/-- How a call ends. -/
inductive Ending (α : Type) where
  | returned (value : α)
  | failed (error : CloudError)
  | never
  | panicked (text : String)
deriving DecidableEq, Inhabited

/-- An answer to a call: how it ends, after a number of milliseconds. -/
structure Answer (α : Type) where
  delay : Nat
  ending : Ending α
deriving DecidableEq, Inhabited

/-- The answers still to be given. -/
abbrev Script := (method : Method) → List (Answer method.Reply)

namespace Script

def empty : Script := fun _ => []

/-- Puts the answers of a method in. -/
def set (method : Method) (answers : List (Answer method.Reply)) (script : Script) : Script :=
  fun other => if h : method = other then h ▸ answers else script other

/-- The next answer of a method, and the script without it. -/
def next (method : Method) (script : Script) : Answer method.Reply × Script :=
  match script method with
  | [] => (⟨0, .failed (.unexpected ("no answer scripted for " ++ method.name))⟩, script)
  | [last] => (last, script)
  | first :: rest => (first, script.set method rest)

end Script

end Reconciler.Simulation
