import Reconciler.Cloud.Call
import Reconciler.Http.Reply
import Reconciler.Http.Token

/-!
# Provider calls over HTTP

Each call becomes the requests that carry it out.  A listing of load balancers is followed page by
page, up to a number of pages.
-/

namespace Reconciler.Http

/-- The provider's HTTP interface, with the regions used where a target names none. -/
structure Provider extends Account where
  vpcRegion : String
  powerVsRegion : String
deriving DecidableEq, Inhabited

def apiVersion : String := "2024-11-12"

/-- Where compute calls of a region go. -/
def Provider.vpcBase (provider : Provider) (region : Option String) : String :=
  "https://" ++ region.getD provider.vpcRegion ++ ".iaas.cloud.ibm.com/v1"

/-- The address of a path, with the version that every compute request names. -/
def versioned (base path : String) : String :=
  base ++ path ++ (if path.contains '?' then "&" else "?") ++ "version=" ++ apiVersion ++
    "&generation=2"

/-- Where image calls of a workspace go. -/
def Provider.workspaceBase (provider : Provider) (target : WorkspaceTarget) : String :=
  "https://" ++ target.region.getD provider.powerVsRegion ++
    ".power-iaas.cloud.ibm.com/pcloud/v1/cloud-instances/" ++ target.serviceInstanceId.getD ""

def taggingUrl : String :=
  "https://tags.global-search-tagging.cloud.ibm.com/v3/tags/attach?tag_type=user"

/-- An object with a single text member. -/
def holding (name value : String) : Json := .object [(name, .string value)]

/-- The request body that creates an instance from an image. -/
def instanceBody (prototype : InstancePrototype) (image : String) : Json :=
  .object <|
    [("name", .string prototype.name), ("zone", holding "name" prototype.zone),
      ("profile", holding "name" prototype.profile), ("image", holding "id" image),
      ("keys", .array (prototype.sshKeys.map (holding "id"))),
      ("primary_network_interface", .object [("subnet", holding "id" prototype.subnet)])] ++
    Json.optional "vpc" (holding "id") prototype.vpc ++
    Json.optional "resource_group" (holding "id") prototype.resourceGroup ++
    Json.optional "user_data" .string prototype.userData

def memberBody (address : String) (port : Int) (weight : Option Int) : Json :=
  .object <|
    [("port", .integer port), ("target", holding "address" address)] ++
    Json.optional "weight" .integer weight

def tagBody (tag crn : String) : Json :=
  .object [("resources", .array [holding "resource_id" crn]), ("tag_names", .array [.string tag])]

/-- The request body that imports an image from a public bucket. -/
def importBody (request : ImportRequest) : Json :=
  .object
    [("imageName", .string request.imageName), ("bucketName", .string request.bucket),
      ("bucketAccess", .string "public"), ("region", .string request.region),
      ("imageFilename", .string request.object), ("storageType", .string request.storageType)]

namespace Account

/-- The id of the first image of a name. -/
def resolveImage (account : Account) (base name : String) : Call String := do
  let ids ← account.get readImageIds (versioned base ("/images?name=" ++ name))
  match ids.head? with
  | some id => return id
  | none => throw (.notFound ("image " ++ name))

/-- The id of the image that an instance starts from. -/
def prototypeImage (account : Account) (base : String) (prototype : InstancePrototype) :
    Call String :=
  match prototype.imageId, prototype.imageName with
  | some id, _ => return id
  | none, some name => account.resolveImage base name
  | none, none => throw (.unexpected ("instance " ++ prototype.name ++ " has no image"))

/-- Looks for a load balancer from one page on.  A listing that does not end in time counts as one
that no longer answers. -/
def findLoadBalancer (account : Account) (name : String) :
    (pages : Nat) → (url : String) → Call (Option LoadBalancer)
  | 0, url => throw (.transport (.sending url))
  | pages + 1, url => do
    let page ← account.get readLoadBalancerPage url
    match page.loadBalancers.find? (·.name == name), page.next with
    | some loadBalancer, _ => return some loadBalancer
    | none, some next => account.findLoadBalancer name pages next
    | none, none => return none

end Account

/-- Carries out a call in a VPC region, following listings for a number of pages. -/
def Provider.vpc (provider : Provider) (pages : Nat) (region : Option String) :
    (call : VpcCall) → Call call.Reply :=
  let account := provider.toAccount
  let base := provider.vpcBase region
  let members (loadBalancer pool : String) :=
    "/load_balancers/" ++ loadBalancer ++ "/pools/" ++ pool ++ "/members"
  fun
  | .getInstance id => account.find readInstance (versioned base ("/instances/" ++ id))
  | .getInstanceByName name => do
    let instances ← account.get readInstances (versioned base ("/instances?name=" ++ name))
    return instances.head?
  | .createInstance prototype => do
    let image ← account.prototypeImage base prototype
    account.post readInstance (versioned base "/instances") (instanceBody prototype image)
  | .deleteInstance id => account.delete (versioned base ("/instances/" ++ id))
  | .tagResource tag crn => account.post readAnything taggingUrl (tagBody tag crn)
  | .getLoadBalancer id =>
    account.find readLoadBalancer (versioned base ("/load_balancers/" ++ id))
  | .getLoadBalancerByName name =>
    account.findLoadBalancer name pages (versioned base "/load_balancers?limit=50")
  | .listMembers loadBalancer pool =>
    account.get readMembers (versioned base (members loadBalancer pool))
  | .createMember loadBalancer pool address port weight =>
    account.post readMember (versioned base (members loadBalancer pool))
      (memberBody address port weight)
  | .deleteMember loadBalancer pool member =>
    account.delete (versioned base (members loadBalancer pool ++ "/" ++ member))

/-- Carries out a call in a workspace. -/
def Provider.workspace (provider : Provider) (target : WorkspaceTarget) :
    (call : WorkspaceCall) → Call call.Reply :=
  let account := provider.toAccount
  let base := provider.workspaceBase target
  fun
  | .createImportJob request => account.post readJobId (base ++ "/cos-images") (importBody request)
  | .getJob id => account.get readJob (base ++ "/jobs/" ++ id)
  | .deleteJob id => account.delete (base ++ "/jobs/" ++ id)
  | .getAllImages => do
    let images ← account.get readBootImages (base ++ "/images")
    return images.map fun image => ⟨image.id, image.name⟩
  | .getImage id => account.get readBootImage (base ++ "/images/" ++ id)
  | .deleteImage id => account.delete (base ++ "/images/" ++ id)

/-- Carries out a call of a managed kind. -/
def Provider.call (provider : Provider) (pages : Nat) :
    (managed : Managed) → managed.Target → (call : managed.Call) → Call (managed.Reply call)
  | .machine, region => provider.vpc pages region
  | .image, target => provider.workspace target

end Reconciler.Http
