import Reconciler.ProviderState

/-!
# Resources of the provider
-/

namespace Reconciler

structure HealthReason where
  code : String
  message : String
deriving DecidableEq, Inhabited

/-- A virtual server instance. -/
structure Instance where
  id : String
  name : String
  crn : Option String
  status : InstanceStatus
  primaryAddress : Option String
  healthReasons : List HealthReason
deriving DecidableEq, Inhabited

/-- What an instance is created from. -/
structure InstancePrototype where
  name : String
  zone : String
  profile : String
  vpc : Option String
  subnet : String
  imageId : Option String
  imageName : Option String
  sshKeys : List String
  resourceGroup : Option String
  userData : Option String
deriving DecidableEq, Inhabited

/-- A pool of a load balancer. -/
structure Pool where
  id : String
  name : String
deriving DecidableEq, Inhabited

structure LoadBalancer where
  id : String
  name : String
  status : ProvisioningStatus
  pools : List Pool
deriving DecidableEq, Inhabited

structure PoolMember where
  id : String
  address : Option String
  port : Int
  status : ProvisioningStatus
deriving DecidableEq, Inhabited

/-- An asynchronous import job. -/
structure Job where
  id : String
  state : JobState
  message : String
deriving DecidableEq, Inhabited

/-- An entry in the listing of boot images. -/
structure ImageReference where
  id : String
  name : String
deriving DecidableEq, Inhabited

structure BootImage where
  id : String
  name : String
  state : ImageState
deriving DecidableEq, Inhabited

/-- What an image is imported from. -/
structure ImportRequest where
  imageName : String
  bucket : String
  object : String
  region : String
  storageType : String
deriving DecidableEq, Inhabited

/-- The workspace that image calls go to. -/
structure WorkspaceTarget where
  serviceInstanceId : Option String
  zone : Option String
  region : Option String
deriving DecidableEq, Inhabited

end Reconciler
