import Reconciler.Condition
import Reconciler.ProviderState
import Reconciler.Resource.Metadata

/-!
# Images

An image is a boot image that is imported into a workspace from object storage.
-/

namespace Reconciler

/-- What becomes of the imported image when its object goes away. -/
inductive DeletePolicy where
  | delete
  | retain
deriving DecidableEq, Inhabited

structure ImageSpec where
  /-- The name of the owning cluster. -/
  clusterName : String
  /-- The workspace to import into, where it is not the cluster's. -/
  serviceInstanceId : Option String
  zone : Option String
  /-- The file in the bucket. -/
  object : Option String
  /-- The region of the bucket. -/
  region : Option String
  bucket : Option String
  storageType : String
  deletePolicy : DeletePolicy
deriving DecidableEq, Inhabited

/-- The workspace that a job and its image belong to. -/
structure Workspace where
  serviceInstanceId : String
  zone : Option String
  region : Option String
deriving DecidableEq, Inhabited

structure ImageStatus where
  ready : Bool := false
  imageId : Option String := none
  /-- The import job in flight; no other one is started while it is set. -/
  jobId : Option String := none
  imageState : Option ImageState := none
  workspace : Option Workspace := none
  conditions : Conditions := []
deriving DecidableEq

instance : Inhabited ImageStatus := ⟨{}⟩

abbrev Image := Object ImageSpec ImageStatus

namespace Image

def finalizer : String := "ibmpowervsimage.infrastructure.cluster.x-k8s.io"

def imported : String := "ImageImported"
def imageReady : String := "ImageReady"
def imageNotReady : String := "ImageNotReady"
def importFailed : String := "ImageImportFailed"

/-- The storage type of an image that names none. -/
def defaultStorageType : String := "tier1"

/-- The recorded image, unless the record is empty. -/
def imageId (image : Image) : Option String :=
  (image.status.bind (·.imageId)).filter (!·.isEmpty)

/-- The recorded job, unless the record is empty. -/
def jobId (image : Image) : Option String :=
  (image.status.bind (·.jobId)).filter (!·.isEmpty)

end Image

end Reconciler
