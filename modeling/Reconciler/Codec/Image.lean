import Reconciler.Codec.Condition
import Reconciler.Image

/-!
# Images as documents
-/

namespace Reconciler.Codec

open Json FieldReader

def deletePolicyWord : DeletePolicy → String
  | .delete => "delete"
  | .retain => "retain"

def readImageSpec : Reader ImageSpec := record do
  return {
    clusterName := ← required "clusterName" Reader.text
    serviceInstanceId := ← optional "serviceInstanceId" Reader.text
    zone := ← optional "zone" Reader.text
    object := ← optional "object" Reader.text
    region := ← optional "region" Reader.text
    bucket := ← optional "bucket" Reader.text
    storageType := ← defaulted "storageType" Image.defaultStorageType Reader.text
    deletePolicy := ← defaulted "deletePolicy" .delete
      (Reader.word [("delete", .delete), ("retain", .retain)]) }

def writeImageSpec (spec : ImageSpec) : Json :=
  .object <|
    [("clusterName", .string spec.clusterName)] ++
    Json.optional "serviceInstanceId" .string spec.serviceInstanceId ++
    Json.optional "zone" .string spec.zone ++
    Json.optional "object" .string spec.object ++
    Json.optional "region" .string spec.region ++
    Json.optional "bucket" .string spec.bucket ++
    [("storageType", .string spec.storageType),
      ("deletePolicy", .string (deletePolicyWord spec.deletePolicy))]

def readWorkspace : Reader Workspace := record do
  return {
    serviceInstanceId := ← required "serviceInstanceId" Reader.text
    zone := ← optional "zone" Reader.text
    region := ← optional "region" Reader.text }

def writeWorkspace (workspace : Workspace) : Json :=
  .object <|
    [("serviceInstanceId", .string workspace.serviceInstanceId)] ++
    Json.optional "zone" .string workspace.zone ++
    Json.optional "region" .string workspace.region

def readImageState : Reader ImageState := fun document => (Reader.text document).map .ofWord

def writeImageState (state : ImageState) : Json := .string state.word

def readImageStatus : Reader ImageStatus := record do
  return {
    ready := ← defaulted "ready" false Reader.flag
    imageId := ← optional "imageId" Reader.text
    jobId := ← optional "jobId" Reader.text
    imageState := ← optional "imageState" readImageState
    workspace := ← optional "workspace" readWorkspace
    conditions := ← defaulted "conditions" [] (Reader.list readCondition) }

def writeImageStatus (status : ImageStatus) : Json :=
  .object <|
    [("ready", .bool status.ready)] ++
    Json.optional "imageId" .string status.imageId ++
    Json.optional "jobId" .string status.jobId ++
    Json.optional "imageState" writeImageState status.imageState ++
    Json.optional "workspace" writeWorkspace status.workspace ++
    [("conditions", writeList writeCondition status.conditions)]

end Reconciler.Codec
