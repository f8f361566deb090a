import Reconciler.Cloud.Call
import Reconciler.Json.Reader

/-!
# Provider resources as documents

Scripts and traces hold the provider's resources, and what calls are made with, in one form of
their own: every field is written, and a text that is not given is empty.
-/

namespace Reconciler.Codec

open Json FieldReader

/-- A text field that is empty where it is not given. -/
def textField (name : String) : FieldReader String := defaulted name "" Reader.text

/-- A field that holds a word of a vocabulary. -/
def wordField (name : String) (ofWord : String → α) : FieldReader α := do
  return ofWord (← textField name)

def readHealthReason : Reader HealthReason := record do
  return { code := ← textField "code", message := ← textField "message" }

def writeHealthReason (reason : HealthReason) : Json :=
  .object [("code", .string reason.code), ("message", .string reason.message)]

def readInstance : Reader Instance := record do
  return {
    id := ← textField "id"
    name := ← textField "name"
    crn := ← optional "crn" Reader.text
    status := ← wordField "status" .ofWord
    primaryAddress := ← optional "primaryIp" Reader.text
    healthReasons := ← defaulted "healthReasons" [] (Reader.list readHealthReason) }

def writeInstance (found : Instance) : Json :=
  .object
    [("id", .string found.id), ("name", .string found.name),
      ("crn", orNull .string found.crn), ("status", .string found.status.word),
      ("primaryIp", orNull .string found.primaryAddress),
      ("healthReasons", .array (found.healthReasons.map writeHealthReason))]

def readPool : Reader Pool := record do
  return { id := ← textField "id", name := ← textField "name" }

def writePool (pool : Pool) : Json :=
  .object [("id", .string pool.id), ("name", .string pool.name)]

def readLoadBalancer : Reader LoadBalancer := record do
  return {
    id := ← textField "id"
    name := ← textField "name"
    status := ← wordField "status" .ofWord
    pools := ← defaulted "pools" [] (Reader.list readPool) }

def writeLoadBalancer (loadBalancer : LoadBalancer) : Json :=
  .object
    [("id", .string loadBalancer.id), ("name", .string loadBalancer.name),
      ("status", .string loadBalancer.status.word),
      ("pools", .array (loadBalancer.pools.map writePool))]

def readMember : Reader PoolMember := record do
  return {
    id := ← textField "id"
    address := ← optional "address" Reader.text
    port := ← defaulted "port" 0 Reader.int64
    status := ← wordField "status" .ofWord }

def writeMember (member : PoolMember) : Json :=
  .object
    [("id", .string member.id), ("address", orNull .string member.address),
      ("port", .integer member.port), ("status", .string member.status.word)]

def readJob : Reader Job := record do
  return {
    id := ← textField "id"
    state := ← wordField "state" .ofWord
    message := ← textField "message" }

def writeJob (job : Job) : Json :=
  .object
    [("id", .string job.id), ("state", .string job.state.word), ("message", .string job.message)]

def readBootImage : Reader BootImage := record do
  return {
    id := ← textField "id"
    name := ← textField "name"
    state := ← wordField "state" .ofWord }

def writeBootImage (image : BootImage) : Json :=
  .object
    [("id", .string image.id), ("name", .string image.name), ("state", .string image.state.word)]

def readImageReference : Reader ImageReference := record do
  return { id := ← textField "id", name := ← textField "name" }

def writeImageReference (reference : ImageReference) : Json :=
  .object [("id", .string reference.id), ("name", .string reference.name)]

def readPrototype : Reader InstancePrototype := record do
  return {
    name := ← textField "name"
    zone := ← textField "zone"
    profile := ← textField "profile"
    vpc := ← optional "vpc" Reader.text
    subnet := ← textField "subnet"
    imageId := ← optional "imageId" Reader.text
    imageName := ← optional "imageName" Reader.text
    sshKeys := ← defaulted "sshKeys" [] (Reader.list Reader.text)
    resourceGroup := ← optional "resourceGroup" Reader.text
    userData := ← optional "userData" Reader.text }

def writePrototype (prototype : InstancePrototype) : Json :=
  .object
    [("name", .string prototype.name), ("zone", .string prototype.zone),
      ("profile", .string prototype.profile), ("vpc", orNull .string prototype.vpc),
      ("subnet", .string prototype.subnet), ("imageId", orNull .string prototype.imageId),
      ("imageName", orNull .string prototype.imageName),
      ("sshKeys", .array (prototype.sshKeys.map .string)),
      ("resourceGroup", orNull .string prototype.resourceGroup),
      ("userData", orNull .string prototype.userData)]

def readImportRequest : Reader ImportRequest := record do
  return {
    imageName := ← textField "imageName"
    bucket := ← textField "bucket"
    object := ← textField "object"
    region := ← textField "region"
    storageType := ← textField "storageType" }

def writeImportRequest (request : ImportRequest) : Json :=
  .object
    [("imageName", .string request.imageName), ("bucket", .string request.bucket),
      ("object", .string request.object), ("region", .string request.region),
      ("storageType", .string request.storageType)]

def readTarget : Reader WorkspaceTarget := record do
  return {
    serviceInstanceId := ← optional "serviceInstanceId" Reader.text
    zone := ← optional "zone" Reader.text
    region := ← optional "region" Reader.text }

def writeTarget (target : WorkspaceTarget) : Json :=
  .object
    [("serviceInstanceId", orNull .string target.serviceInstanceId),
      ("zone", orNull .string target.zone), ("region", orNull .string target.region)]

end Reconciler.Codec
