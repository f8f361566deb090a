import Reconciler.Codec.Condition
import Reconciler.Machine

/-!
# Machines as documents
-/

namespace Reconciler.Codec

open Json FieldReader

def readReference : Reader ResourceReference := record do
  return { id := ← optional "id" Reader.text, name := ← optional "name" Reader.text }

def writeReference (reference : ResourceReference) : Json :=
  .object <|
    Json.optional "id" .string reference.id ++ Json.optional "name" .string reference.name

def readNetworkInterface : Reader NetworkInterface := record do
  return { subnet := ← optional "subnet" Reader.text }

def writeNetworkInterface (interface : NetworkInterface) : Json :=
  .object (Json.optional "subnet" .string interface.subnet)

def readMembership : Reader PoolMembership := record do
  return {
    loadBalancer := ← required "loadBalancer" readReference
    pool := ← required "pool" readReference
    port := ← required "port" Reader.int64
    weight := ← optional "weight" Reader.int64 }

def writeMembership (membership : PoolMembership) : Json :=
  .object <|
    [("loadBalancer", writeReference membership.loadBalancer),
      ("pool", writeReference membership.pool), ("port", .integer membership.port)] ++
    Json.optional "weight" .integer membership.weight

def readMachineSpec : Reader MachineSpec := record do
  return {
    name := ← optional "name" Reader.text
    zone := ← required "zone" Reader.text
    profile := ← required "profile" Reader.text
    image := ← required "image" readReference
    sshKeys := ← defaulted "sshKeys" [] (Reader.list readReference)
    primaryNetworkInterface := ← optional "primaryNetworkInterface" readNetworkInterface
    bootstrapDataSecretName := ← optional "bootstrapDataSecretName" Reader.text
    loadBalancerPoolMembers :=
      ← defaulted "loadBalancerPoolMembers" [] (Reader.list readMembership) }

def writeMachineSpec (spec : MachineSpec) : Json :=
  .object <|
    Json.optional "name" .string spec.name ++
    [("zone", .string spec.zone), ("profile", .string spec.profile),
      ("image", writeReference spec.image), ("sshKeys", writeList writeReference spec.sshKeys)] ++
    Json.optional "primaryNetworkInterface" writeNetworkInterface spec.primaryNetworkInterface ++
    Json.optional "bootstrapDataSecretName" .string spec.bootstrapDataSecretName ++
    [("loadBalancerPoolMembers", writeList writeMembership spec.loadBalancerPoolMembers)]

def addressTypeWord : AddressType → String
  | .internalIP => "InternalIP"
  | .externalIP => "ExternalIP"
  | .hostname => "Hostname"

def readAddress : Reader MachineAddress := record do
  return {
    type := ← required "type" (Reader.word
      [("InternalIP", .internalIP), ("ExternalIP", .externalIP), ("Hostname", .hostname)])
    address := ← required "address" Reader.text }

def writeAddress (address : MachineAddress) : Json :=
  .object [("type", .string (addressTypeWord address.type)), ("address", .string address.address)]

def readInstanceStatus : Reader InstanceStatus := fun document =>
  (Reader.text document).map .ofWord

def writeInstanceStatus (status : InstanceStatus) : Json := .string status.word

def readMachineStatus : Reader MachineStatus := record do
  return {
    ready := ← defaulted "ready" false Reader.flag
    instanceId := ← optional "instanceId" Reader.text
    region := ← optional "region" Reader.text
    instanceStatus := ← optional "instanceStatus" readInstanceStatus
    providerId := ← optional "providerId" Reader.text
    addresses := ← defaulted "addresses" [] (Reader.list readAddress)
    failureReason := ← optional "failureReason" Reader.text
    failureMessage := ← optional "failureMessage" Reader.text
    conditions := ← defaulted "conditions" [] (Reader.list readCondition) }

def writeMachineStatus (status : MachineStatus) : Json :=
  .object <|
    [("ready", .bool status.ready)] ++
    Json.optional "instanceId" .string status.instanceId ++
    Json.optional "region" .string status.region ++
    Json.optional "instanceStatus" writeInstanceStatus status.instanceStatus ++
    Json.optional "providerId" .string status.providerId ++
    [("addresses", writeList writeAddress status.addresses)] ++
    Json.optional "failureReason" .string status.failureReason ++
    Json.optional "failureMessage" .string status.failureMessage ++
    [("conditions", writeList writeCondition status.conditions)]

end Reconciler.Codec
