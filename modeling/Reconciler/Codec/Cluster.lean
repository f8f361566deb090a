import Reconciler.Cluster
import Reconciler.Codec.Machine

/-!
# Clusters as documents
-/

namespace Reconciler.Codec

open Json FieldReader

def readEndpoint : Reader ApiEndpoint := record do
  return { host := ← required "host" Reader.text, port := ← required "port" Reader.int32 }

def writeEndpoint (endpoint : ApiEndpoint) : Json :=
  .object [("host", .string endpoint.host), ("port", .integer endpoint.port)]

def readVpcClusterSpec : Reader VpcClusterSpec := record do
  return {
    region := ← required "region" Reader.text
    resourceGroup := ← optional "resourceGroup" Reader.text
    vpc := ← optional "vpc" readReference
    controlPlaneEndpoint := ← optional "controlPlaneEndpoint" readEndpoint }

def writeVpcClusterSpec (spec : VpcClusterSpec) : Json :=
  .object <|
    [("region", .string spec.region)] ++
    Json.optional "resourceGroup" .string spec.resourceGroup ++
    Json.optional "vpc" writeReference spec.vpc ++
    Json.optional "controlPlaneEndpoint" writeEndpoint spec.controlPlaneEndpoint

def readLoadBalancerReference : Reader LoadBalancerReference := record do
  return { id := ← required "id" Reader.text, name := ← optional "name" Reader.text }

def writeLoadBalancerReference (reference : LoadBalancerReference) : Json :=
  .object ([("id", .string reference.id)] ++ Json.optional "name" .string reference.name)

def readVpcClusterStatus : Reader VpcClusterStatus := record do
  return {
    ready := ← defaulted "ready" false Reader.flag
    vpcId := ← optional "vpcId" Reader.text
    subnetId := ← optional "subnetId" Reader.text
    controlPlaneLoadBalancer :=
      ← optional "controlPlaneLoadBalancer" readLoadBalancerReference }

def writeVpcClusterStatus (status : VpcClusterStatus) : Json :=
  .object <|
    [("ready", .bool status.ready)] ++
    Json.optional "vpcId" .string status.vpcId ++
    Json.optional "subnetId" .string status.subnetId ++
    Json.optional "controlPlaneLoadBalancer" writeLoadBalancerReference
      status.controlPlaneLoadBalancer

def readPowerVsClusterSpec : Reader PowerVsClusterSpec := record do
  return {
    serviceInstanceId := ← required "serviceInstanceId" Reader.text
    zone := ← required "zone" Reader.text
    region := ← optional "region" Reader.text }

def writePowerVsClusterSpec (spec : PowerVsClusterSpec) : Json :=
  .object <|
    [("serviceInstanceId", .string spec.serviceInstanceId), ("zone", .string spec.zone)] ++
    Json.optional "region" .string spec.region

def readPowerVsClusterStatus : Reader PowerVsClusterStatus := record do
  return { ready := ← defaulted "ready" false Reader.flag }

def writePowerVsClusterStatus (status : PowerVsClusterStatus) : Json :=
  .object [("ready", .bool status.ready)]

end Reconciler.Codec
