import Reconciler.Schema.Definition

/-!
# The published kinds
-/

namespace Reconciler.Definition

open Schema

def resourceReference : Schema :=
  .described "Points at a cloud resource either by its ID or by its name" <|
    .record [optional "id" .text, optional "name" .text]

def condition : Schema :=
  .record
    [required "type" .text,
      required "status" (.choice ["True", "False", "Unknown"]),
      optional "severity"
        (.described "How bad a non-True condition is" (.choice ["Info", "Warning", "Error"])),
      optional "reason" .text,
      optional "message" .text,
      required "lastTransitionTime" .instant]

def conditions : String × Bool × Schema := defaulted "conditions" (.array []) (.list condition)

def ready : String × Bool × Schema := defaulted "ready" (.bool false) .boolean

def poolMembership : Schema :=
  .record
    [required "loadBalancer" resourceReference, required "pool" resourceReference,
      required "port" (.integer 64), optional "weight" (.integer 64)]

def machineSpec : Schema :=
  .described "A virtual server instance in an IBM Cloud VPC" <| .record
    [optional "name" (.described "Instance name, defaults to the resource name" .text),
      required "zone" .text,
      required "profile" .text,
      required "image" resourceReference,
      optional "primaryNetworkInterface" (.record [optional "subnet" .text]),
      defaulted "sshKeys" (.array []) (.list resourceReference),
      optional "bootstrapDataSecretName"
        (.described "Secret holding the bootstrap user data under the `value` key" .text),
      defaulted "loadBalancerPoolMembers" (.array []) <|
        .described
          ("Explicit load balancer pool memberships; when empty, control-plane machines " ++
            "join the cluster's API server load balancer") (.list poolMembership)]

def machineAddress : Schema :=
  .record
    [required "type" (.choice ["InternalIP", "ExternalIP", "Hostname"]), required "address" .text]

def machineStatus : Schema :=
  .record
    [ready,
      optional "providerId" (.described "Opaque external identifier, written once" .text),
      optional "instanceId" .text,
      optional "instanceStatus" .text,
      optional "region"
        (.described "VPC region the instance is created in, kept for teardown" .text),
      defaulted "addresses" (.array []) (.list machineAddress),
      optional "failureReason" .text,
      optional "failureMessage" .text,
      conditions]

/-- The column of the messages of conditions that do not hold. -/
def errorsColumn : PrinterColumn where
  name := "errors"
  type := "string"
  description := "Errors"
  path := ".status.conditions[?(@.status == 'False')].message"

def machine : Definition where
  kind := .machine
  title := "VpcMachine"
  description := "Custom resource representing a VPC virtual server backing a cluster machine"
  columns :=
    [{ name := "Cluster", type := "string", description := "Owning cluster"
       path := ".metadata.labels.cluster\\.x-k8s\\.io/cluster-name" },
      { name := "State", type := "string", description := "Instance state"
        path := ".status.instanceStatus" },
      { name := "Ready", type := "boolean", description := "Machine ready"
        path := ".status.ready" },
      { name := "Instance", type := "string", description := "Instance ID"
        path := ".status.instanceId", priority := some 1 },
      errorsColumn]
  spec := machineSpec
  status := machineStatus

def imageSpec : Schema :=
  .described "A boot image imported into a PowerVS workspace from object storage" <| .record
    [required "clusterName" (.described "Name of the owning IBMPowerVSCluster" .text),
      optional "serviceInstanceId"
        (.described "Workspace to import into; defaults to the cluster's" .text),
      optional "zone" .text,
      optional "bucket" .text,
      optional "object" (.described "Image file name inside the bucket" .text),
      optional "region" (.described "Bucket region" .text),
      defaulted "storageType" (.string "tier1") .text,
      defaulted "deletePolicy" (.string "delete") <|
        .described "What happens to the imported image when the resource goes away"
          (.choice ["delete", "retain"])]

def workspace : Schema :=
  .described "Workspace the job and image were created in" <| .record
    [required "serviceInstanceId" .text, optional "zone" .text, optional "region" .text]

def imageStatus : Schema :=
  .record
    [ready,
      optional "imageId" .text,
      optional "imageState" .text,
      optional "jobId"
        (.described "Import job in flight; no other job is started while it is set" .text),
      optional "workspace" workspace,
      conditions]

def image : Definition where
  kind := .image
  title := "PowerVsImage"
  description := "Custom resource representing a PowerVS boot image imported from a COS bucket"
  columns :=
    [{ name := "State", type := "string", description := "Image state"
       path := ".status.imageState" },
      { name := "Ready", type := "boolean", description := "Image ready"
        path := ".status.ready" },
      { name := "Image", type := "string", description := "Image ID"
        path := ".status.imageId", priority := some 1 },
      errorsColumn]
  spec := imageSpec
  status := imageStatus

def vpcClusterSpec : Schema :=
  .described ("Cluster-wide VPC infrastructure, reconciled elsewhere and only read by the " ++
      "machine controller") <| .record
    [required "region" (.described "VPC region" .text),
      optional "resourceGroup" .text,
      optional "vpc" resourceReference,
      optional "controlPlaneEndpoint"
        (.record [required "host" .text, required "port" (.integer 32)])]

def vpcClusterStatus : Schema :=
  .record
    [ready,
      optional "vpcId" .text,
      optional "subnetId" .text,
      optional "controlPlaneLoadBalancer" <|
        .described "Load balancer fronting the control plane"
          (.record [required "id" .text, optional "name" .text])]

def vpcCluster : Definition where
  kind := .vpcCluster
  title := "VpcCluster"
  description := "Cluster infrastructure living in an IBM Cloud VPC"
  columns :=
    [{ name := "Region", type := "string", description := "VPC region"
       path := ".spec.region" },
      { name := "Ready", type := "boolean", description := "Infrastructure ready"
        path := ".status.ready" }]
  spec := vpcClusterSpec
  status := vpcClusterStatus

def powerVsClusterSpec : Schema :=
  .described "PowerVS workspace backing a cluster; only read by the image controller" <| .record
    [required "serviceInstanceId" (.described "PowerVS workspace (cloud instance) ID" .text),
      required "zone" .text,
      optional "region" .text]

def powerVsCluster : Definition where
  kind := .powerVsCluster
  title := "PowerVsCluster"
  description := "Cluster infrastructure living in an IBM Power Virtual Server workspace"
  columns := []
  spec := powerVsClusterSpec
  status := .record [ready]

/-- Every definition, in the order in which they are published. -/
def all : List Definition := [vpcCluster, machine, powerVsCluster, image]

/-- The definition of a kind, if it has one. -/
def of? (kind : Kind) : Option Definition := all.find? (·.kind == kind)

end Reconciler.Definition
