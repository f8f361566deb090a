import Reconciler.Codec.Cluster
import Reconciler.Codec.Image
import Reconciler.Codec.Machine
import Reconciler.Resource.Kind
import Reconciler.Text.Base64

/-!
# Stored objects as documents

Every kind has metadata, a specification and perhaps a status under names of their own, except that
a secret's content stands beside its metadata.  What an object is known by (group, version and kind)
is left to the caller, except that a secret may not be called something else.
-/

namespace Reconciler.Codec

open Json FieldReader

/-- Reads bytes; `null` stands for none. -/
def readBytes : Reader (List UInt8)
  | .string text => Text.Base64.decode text.toList
  | .null => some []
  | _ => none

def writeBytes (bytes : List UInt8) : Json := .string (String.ofList (Text.Base64.encode bytes))

def readSpec : (kind : Kind) → Reader kind.Spec
  | .machine => readMachineSpec
  | .image => readImageSpec
  | .vpcCluster => readVpcClusterSpec
  | .powerVsCluster => readPowerVsClusterSpec
  | .secret => fun _ => none

def writeSpec : (kind : Kind) → kind.Spec → Json
  | .machine => writeMachineSpec
  | .image => writeImageSpec
  | .vpcCluster => writeVpcClusterSpec
  | .powerVsCluster => writePowerVsClusterSpec
  | .secret => fun _ => .null

def readStatus : (kind : Kind) → Reader kind.Status
  | .machine => readMachineStatus
  | .image => readImageStatus
  | .vpcCluster => readVpcClusterStatus
  | .powerVsCluster => readPowerVsClusterStatus
  | .secret => fun _ => none

def writeStatus : (kind : Kind) → kind.Status → Json
  | .machine => writeMachineStatus
  | .image => writeImageStatus
  | .vpcCluster => writeVpcClusterStatus
  | .powerVsCluster => writePowerVsClusterStatus
  | .secret => fun _ => .null

/-- A member that is given away by the kind: it may be absent or stand several times, but not be
different. -/
def fixed (name value : String) : FieldReader Unit := do
  if (← values name).any (· != .string value) then failure

def readSecret : Reader Secret := mapping do
  fixed "apiVersion" Kind.secret.apiVersion
  fixed "kind" Kind.secret.name
  return {
    metadata := (← latest "metadata" readMetadata).getD {}
    spec := {
      data := ← latest "data" (readMap readBytes)
      stringData := ← latest "stringData" (readMap Reader.text)
      type := ← latest "type" Reader.text
      immutable := ← latest "immutable" Reader.flag }
    status := none }

def writeSecret (secret : Secret) : Json :=
  .object <|
    [("metadata", writeMetadata secret.metadata)] ++
    Json.optional "data" (writeMap writeBytes) secret.spec.data ++
    Json.optional "stringData" (writeMap .string) secret.spec.stringData ++
    Json.optional "type" .string secret.spec.type ++
    Json.optional "immutable" .bool secret.spec.immutable

/-- Reads an object of a kind that has specification and status. -/
def readParts (kind : Kind) : Reader (Resource kind) := record do
  return {
    metadata := ← required "metadata" readMetadata
    spec := ← required "spec" (readSpec kind)
    status := ← nullable "status" (readStatus kind) }

def writeParts (kind : Kind) (object : Resource kind) : Json :=
  .object <|
    [("metadata", writeMetadata object.metadata), ("spec", writeSpec kind object.spec)] ++
    Json.optional "status" (writeStatus kind) object.status

def readObject : (kind : Kind) → Reader (Resource kind)
  | .machine => readParts .machine
  | .image => readParts .image
  | .vpcCluster => readParts .vpcCluster
  | .powerVsCluster => readParts .powerVsCluster
  | .secret => readSecret

def writeObject : (kind : Kind) → Resource kind → Json
  | .machine => writeParts .machine
  | .image => writeParts .image
  | .vpcCluster => writeParts .vpcCluster
  | .powerVsCluster => writeParts .powerVsCluster
  | .secret => writeSecret

end Reconciler.Codec
