import Reconciler.Json.Canonical
import Reconciler.Json.Limits
import Reconciler.Json.Reader
import Reconciler.Resource.Metadata

/-!
# Metadata as documents

Metadata is read from objects only, and the latest member of a name counts.  A field that is absent
stays absent when it is written again, and an empty list or map stays empty.
-/

namespace Reconciler.Codec

open Json FieldReader Time

/-- Reads a map with text keys. -/
def readMap (value : Reader α) : Reader (StringMap α)
  | .object members =>
    (members.mapM fun member => (value member.2).map (member.1, ·)).map StringMap.ofList
  | _ => none

def writeMap (value : α → Json) (map : StringMap α) : Json :=
  .object (map.entries.map fun entry => (entry.1, value entry.2))

def writeList (item : α → Json) (items : List α) : Json := .array (items.map item)

def readInstant : Reader Instant
  | .string text => Instant.ofString? text
  | _ => none

def writeInstant (instant : Instant) : Json := .string instant.toString

/-- A text field that is empty where it is absent or `null`. -/
def textOrEmpty (name : String) : FieldReader String := do
  return (← latest name Reader.text).getD ""

def readOwnerReference : Reader OwnerReference := mapping do
  return {
    apiVersion := ← textOrEmpty "apiVersion"
    kind := ← textOrEmpty "kind"
    name := ← textOrEmpty "name"
    uid := ← textOrEmpty "uid"
    controller := ← latest "controller" Reader.flag
    blockOwnerDeletion := ← latest "blockOwnerDeletion" Reader.flag }

def writeOwnerReference (reference : OwnerReference) : Json :=
  .object <|
    [("apiVersion", .string reference.apiVersion), ("kind", .string reference.kind),
      ("name", .string reference.name), ("uid", .string reference.uid)] ++
    Json.optional "controller" .bool reference.controller ++
    Json.optional "blockOwnerDeletion" .bool reference.blockOwnerDeletion

/-- Reads an account of fields, which is kept in its canonical form; `null` is none.  Four levels of
nesting lie around it: the object, its metadata, the list of accounts and the entry. -/
def readFields : Reader Json
  | .null => none
  | document =>
    if document.withinLimits (depthLimit - 4) then some document.canonical else none

def readManagedFields : Reader ManagedFields := mapping do
  return {
    apiVersion := ← latest "apiVersion" Reader.text
    fieldsType := ← latest "fieldsType" Reader.text
    fields := ← latest "fieldsV1" readFields
    manager := ← latest "manager" Reader.text
    operation := ← latest "operation" Reader.text
    subresource := ← latest "subresource" Reader.text
    time := ← latest "time" readInstant }

/-- Instants in metadata are written to the second. -/
def writeSeconds (instant : Instant) : Json := .string instant.toStringSeconds

def writeManagedFields (managed : ManagedFields) : Json :=
  .object <|
    Json.optional "apiVersion" .string managed.apiVersion ++
    Json.optional "fieldsType" .string managed.fieldsType ++
    Json.optional "fieldsV1" id managed.fields ++
    Json.optional "manager" .string managed.manager ++
    Json.optional "operation" .string managed.operation ++
    Json.optional "subresource" .string managed.subresource ++
    Json.optional "time" writeSeconds managed.time

def readMetadata : Reader Metadata := mapping do
  return {
    name := ← latest "name" Reader.text
    generateName := ← latest "generateName" Reader.text
    «namespace» := ← latest "namespace" Reader.text
    uid := ← latest "uid" Reader.text
    resourceVersion := ← latest "resourceVersion" Reader.text
    generation := ← latest "generation" Reader.int64
    selfLink := ← latest "selfLink" Reader.text
    creationTimestamp := ← latest "creationTimestamp" readInstant
    labels := ← latest "labels" (readMap Reader.text)
    annotations := ← latest "annotations" (readMap Reader.text)
    finalizers := ← latest "finalizers" (Reader.list Reader.text)
    ownerReferences := ← latest "ownerReferences" (Reader.list readOwnerReference)
    deletionTimestamp := ← latest "deletionTimestamp" readInstant
    deletionGracePeriodSeconds := ← latest "deletionGracePeriodSeconds" Reader.int64
    managedFields := ← latest "managedFields" (Reader.list readManagedFields) }

def writeMetadata (metadata : Metadata) : Json :=
  .object <|
    Json.optional "name" .string metadata.name ++
    Json.optional "generateName" .string metadata.generateName ++
    Json.optional "namespace" .string metadata.namespace ++
    Json.optional "uid" .string metadata.uid ++
    Json.optional "resourceVersion" .string metadata.resourceVersion ++
    Json.optional "generation" .integer metadata.generation ++
    Json.optional "selfLink" .string metadata.selfLink ++
    Json.optional "creationTimestamp" writeSeconds metadata.creationTimestamp ++
    Json.optional "labels" (writeMap .string) metadata.labels ++
    Json.optional "annotations" (writeMap .string) metadata.annotations ++
    Json.optional "finalizers" (writeList .string) metadata.finalizers ++
    Json.optional "ownerReferences" (writeList writeOwnerReference) metadata.ownerReferences ++
    Json.optional "deletionTimestamp" writeSeconds metadata.deletionTimestamp ++
    Json.optional "deletionGracePeriodSeconds" .integer metadata.deletionGracePeriodSeconds ++
    Json.optional "managedFields" (writeList writeManagedFields) metadata.managedFields

end Reconciler.Codec
