import Reconciler.Codec.Metadata
import Reconciler.Condition

/-!
# Conditions as documents
-/

namespace Reconciler.Codec

open Json FieldReader

def readConditionStatus : Reader ConditionStatus :=
  Reader.word [("True", .isTrue), ("False", .isFalse), ("Unknown", .unknown)]

def readSeverity : Reader ConditionSeverity :=
  Reader.word [("Info", .info), ("Warning", .warning), ("Error", .error)]

def readCondition : Reader Condition := record do
  return {
    type := ← required "type" Reader.text
    status := ← required "status" readConditionStatus
    severity := ← optional "severity" readSeverity
    reason := ← optional "reason" Reader.text
    message := ← optional "message" Reader.text
    lastTransitionTime := ← required "lastTransitionTime" readInstant }

def writeSeverity (severity : ConditionSeverity) : Json := .string severity.word

def writeCondition (condition : Condition) : Json :=
  .object <|
    [("type", .string condition.type), ("status", .string condition.status.word)] ++
    Json.optional "severity" writeSeverity condition.severity ++
    Json.optional "reason" .string condition.reason ++
    Json.optional "message" .string condition.message ++
    [("lastTransitionTime", writeInstant condition.lastTransitionTime)]

end Reconciler.Codec
