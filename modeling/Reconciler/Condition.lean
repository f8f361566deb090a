import Reconciler.Time.Instant

/-!
# Conditions

A status carries a list of conditions.  Setting a condition keeps one entry of its type, puts the
summary type `Ready` first and the others in the order of their types, and keeps the transition time
as long as the condition's status stays the same.
-/

namespace Reconciler

open Time

inductive ConditionStatus where
  | isTrue
  | isFalse
  | unknown
deriving DecidableEq, Inhabited

/-- A condition that says nothing else is unknown. -/
def ConditionStatus.default : ConditionStatus := .unknown

def ConditionStatus.word : ConditionStatus → String
  | .isTrue => "True"
  | .isFalse => "False"
  | .unknown => "Unknown"

/-- How bad a condition is that does not hold. -/
inductive ConditionSeverity where
  | info
  | warning
  | error
deriving DecidableEq, Inhabited

def ConditionSeverity.word : ConditionSeverity → String
  | .info => "Info"
  | .warning => "Warning"
  | .error => "Error"

structure Condition where
  type : String
  status : ConditionStatus
  severity : Option ConditionSeverity
  reason : Option String
  message : Option String
  lastTransitionTime : Instant
deriving DecidableEq, Inhabited

namespace Condition

/-- The summary type. -/
def readyType : String := "Ready"

/-- A condition observed now.  An empty message counts as none. -/
def observed (type : String) (status : ConditionStatus) (severity : Option ConditionSeverity)
    (reason message : Option String) (now : Instant) : Condition :=
  ⟨type, status, severity, reason, message.filter (!·.isEmpty), now⟩

/-- Both say the same, whenever they were observed. -/
def sameState (left right : Condition) : Bool :=
  left.type == right.type && left.status == right.status && left.severity == right.severity &&
    left.reason == right.reason && left.message == right.message

/-- The summary comes first, other conditions in the order of their types. -/
def precedes (left right : Condition) : Bool :=
  if left.type = readyType then true
  else if right.type = readyType then false
  else left.type ≤ right.type

/-- Puts a condition in the place of the first one of its type. -/
def replaceFirst (condition : Condition) : List Condition → List Condition
  | [] => []
  | head :: rest =>
    if head.type == condition.type then condition :: rest
    else head :: replaceFirst condition rest

end Condition

/-- The conditions of one object. -/
abbrev Conditions := List Condition

namespace Conditions

open Condition

/-- The condition of a type. -/
def get? (type : String) (conditions : Conditions) : Option Condition :=
  conditions.find? (·.type == type)

/-- The condition of a type is there and holds. -/
def holds (type : String) (conditions : Conditions) : Bool :=
  match get? type conditions with
  | some condition => condition.status == .isTrue
  | none => false

/-- Records a condition. -/
def set (condition : Condition) (conditions : Conditions) : Conditions :=
  match get? condition.type conditions with
  | none => (conditions ++ [condition]).mergeSort precedes
  | some existing =>
    if existing.sameState condition then conditions
    else
      let since :=
        if existing.status == condition.status then existing.lastTransitionTime
        else condition.lastTransitionTime
      (replaceFirst { condition with lastTransitionTime := since } conditions).mergeSort precedes

def markTrue (type : String) (now : Instant) (conditions : Conditions) : Conditions :=
  conditions.set (observed type .isTrue none none none now)

def markFalse (type reason : String) (severity : ConditionSeverity) (message : String)
    (now : Instant) (conditions : Conditions) : Conditions :=
  conditions.set (observed type .isFalse (some severity) (some reason) (some message) now)

def markUnknown (type reason message : String) (now : Instant) (conditions : Conditions) :
    Conditions :=
  conditions.set (observed type .unknown none (some reason) (some message) now)

end Conditions

end Reconciler
