import Reconciler.Decimal.Double
import Reconciler.Json.Basic

/-!
# Limits of documents

A reader that skips a part of a document takes any part that keeps to the grammar.  A part that is
kept has to be within limits: it does not nest too deep, its numbers are doubles, and nothing in it
is ill-formed.
-/

namespace Reconciler.Json

/-- How deep arrays and objects may nest in a part that is kept. -/
def depthLimit : Nat := 127

mutual

/-- The document is well-formed, has numbers in range, and nests at most so deep. -/
def withinLimits : (depth : Nat) → Json → Bool
  | _, .null => true
  | _, .bool _ => true
  | _, .integer _ => true
  | _, .decimal _ coefficient exponent => (Decimal.toDouble? coefficient exponent).isSome
  | _, .string _ => true
  | 0, .array _ => false
  | 0, .object _ => false
  | depth + 1, .array items => itemsWithinLimits depth items
  | depth + 1, .object members => membersWithinLimits depth members
  | _, .illFormed => false

/-- Every item is within limits. -/
def itemsWithinLimits : (depth : Nat) → List Json → Bool
  | _, [] => true
  | depth, item :: items => item.withinLimits depth && itemsWithinLimits depth items

/-- Every member is within limits. -/
def membersWithinLimits : (depth : Nat) → List (String × Json) → Bool
  | _, [] => true
  | depth, (_, value) :: members => value.withinLimits depth && membersWithinLimits depth members

end

end Reconciler.Json
