import Reconciler.Json.Basic
import Reconciler.StringMap

/-!
# Documents with sorted members

The canonical form of a document has the members of every object in the order of their names; of
several members of one name the last one stays.
-/

namespace Reconciler.Json

mutual

/-- The canonical form of a document. -/
def canonical : Json → Json
  | .null => .null
  | .bool value => .bool value
  | .integer value => .integer value
  | .decimal negative coefficient exponent => .decimal negative coefficient exponent
  | .string text => .string text
  | .array items => .array (canonicalItems items)
  | .object members => .object (StringMap.ofList (canonicalMembers members)).entries
  | .illFormed => .illFormed

/-- The canonical forms of the items of an array. -/
def canonicalItems : List Json → List Json
  | [] => []
  | item :: items => canonical item :: canonicalItems items

/-- The members of an object with their values in canonical form. -/
def canonicalMembers : List (String × Json) → List (String × Json)
  | [] => []
  | (name, value) :: members => (name, canonical value) :: canonicalMembers members

end

end Reconciler.Json
