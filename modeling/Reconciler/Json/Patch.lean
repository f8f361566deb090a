import Reconciler.Json.Basic

/-!
# Merge patches

A merge patch (RFC 7386) replaces what it names: `null` removes a member, an object is merged member
by member, anything else takes the place of the target.
-/

namespace Reconciler.Json

/-- Sets a member in place, or at the end when there is none of that name. -/
def setMember (name : String) (value : Json) : List (String × Json) → List (String × Json)
  | [] => [(name, value)]
  | member :: members =>
    if member.1 == name then (name, value) :: members
    else member :: setMember name value members

/-- Removes the members of a name. -/
def removeMember (name : String) (members : List (String × Json)) : List (String × Json) :=
  members.filter fun member => member.1 != name

/-- The members of an object; anything else has none. -/
def membersOf : Json → List (String × Json)
  | .object members => members
  | _ => []

mutual

/-- The document after a patch. -/
def merge : (patch target : Json) → Json
  | .object changes, target => .object (mergeMembers changes (membersOf target))
  | .null, _ => .null
  | .bool value, _ => .bool value
  | .integer value, _ => .integer value
  | .decimal negative coefficient exponent, _ => .decimal negative coefficient exponent
  | .string text, _ => .string text
  | .array items, _ => .array items
  | .illFormed, _ => .illFormed

/-- Applies the members of a patch one by one. -/
def mergeMembers : (changes members : List (String × Json)) → List (String × Json)
  | [], members => members
  | (name, .null) :: changes, members => mergeMembers changes (removeMember name members)
  | (name, change) :: changes, members =>
    mergeMembers changes
      (setMember name (merge change ((members.lookup name).getD .null)) members)

end

end Reconciler.Json
