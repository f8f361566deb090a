/-!
# JSON documents

The value type shared by stored objects, provider messages and schemas, with the few operations on
object members that the rest of the library needs.
-/

namespace Reconciler

/-- A JSON document.  A number written without fraction and exponent is an `integer`, as long as it
lies in `[-2^63, 2^64)` and is no negative zero; any other number keeps its sign beside
`coefficient * 10 ^ exponent`.  Members keep their order.  A string with half a surrogate pair is
`illFormed`, and so is an object with such a name. -/
inductive Json where
  | null
  | bool (value : Bool)
  | integer (value : Int)
  | decimal (negative : Bool) (coefficient : Nat) (exponent : Int)
  | string (text : String)
  | array (items : List Json)
  | object (members : List (String × Json))
  | illFormed
deriving Inhabited

namespace Json

mutual

/-- Decides whether two documents are equal. -/
def decEq (left right : Json) : Decidable (left = right) :=
  if h : left.ctorIdx = right.ctorIdx then
    match left, right with
    | .null, .null | .illFormed, .illFormed => isTrue rfl
    | .bool x, .bool y => decidable_of_iff (x = y) (by simp)
    | .integer x, .integer y => decidable_of_iff (x = y) (by simp)
    | .decimal negative coefficient exponent, .decimal negative' coefficient' exponent' =>
      decidable_of_iff
        (negative = negative' ∧ coefficient = coefficient' ∧ exponent = exponent') (by simp)
    | .string x, .string y => decidable_of_iff (x = y) (by simp)
    | .array xs, .array ys =>
      have := decEqItems xs ys
      decidable_of_iff (xs = ys) (by simp)
    | .object xs, .object ys =>
      have := decEqMembers xs ys
      decidable_of_iff (xs = ys) (by simp)
  else isFalse fun heq => h (congrArg Json.ctorIdx heq)

/-- Decides whether two arrays have the same items. -/
def decEqItems (left right : List Json) : Decidable (left = right) :=
  match left, right with
  | [], [] => isTrue rfl
  | [], _ :: _ | _ :: _, [] => isFalse nofun
  | x :: xs, y :: ys =>
    have := decEq x y
    have := decEqItems xs ys
    decidable_of_iff (x = y ∧ xs = ys) (by simp)

/-- Decides whether two objects have the same members in the same order. -/
def decEqMembers (left right : List (String × Json)) : Decidable (left = right) :=
  match left, right with
  | [], [] => isTrue rfl
  | [], _ :: _ | _ :: _, [] => isFalse nofun
  | (name, x) :: xs, (name', y) :: ys =>
    have := decEq x y
    have := decEqMembers xs ys
    decidable_of_iff (name = name' ∧ x = y ∧ xs = ys) (by simp [and_assoc])

end

instance : DecidableEq Json := decEq

/-- The members of an object that carry a name, in order. -/
def named (name : String) (members : List (String × Json)) : List Json :=
  members.filterMap fun member => if member.1 == name then some member.2 else none

/-- The member of a name, when the document is an object that has one. -/
def member? (name : String) : Json → Option Json
  | .object members => members.lookup name
  | _ => none

/-- A value, or `null` where there is none. -/
def orNull (write : α → Json) : Option α → Json
  | none => .null
  | some value => write value

/-- A member that is written only when there is something to write. -/
def optional (name : String) (write : α → Json) : Option α → List (String × Json)
  | none => []
  | some value => [(name, write value)]

end Json

end Reconciler
