import Reconciler.Json.Basic

/-!
# Strict reading of documents

A reader accepts a document or refuses it, without saying why.  Records are read from an object by
name, or from an array in the order of their fields.  Members nobody asks for are ignored, and
`null` is a value of optional fields alone.  A member asked for may stand only once, unless the
latest one counts.
-/

namespace Reconciler.Json

/-- A way to read documents of one kind. -/
abbrev Reader (α : Type) := Json → Option α

namespace Reader

def text : Reader String
  | .string value => some value
  | _ => none

def flag : Reader Bool
  | .bool value => some value
  | _ => none

/-- An integer literal between two bounds. -/
def integerIn (low high : Int) : Reader Int
  | .integer value => if low ≤ value ∧ value ≤ high then some value else none
  | _ => none

/-- A signed integer of so many bits beside its sign. -/
def signed (bits : Nat) : Reader Int :=
  integerIn (-(Nat.pow 2 bits : Nat)) ((Nat.pow 2 bits : Nat) - 1)

def int64 : Reader Int := signed 63

def int32 : Reader Int := signed 31

def uint64 : Reader Nat := fun document =>
  (integerIn 0 ((Nat.pow 2 64 : Nat) - 1) document).map Int.toNat

/-- Reads every item of an array. -/
def list (item : Reader α) : Reader (List α)
  | .array items => items.mapM item
  | _ => none

/-- Reads `null` as absence. -/
def nullable (value : Reader α) : Reader (Option α)
  | .null => some none
  | document => (value document).map some

/-- A word out of a closed set.  The word may also be the only member of an object whose value is
`null`. -/
def word (choices : List (String × α)) : Reader α
  | .string value => choices.lookup value
  | .object [(value, .null)] => choices.lookup value
  | _ => none

end Reader

/-- What the fields of a record are read from. -/
inductive Source where
  | named (members : List (String × Json))
  | positional (items : List Json)

/-- Reads fields one after another, in the order in which the record declares them. -/
abbrev FieldReader := StateT Source Option

namespace FieldReader

/-- The value given for a field, or nothing where it is absent. -/
def take (name : String) : FieldReader (Option Json) := fun source =>
  match source with
  | .named members =>
    match named name members with
    | [] => some (none, source)
    | [value] => some (some value, source)
    | _ => none
  | .positional [] => some (none, source)
  | .positional (item :: items) => some (some item, .positional items)

/-- All values given for a field. -/
def values (name : String) : FieldReader (List Json) := fun source =>
  match source with
  | .named members => some (named name members, source)
  | .positional [] => some ([], source)
  | .positional (item :: items) => some ([item], .positional items)

/-- A field that has to be there. -/
def required (name : String) (read : Reader α) : FieldReader α := do
  match ← take name with
  | some value => StateT.lift (read value)
  | none => StateT.lift none

/-- A field with a value for its absence. -/
def defaulted (name : String) (default : α) (read : Reader α) : FieldReader α := do
  match ← take name with
  | some value => StateT.lift (read value)
  | none => pure default

/-- A field that may be absent or `null`. -/
def optional (name : String) (read : Reader α) : FieldReader (Option α) :=
  defaulted name none (Reader.nullable read)

/-- A field that may be absent or `null`, and may be given several times.  All of its values are
read, and the last one counts. -/
def latest (name : String) (read : Reader α) : FieldReader (Option α) := do
  let found ← StateT.lift ((← values name).mapM (Reader.nullable read))
  return found.getLast?.join

/-- A field that may be absent or `null`, but not left off the end of an array. -/
def nullable (name : String) (read : Reader α) : FieldReader (Option α) := fun source =>
  match source with
  | .positional [] => none
  | _ => optional name read source

/-- Reads a record from an object, or from an array that has no item left over. -/
def record (fields : FieldReader α) : Reader α
  | .object members => (fields (.named members)).map (·.1)
  | .array items =>
    match fields (.positional items) with
    | some (value, .positional []) => some value
    | _ => none
  | _ => none

/-- Reads a record from an object alone. -/
def mapping (fields : FieldReader α) : Reader α
  | .object members => (fields (.named members)).map (·.1)
  | _ => none

end FieldReader

end Reconciler.Json
