import Reconciler.Json.Canonical

/-!
# Schemas

A schema says what documents of a kind look like.  It is published as a document of its own.
-/

namespace Reconciler

/-- What a document has to look like.  A field of a record comes with its name and whether it has to
be there. -/
inductive Schema where
  | text
  /-- A point in time. -/
  | instant
  | choice (words : List String)
  /-- An integer of so many bits. -/
  | integer (bits : Nat)
  | boolean
  | list (item : Schema)
  | record (fields : List (String × Bool × Schema))
  | nullable (schema : Schema)
  | defaulting (value : Json) (schema : Schema)
  | described (description : String) (schema : Schema)
deriving Inhabited

namespace Schema

def required (name : String) (schema : Schema) : String × Bool × Schema := (name, true, schema)

/-- A field that may be absent or `null`. -/
def optional (name : String) (schema : Schema) : String × Bool × Schema :=
  (name, false, .nullable schema)

/-- A field with a value for its absence. -/
def defaulted (name : String) (value : Json) (schema : Schema) : String × Bool × Schema :=
  (name, false, .defaulting value schema)

/-- The names of the fields that have to be there, sorted. -/
def requiredNames (fields : List (String × Bool × Schema)) : List String :=
  ((fields.filter (·.2.1)).map (·.1)).mergeSort (· ≤ ·)

/-- The `required` member of a record's schema, left out when there is nothing in it. -/
def requiredMember (fields : List (String × Bool × Schema)) : List (String × Json) :=
  match requiredNames fields with
  | [] => []
  | names => [("required", .array (names.map .string))]

mutual

/-- The members of the published form of a schema. -/
def members : Schema → List (String × Json)
  | .text => [("type", .string "string")]
  | .instant => [("type", .string "string"), ("format", .string "date-time")]
  | .choice words => [("type", .string "string"), ("enum", .array (words.map .string))]
  | .integer bits => [("type", .string "integer"), ("format", .string ("int" ++ toString bits))]
  | .boolean => [("type", .string "boolean")]
  | .list item => [("type", .string "array"), ("items", .object (members item))]
  | .record fields =>
    [("type", .string "object"), ("properties", .object (properties fields))] ++
      requiredMember fields
  | .nullable schema => ("nullable", .bool true) :: members schema
  | .defaulting value schema => ("default", value) :: members schema
  | .described description schema => ("description", .string description) :: members schema

/-- The published forms of the fields of a record. -/
def properties : List (String × Bool × Schema) → List (String × Json)
  | [] => []
  | (name, _, schema) :: fields => (name, .object (members schema)) :: properties fields

end

/-- The published form of a schema. -/
def document (schema : Schema) : Json := .object schema.members

end Schema

end Reconciler
