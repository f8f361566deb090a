import Reconciler.Resource.Kind
import Reconciler.Schema.Basic
import Reconciler.Yaml

/-!
# Definitions of kinds

The API server learns of a kind from its definition: its names, its schema, and the columns in which
its objects are listed.
-/

namespace Reconciler

/-- A column in a listing of objects. -/
structure PrinterColumn where
  name : String
  type : String
  description : String
  path : String
  priority : Option Int := none
deriving DecidableEq, Inhabited

def PrinterColumn.document (column : PrinterColumn) : Json :=
  .object <|
    [("name", .string column.name), ("type", .string column.type),
      ("description", .string column.description), ("jsonPath", .string column.path)] ++
    Json.optional "priority" .integer column.priority

/-- What is published about a kind. -/
structure Definition where
  kind : Kind
  title : String
  description : String
  columns : List PrinterColumn
  spec : Schema
  status : Schema

namespace Definition

def singular (definition : Definition) : String := definition.kind.name.toLower

def plural (definition : Definition) : String := definition.kind.plural

/-- The schema of whole objects. -/
def schema (definition : Definition) : Schema :=
  .described definition.description <|
    .record [("spec", true, definition.spec), ("status", false, .nullable definition.status)]

def names (definition : Definition) : Json :=
  .object
    [("categories", .array []), ("kind", .string definition.kind.name),
      ("plural", .string definition.plural),
      ("shortNames", .array [.string definition.singular]),
      ("singular", .string definition.singular)]

def version (definition : Definition) : Json :=
  .object
    [("name", .string apiVersion), ("served", .bool true), ("storage", .bool true),
      ("subresources", .object [("status", .object [])]),
      ("additionalPrinterColumns", .array (definition.columns.map (·.document))),
      ("schema", .object
        [("openAPIV3Schema", .object
          (("title", .string definition.title) :: definition.schema.members))])]

/-- The definition as the API server takes it. -/
def document (definition : Definition) : Json :=
  Json.canonical <| .object
    [("apiVersion", .string "apiextensions.k8s.io/v1"),
      ("kind", .string "CustomResourceDefinition"),
      ("metadata", .object [("name", .string (definition.plural ++ "." ++ apiGroup))]),
      ("spec", .object
        [("group", .string apiGroup), ("names", definition.names),
          ("scope", .string "Namespaced"), ("versions", .array [definition.version])])]

/-- Definitions as a stream of documents. -/
def stream (definitions : List Definition) : String :=
  String.join (definitions.map fun definition => "---\n" ++ Yaml.render definition.document)

end Definition

end Reconciler
