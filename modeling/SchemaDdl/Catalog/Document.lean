/-
# Catalog documents

How a live schema is written in JSON and read from it.
-/
import SchemaDdl.Catalog.LiveSchema
import SchemaDdl.Entity.Document

namespace SchemaDdl

open Json (Given field fieldOr)

/-! ## Columns -/

/-- The fields of a live column's document. -/
def LiveColumn.documentFields : List Json.FieldName :=
  [field "name", fieldOr "data_type" "type", field "udt_name", field "nullable",
    field "primary", field "unique", field "default", field "auto_increment"]

/-- A live column as a document writes it. -/
def LiveColumn.toJson (c : LiveColumn) : Json :=
  .record
    [("name", .text c.name), ("data_type", .text c.dataType),
      ("udt_name", .optional .text c.udtName), ("nullable", .bool c.nullable),
      ("primary", .bool c.primary), ("unique", .bool c.unique),
      ("default", .optional .text c.default), ("auto_increment", .bool c.autoIncrement)]

/-- Reads a live column. -/
def LiveColumn.ofJson? (value : Json) : Option LiveColumn := do
  let given ← Json.given? LiveColumn.documentFields value
  return {
    name := ← given.text? "name"
    dataType := ← given.text? "data_type"
    udtName := ← given.optionalText? "udt_name"
    nullable := ← given.bool? "nullable" true
    primary := ← given.bool? "primary" false
    unique := ← given.bool? "unique" false
    default := ← given.optionalText? "default"
    autoIncrement := ← given.bool? "auto_increment" false }

/-! ## Tables and indexes -/

/-- The fields of a live table's document. -/
def LiveTable.documentFields : List Json.FieldName :=
  [field "name", field "columns"]

/-- A live table as a document writes it. -/
def LiveTable.toJson (t : LiveTable) : Json :=
  .record [("name", .text t.name), ("columns", .list LiveColumn.toJson t.columns)]

/-- Reads a live table. -/
def LiveTable.ofJson? (value : Json) : Option LiveTable := do
  let given ← Json.given? LiveTable.documentFields value
  return {
    name := ← given.text? "name"
    columns := ← given.list? "columns" LiveColumn.ofJson? }

/-- The fields of a live index's document. -/
def LiveIndex.documentFields : List Json.FieldName :=
  [field "name", field "table", field "columns", field "primary", field "unique"]

/-- A live index as a document writes it. -/
def LiveIndex.toJson (i : LiveIndex) : Json :=
  .record
    [("name", .text i.name), ("table", .text i.table), ("columns", .texts i.columns),
      ("primary", .bool i.primary), ("unique", .bool i.unique)]

/-- Reads a live index. -/
def LiveIndex.ofJson? (value : Json) : Option LiveIndex := do
  let given ← Json.given? LiveIndex.documentFields value
  return {
    name := ← given.text? "name"
    table := ← given.text? "table"
    columns := ← given.list? "columns" Json.text?
    primary := ← given.bool? "primary" false
    unique := ← given.bool? "unique" false }

/-! ## Schemas -/

/-- The fields of a live schema's document. -/
def LiveSchema.documentFields : List Json.FieldName :=
  [field "tables", field "indexes", field "enums"]

/-- A live schema as a document writes it. -/
def LiveSchema.toJson (s : LiveSchema) : Json :=
  .record
    [("tables", .list LiveTable.toJson s.tables), ("indexes", .list LiveIndex.toJson s.indexes),
      ("enums", .list EnumType.toJson s.enums)]

/-- Reads a live schema. -/
def LiveSchema.ofJson? (value : Json) : Option LiveSchema := do
  let given ← Json.given? LiveSchema.documentFields value
  return {
    tables := ← given.list? "tables" LiveTable.ofJson?
    indexes := ← given.list? "indexes" LiveIndex.ofJson?
    enums := ← given.list? "enums" EnumType.ofJson? }

end SchemaDdl
