/-
# Metadata documents

How schema metadata is written in JSON and read from it.
-/
import SchemaDdl.Entity.Metadata
import SchemaDdl.Json.Record

namespace SchemaDdl

open Json (Given field fieldOr)

/-! ## Actions and defaults -/

/-- An action as a document writes it. -/
def ReferentialAction.toJson (a : ReferentialAction) : Json :=
  .text a.sql

/-- Reads an action: its key, or an object with the key as its only member, which is
`null`. -/
def ReferentialAction.ofJson? : Json → Option ReferentialAction
  | .string text => text.bind ReferentialAction.ofKey?
  | .object [(some key, .null)] => ReferentialAction.ofKey? key
  | _ => none

/-- A default as a document writes it: an object whose only member names its kind. -/
def DefaultValue.toJson : DefaultValue → Json
  | .literal text => .record [("value", .text text)]
  | .function text => .record [("function", .text text)]

/-- Reads a default. -/
def DefaultValue.ofJson? : Json → Option DefaultValue
  | .object [(some "value", value)] => value.text?.map .literal
  | .object [(some "function", value)] => value.text?.map .function
  | _ => none

/-! ## Overrides -/

/-- The types by dialect as a document writes them. -/
def Overrides.toJson (o : Overrides) : Json :=
  .record (Dialect.all.filterMap fun d => (o.get? d).map fun t => (d.name, .text t))

/-- The types that members give, over those given before; of several for one dialect
the last stands. -/
def Overrides.addMembers (o : Overrides) : List (Option String × Json) → Option Overrides
  | [] => some o
  | (key, value) :: members => do
    let d ← Dialect.ofKey? (← key)
    (o.set d (← value.text?)).addMembers members

/-- Reads types by dialect. -/
def Overrides.ofJson? : Json → Option Overrides
  | .object members => Overrides.empty.addMembers members
  | _ => none

/-! ## Fields -/

/-- The fields of a field's document. -/
def Field.documentFields : List Json.FieldName :=
  [field "struct_name", field "name", field "type", field "nullable", field "primary",
    field "unique", field "auto_increment", field "default", field "check", field "comment",
    field "foreign_key", field "foreign_key_name", field "on_delete", field "on_update",
    field "overrides"]

/-- A field as a document writes it. -/
def Field.toJson (f : Field) : Json :=
  .record
    [("struct_name", .text f.owner), ("name", .text f.name), ("type", .text f.dataType),
      ("nullable", .bool f.nullable), ("primary", .bool f.primary),
      ("unique", .bool f.unique), ("auto_increment", .bool f.autoIncrement),
      ("default", .optional DefaultValue.toJson f.default),
      ("check", .optional .text f.check), ("comment", .optional .text f.comment),
      ("foreign_key", .optional .text f.foreignKey),
      ("foreign_key_name", .optional .text f.foreignKeyName),
      ("on_delete", .optional ReferentialAction.toJson f.onDelete),
      ("on_update", .optional ReferentialAction.toJson f.onUpdate),
      ("overrides", f.overrides.toJson)]

/-- Reads a field. -/
def Field.ofJson? (value : Json) : Option Field := do
  let given ← Json.given? Field.documentFields value
  return {
    owner := ← given.text? "struct_name"
    name := ← given.text? "name"
    dataType := ← given.text? "type"
    nullable := ← given.bool? "nullable" true
    primary := ← given.bool? "primary" false
    unique := ← given.bool? "unique" false
    autoIncrement := ← given.bool? "auto_increment" false
    default := ← given.get? "default" (Json.optional? DefaultValue.ofJson?) none
    check := ← given.optionalText? "check"
    comment := ← given.optionalText? "comment"
    foreignKey := ← given.optionalText? "foreign_key"
    foreignKeyName := ← given.optionalText? "foreign_key_name"
    onDelete := ← given.get? "on_delete" (Json.optional? ReferentialAction.ofJson?) none
    onUpdate := ← given.get? "on_update" (Json.optional? ReferentialAction.ofJson?) none
    overrides := ← given.get? "overrides" Overrides.ofJson? .empty }

/-! ## Tables, indexes and enum types -/

/-- The fields of a table directive's document. -/
def TableDirective.documentFields : List Json.FieldName :=
  [field "struct_name", field "name", field "comment", field "engine", field "primary_key"]

/-- A table directive as a document writes it. -/
def TableDirective.toJson (t : TableDirective) : Json :=
  .record
    [("struct_name", .text t.owner), ("name", .text t.name),
      ("comment", .optional .text t.comment), ("engine", .optional .text t.engine),
      ("primary_key", .texts t.primaryKey)]

/-- Reads a table directive. -/
def TableDirective.ofJson? (value : Json) : Option TableDirective := do
  let given ← Json.given? TableDirective.documentFields value
  return {
    owner := ← given.text? "struct_name"
    name := ← given.text? "name"
    comment := ← given.optionalText? "comment"
    engine := ← given.optionalText? "engine"
    primaryKey := ← given.list? "primary_key" Json.text? }

/-- The fields of an index directive's document. -/
def IndexDirective.documentFields : List Json.FieldName :=
  [field "struct_name", field "name", fieldOr "fields" "columns", field "unique",
    field "comment", field "method"]

/-- An index directive as a document writes it. -/
def IndexDirective.toJson (i : IndexDirective) : Json :=
  .record
    [("struct_name", .text i.owner), ("name", .text i.name), ("fields", .texts i.fields),
      ("unique", .bool i.unique), ("comment", .optional .text i.comment),
      ("method", .optional .text i.method)]

/-- Reads an index directive. -/
def IndexDirective.ofJson? (value : Json) : Option IndexDirective := do
  let given ← Json.given? IndexDirective.documentFields value
  return {
    owner := ← given.text? "struct_name"
    name := ← given.text? "name"
    fields := ← given.list? "fields" Json.text?
    unique := ← given.bool? "unique" false
    comment := ← given.optionalText? "comment"
    method := ← given.optionalText? "method" }

/-- The fields of an enum type's document. -/
def EnumType.documentFields : List Json.FieldName :=
  [field "name", field "values"]

/-- An enum type as a document writes it. -/
def EnumType.toJson (e : EnumType) : Json :=
  .record [("name", .text e.name), ("values", .texts e.values)]

/-- Reads an enum type. -/
def EnumType.ofJson? (value : Json) : Option EnumType := do
  let given ← Json.given? EnumType.documentFields value
  return {
    name := ← given.text? "name"
    values := ← given.list? "values" Json.text? }

/-! ## Embeddings -/

/-- Reads a mode, which may be any text. -/
def EmbedMode.ofJson? (value : Json) : Option EmbedMode :=
  value.text?.map EmbedMode.ofName

/-- The fields of an embedding's document. -/
def Embedding.documentFields : List Json.FieldName :=
  [field "struct_name", field "embedded_type", field "mode", field "prefix", field "name",
    field "type", field "nullable", field "comment", field "field", field "reference",
    field "on_delete", field "overrides"]

/-- An embedding as a document writes it. -/
def Embedding.toJson (e : Embedding) : Json :=
  .record
    [("struct_name", .text e.owner), ("embedded_type", .text e.embedded),
      ("mode", .text e.mode.keyword), ("prefix", .optional .text e.namePrefix),
      ("name", .optional .text e.name), ("type", .optional .text e.dataType),
      ("nullable", .bool e.nullable), ("comment", .optional .text e.comment),
      ("field", .optional .text e.column), ("reference", .optional .text e.reference),
      ("on_delete", .optional ReferentialAction.toJson e.onDelete),
      ("overrides", e.overrides.toJson)]

/-- Reads an embedding. -/
def Embedding.ofJson? (value : Json) : Option Embedding := do
  let given ← Json.given? Embedding.documentFields value
  return {
    owner := ← given.text? "struct_name"
    embedded := ← given.text? "embedded_type"
    mode := ← given.get? "mode" EmbedMode.ofJson? .inline
    namePrefix := ← given.optionalText? "prefix"
    name := ← given.optionalText? "name"
    dataType := ← given.optionalText? "type"
    nullable := ← given.bool? "nullable" false
    comment := ← given.optionalText? "comment"
    column := ← given.optionalText? "field"
    reference := ← given.optionalText? "reference"
    onDelete := ← given.get? "on_delete" (Json.optional? ReferentialAction.ofJson?) none
    overrides := ← given.get? "overrides" Overrides.ofJson? .empty }

/-! ## Metadata -/

/-- The fields of a metadata document. -/
def Metadata.documentFields : List Json.FieldName :=
  [field "fields", field "tables", field "indexes", field "enums", field "embedded"]

/-- Metadata as a document writes it. -/
def Metadata.toJson (m : Metadata) : Json :=
  .record
    [("fields", .list Field.toJson m.fields), ("tables", .list TableDirective.toJson m.tables),
      ("indexes", .list IndexDirective.toJson m.indexes),
      ("enums", .list EnumType.toJson m.enums),
      ("embedded", .list Embedding.toJson m.embeddings)]

/-- Reads metadata. -/
def Metadata.ofJson? (value : Json) : Option Metadata := do
  let given ← Json.given? Metadata.documentFields value
  return {
    fields := ← given.list? "fields" Field.ofJson?
    tables := ← given.list? "tables" TableDirective.ofJson?
    indexes := ← given.list? "indexes" IndexDirective.ofJson?
    enums := ← given.list? "enums" EnumType.ofJson?
    embeddings := ← given.list? "embedded" Embedding.ofJson? }

end SchemaDdl
