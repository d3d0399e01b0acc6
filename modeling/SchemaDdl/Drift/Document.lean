/-
# Documents of differences

How a difference is written in JSON and read from it.
-/
import SchemaDdl.Drift.Change
import SchemaDdl.Json.Record

namespace SchemaDdl.Drift

open Json (field)

/-! ## Columns -/

/-- The members of a change: its attribute and its two values. -/
def changeRecord (name : String) (desired live : Json) : Json :=
  .record [("attribute", .text name), ("generated", desired), ("live", live)]

/-- A change of an attribute as a document writes it. -/
def ColumnChange.toJson (c : ColumnChange) : Json :=
  match c with
  | .type desired live => changeRecord c.attributeName (.text desired) (.text live)
  | .nullable desired live => changeRecord c.attributeName (.bool desired) (.bool live)
  | .primary desired live => changeRecord c.attributeName (.bool desired) (.bool live)
  | .unique desired live => changeRecord c.attributeName (.bool desired) (.bool live)
  | .default desired live => changeRecord c.attributeName (.text desired) (.text live)

/-- Reads a change of an attribute. -/
def ColumnChange.ofJson? (value : Json) : Option ColumnChange := do
  let given ← Json.given? [field "attribute", field "generated", field "live"] value
  let word (name : String) := given.text? name
  let truth (name : String) := given.bool? name false
  match ← word "attribute" with
  | "type" => return .type (← word "generated") (← word "live")
  | "nullable" => return .nullable (← truth "generated") (← truth "live")
  | "primary" => return .primary (← truth "generated") (← truth "live")
  | "unique" => return .unique (← truth "generated") (← truth "live")
  | "default" => return .default (← word "generated") (← word "live")
  | _ => none

/-- A column as a document writes it. -/
def ColumnDiff.toJson (d : ColumnDiff) : Json :=
  .record [("column", .text d.column), ("changes", .list ColumnChange.toJson d.changes)]

/-- Reads a column. -/
def ColumnDiff.ofJson? (value : Json) : Option ColumnDiff := do
  let given ← Json.given? [field "column", field "changes"] value
  return {
    column := ← given.text? "column"
    changes := ← given.list? "changes" ColumnChange.ofJson? }

/-! ## Tables, enum types and indexes -/

/-- A table as a document writes it. -/
def TableDiff.toJson (d : TableDiff) : Json :=
  .record
    [("table", .text d.table), ("columns_added", .texts d.added),
      ("columns_removed", .texts d.removed),
      ("columns_modified", .list ColumnDiff.toJson d.modified)]

/-- Reads a table. -/
def TableDiff.ofJson? (value : Json) : Option TableDiff := do
  let given ← Json.given?
    [field "table", field "columns_added", field "columns_removed", field "columns_modified"]
    value
  return {
    table := ← given.text? "table"
    added := ← given.list? "columns_added" Json.text?
    removed := ← given.list? "columns_removed" Json.text?
    modified := ← given.list? "columns_modified" ColumnDiff.ofJson? }

/-- An enum type as a document writes it. -/
def EnumDiff.toJson (d : EnumDiff) : Json :=
  .record
    [("name", .text d.name), ("values_added", .texts d.added),
      ("values_removed", .texts d.removed)]

/-- Reads an enum type. -/
def EnumDiff.ofJson? (value : Json) : Option EnumDiff := do
  let given ← Json.given? [field "name", field "values_added", field "values_removed"] value
  return {
    name := ← given.text? "name"
    added := ← given.list? "values_added" Json.text?
    removed := ← given.list? "values_removed" Json.text? }

/-- An index as a document writes it. -/
def IndexName.toJson (i : IndexName) : Json :=
  .record [("name", .text i.name), ("table", .text i.table)]

/-- Reads an index. -/
def IndexName.ofJson? (value : Json) : Option IndexName := do
  let given ← Json.given? [field "name", field "table"] value
  return { name := ← given.text? "name", table := ← given.text? "table" }

/-! ## Schemas -/

/-- The fields of a difference's document. -/
def SchemaDiff.documentFields : List Json.FieldName :=
  [field "tables_added", field "tables_removed", field "tables_modified", field "enums_added",
    field "enums_removed", field "enums_modified", field "indexes_added",
    field "indexes_removed"]

/-- A difference as a document writes it. -/
def SchemaDiff.toJson (d : SchemaDiff) : Json :=
  .record
    [("tables_added", .texts d.tablesAdded), ("tables_removed", .texts d.tablesRemoved),
      ("tables_modified", .list TableDiff.toJson d.tablesModified),
      ("enums_added", .texts d.enumsAdded), ("enums_removed", .texts d.enumsRemoved),
      ("enums_modified", .list EnumDiff.toJson d.enumsModified),
      ("indexes_added", .list IndexName.toJson d.indexesAdded),
      ("indexes_removed", .list IndexName.toJson d.indexesRemoved)]

/-- Reads a difference. -/
def SchemaDiff.ofJson? (value : Json) : Option SchemaDiff := do
  let given ← Json.given? SchemaDiff.documentFields value
  return {
    tablesAdded := ← given.list? "tables_added" Json.text?
    tablesRemoved := ← given.list? "tables_removed" Json.text?
    tablesModified := ← given.list? "tables_modified" TableDiff.ofJson?
    enumsAdded := ← given.list? "enums_added" Json.text?
    enumsRemoved := ← given.list? "enums_removed" Json.text?
    enumsModified := ← given.list? "enums_modified" EnumDiff.ofJson?
    indexesAdded := ← given.list? "indexes_added" IndexName.ofJson?
    indexesRemoved := ← given.list? "indexes_removed" IndexName.ofJson? }

end SchemaDdl.Drift
