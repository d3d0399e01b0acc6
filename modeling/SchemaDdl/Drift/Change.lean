/-
# Changes

What differs between the desired and the live schema, down to single attributes of
columns.
-/
import SchemaDdl.Sql.Statement

namespace SchemaDdl.Drift

/-! ## Columns -/

/-- An attribute of a column with its desired and its live value. -/
inductive ColumnChange where
  | type (desired live : String)
  | nullable (desired live : Bool)
  | primary (desired live : Bool)
  | unique (desired live : Bool)
  | default (desired live : String)
  deriving DecidableEq, Repr

/-- The name of the attribute that changes. -/
def ColumnChange.attributeName : ColumnChange → String
  | .type _ _ => "type"
  | .nullable _ _ => "nullable"
  | .primary _ _ => "primary"
  | .unique _ _ => "unique"
  | .default _ _ => "default"

/-- A column on both sides with the attributes that differ. -/
structure ColumnDiff where
  column : String
  changes : List ColumnChange
  deriving DecidableEq, Repr

/-! ## Tables, enum types and indexes -/

/-- A table on both sides with the columns that differ. -/
structure TableDiff where
  table : String
  added : List String
  removed : List String
  modified : List ColumnDiff
  deriving DecidableEq, Repr

/-- Whether any column of a table differs. -/
def TableDiff.hasChanges (d : TableDiff) : Bool :=
  !d.added.isEmpty || !d.removed.isEmpty || !d.modified.isEmpty

/-- An enum type with the values that are on one side only. -/
structure EnumDiff where
  name : String
  added : List String
  removed : List String
  deriving DecidableEq, Repr

/-- The name of an index and its table. -/
structure IndexName where
  name : String
  table : String
  deriving DecidableEq, Repr

/-! ## Schemas -/

/-- What differs between two schemas.  What is added is in the desired schema only, and
what is removed is in the live schema only. -/
structure SchemaDiff where
  tablesAdded : List String
  tablesRemoved : List String
  tablesModified : List TableDiff
  enumsAdded : List String
  enumsRemoved : List String
  enumsModified : List EnumDiff
  indexesAdded : List IndexName
  indexesRemoved : List IndexName
  deriving DecidableEq, Repr

/-- Whether anything differs. -/
def SchemaDiff.hasChanges (d : SchemaDiff) : Bool :=
  !d.tablesAdded.isEmpty || !d.tablesRemoved.isEmpty || !d.tablesModified.isEmpty ||
    !d.enumsAdded.isEmpty || !d.enumsRemoved.isEmpty || !d.enumsModified.isEmpty ||
    !d.indexesAdded.isEmpty || !d.indexesRemoved.isEmpty

end SchemaDdl.Drift
