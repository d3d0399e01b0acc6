/-
# Migrations

The statements that make the changes of a difference, in an order in which each finds
what it needs.  Nothing that loses data is carried out: what is to be removed and what
is left to people becomes a comment.
-/
import SchemaDdl.Ddl.Renderer
import SchemaDdl.Drift.Summary
import SchemaDdl.Entity.Statements

namespace SchemaDdl.Drift

/-! ## Setting -/

/-- What a migration is written for: the desired schema, the dialect, and whether
columns and indexes are changed by statements or left to people. -/
structure MigrationPlan where
  schema : DesiredSchema
  dialect : Dialect
  emitStatements : Bool
  deriving DecidableEq, Repr

namespace MigrationPlan

/-- The renderer of a migration, which knows the enum types of the desired schema. -/
def renderer (m : MigrationPlan) : Renderer :=
  (Renderer.ofDialect m.dialect).withEnums m.schema.enums

/-- A statement as one entry of a migration. -/
def statementEntry (m : MigrationPlan) (s : Statement) : Except Failure String :=
  (m.renderer.renderStatement s).2

/-! ## Enum types -/

/-- The entry that creates an enum type, or a notice where enum types are written out in
their columns. -/
def enumAddedEntry (m : MigrationPlan) (e : EnumType) : String :=
  (m.dialect.profile.createEnum e).getD
    ("-- enum " ++ e.name ++ " (" ++ ", ".intercalate e.values ++
      ") is declared inline on its columns")

/-- The entry that adds a value to an enum type. -/
def valueAddedEntry (m : MigrationPlan) (name value : String) : String :=
  (m.dialect.profile.addEnumValue name value).getD
    ("-- TODO: add value '" ++ value ++ "' to enum " ++ name ++
      " by redefining the columns that use it")

/-- The warning about a value that an enum type is to lose. -/
def valueRemovedEntry (name value : String) : String :=
  "-- WARNING: enum " ++ name ++ " no longer declares value '" ++ value ++
    "'; enum values cannot be removed automatically"

/-- The entries of an enum type. -/
def enumEntries (m : MigrationPlan) (d : EnumDiff) : List String :=
  d.added.map (m.valueAddedEntry d.name) ++ d.removed.map (valueRemovedEntry d.name)

/-- The warning about an enum type that is no longer declared. -/
def enumRemovedEntry (name : String) : String :=
  "-- WARNING: enum type " ++ name ++ " is no longer declared; remove it manually once unused"

/-! ## Tables and columns -/

/-- The entry that creates a table. -/
def tableAddedEntry (m : MigrationPlan) (t : DesiredTable) : Except Failure String :=
  m.statementEntry (.createTable (t.definition m.dialect))

/-- The warning about a table that is no longer declared. -/
def tableRemovedEntry (name : String) : String :=
  "-- WARNING: table " ++ name ++
    " is no longer declared; remove it manually after migrating its data"

/-- The desired table and field of a column. -/
def declared? (m : MigrationPlan) (table column : String) : Option (DesiredTable × Field) := do
  let t ← m.schema.table? table
  let f ← t.field? column
  return (t, f)

/-- The entry that adds a column. -/
def columnAddedEntry (m : MigrationPlan) (table column : String) : Except Failure String :=
  match m.declared? table column with
  | some (t, f) =>
    if m.emitStatements then
      m.statementEntry (.alterTable ⟨table, [.addColumn (t.column m.dialect f)]⟩)
    else
      .ok ("-- TODO: add column " ++ table ++ "." ++ column ++ " " ++
        (f.resolveType m.dialect).dataType)
  | none => .ok ("-- TODO: add column " ++ table ++ "." ++ column)

/-- The comment that leaves the changes of a column to people. -/
def columnModifiedTodo (table : String) (d : ColumnDiff) : String :=
  "-- TODO: modify column " ++ table ++ "." ++ d.column ++ " (" ++ d.describe ++ ")"

/-- The entry that gives a column its new definition. -/
def columnModifiedEntry (m : MigrationPlan) (table : String) (d : ColumnDiff) :
    Except Failure String :=
  match m.declared? table d.column with
  | some (t, f) =>
    if m.emitStatements then
      m.statementEntry (.alterTable ⟨table, [.modifyColumn (t.column m.dialect f)]⟩)
    else .ok (columnModifiedTodo table d)
  | none => .ok (columnModifiedTodo table d)

/-- The warning about a column that is no longer declared. -/
def columnRemovedEntry (table column : String) : String :=
  "-- WARNING: column " ++ table ++ "." ++ column ++
    " is no longer declared; remove it manually after migrating its data"

/-- The entries of a table. -/
def tableEntries (m : MigrationPlan) (d : TableDiff) : Except Failure (List String) :=
  return (← d.added.mapM (m.columnAddedEntry d.table)) ++
    (← d.modified.mapM (m.columnModifiedEntry d.table)) ++
    d.removed.map (columnRemovedEntry d.table)

/-! ## Indexes -/

/-- The desired index of the given name and table. -/
def declaredIndex? (m : MigrationPlan) (i : IndexName) : Option DesiredIndex :=
  m.schema.indexes.find? fun j => j.directive.name == i.name && j.table == i.table

/-- The entry that creates an index. -/
def indexAddedEntry (m : MigrationPlan) (i : IndexName) : Except Failure String :=
  match m.declaredIndex? i with
  | some j =>
    if m.emitStatements then m.statementEntry (.createIndex j.definition)
    else .ok ("-- TODO: create index " ++ i.name ++ " on " ++ i.table)
  | none => .ok ("-- TODO: create index " ++ i.name ++ " on " ++ i.table)

/-- The entry that drops an index. -/
def indexRemovedEntry (m : MigrationPlan) (i : IndexName) : String :=
  m.dialect.profile.dropIndex i.name i.table

/-! ## Schemas -/

/-- The entries of a migration.  Enum types and tables that are to be added but not
declared are passed over. -/
def entries (m : MigrationPlan) (d : SchemaDiff) : Except Failure (List String) := do
  let enums := (d.enumsAdded.filterMap m.schema.enum?).map m.enumAddedEntry
  let tables ← (d.tablesAdded.filterMap m.schema.table?).mapM m.tableAddedEntry
  let columns ← d.tablesModified.mapM m.tableEntries
  let indexes ← d.indexesAdded.mapM m.indexAddedEntry
  return enums ++ d.enumsModified.flatMap m.enumEntries ++ tables ++ columns.flatten ++
    indexes ++ d.indexesRemoved.map m.indexRemovedEntry ++
    d.tablesRemoved.map tableRemovedEntry ++ d.enumsRemoved.map enumRemovedEntry

end MigrationPlan

end SchemaDdl.Drift
