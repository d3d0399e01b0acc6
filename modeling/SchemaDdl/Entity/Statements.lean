/-
# Statements of a schema

The statements that create a desired schema in a dialect: its enum types, then its
tables, then its indexes.
-/
import SchemaDdl.Entity.DesiredSchema
import SchemaDdl.Sql.Serial

namespace SchemaDdl

/-! ## Column types -/

/-- The type of a column and whether the database counts it up. -/
structure ResolvedType where
  dataType : String
  autoIncrement : Bool
  deriving DecidableEq, Repr

/-- The type of a field's column in a dialect.  An override stands as it is.  Otherwise
PostgreSQL counts up integers by serial types, and the MySQL family stores serial types
as integers that are counted up. -/
def Field.resolveType (f : Field) (d : Dialect) : ResolvedType :=
  match f.overrides.get? d with
  | some dataType => ⟨dataType, f.autoIncrement⟩
  | none =>
    if d.isMysqlFamily then
      match Sql.integerForSerial? f.dataType with
      | some integer => ⟨integer, true⟩
      | none => ⟨f.dataType, f.autoIncrement⟩
    else if f.autoIncrement then ⟨(Sql.serialType? f.dataType).getD f.dataType, true⟩
    else ⟨f.dataType, false⟩

/-- In PostgreSQL a column counts up exactly if its field is marked so; a serial type does not
count. -/
theorem Field.autoIncrement_resolveType_postgres (f : Field) :
    (f.resolveType .postgres).autoIncrement = f.autoIncrement := by
  unfold resolveType
  cases f.overrides.get? .postgres with
  | some dataType => rfl
  | none => cases hmark : f.autoIncrement <;> simp [Dialect.isMysqlFamily]

/-! ## Columns, tables and indexes -/

/-- The reference of a field, if it declares one that can be read. -/
def Field.reference? (f : Field) : Option Reference :=
  (f.foreignKey.bind Reference.parse?).map fun target =>
    { target with name := f.foreignKeyName, onDelete := f.onDelete, onUpdate := f.onUpdate }

/-- The column of a field.  The only field of a primary key is marked as the key; one of
several merely excludes `NULL`. -/
def DesiredTable.column (t : DesiredTable) (d : Dialect) (f : Field) : Column :=
  let resolved := f.resolveType d
  { Column.new f.name resolved.dataType with
    nullable := f.nullable && !t.isPrimary f
    primary := t.isPrimary f && t.compositeKey?.isNone
    unique := f.unique
    autoIncrement := resolved.autoIncrement
    default := f.default
    check := f.check
    comment := f.comment
    reference := f.reference? }

/-- The constraints of a table: its primary key, if it has several columns. -/
def DesiredTable.constraints (t : DesiredTable) : List Constraint :=
  (t.compositeKey?.map Constraint.primaryKey).toList

/-- The options of a table: its storage engine, in the MySQL family. -/
def DesiredTable.options (t : DesiredTable) (d : Dialect) : List (String × String) :=
  if d.isMysqlFamily then (t.directive.engine.map fun engine => ("ENGINE", engine)).toList
  else []

/-- The definition of a table in a dialect. -/
def DesiredTable.definition (t : DesiredTable) (d : Dialect) : Table where
  name := t.name
  columns := t.fields.map (t.column d)
  constraints := t.constraints
  options := t.options d
  comment := t.directive.comment

/-- The definition of an index. -/
def DesiredIndex.definition (i : DesiredIndex) : Index where
  name := i.directive.name
  table := i.table
  columns := i.directive.fields
  unique := i.directive.unique
  method := i.directive.method
  comment := i.directive.comment

/-! ## Statements -/

/-- The statements that create a schema. -/
def DesiredSchema.statements (s : DesiredSchema) (d : Dialect) : List Statement :=
  s.enums.map .enumType ++ s.tables.map (fun t => .createTable (t.definition d)) ++
    s.indexes.map (fun i => .createIndex i.definition)

end SchemaDdl
