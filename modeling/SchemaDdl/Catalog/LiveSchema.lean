/-
# The live schema

Tables, indexes and enum types as the catalog of a database reports them.
-/
import SchemaDdl.Sql.Statement

namespace SchemaDdl

/-! ## Columns -/

/-- A column as the catalog reports it. -/
structure LiveColumn where
  name : String
  dataType : String
  udtName : Option String
  nullable : Bool
  primary : Bool
  unique : Bool
  default : Option String
  autoIncrement : Bool
  deriving DecidableEq, Repr

/-- The type to compare: where the catalog reports a user-defined type, its name. -/
def LiveColumn.effectiveType (c : LiveColumn) : String :=
  match c.udtName with
  | some name => if Text.sameIgnoringCase c.dataType "USER-DEFINED" then name else c.dataType
  | none => c.dataType

/-! ## Tables, indexes and schemas -/

/-- A table as the catalog reports it. -/
structure LiveTable where
  name : String
  columns : List LiveColumn
  deriving DecidableEq, Repr

/-- The first column of the given name. -/
def LiveTable.column? (t : LiveTable) (name : String) : Option LiveColumn :=
  t.columns.find? (·.name == name)

/-- An index as the catalog reports it. -/
structure LiveIndex where
  name : String
  table : String
  columns : List String
  primary : Bool
  unique : Bool
  deriving DecidableEq, Repr

/-- Everything that the catalog reports. -/
structure LiveSchema where
  tables : List LiveTable
  indexes : List LiveIndex
  enums : List EnumType
  deriving DecidableEq, Repr

namespace LiveSchema

/-- A database without tables. -/
def empty : LiveSchema :=
  ⟨[], [], []⟩

/-- The first table of the given name. -/
def table? (s : LiveSchema) (name : String) : Option LiveTable :=
  s.tables.find? (·.name == name)

/-- The first enum type of the given name. -/
def enum? (s : LiveSchema) (name : String) : Option EnumType :=
  findEnum? s.enums name

end LiveSchema

end SchemaDdl
