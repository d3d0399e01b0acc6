/-
# Statements

The statements of a schema and the parts that can be written out on their own.
-/
import SchemaDdl.Sql.Table

namespace SchemaDdl

/-! ## Indexes -/

/-- The definition of an index. -/
structure Index where
  name : String
  table : String
  columns : List String
  unique : Bool
  method : Option String
  comment : Option String
  deriving DecidableEq, Repr

/-- An index that is not unique. -/
def Index.new (name table : String) (columns : List String) : Index :=
  ⟨name, table, columns, false, none, none⟩

/-! ## Enum types -/

/-- A named list of values that a column may hold. -/
structure EnumType where
  name : String
  values : List String
  deriving DecidableEq, Repr

/-- The first enum type of the given name. -/
def findEnum? (enums : List EnumType) (name : String) : Option EnumType :=
  enums.find? (·.name == name)

/-! ## Alterations -/

/-- A single change to a table that exists already. -/
inductive AlterOperation where
  | addColumn (column : Column)
  | dropColumn (name : String)
  | modifyColumn (column : Column)
  deriving DecidableEq, Repr

/-- What an operation does, in a few words. -/
def AlterOperation.describe : AlterOperation → String
  | .addColumn c => "add column " ++ c.name
  | .dropColumn name => "drop column " ++ name
  | .modifyColumn c => "modify column " ++ c.name

/-- The column that an operation defines. -/
def AlterOperation.column? : AlterOperation → Option Column
  | .addColumn c => some c
  | .dropColumn _ => none
  | .modifyColumn c => some c

/-- Changes to a table, made in order. -/
structure Alteration where
  table : String
  operations : List AlterOperation
  deriving DecidableEq, Repr

/-! ## Statements -/

/-- A statement, or a column or constraint on its own. -/
inductive Statement where
  | createTable (table : Table)
  | column (column : Column)
  | constraint (constraint : Constraint)
  | createIndex (index : Index)
  | enumType (enum : EnumType)
  | comment (text : String)
  | alterTable (alteration : Alteration)
  deriving DecidableEq, Repr

namespace Statement

/-- The enum type that a statement declares. -/
def enum? : Statement → Option EnumType
  | .enumType e => some e
  | _ => none

/-- Whether a statement declares an enum type. -/
def isEnum (s : Statement) : Bool :=
  s.enum?.isSome

/-- The kind and name of a statement. -/
def label : Statement → String
  | .createTable t => "table:" ++ t.name
  | .column c => "column:" ++ c.name
  | .constraint c => "constraint:" ++ c.kind.sql
  | .createIndex i => "index:" ++ i.name
  | .enumType e => "enum:" ++ e.name
  | .comment text => "comment:" ++ text
  | .alterTable a => "alter:" ++ a.table

end Statement

/-- The enum types that statements declare, in order. -/
def declaredEnums (statements : List Statement) : List EnumType :=
  statements.filterMap Statement.enum?

end SchemaDdl
