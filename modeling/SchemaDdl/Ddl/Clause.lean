/-
# Clauses and statements

The SQL text of columns, constraints, tables, indexes and alterations in a given
profile.
-/
import SchemaDdl.Ddl.Profile

namespace SchemaDdl

/-! ## Comments -/

/-- A text as comment, each of its lines on a line of its own. -/
def commentText (text : String) : String :=
  "\n".intercalate ((Text.lines text).map ("-- " ++ ·))

/-! ## Foreign keys and constraints -/

/-- An action with the words before it, or nothing. -/
def actionClause (words : String) : Option ReferentialAction → String
  | some action => words ++ action.sql
  | none => ""

/-- The clause of a foreign key. -/
def foreignKeyClause (columns : List String) (r : Reference) : String :=
  "FOREIGN KEY (" ++ ", ".intercalate columns ++ ") REFERENCES " ++ r.table ++ "(" ++
    r.column ++ ")" ++ actionClause " ON DELETE " r.onDelete ++
    actionClause " ON UPDATE " r.onUpdate

namespace Constraint

/-- What a constraint says, without its name. -/
def body (c : Constraint) : Except Failure String :=
  match c.kind with
  | .primaryKey => .ok (c.kind.sql ++ " (" ++ ", ".intercalate c.columns ++ ")")
  | .unique => .ok (c.kind.sql ++ " (" ++ ", ".intercalate c.columns ++ ")")
  | .foreignKey =>
    match c.reference with
    | some r => .ok (foreignKeyClause c.columns r)
    | none => .error (.missingReference c.displayName)
  | .check =>
    match c.expression with
    | some expression => .ok ("CHECK (" ++ expression ++ ")")
    | none => .error (.missingExpression c.displayName)

/-- The name of a constraint with the word before it, or nothing. -/
def nameClause (c : Constraint) : String :=
  match c.name with
  | some name => "CONSTRAINT " ++ name ++ " "
  | none => ""

/-- The text of a constraint.  It fails for a key without columns, for a foreign key
without reference and for a check without expression. -/
def sql (c : Constraint) : Except Failure String :=
  if c.kind ≠ .check ∧ c.columns = [] then .error (.noColumns c.kind)
  else c.body.map (c.nameClause ++ ·)

end Constraint

/-- The constraint that states the reference of a column. -/
def Column.foreignKey? (c : Column) : Option Constraint :=
  c.reference.map (Constraint.foreignKey [c.name])

namespace Profile

/-! ## Columns -/

/-- The clause by which a column excludes `NULL`, as primary key or otherwise. -/
def nullClause (p : Profile) (c : Column) : String :=
  if c.primary then p.primaryKeyClause else if c.nullable then "" else " NOT NULL"

/-- The clause of a column that is unique other than as primary key. -/
def uniqueClause (c : Column) : String :=
  if c.unique && !c.primary then " UNIQUE" else ""

/-- The clause of a default. -/
def defaultClause (p : Profile) (c : Column) : String :=
  match c.default with
  | some value => " DEFAULT " ++ p.defaultText value
  | none => ""

/-- The clause of a check. -/
def checkClause (c : Column) : String :=
  match c.check with
  | some expression => " CHECK (" ++ expression ++ ")"
  | none => ""

/-- The definition of a column. -/
def columnText (p : Profile) (known : KnownEnums) (c : Column) : String :=
  c.name ++ " " ++ p.typeText known c ++ p.nullClause c ++ uniqueClause c ++
    p.autoIncrementClause c ++ p.defaultClause c ++ checkClause c ++ p.columnComment c

/-! ## Tables -/

/-- The comment lines before the definition of a table: its name and its comment. -/
def tableHeader (p : Profile) (t : Table) : String :=
  "-- " ++ p.tableLabel ++ ": " ++ t.name ++ " --\n" ++
    match t.comment with
    | some text => String.join ((Text.lines text).map fun line => "-- " ++ line ++ "\n")
    | none => ""

/-- The constraints of a table as they are written: the declared ones, then those that
state the references of its columns. -/
def writtenConstraints (t : Table) : List Constraint :=
  t.constraints ++ t.columns.filterMap Column.foreignKey?

/-- The lines between the parentheses of a table. -/
def tableLines (p : Profile) (known : KnownEnums) (t : Table) : Except Failure (List String) :=
  return t.columns.map (p.columnText known) ++ (← (writtenConstraints t).mapM Constraint.sql)

/-- The options of a table after a blank, or nothing. -/
def optionsClause (p : Profile) (t : Table) : String :=
  if p.tableOptions t = "" then "" else " " ++ p.tableOptions t

/-- The statement that creates a table, and what follows it. -/
def createTable (p : Profile) (known : KnownEnums) (t : Table) : Except Failure String := do
  let lines ← p.tableLines known t
  return p.tableHeader t ++ "CREATE TABLE " ++ t.name ++ " (\n" ++
    ",\n".intercalate (lines.map ("  " ++ ·)) ++ "\n)" ++ p.optionsClause t ++ ";" ++
    String.join ((p.tableTrailer t).map ("\n" ++ ·))

/-! ## Indexes -/

/-- The comment line before an index. -/
def indexHeader (i : Index) : String :=
  match i.comment with
  | some text => "-- " ++ text ++ "\n"
  | none => ""

/-- The method of an index where it is written before the columns. -/
def methodBefore (p : Profile) (i : Index) : String :=
  match p.methodPlacement, i.method with
  | .beforeColumns, some method => " USING " ++ method
  | _, _ => ""

/-- The method of an index where it is written after the columns. -/
def methodAfter (p : Profile) (i : Index) : String :=
  match p.methodPlacement, i.method with
  | .afterColumns, some method => " USING " ++ method.toUpper
  | _, _ => ""

/-- The statement that creates an index. -/
def createIndex (p : Profile) (i : Index) : String :=
  indexHeader i ++ "CREATE " ++ (if i.unique then "UNIQUE " else "") ++ "INDEX " ++ i.name ++
    " ON " ++ i.table ++ p.methodBefore i ++ " (" ++ ", ".intercalate i.columns ++ ")" ++
    p.methodAfter i ++ ";"

/-! ## Alterations -/

/-- The statements that give a column its attributes one by one: its type, whether it
accepts `NULL`, and its default.  A column that counts up keeps the default it has. -/
def modifyByAttribute (p : Profile) (table : String) (c : Column) : List String :=
  let start := "ALTER TABLE " ++ table ++ " ALTER COLUMN " ++ c.name
  let nullWords := if c.nullable then " DROP NOT NULL;" else " SET NOT NULL;"
  [start ++ " TYPE " ++ (Sql.serialBase? c.dataType).getD c.dataType ++ ";",
    start ++ nullWords] ++
    match c.default with
    | some value => [start ++ " SET DEFAULT " ++ p.defaultText value ++ ";"]
    | none => if c.autoIncrement then [] else [start ++ " DROP DEFAULT;"]

/-- The statements that give a column a new definition.  They do not speak of its keys: a whole
definition with a key that is there would make a second one. -/
def modifyColumn (p : Profile) (known : KnownEnums) (table : String) (c : Column) :
    Except Failure (List String) :=
  match p.redefinition with
  | .unsupported =>
    .error (.unsupportedAlteration p.dialect (AlterOperation.modifyColumn c).describe)
  | .byAttribute => .ok (p.modifyByAttribute table c)
  | .whole =>
    .ok ["ALTER TABLE " ++ table ++ " MODIFY COLUMN " ++ p.columnText known c.withoutKeys ++ ";"]

/-- The statements that add a column and its reference. -/
def addColumn (p : Profile) (known : KnownEnums) (table : String) (c : Column) :
    Except Failure (List String) := do
  let constraints ← c.foreignKey?.toList.mapM Constraint.sql
  return ("ALTER TABLE " ++ table ++ " ADD COLUMN " ++ p.columnText known c ++ ";") ::
    constraints.map fun text => "ALTER TABLE " ++ table ++ " ADD " ++ text ++ ";"

/-- The statements of one operation. -/
def alterOperation (p : Profile) (known : KnownEnums) (table : String) :
    AlterOperation → Except Failure (List String)
  | .addColumn c => p.addColumn known table c
  | .dropColumn name => .ok ["ALTER TABLE " ++ table ++ " DROP COLUMN " ++ name ++ ";"]
  | .modifyColumn c => p.modifyColumn known table c

/-- The statements that alter a table. -/
def alterTable (p : Profile) (known : KnownEnums) (a : Alteration) :
    Except Failure (List String) :=
  return (← a.operations.mapM (p.alterOperation known a.table)).flatten

/-! ## Statements -/

/-- The texts of a statement, none when the dialect has no such statement. -/
def statementTexts (p : Profile) (known : KnownEnums) : Statement → Except Failure (List String)
  | .createTable t => (p.createTable known t).map ([·])
  | .column c => .ok [p.columnText known c]
  | .constraint c => c.sql.map ([·])
  | .createIndex i => .ok [p.createIndex i]
  | .enumType e => .ok (p.createEnum e).toList
  | .comment text => .ok [commentText text]
  | .alterTable a => p.alterTable known a

end Profile

end SchemaDdl
