/-
# Dialect profiles

The points at which the statements of dialects differ.  A profile settles each of them;
the text around them is the same for all dialects.
-/
import SchemaDdl.Sql.Failure
import SchemaDdl.Sql.Literal
import SchemaDdl.Sql.Serial

namespace SchemaDdl

/-! ## Known enum types -/

/-- The enum types that are known while statements are written, the latest first. -/
abbrev KnownEnums := List EnumType

namespace KnownEnums

/-- The values of an enum type; of several of one name the latest counts. -/
def values? (known : KnownEnums) (name : String) : Option (List String) :=
  (findEnum? known name).map EnumType.values

/-- The known enum types after some more, from first to last. -/
def add (known : KnownEnums) (enums : List EnumType) : KnownEnums :=
  enums.reverse ++ known

end KnownEnums

/-! ## Points of difference -/

/-- Where the method of an index is written. -/
inductive MethodPlacement where
  | ignored
  | beforeColumns
  | afterColumns
  deriving DecidableEq, Repr

/-- How a column that exists already is given a new definition: not at all, by one
statement for each of its attributes, or by one statement with the whole definition. -/
inductive Redefinition where
  | unsupported
  | byAttribute
  | whole
  deriving DecidableEq, Repr

/-- What sets the statements of a dialect apart. -/
structure Profile where
  dialect : Dialect
  tableLabel : String
  typeText : KnownEnums → Column → String
  primaryKeyClause : String
  autoIncrementClause : Column → String
  defaultText : DefaultValue → String
  columnComment : Column → String
  tableOptions : Table → String
  tableTrailer : Table → List String
  methodPlacement : MethodPlacement
  createEnum : EnumType → Option String
  addEnumValue : String → String → Option String
  dropIndex : String → String → String
  redefinition : Redefinition
  enumsFirst : Bool

namespace Profile

/-! ## The common profile -/

/-- The default of a column: an expression without blanks around it, or a literal. -/
def commonDefault : DefaultValue → String
  | .function text => Text.trim text
  | .literal text => Sql.literalText text

/-- The clause of a column that counts up. -/
def commonAutoIncrement (c : Column) : String :=
  if c.autoIncrement then " AUTO_INCREMENT" else ""

/-- The options of a table as keys in upper case with their values. -/
def commonOptions (t : Table) : String :=
  " ".intercalate (t.options.map fun (key, value) => key.toUpper ++ "=" ++ value)

/-- A profile without the peculiarities of any dialect. -/
def common : Profile where
  dialect := .postgres
  tableLabel := "TABLE"
  typeText := fun _ c => c.dataType
  primaryKeyClause := " PRIMARY KEY"
  autoIncrementClause := commonAutoIncrement
  defaultText := commonDefault
  columnComment := fun _ => ""
  tableOptions := commonOptions
  tableTrailer := fun _ => []
  methodPlacement := .ignored
  createEnum := fun _ => none
  addEnumValue := fun _ _ => none
  dropIndex := fun name _ => "DROP INDEX IF EXISTS " ++ name ++ ";"
  redefinition := .unsupported
  enumsFirst := false

/-! ## PostgreSQL -/

/-- The type of a column in PostgreSQL: one that counts up has a serial type. -/
def postgresType (c : Column) : String :=
  if c.autoIncrement then (Sql.serialType? c.dataType).getD c.dataType else c.dataType

/-- The statements that set the comments of a table and of its columns. -/
def postgresTrailer (t : Table) : List String :=
  (t.comment.map fun text =>
      "COMMENT ON TABLE " ++ t.name ++ " IS " ++ Sql.quoteLiteral text ++ ";").toList ++
    t.columns.filterMap fun c => c.comment.map fun text =>
      "COMMENT ON COLUMN " ++ t.name ++ "." ++ c.name ++ " IS " ++ Sql.quoteLiteral text ++ ";"

/-- PostgreSQL has enum types and serial types of their own, and comments are set by
statements. -/
def postgres : Profile :=
  { common with
    tableLabel := "POSTGRES TABLE"
    typeText := fun _ c => postgresType c
    primaryKeyClause := " PRIMARY KEY NOT NULL"
    autoIncrementClause := fun _ => ""
    tableOptions := fun _ => ""
    tableTrailer := postgresTrailer
    methodPlacement := .beforeColumns
    createEnum := fun e =>
      some ("CREATE TYPE " ++ e.name ++ " AS ENUM (" ++ Sql.quoteLiterals e.values ++ ");")
    addEnumValue := fun name value =>
      some ("ALTER TYPE " ++ name ++ " ADD VALUE " ++ Sql.quoteLiteral value ++ ";")
    redefinition := .byAttribute
    enumsFirst := true }

/-! ## MySQL and MariaDB -/

/-- The type of a column in the MySQL family: a known enum type is written out with its
values, and a serial type becomes the integer behind it. -/
def mysqlType (known : KnownEnums) (c : Column) : String :=
  match known.values? c.dataType with
  | some values => "ENUM(" ++ Sql.quoteLiterals values ++ ")"
  | none => (Sql.integerForSerial? c.dataType).getD c.dataType

/-- The clause of a column that counts up by its mark or by its type. -/
def mysqlAutoIncrement (c : Column) : String :=
  if c.autoIncrement || (Sql.integerForSerial? c.dataType).isSome then " AUTO_INCREMENT" else ""

/-- A text without the apostrophes at its ends. -/
def stripApostrophes (cs : List Char) : List Char :=
  ((cs.dropWhile (· == '\'')).reverse.dropWhile (· == '\'')).reverse

/-- The text of a literal default in the MySQL family.  Truth values count also between
apostrophes, and a number becomes a string literal. -/
def mysqlLiteral (s : String) : String :=
  let literal := Text.trim s
  let cs := literal.toList
  match (String.ofList (stripApostrophes cs)).toLower with
  | "true" => "TRUE"
  | "false" => "FALSE"
  | word =>
    if word = "null" ∧ !Sql.isQuoted cs then "NULL"
    else if Sql.isQuoted cs || Sql.isFunctionCall cs then literal
    else Sql.quoteLiteral literal

/-- The text of a default expression in the MySQL family, which has one word for the
current time. -/
def mysqlFunction (s : String) : String :=
  let function := Text.trim s
  match function.toLower with
  | "now()" => "CURRENT_TIMESTAMP"
  | "current_timestamp" => "CURRENT_TIMESTAMP"
  | "current_timestamp()" => "CURRENT_TIMESTAMP"
  | _ => function

/-- The default of a column in the MySQL family. -/
def mysqlDefault : DefaultValue → String
  | .function text => mysqlFunction text
  | .literal text => mysqlLiteral text

/-- The comment of a column as a clause of its definition. -/
def mysqlColumnComment (c : Column) : String :=
  match c.comment with
  | some text => " COMMENT " ++ Sql.quoteLiteral text
  | none => ""

/-- A table option: the value of a comment is a string literal. -/
def mysqlOption (key value : String) : String :=
  if Text.sameIgnoringCase key "COMMENT" then "COMMENT=" ++ Sql.quoteLiteral value
  else key.toUpper ++ "=" ++ value

/-- The options of a table: the engine first, and last the comment of the table unless
an option sets one. -/
def mysqlOptionParts (t : Table) : List String :=
  ((t.option? "ENGINE").map fun engine => "ENGINE=" ++ engine).toList ++
    (t.options.filter fun o => !Text.sameIgnoringCase o.1 "ENGINE").map
      (fun o => mysqlOption o.1 o.2) ++
    if (t.option? "COMMENT").isSome then []
    else (t.comment.map fun text => "COMMENT=" ++ Sql.quoteLiteral text).toList

/-- MySQL writes enum types and comments where they are used and redefines a column as a
whole. -/
def mysql : Profile :=
  { common with
    dialect := .mysql
    tableLabel := "MYSQL TABLE"
    typeText := mysqlType
    autoIncrementClause := mysqlAutoIncrement
    defaultText := mysqlDefault
    columnComment := mysqlColumnComment
    tableOptions := fun t => " ".intercalate (mysqlOptionParts t)
    methodPlacement := .afterColumns
    dropIndex := fun name table => "DROP INDEX " ++ name ++ " ON " ++ table ++ ";"
    redefinition := .whole }

/-- MariaDB follows MySQL at each point at which that departs from the common profile, but
for the label of its tables and for dropping an index only if it exists. -/
def mariadb : Profile :=
  { common with
    dialect := .mariadb
    tableLabel := "MARIADB TABLE"
    typeText := mysql.typeText
    autoIncrementClause := mysql.autoIncrementClause
    defaultText := mysql.defaultText
    columnComment := mysql.columnComment
    tableOptions := mysql.tableOptions
    methodPlacement := mysql.methodPlacement
    dropIndex := fun name table => "DROP INDEX IF EXISTS " ++ name ++ " ON " ++ table ++ ";"
    redefinition := mysql.redefinition }

end Profile

/-- The profile of a dialect. -/
def Dialect.profile : Dialect → Profile
  | .postgres => .postgres
  | .mysql => .mysql
  | .mariadb => .mariadb

/-- The profile of a dialect is a profile for that dialect. -/
@[simp]
theorem Dialect.dialect_profile (d : Dialect) : d.profile.dialect = d := by
  cases d <;> rfl

/-- The MySQL family writes types as MySQL does. -/
theorem Dialect.typeText_of_isMysqlFamily {d : Dialect} (hd : d.isMysqlFamily = true) :
    d.profile.typeText = Profile.mysqlType := by
  cases d with
  | postgres => simp [Dialect.isMysqlFamily] at hd
  | mysql => rfl
  | mariadb => rfl

end SchemaDdl
