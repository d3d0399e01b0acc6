/-
# SQL dialects

The three engines that statements are written for.  MySQL and MariaDB form a family.
-/
import SchemaDdl.Text.Blank

namespace SchemaDdl

/-- An SQL engine. -/
inductive Dialect where
  | postgres
  | mysql
  | mariadb
  deriving DecidableEq, Repr, Inhabited

namespace Dialect

/-- Every dialect. -/
def all : List Dialect :=
  [.postgres, .mysql, .mariadb]

/-- The name of a dialect, in lower case. -/
def name : Dialect → String
  | .postgres => "postgres"
  | .mysql => "mysql"
  | .mariadb => "mariadb"

/-- Whether a dialect belongs to the MySQL family. -/
def isMysqlFamily : Dialect → Bool
  | .postgres => false
  | .mysql => true
  | .mariadb => true

/-- The only dialect outside of the MySQL family is PostgreSQL. -/
theorem eq_postgres_of_not_isMysqlFamily {d : Dialect} (h : ¬d.isMysqlFamily = true) :
    d = .postgres := by
  cases d with
  | postgres => rfl
  | mysql => exact absurd rfl h
  | mariadb => exact absurd rfl h

/-- The dialect of a name as documents spell it, which is one of five. -/
def ofKey? : String → Option Dialect
  | "postgres" => some .postgres
  | "postgresql" => some .postgres
  | "pg" => some .postgres
  | "mysql" => some .mysql
  | "mariadb" => some .mariadb
  | _ => none

/-- A dialect name as people write it, brought to the spelling of documents. -/
def normalizedName (s : String) : String :=
  (Text.trim s).toLower

/-- The dialect of a name as people write it: blanks around it and the case of its
letters do not matter. -/
def ofName? (s : String) : Option Dialect :=
  ofKey? (normalizedName s)

/-- Every dialect is read back from its name. -/
@[simp]
theorem ofKey?_name (d : Dialect) : ofKey? d.name = some d := by
  cases d <;> rfl

end Dialect

end SchemaDdl
