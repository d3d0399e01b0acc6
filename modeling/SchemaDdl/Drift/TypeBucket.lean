/-
# Type buckets

Types are compared by buckets, so that spellings of one kind of type count as equal.
The rules are tried in order and the first that matches names the bucket; a type that
no rule matches is a bucket of its own.
-/
import SchemaDdl.Sql.Dialect
import SchemaDdl.Sql.Serial

namespace SchemaDdl.Drift

/-! ## Rules -/

/-- What a rule looks for in a type in upper case: its first characters, or its first
word. -/
inductive TypePattern where
  | start (text : String)
  | word (words : List String)
  deriving DecidableEq, Repr

/-- The first word of a type: what stands before a parenthesis or a blank. -/
def leadingWord (cs : List Char) : List Char :=
  cs.takeWhile fun c => c != '(' && !Text.isBlank c

/-- Whether a type in upper case matches a pattern. -/
def TypePattern.accepts (upper : String) : TypePattern → Bool
  | .start text => Text.beginsWith upper text
  | .word words => words.contains (String.ofList (leadingWord upper.toList))

/-- A rule that puts types into a bucket, in every dialect or in the MySQL family. -/
structure TypeRule where
  pattern : TypePattern
  bucket : String
  mysqlOnly : Bool
  deriving DecidableEq, Repr

/-- The bucket of truth values. -/
def booleanBucket : String := "boolean"

/-- The bucket of enum types in the MySQL family. -/
def enumBucket : String := "enum"

/-- The words of integer types. -/
def integerWords : List String :=
  ["INT", "INTEGER", "INT2", "INT4", "INT8", "SMALLINT", "MEDIUMINT", "BIGINT", "SERIAL",
    "SERIAL2", "SERIAL4", "SERIAL8", "SMALLSERIAL", "BIGSERIAL"]

/-- The rules from first to last. -/
def typeRules : List TypeRule :=
  [⟨.start "VARCHAR", "varchar", false⟩,
    ⟨.start "CHARACTER VARYING", "varchar", false⟩,
    ⟨.word ["TINYINT"], booleanBucket, true⟩,
    ⟨.word integerWords, "integer", false⟩,
    ⟨.word ["BOOL", "BOOLEAN"], booleanBucket, false⟩,
    ⟨.word ["DECIMAL", "NUMERIC"], "decimal", false⟩,
    ⟨.start "ENUM(", enumBucket, true⟩]

/-! ## Buckets -/

/-- Whether a rule counts in a dialect and matches a type in upper case. -/
def TypeRule.applies (d : Dialect) (upper : String) (r : TypeRule) : Bool :=
  (!r.mysqlOnly || d.isMysqlFamily) && r.pattern.accepts upper

/-- The bucket of a type in a dialect. -/
def typeBucket (d : Dialect) (dataType : String) : String :=
  match typeRules.find? (·.applies d (Sql.typeWord dataType)) with
  | some rule => rule.bucket
  | none => (Text.trim dataType).toLower

end SchemaDdl.Drift
