/-
# Referential actions

What becomes of a row when the row that it refers to is deleted or updated.
-/
import SchemaDdl.Text.Blank

namespace SchemaDdl

/-- What becomes of a referring row. -/
inductive ReferentialAction where
  | noAction
  | restrict
  | cascade
  | setNull
  | setDefault
  deriving DecidableEq, Repr

namespace ReferentialAction

/-- The SQL words of an action. -/
def sql : ReferentialAction → String
  | .noAction => "NO ACTION"
  | .restrict => "RESTRICT"
  | .cascade => "CASCADE"
  | .setNull => "SET NULL"
  | .setDefault => "SET DEFAULT"

/-- The action of the given SQL words. -/
def ofSql? : String → Option ReferentialAction
  | "NO ACTION" => some .noAction
  | "RESTRICT" => some .restrict
  | "CASCADE" => some .cascade
  | "SET NULL" => some .setNull
  | "SET DEFAULT" => some .setDefault
  | _ => none

/-- The action of a key in a document: its SQL words, or those in lower case with an
underscore between them. -/
def ofKey? : String → Option ReferentialAction
  | "no_action" => some .noAction
  | "restrict" => some .restrict
  | "cascade" => some .cascade
  | "set_null" => some .setNull
  | "set_default" => some .setDefault
  | key => ofSql? key

/-- An action as people write it, brought to the spelling of SQL. -/
def normalizedWords (s : String) : String :=
  String.ofList (((Text.trim s).toUpper).toList.map fun c => if c = '_' then ' ' else c)

/-- The action that people mean: blanks around it and the case of its letters do not
matter, and an underscore stands for a blank. -/
def ofName? (s : String) : Option ReferentialAction :=
  ofSql? (normalizedWords s)

/-- Every action is read back from its SQL words. -/
@[simp]
theorem ofSql?_sql (a : ReferentialAction) : ofSql? a.sql = some a := by
  cases a <;> rfl

/-- Documents may spell an action by its SQL words. -/
@[simp]
theorem ofKey?_sql (a : ReferentialAction) : ofKey? a.sql = some a := by
  cases a <;> rfl

end ReferentialAction

end SchemaDdl
