/-
# Table constraints
-/
import SchemaDdl.Sql.Column

namespace SchemaDdl

/-! ## Kinds -/

/-- The kinds of table constraints. -/
inductive ConstraintKind where
  | primaryKey
  | unique
  | foreignKey
  | check
  deriving DecidableEq, Repr

namespace ConstraintKind

/-- The SQL words of a kind. -/
def sql : ConstraintKind → String
  | .primaryKey => "PRIMARY KEY"
  | .unique => "UNIQUE"
  | .foreignKey => "FOREIGN KEY"
  | .check => "CHECK"

/-- The name of a kind as people write it, brought to the spelling of SQL. -/
def normalizedWords (s : String) : String :=
  String.ofList
    (((Text.trim s).toUpper).toList.map fun c => if c = '_' ∨ c = '-' then ' ' else c)

/-- The kind that people mean: its SQL words or short forms of them.  Blanks around
them and the case of letters do not matter, and an underscore or a hyphen stands for
a blank. -/
def ofName? (s : String) : Option ConstraintKind :=
  match normalizedWords s with
  | "PRIMARY KEY" => some .primaryKey
  | "PRIMARY" => some .primaryKey
  | "PK" => some .primaryKey
  | "UNIQUE" => some .unique
  | "FOREIGN KEY" => some .foreignKey
  | "FOREIGN" => some .foreignKey
  | "FK" => some .foreignKey
  | "CHECK" => some .check
  | _ => none

end ConstraintKind

/-! ## Constraints -/

/-- A table constraint.  Only a foreign key needs a reference and only a check needs an
expression, but each may lack what it needs until it is written out. -/
structure Constraint where
  kind : ConstraintKind
  name : Option String
  columns : List String
  reference : Option Reference
  expression : Option String
  deriving DecidableEq, Repr

namespace Constraint

/-- A constraint without name, reference and expression. -/
def bare (kind : ConstraintKind) (columns : List String) : Constraint :=
  ⟨kind, none, columns, none, none⟩

/-- A primary key. -/
def primaryKey (columns : List String) : Constraint :=
  bare .primaryKey columns

/-- A uniqueness constraint. -/
def unique (columns : List String) : Constraint :=
  bare .unique columns

/-- A foreign key, which is named as its reference is. -/
def foreignKey (columns : List String) (reference : Reference) : Constraint :=
  { bare .foreignKey columns with name := reference.name, reference := some reference }

/-- A check of an expression. -/
def check (expression : String) : Constraint :=
  { bare .check [] with expression := some expression }

/-- What a constraint is called in messages: its name, or else its columns. -/
def displayName (c : Constraint) : String :=
  c.name.getD (if c.columns.isEmpty then "<unnamed>" else ", ".intercalate c.columns)

end Constraint

end SchemaDdl
