/-
# Columns

The definition of a column, its default value and the column that it refers to.
-/
import SchemaDdl.Text.Cut
import SchemaDdl.Text.Blank
import SchemaDdl.Sql.Action

namespace SchemaDdl

/-! ## Default values -/

/-- The default of a column: a literal as it was declared, or an expression that the
database evaluates. -/
inductive DefaultValue where
  | literal (text : String)
  | function (text : String)
  deriving DecidableEq, Repr

/-- The declared text of a default. -/
def DefaultValue.text : DefaultValue → String
  | .literal text => text
  | .function text => text

/-! ## References -/

/-- The target of a foreign key. -/
structure Reference where
  table : String
  column : String
  name : Option String
  onDelete : Option ReferentialAction
  onUpdate : Option ReferentialAction
  deriving DecidableEq, Repr

namespace Reference

/-- A reference to a column without name and actions. -/
def toColumn (table column : String) : Reference :=
  ⟨table, column, none, none, none⟩

/-- The table and column of a reference as it was written: `table(column)`,
`table.column` or `table`. -/
def split (cs : List Char) : List Char × List Char :=
  match Text.cutAt '(' cs with
  | some (table, rest) => (table, Text.upTo ')' rest)
  | none =>
    match Text.cutAt '.' cs with
    | some (table, column) => (table, column)
    | none => (cs, [])

/-- Reads a reference.  Blanks around its parts do not matter, and a column that is
left out is `id`; without a table there is no reference. -/
def parse? (s : String) : Option Reference :=
  let (table, column) := split (Text.trimmed s.toList)
  let table := Text.trimmed table
  let column := Text.trimmed column
  if table.isEmpty then none
  else some (toColumn (String.ofList table) (if column.isEmpty then "id" else String.ofList column))

end Reference

/-! ## Columns -/

/-- The definition of a column. -/
structure Column where
  name : String
  dataType : String
  nullable : Bool
  primary : Bool
  unique : Bool
  autoIncrement : Bool
  default : Option DefaultValue
  check : Option String
  comment : Option String
  reference : Option Reference
  deriving DecidableEq, Repr

/-- A single change to the definition of a column. -/
inductive ColumnEdit where
  | primary
  | notNull
  | nullable
  | unique
  | autoIncrement
  | default (value : Option DefaultValue)
  | check (expression : String)
  | comment (text : String)
  | reference (target : Reference)
  | withoutKeys
  | dataType (dataType : String)
  deriving DecidableEq, Repr

namespace Column

/-- A column that accepts `NULL` and has no further attributes. -/
def new (name dataType : String) : Column where
  name := name
  dataType := dataType
  nullable := true
  primary := false
  unique := false
  autoIncrement := false
  default := none
  check := none
  comment := none
  reference := none

/-- The column as a primary key, which excludes `NULL`. -/
def asPrimary (c : Column) : Column :=
  { c with primary := true, nullable := false }

/-- The column without `NULL`. -/
def asNotNull (c : Column) : Column :=
  { c with nullable := false }

/-- The column with `NULL`, unless it is a primary key. -/
def asNullable (c : Column) : Column :=
  if c.primary then c else { c with nullable := true }

/-- The column without its own primary key and uniqueness, all else kept. -/
def withoutKeys (c : Column) : Column :=
  { c with primary := false, unique := false }

/-- The column after a change. -/
def edit (c : Column) : ColumnEdit → Column
  | .primary => c.asPrimary
  | .notNull => c.asNotNull
  | .nullable => c.asNullable
  | .unique => { c with unique := true }
  | .autoIncrement => { c with autoIncrement := true }
  | .default value => { c with default := value }
  | .check expression => { c with check := some expression }
  | .comment text => { c with comment := some text }
  | .reference target => { c with reference := some target }
  | .withoutKeys => c.withoutKeys
  | .dataType dataType => { c with dataType := dataType }

/-- The column after changes from first to last. -/
def edits (c : Column) (changes : List ColumnEdit) : Column :=
  changes.foldl edit c

/-- The last of some changes is made to the column as the others leave it. -/
theorem edits_concat (c : Column) (changes : List ColumnEdit) (change : ColumnEdit) :
    c.edits (changes ++ [change]) = (c.edits changes).edit change := by
  simp [edits]

end Column

end SchemaDdl
