/-
# Summaries

A summary of a difference for people, one line a change: a plus marks what is added, a
minus what is removed, and a tilde what is modified.
-/
import SchemaDdl.Drift.Change

namespace SchemaDdl.Drift

/-! ## Columns -/

/-- A truth value as a word. -/
def boolWord (b : Bool) : String :=
  if b then "true" else "false"

/-- A change of an attribute from its live to its desired value. -/
def ColumnChange.describe : ColumnChange → String
  | .type desired live => "type " ++ live ++ " -> " ++ desired
  | .nullable desired live => "nullable " ++ boolWord live ++ " -> " ++ boolWord desired
  | .primary desired live => "primary " ++ boolWord live ++ " -> " ++ boolWord desired
  | .unique desired live => "unique " ++ boolWord live ++ " -> " ++ boolWord desired
  | .default desired live => "default '" ++ live ++ "' -> '" ++ desired ++ "'"

/-- The changes of a column with commas between them. -/
def ColumnDiff.describe (d : ColumnDiff) : String :=
  ", ".intercalate (d.changes.map ColumnChange.describe)

/-! ## Lines -/

/-- The lines of an enum type. -/
def EnumDiff.lines (d : EnumDiff) : List String :=
  (d.added.map fun value => "~ enum " ++ d.name ++ ": + '" ++ value ++ "'") ++
    d.removed.map fun value => "~ enum " ++ d.name ++ ": - '" ++ value ++ "'"

/-- The lines of a table. -/
def TableDiff.lines (d : TableDiff) : List String :=
  let start := "~ table " ++ d.table ++ ": "
  (d.added.map fun column => start ++ "+ column " ++ column) ++
    (d.modified.map fun c => start ++ "~ column " ++ c.column ++ " (" ++ c.describe ++ ")") ++
    d.removed.map fun column => start ++ "- column " ++ column

/-- The lines of a schema, in the order in which the changes can be made. -/
def SchemaDiff.lines (d : SchemaDiff) : List String :=
  d.enumsAdded.map ("+ enum " ++ ·) ++ d.enumsModified.flatMap EnumDiff.lines ++
    d.tablesAdded.map ("+ table " ++ ·) ++ d.tablesModified.flatMap TableDiff.lines ++
    (d.indexesAdded.map fun i => "+ index " ++ i.name ++ " on " ++ i.table) ++
    (d.indexesRemoved.map fun i => "- index " ++ i.name ++ " on " ++ i.table) ++
    d.tablesRemoved.map ("- table " ++ ·) ++ d.enumsRemoved.map ("- enum " ++ ·)

/-- The summary of a difference. -/
def SchemaDiff.summary (d : SchemaDiff) : String :=
  if d.hasChanges then String.join (d.lines.map (· ++ "\n")) else "schema is up to date\n"

end SchemaDdl.Drift
