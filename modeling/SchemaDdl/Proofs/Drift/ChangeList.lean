/-
# Changes one by one

A summary has a line for each change of a schema and a migration has an entry for it.
Here the changes of a difference are put into one list, in the order of both:

* `SchemaDiff.lines_eq` : the lines of a summary are those of the changes;
* `MigrationPlan.entries_eq` : the entries of a migration are those of the changes, for
  every difference, even where writing one of them fails;
* `MigrationPlan.exists_entries_diff` : for a difference that was computed, every change has
  its entry and none fails.
-/
import SchemaDdl.Drift.Migration
import SchemaDdl.Proofs.Ddl.WellFormed
import SchemaDdl.Proofs.Ddl.Writing
import SchemaDdl.Proofs.Drift.Comparison
import SchemaDdl.Proofs.Traversal

namespace SchemaDdl.Drift

/-! ## Changes -/

/-- A single change of a schema. -/
inductive Change where
  | enumAdded (name : String)
  | valueAdded (enumName value : String)
  | valueRemoved (enumName value : String)
  | tableAdded (name : String)
  | columnAdded (table column : String)
  | columnModified (table : String) (diff : ColumnDiff)
  | columnRemoved (table column : String)
  | indexAdded (index : IndexName)
  | indexRemoved (index : IndexName)
  | tableRemoved (name : String)
  | enumRemoved (name : String)
  deriving DecidableEq, Repr

/-- The changes of an enum type. -/
def EnumDiff.changes (d : EnumDiff) : List Change :=
  d.added.map (.valueAdded d.name) ++ d.removed.map (.valueRemoved d.name)

/-- The changes of a table. -/
def TableDiff.changes (d : TableDiff) : List Change :=
  d.added.map (.columnAdded d.table) ++ d.modified.map (.columnModified d.table) ++
    d.removed.map (.columnRemoved d.table)

/-- The changes of a schema, in the order in which they can be made. -/
def SchemaDiff.changes (d : SchemaDiff) : List Change :=
  d.enumsAdded.map .enumAdded ++ d.enumsModified.flatMap EnumDiff.changes ++
    d.tablesAdded.map .tableAdded ++ d.tablesModified.flatMap TableDiff.changes ++
    d.indexesAdded.map .indexAdded ++ d.indexesRemoved.map .indexRemoved ++
    d.tablesRemoved.map .tableRemoved ++ d.enumsRemoved.map .enumRemoved

/-- An enum type is in the list if it is to be added. -/
theorem SchemaDiff.enumAdded_mem_changes_iff (d : SchemaDiff) (name : String) :
    .enumAdded name ∈ d.changes ↔ name ∈ d.enumsAdded := by
  simp [changes, EnumDiff.changes, TableDiff.changes]

/-- A table is in the list if it is to be added. -/
theorem SchemaDiff.tableAdded_mem_changes_iff (d : SchemaDiff) (name : String) :
    .tableAdded name ∈ d.changes ↔ name ∈ d.tablesAdded := by
  simp [changes, EnumDiff.changes, TableDiff.changes]

/-- A column is in the list if it is modified in a modified table. -/
theorem SchemaDiff.columnModified_mem_changes {d : SchemaDiff} {table : TableDiff}
    (htable : table ∈ d.tablesModified) {column : ColumnDiff} (hcolumn : column ∈ table.modified) :
    .columnModified table.table column ∈ d.changes := by
  have hchange : Change.columnModified table.table column ∈ table.changes := by
    simp [TableDiff.changes, hcolumn]
  have hchanges : Change.columnModified table.table column ∈
      d.tablesModified.flatMap TableDiff.changes := List.mem_flatMap.mpr ⟨table, htable, hchange⟩
  simp [changes, hchanges]

/-! ## Lines -/

/-- The line of a change in a summary. -/
def Change.line : Change → String
  | .enumAdded name => "+ enum " ++ name
  | .valueAdded enumName value => "~ enum " ++ enumName ++ ": + '" ++ value ++ "'"
  | .valueRemoved enumName value => "~ enum " ++ enumName ++ ": - '" ++ value ++ "'"
  | .tableAdded name => "+ table " ++ name
  | .columnAdded table column => "~ table " ++ table ++ ": " ++ "+ column " ++ column
  | .columnModified table d =>
    "~ table " ++ table ++ ": " ++ "~ column " ++ d.column ++ " (" ++ d.describe ++ ")"
  | .columnRemoved table column => "~ table " ++ table ++ ": " ++ "- column " ++ column
  | .indexAdded i => "+ index " ++ i.name ++ " on " ++ i.table
  | .indexRemoved i => "- index " ++ i.name ++ " on " ++ i.table
  | .tableRemoved name => "- table " ++ name
  | .enumRemoved name => "- enum " ++ name

/-- The lines of an enum type are those of its changes. -/
theorem EnumDiff.lines_eq (d : EnumDiff) : d.lines = d.changes.map Change.line := by
  rw [changes, List.map_append, List.map_map, List.map_map]
  rfl

/-- The lines of a table are those of its changes. -/
theorem TableDiff.lines_eq (d : TableDiff) : d.lines = d.changes.map Change.line := by
  rw [changes, List.map_append, List.map_append, List.map_map, List.map_map, List.map_map]
  rfl

/-- The lines of a schema are those of its changes. -/
theorem SchemaDiff.lines_eq (d : SchemaDiff) : d.lines = d.changes.map Change.line := by
  have henums : d.enumsModified.flatMap EnumDiff.lines =
      (d.enumsModified.flatMap EnumDiff.changes).map Change.line := by
    rw [List.map_flatMap, funext EnumDiff.lines_eq]
  have htables : d.tablesModified.flatMap TableDiff.lines =
      (d.tablesModified.flatMap TableDiff.changes).map Change.line := by
    rw [List.map_flatMap, funext TableDiff.lines_eq]
  rw [lines, henums, htables, changes]
  simp only [List.map_append, List.map_map]
  rfl

/-! ## Entries -/

namespace MigrationPlan

/-- The entry of a change in a migration.  There is none for an enum type or a table that
is to be added and is not declared. -/
def entryOf? (m : MigrationPlan) : Change → Except Failure (Option String)
  | .enumAdded name => .ok ((m.schema.enum? name).map m.enumAddedEntry)
  | .valueAdded enumName value => .ok (some (m.valueAddedEntry enumName value))
  | .valueRemoved enumName value => .ok (some (valueRemovedEntry enumName value))
  | .tableAdded name => (m.schema.table? name).elim (.ok none) fun t =>
    (m.tableAddedEntry t).map some
  | .columnAdded table column => (m.columnAddedEntry table column).map some
  | .columnModified table d => (m.columnModifiedEntry table d).map some
  | .columnRemoved table column => .ok (some (columnRemovedEntry table column))
  | .indexAdded i => (m.indexAddedEntry i).map some
  | .indexRemoved i => .ok (some (m.indexRemovedEntry i))
  | .tableRemoved name => .ok (some (tableRemovedEntry name))
  | .enumRemoved name => .ok (some (enumRemovedEntry name))

/-- An entry that is always there is what was written. -/
theorem eq_of_map_some {result : Except Failure String} {entry : String}
    (h : result.map some = .ok (some entry)) : result = .ok entry := by
  cases result with
  | error cause => cases h
  | ok written => rw [← Option.some.inj (Except.ok.inj h)]

section Collected

variable (m : MigrationPlan)

/-- The entries of an enum type are those of its changes. -/
theorem collect_changes_enumDiff (d : EnumDiff) :
    collect m.entryOf? d.changes = .ok (m.enumEntries d) := by
  have hadded : collect m.entryOf? (d.added.map (.valueAdded d.name)) =
      .ok (d.added.map (m.valueAddedEntry d.name)) :=
    collect_map_of_pure fun _ => rfl
  have hremoved : collect m.entryOf? (d.removed.map (.valueRemoved d.name)) =
      .ok (d.removed.map (valueRemovedEntry d.name)) :=
    collect_map_of_pure fun _ => rfl
  rw [EnumDiff.changes, collect_append, hadded, hremoved]
  rfl

/-- The entries of a table are those of its changes. -/
theorem collect_changes_tableDiff (d : TableDiff) :
    collect m.entryOf? d.changes = m.tableEntries d := by
  have hadded : collect m.entryOf? (d.added.map (.columnAdded d.table)) =
      d.added.mapM (m.columnAddedEntry d.table) :=
    collect_map_of_found fun _ => rfl
  have hmodified : collect m.entryOf? (d.modified.map (.columnModified d.table)) =
      d.modified.mapM (m.columnModifiedEntry d.table) :=
    collect_map_of_found fun _ => rfl
  have hremoved : collect m.entryOf? (d.removed.map (.columnRemoved d.table)) =
      .ok (d.removed.map (columnRemovedEntry d.table)) :=
    collect_map_of_pure fun _ => rfl
  rw [TableDiff.changes, collect_append, collect_append, hadded, hmodified, hremoved]
  unfold tableEntries
  cases d.added.mapM (m.columnAddedEntry d.table) with
  | error cause => rfl
  | ok added => cases d.modified.mapM (m.columnModifiedEntry d.table) <;> rfl

/-- **One entry for each change.**  The entries of a migration are those of the changes of
its difference, and it fails as the first of them that cannot be written. -/
theorem entries_eq (d : SchemaDiff) : m.entries d = collect m.entryOf? d.changes := by
  have henums : collect m.entryOf? (d.enumsAdded.map .enumAdded) =
      .ok ((d.enumsAdded.filterMap m.schema.enum?).map m.enumAddedEntry) := by
    have hfound : ∀ name, m.entryOf? (.enumAdded name) =
        (m.schema.enum? name).elim (.ok none) fun e => (Except.ok (m.enumAddedEntry e)).map some := by
      intro name
      rw [entryOf?]
      cases m.schema.enum? name <;> rfl
    rw [collect_map hfound]
    exact List.mapM_pure
  have hvalues : collect m.entryOf? (d.enumsModified.flatMap EnumDiff.changes) =
      .ok (d.enumsModified.flatMap m.enumEntries) := by
    rw [collect_flatMap, funext m.collect_changes_enumDiff]
    have hmap : (d.enumsModified.mapM fun e => (.ok (m.enumEntries e) : Except Failure _)) =
        .ok (d.enumsModified.map m.enumEntries) := List.mapM_pure
    rw [hmap, List.flatMap_def]
    rfl
  have htables : collect m.entryOf? (d.tablesAdded.map .tableAdded) =
      (d.tablesAdded.filterMap m.schema.table?).mapM m.tableAddedEntry :=
    collect_map fun _ => rfl
  have hcolumns : collect m.entryOf? (d.tablesModified.flatMap TableDiff.changes) =
      (d.tablesModified.mapM m.tableEntries).map List.flatten := by
    rw [collect_flatMap, funext m.collect_changes_tableDiff]
  have hindexes : collect m.entryOf? (d.indexesAdded.map .indexAdded) =
      d.indexesAdded.mapM m.indexAddedEntry :=
    collect_map_of_found fun _ => rfl
  have hdropped : collect m.entryOf? (d.indexesRemoved.map .indexRemoved) =
      .ok (d.indexesRemoved.map m.indexRemovedEntry) :=
    collect_map_of_pure fun _ => rfl
  have htablesRemoved : collect m.entryOf? (d.tablesRemoved.map .tableRemoved) =
      .ok (d.tablesRemoved.map tableRemovedEntry) :=
    collect_map_of_pure fun _ => rfl
  have henumsRemoved : collect m.entryOf? (d.enumsRemoved.map .enumRemoved) =
      .ok (d.enumsRemoved.map enumRemovedEntry) :=
    collect_map_of_pure fun _ => rfl
  rw [SchemaDiff.changes]
  simp only [collect_append, henums, hvalues, htables, hcolumns, hindexes, hdropped,
    htablesRemoved, henumsRemoved]
  unfold entries
  -- Only tables, columns and new indexes can fail, and they are written in this order.
  cases (d.tablesAdded.filterMap m.schema.table?).mapM m.tableAddedEntry with
  | error cause => rfl
  | ok tables =>
    cases d.tablesModified.mapM m.tableEntries with
    | error cause => rfl
    | ok columns => cases d.indexesAdded.mapM m.indexAddedEntry <;> rfl

end Collected

/-! ## Entries of computed differences -/

/-- A statement that can be written makes an entry. -/
theorem exists_statementEntry {m : MigrationPlan} {s : Statement}
    (h : ∃ texts, m.dialect.profile.statementTexts m.renderer.known s = .ok texts) :
    ∃ entry, m.statementEntry s = .ok entry := by
  obtain ⟨texts, htexts⟩ := h
  exact ⟨_, Renderer.renderStatement_eq_ok_trimRight htexts⟩

/-- Every alteration makes an entry. -/
theorem exists_statementEntry_alterTable (m : MigrationPlan) (a : Alteration) :
    ∃ entry, m.statementEntry (.alterTable a) = .ok entry :=
  exists_statementEntry
    (Profile.exists_alterTable (Profile.redefinition_ne_unsupported m.dialect) _ a)

/-- Every table that metadata asks for makes an entry. -/
theorem exists_tableAddedEntry (m : MigrationPlan) (t : DesiredTable) :
    ∃ entry, m.tableAddedEntry t = .ok entry := by
  obtain ⟨text, htext, _⟩ := t.exists_createTable m.dialect m.renderer.known
  refine exists_statementEntry ⟨[text], ?_⟩
  rw [Profile.statementTexts, htext]
  rfl

/-- Every column that is added makes an entry, whether it is declared or not. -/
theorem exists_columnAddedEntry (m : MigrationPlan) (table column : String) :
    ∃ entry, m.columnAddedEntry table column = .ok entry := by
  unfold columnAddedEntry
  cases m.declared? table column with
  | none => exact ⟨_, rfl⟩
  | some declared =>
    by_cases hemit : m.emitStatements = true
    · simp only [hemit, if_true]
      exact m.exists_statementEntry_alterTable _
    · simp only [hemit, Bool.false_eq_true, if_false]
      exact ⟨_, rfl⟩

/-- Every column that is modified makes an entry, whether it is declared or not. -/
theorem exists_columnModifiedEntry (m : MigrationPlan) (table : String) (d : ColumnDiff) :
    ∃ entry, m.columnModifiedEntry table d = .ok entry := by
  unfold columnModifiedEntry
  cases m.declared? table d.column with
  | none => exact ⟨_, rfl⟩
  | some declared =>
    by_cases hemit : m.emitStatements = true
    · simp only [hemit, if_true]
      exact m.exists_statementEntry_alterTable _
    · simp only [hemit, Bool.false_eq_true, if_false]
      exact ⟨_, rfl⟩

/-- Without a statement the change of a column is left to people, whether the column is
declared or not. -/
theorem columnModifiedEntry_eq_todo {m : MigrationPlan} {table : String} {d : ColumnDiff}
    (h : ¬(m.emitStatements && (m.declared? table d.column).isSome) = true) :
    m.columnModifiedEntry table d = .ok (columnModifiedTodo table d) := by
  unfold columnModifiedEntry
  cases hdeclared : m.declared? table d.column with
  | none => rfl
  | some declared =>
    have hemit : ¬m.emitStatements = true := by simpa [hdeclared] using h
    simp only [if_neg hemit]

/-- Every index that is added makes an entry, whether it is declared or not. -/
theorem exists_indexAddedEntry (m : MigrationPlan) (i : IndexName) :
    ∃ entry, m.indexAddedEntry i = .ok entry := by
  unfold indexAddedEntry
  cases m.declaredIndex? i with
  | none => exact ⟨_, rfl⟩
  | some j =>
    by_cases hemit : m.emitStatements = true
    · simp only [hemit, if_true]
      exact exists_statementEntry ⟨_, rfl⟩
    · simp only [hemit, Bool.false_eq_true, if_false]
      exact ⟨_, rfl⟩

/-- Without a statement a new index is left to people, whether it is declared or not. -/
theorem indexAddedEntry_eq_todo {m : MigrationPlan} {i : IndexName}
    (h : ¬(m.emitStatements && (m.declaredIndex? i).isSome) = true) :
    m.indexAddedEntry i = .ok ("-- TODO: create index " ++ i.name ++ " on " ++ i.table) := by
  unfold indexAddedEntry
  cases hdeclared : m.declaredIndex? i with
  | none => rfl
  | some declared =>
    have hemit : ¬m.emitStatements = true := by simpa [hdeclared] using h
    simp only [if_neg hemit]

/-- The desired schema has the enum type or the table that a change creates. -/
def Declares (m : MigrationPlan) : Change → Prop
  | .enumAdded name => name ∈ m.schema.enums.map EnumType.name
  | .tableAdded name => name ∈ m.schema.tables.map DesiredTable.name
  | _ => True

/-- A change has an entry if what it creates is declared. -/
theorem exists_entryOf? {m : MigrationPlan} {change : Change} (h : m.Declares change) :
    ∃ entry, m.entryOf? change = .ok (some entry) := by
  have hsome : ∀ {result : Except Failure String}, (∃ entry, result = .ok entry) →
      ∃ entry, result.map some = .ok (some entry) := by
    rintro result ⟨entry, rfl⟩
    exact ⟨entry, rfl⟩
  cases change with
  | enumAdded name =>
    cases hfound : m.schema.enum? name with
    | none => exact absurd h ((find?_key_eq_none_iff EnumType.name _ name).mp hfound)
    | some e =>
      refine ⟨m.enumAddedEntry e, ?_⟩
      rw [entryOf?, hfound]
      rfl
  | tableAdded name =>
    cases hfound : m.schema.table? name with
    | none => exact absurd h ((find?_key_eq_none_iff DesiredTable.name _ name).mp hfound)
    | some t =>
      rw [entryOf?, hfound]
      exact hsome (m.exists_tableAddedEntry t)
  | columnAdded table column => exact hsome (m.exists_columnAddedEntry table column)
  | columnModified table d => exact hsome (m.exists_columnModifiedEntry table d)
  | indexAdded i => exact hsome (m.exists_indexAddedEntry i)
  | valueAdded enumName value => exact ⟨_, rfl⟩
  | valueRemoved enumName value => exact ⟨_, rfl⟩
  | columnRemoved table column => exact ⟨_, rfl⟩
  | indexRemoved i => exact ⟨_, rfl⟩
  | tableRemoved name => exact ⟨_, rfl⟩
  | enumRemoved name => exact ⟨_, rfl⟩

/-- The difference of the desired schema of a migration to a live one. -/
abbrev diff (m : MigrationPlan) (live : LiveSchema) : SchemaDiff :=
  compare m.schema live m.dialect

/-- A comparison adds only what is declared. -/
theorem declares_of_mem_changes {m : MigrationPlan} {live : LiveSchema} {change : Change}
    (h : change ∈ (m.diff live).changes) : m.Declares change := by
  cases change with
  | enumAdded name =>
    have hadded := ((m.diff live).enumAdded_mem_changes_iff name).mp h
    exact ((mem_enumsAdded_iff m.schema live m.dialect name).mp hadded).2.1
  | tableAdded name =>
    have hadded := ((m.diff live).tableAdded_mem_changes_iff name).mp h
    exact ((mem_tablesAdded_iff m.schema live name).mp hadded).1
  | _ => trivial

/-- **Every change has its entry.**  The migration for a computed difference is written, and
its entries are those of the changes, one for each and in their order. -/
theorem exists_entries_diff (m : MigrationPlan) (live : LiveSchema) :
    ∃ entries, m.entries (m.diff live) = .ok entries ∧
      List.Forall₂ (fun change entry => m.entryOf? change = .ok (some entry))
        (m.diff live).changes entries := by
  have hentry : ∀ change ∈ (m.diff live).changes, ∃ entry, m.entryOf? change = .ok (some entry) :=
    fun change hchange => exists_entryOf? (declares_of_mem_changes hchange)
  rw [entries_eq]
  exact exists_collect_eq_ok hentry

end MigrationPlan

end SchemaDdl.Drift
