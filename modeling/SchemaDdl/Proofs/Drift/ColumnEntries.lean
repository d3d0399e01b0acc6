/-
# Entries of modified columns

A migration that emits statements gives a modified column its new definition, whatever has
changed.  The definition does not speak of the keys of the column, so a key that is reported as
changed stays as it was, and no comment names it:

* `entryOf?_columnModified` : the entry of a modified column has the statements of the
  actions that give it its definition;
* `leavesToPeople_columnModifiedTodo` : the comment that stands in their place in a migration
  without statements names each change;
* `carriesOut_iff` : the actions carry out a change exactly if it is not one of a key;
* `exists_entry_columnModified` : all of this for the columns that a comparison reports.

A table that lacks its keys shows this in both families of dialects (`entries_accountsPlan`), and
that of two fields of one name the first is written, also for the change of the second.
-/
import SchemaDdl.Proofs.Ddl.Redefinition
import SchemaDdl.Proofs.Drift.ChangeList
import SchemaDdl.Proofs.Drift.ColumnDefault
import SchemaDdl.Proofs.Drift.ColumnType
import SchemaDdl.Proofs.Text.Part

namespace SchemaDdl.Drift

/-! ## Reported columns -/

/-- A column that a comparison reports is a field of a desired table that has a live
column. -/
theorem exists_of_mem_modified {s : DesiredSchema} {live : LiveSchema} {d : Dialect}
    {table : TableDiff} (htable : table ∈ (compare s live d).tablesModified) {column : ColumnDiff}
    (hcolumn : column ∈ table.modified) :
    ∃ t ∈ s.tables, ∃ f ∈ t.fields, ∃ l c, t.name = table.table ∧ f.name = column.column ∧
      live.table? table.table = some l ∧ l.column? column.column = some c ∧
      column.changes = columnChanges s d t f c := by
  obtain ⟨t, ht, hdiff⟩ := List.mem_filterMap.mp htable
  obtain ⟨l, hl, _, rfl⟩ := tableDiff?_eq_some_iff.mp hdiff
  obtain ⟨f, hf, hfield⟩ := List.mem_filterMap.mp hcolumn
  obtain ⟨c, hc, _, rfl⟩ := columnDiff?_eq_some_iff.mp hfield
  exact ⟨t, ht, f, hf, l, c, rfl, rfl, hl, hc, rfl⟩

/-- A column whose default is compared does not count up. -/
theorem autoIncrement_column_postgres {f : Field} {c : LiveColumn} (t : DesiredTable)
    (h : sequenceBacked .postgres f c = false) : (t.column .postgres f).autoIncrement = false := by
  have hfield : f.autoIncrement = false := by
    simp only [sequenceBacked, Bool.or_eq_false_iff] at h
    exact h.1.1.1.1
  exact f.autoIncrement_resolveType_postgres.trans hfield

/-! ## Changes that are left to people -/

/-- Whether a change is one of a key: of the primary key or of uniqueness. -/
def ColumnChange.isKey : ColumnChange → Bool
  | .primary _ _ => true
  | .unique _ _ => true
  | _ => false

/-- A text leaves a change to people: it is a comment that opens with `TODO` or `WARNING`, and it
names the change. -/
def LeavesToPeople (text : String) (change : ColumnChange) : Prop :=
  (Text.beginsWith text "-- TODO" = true ∨ Text.beginsWith text "-- WARNING" = true) ∧
    Text.contains text change.describe = true

/-- The comment for a modified column names each of its changes. -/
theorem leavesToPeople_columnModifiedTodo (table : String) {column : ColumnDiff}
    {change : ColumnChange} (h : change ∈ column.changes) :
    LeavesToPeople (MigrationPlan.columnModifiedTodo table column) change := by
  have hnamed : Text.contains column.describe change.describe = true :=
    Text.contains_intercalate ", " (List.mem_map_of_mem h)
  have hmark : Text.beginsWith "-- TODO: modify column " "-- TODO" = true := by decide
  unfold MigrationPlan.columnModifiedTodo
  constructor
  · left
    simp only [String.append_assoc]
    exact Text.beginsWith_append hmark _
  · exact Text.contains_append_right (Text.contains_append_left hnamed _) _

/-- A statement leaves no change to people, since it is no comment. -/
theorem not_leavesToPeople_sql (table column : String) (action : ColumnAction)
    (change : ColumnChange) : ¬ LeavesToPeople (action.sql table column) change := by
  rintro ⟨hcomment, _⟩
  obtain ⟨later, hsql⟩ := action.exists_sql_eq table column
  have htodo : Text.beginsWith (action.sql table column) "-- TODO" = false := by
    rw [hsql]
    exact Text.beginsWith_append_eq_false (by decide) (by decide) later
  have hwarning : Text.beginsWith (action.sql table column) "-- WARNING" = false := by
    rw [hsql]
    exact Text.beginsWith_append_eq_false (by decide) (by decide) later
  simp [htodo, hwarning] at hcomment

/-! ## The entry of a column -/

namespace MigrationPlan

/-- A declared column has the name under which it was looked up. -/
theorem name_of_declared? {m : MigrationPlan} {table column : String} {t : DesiredTable}
    {f : Field} (h : m.declared? table column = some (t, f)) : f.name = column := by
  unfold declared? at h
  simp only [Option.bind_eq_bind, Option.bind_eq_some_iff] at h
  obtain ⟨t', _, f', hf', hpair⟩ := h
  have hname := List.find?_some (p := fun g : Field => g.name == column) hf'
  obtain ⟨_, rfl⟩ := Prod.mk.inj (Option.some.inj hpair)
  exact beq_iff_eq.mp hname

/-- The actions that give the column of a field its definition. -/
def actions (m : MigrationPlan) (t : DesiredTable) (f : Field) : List ColumnAction :=
  m.dialect.modifyActions m.renderer.known (t.column m.dialect f)

/-- With statements the entry of a modified column consists of the statements that give the
declared column its definition. -/
theorem columnModifiedEntry_eq_ok {m : MigrationPlan} (hemit : m.emitStatements = true)
    {table : String} {column : ColumnDiff} {t : DesiredTable} {f : Field}
    (hdeclared : m.declared? table column.column = some (t, f)) :
    m.columnModifiedEntry table column =
      .ok ("\n".intercalate ((m.actions t f).map (ColumnAction.sql table column.column))) := by
  have hname : (t.column m.dialect f).name = column.column := name_of_declared? hdeclared
  have htexts : m.dialect.profile.statementTexts m.renderer.known
      (.alterTable ⟨table, [.modifyColumn (t.column m.dialect f)]⟩) =
        .ok ((m.actions t f).map (ColumnAction.sql table column.column)) := by
    have hmodify := m.dialect.modifyColumn_eq m.renderer.known table (t.column m.dialect f)
    rw [hname] at hmodify
    rw [Profile.statementTexts, Profile.alterTable, List.mapM_cons, Profile.alterOperation, hmodify]
    exact congrArg Except.ok (List.append_nil _)
  have hne : (m.actions t f).map (ColumnAction.sql table column.column) ≠ [] := by
    unfold actions Dialect.modifyActions
    split <;> simp
  rw [columnModifiedEntry, hdeclared]
  simp only [hemit, if_true]
  refine Renderer.renderStatement_eq_ok_intercalate htexts hne ?_
  intro text htext
  obtain ⟨action, _, rfl⟩ := List.mem_map.mp htext
  exact action.endsNonblank_sql table column.column

/-- The entry of a modified column has the statements of the declared column; a column that
is not declared is left to people. -/
theorem entryOf?_columnModified {m : MigrationPlan} (hemit : m.emitStatements = true)
    (table : String) (column : ColumnDiff) :
    m.entryOf? (.columnModified table column) =
      .ok (some ((m.declared? table column.column).elim (columnModifiedTodo table column)
        fun (t, f) =>
          "\n".intercalate ((m.actions t f).map (ColumnAction.sql table column.column)))) := by
  rw [entryOf?]
  cases hdeclared : m.declared? table column.column with
  | none =>
    rw [columnModifiedEntry_eq_todo (by simp [hdeclared])]
    rfl
  | some declared =>
    rw [columnModifiedEntry_eq_ok hemit hdeclared]
    rfl

/-! ## What the entry does -/

/-- The type that a modified column is given is in its desired bucket exactly where the types
agree. -/
theorem typeBucket_modifiedType_iff (m : MigrationPlan) (t : DesiredTable) (f : Field) :
    typeBucket m.dialect (m.dialect.modifiedType m.renderer.known (t.column m.dialect f)) =
        desiredBucket m.schema m.dialect f ↔
      TypeAgrees m.schema m.dialect f := by
  rw [← desiredBucket_eq_iff m.schema m.dialect t f, eq_comm]
  unfold Dialect.modifiedType
  split
  · rfl
  · rename_i hd
    have hpostgres := Dialect.eq_postgres_of_not_isMysqlFamily hd
    rw [hpostgres, typeBucket_getD_serialBase?, typeBucket_renderedType_postgres]
    rfl

/-- A column that an entry leaves has the desired value of an attribute that changes.  Its
type and its default are those that are written, and a comparison takes them for the desired
ones where both agree. -/
def CarriesOut (m : MigrationPlan) (t : DesiredTable) (f : Field) (after : LiveColumn) :
    ColumnChange → Prop
  | .type desired _ =>
    after.effectiveType = m.dialect.modifiedType m.renderer.known (t.column m.dialect f) ∧
      (TypeAgrees m.schema m.dialect f → liveBucket m.dialect after = desired)
  | .nullable desired _ => after.nullable = desired
  | .primary desired _ => after.primary = desired
  | .unique desired _ => after.unique = desired
  | .default desired _ =>
    after.default = f.default.map m.dialect.profile.defaultText ∧
      ((∀ v, f.default = some v →
          DefaultAgrees m.dialect (desiredBucket m.schema m.dialect f) v) →
        defaultForm after.default (desiredBucket m.schema m.dialect f) = desired)

/-- Of the changes that are reported for a field, its actions carry out those that are not of a
key.  A key keeps the value that it had. -/
theorem carriesOut_iff {m : MigrationPlan} {t : DesiredTable} {f : Field} {c : LiveColumn}
    {change : ColumnChange} (h : change ∈ columnChanges m.schema m.dialect t f c) :
    m.CarriesOut t f (c.after (m.actions t f)) change ↔ change.isKey = false := by
  have htype := m.dialect.effectiveType_after m.renderer.known c (t.column m.dialect f)
  obtain ⟨hprimary, hunique⟩ :=
    m.dialect.keys_after m.renderer.known c (t.column m.dialect f)
  rw [mem_columnChanges_iff] at h
  cases change with
  | type desired live =>
    obtain ⟨rfl, _, _⟩ := h
    refine iff_of_true ⟨htype, fun hagrees => ?_⟩ rfl
    rw [liveBucket, actions, htype]
    exact (m.typeBucket_modifiedType_iff t f).mpr hagrees
  | nullable desired live =>
    obtain ⟨rfl, _, _⟩ := h
    exact iff_of_true (m.dialect.nullable_after m.renderer.known c (t.column m.dialect f)) rfl
  | primary desired live =>
    obtain ⟨_, rfl, hne⟩ := h
    have hkept : (c.after (m.actions t f)).primary ≠ desired :=
      fun hdesired => hne (hdesired.symm.trans hprimary)
    exact iff_of_false hkept Bool.noConfusion
  | unique desired live =>
    obtain ⟨_, rfl, hne⟩ := h
    have hkept : (c.after (m.actions t f)).unique ≠ desired :=
      fun hdesired => hne (hdesired.symm.trans hunique)
    exact iff_of_false hkept Bool.noConfusion
  | default desired live =>
    obtain ⟨rfl, _, _, hsequence⟩ := h
    have hafter : (c.after (m.actions t f)).default =
        f.default.map m.dialect.profile.defaultText := by
      refine m.dialect.default_after m.renderer.known c (c := t.column m.dialect f) ?_
      cases hdialect : m.dialect with
      | postgres =>
        rw [hdialect] at hsequence
        exact .inr (.inr (autoIncrement_column_postgres t hsequence))
      | mysql => exact .inl rfl
      | mariadb => exact .inl rfl
    refine iff_of_true ⟨hafter, fun hagrees => ?_⟩ rfl
    rw [hafter]
    cases hdefault : f.default with
    | none => rfl
    | some v => exact (defaultForm_defaultText_iff m.dialect v _).mpr (hagrees v hdefault)

/-- **Changes of columns.**  If a migration emits statements and the names of a reported
column stand for one field, then its entry consists of the statements that give the column
the definition of this field.  They carry out a change that is reported exactly if it is not
one of a key, and none of them leaves it to people.  The comment that a migration without
statements has in their place does so with every change. -/
theorem exists_entry_columnModified {m : MigrationPlan} (hemit : m.emitStatements = true)
    {live : LiveSchema} {table : TableDiff} (htable : table ∈ (m.diff live).tablesModified)
    {column : ColumnDiff} (hcolumn : column ∈ table.modified)
    (hfirst : ∀ t ∈ m.schema.tables, t.name = table.table → ∀ f ∈ t.fields,
      f.name = column.column → m.declared? table.table column.column = some (t, f)) :
    ∃ t f l c entry entries,
      m.declared? table.table column.column = some (t, f) ∧
      live.table? table.table = some l ∧ l.column? column.column = some c ∧
      column.changes = columnChanges m.schema m.dialect t f c ∧
      m.entries (m.diff live) = .ok entries ∧ entry ∈ entries ∧
      m.entryOf? (.columnModified table.table column) = .ok (some entry) ∧
      entry = "\n".intercalate
        ((m.actions t f).map (ColumnAction.sql table.table column.column)) ∧
      ∀ change ∈ column.changes,
        (m.CarriesOut t f (c.after (m.actions t f)) change ↔ change.isKey = false) ∧
        (∀ action ∈ m.actions t f,
          ¬ LeavesToPeople (action.sql table.table column.column) change) ∧
        LeavesToPeople (columnModifiedTodo table.table column) change := by
  obtain ⟨t, ht, f, hf, l, c, htname, hfname, hl, hc, hchanges⟩ :=
    exists_of_mem_modified htable hcolumn
  have hdeclared := hfirst t ht htname f hf hfname
  obtain ⟨entries, hentries, hpairs⟩ := m.exists_entries_diff live
  obtain ⟨entry, hentry, hwritten⟩ :=
    exists_mem_of_forall₂ hpairs (SchemaDiff.columnModified_mem_changes htable hcolumn)
  have hstatements := hwritten
  rw [entryOf?_columnModified hemit, hdeclared, Except.ok.injEq, Option.some.injEq] at hstatements
  refine ⟨t, f, l, c, entry, entries, hdeclared, hl, hc, hchanges, hentries, hentry, hwritten,
    hstatements.symm, ?_⟩
  intro change hchange
  refine ⟨carriesOut_iff (hchanges ▸ hchange), ?_, leavesToPeople_columnModifiedTodo _ hchange⟩
  intro action _
  exact not_leavesToPeople_sql _ _ action change

end MigrationPlan

/-! ## Accounts without keys -/

/-- A table of accounts with a key, a unique field without `NULL` and two fields of one name. -/
def accountsMetadata : Metadata where
  fields := [
    { Field.new "Account" "id" "BIGINT" with primary := true, nullable := false },
    { Field.new "Account" "email" "TEXT" with unique := true, nullable := false },
    Field.new "Account" "size" "INTEGER",
    Field.new "Account" "size" "TEXT"]
  tables := [⟨"Account", "accounts", none, none, []⟩]
  indexes := []
  enums := []
  embeddings := []

/-- A live column that accepts `NULL` and has neither keys nor default. -/
def plainColumn (name dataType : String) : LiveColumn :=
  ⟨name, dataType, none, true, false, false, none, false⟩

/-- The accounts in a database, without keys, without indexes and with a default. -/
def accountsCatalog : LiveSchema where
  tables := [⟨"accounts", [{ plainColumn "id" "bigint" with nullable := false },
    { plainColumn "email" "varchar(20)" with default := some "'none'" },
    plainColumn "size" "integer"]⟩]
  indexes := []
  enums := []

/-- The migration of the accounts by statements. -/
def accountsPlan (d : Dialect) : MigrationPlan :=
  ⟨accountsMetadata.schema, d, true⟩

/-- The address of an account is to be a unique text without `NULL` and without default. -/
def emailDiff : ColumnDiff :=
  ⟨"email", [.type "text" "varchar", .nullable false true, .unique true false,
    .default "" "none"]⟩

/-- The columns that differ between the accounts and the database. -/
def accountsDiff : TableDiff :=
  ⟨"accounts", [], [],
    [⟨"id", [.primary true false]⟩, emailDiff, ⟨"size", [.type "text" "integer"]⟩]⟩

/-- The entry of the address gives it its type, excludes `NULL` and drops its default.  It does
not make it unique. -/
theorem exists_entry_emailDiff :
    (accountsPlan .mysql).emitStatements = true ∧
      accountsDiff ∈ ((accountsPlan .mysql).diff accountsCatalog).tablesModified ∧
      emailDiff ∈ accountsDiff.modified ∧
      (∀ t ∈ (accountsPlan .mysql).schema.tables, t.name = accountsDiff.table → ∀ f ∈ t.fields,
        f.name = emailDiff.column →
          (accountsPlan .mysql).declared? accountsDiff.table emailDiff.column = some (t, f)) ∧
      ∃ t f l c entry entries,
        (accountsPlan .mysql).declared? accountsDiff.table emailDiff.column = some (t, f) ∧
        accountsCatalog.table? accountsDiff.table = some l ∧
        l.column? emailDiff.column = some c ∧
        emailDiff.changes =
          columnChanges (accountsPlan .mysql).schema (accountsPlan .mysql).dialect t f c ∧
        (accountsPlan .mysql).entries ((accountsPlan .mysql).diff accountsCatalog) =
          .ok entries ∧
        entry ∈ entries ∧
        (accountsPlan .mysql).entryOf? (.columnModified accountsDiff.table emailDiff) =
          .ok (some entry) ∧
        entry = "\n".intercalate (((accountsPlan .mysql).actions t f).map
          (ColumnAction.sql accountsDiff.table emailDiff.column)) ∧
        ∀ change ∈ emailDiff.changes,
          ((accountsPlan .mysql).CarriesOut t f (c.after ((accountsPlan .mysql).actions t f))
            change ↔ change.isKey = false) ∧
          (∀ action ∈ (accountsPlan .mysql).actions t f,
            ¬ LeavesToPeople (action.sql accountsDiff.table emailDiff.column) change) ∧
          LeavesToPeople (MigrationPlan.columnModifiedTodo accountsDiff.table emailDiff)
            change := by
  have htable : accountsDiff ∈ ((accountsPlan .mysql).diff accountsCatalog).tablesModified := by
    decide +kernel
  have hcolumn : emailDiff ∈ accountsDiff.modified := by decide
  have hfirst : ∀ t ∈ (accountsPlan .mysql).schema.tables, t.name = accountsDiff.table →
      ∀ f ∈ t.fields, f.name = emailDiff.column →
        (accountsPlan .mysql).declared? accountsDiff.table emailDiff.column = some (t, f) := by
    decide +kernel
  exact ⟨rfl, htable, hcolumn, hfirst,
    MigrationPlan.exists_entry_columnModified rfl htable hcolumn hfirst⟩

/-- Nothing but the columns of the accounts differs.  A missing primary key and a missing unique
key are reported, and the entries of their columns have neither a clause nor a comment for them.
Where a change to the type of a second field is reported, the entry has the type of the first. -/
theorem entries_accountsPlan :
    (∀ d, (accountsPlan d).diff accountsCatalog = ⟨[], [], [accountsDiff], [], [], [], [], []⟩) ∧
      (accountsPlan .postgres).entryOf? (.columnModified "accounts" ⟨"id", [.primary true false]⟩) =
        .ok (some ("ALTER TABLE accounts ALTER COLUMN id TYPE BIGINT;\n" ++
          "ALTER TABLE accounts ALTER COLUMN id SET NOT NULL;\n" ++
          "ALTER TABLE accounts ALTER COLUMN id DROP DEFAULT;")) ∧
      (accountsPlan .mysql).entryOf? (.columnModified "accounts" ⟨"id", [.primary true false]⟩) =
        .ok (some "ALTER TABLE accounts MODIFY COLUMN id BIGINT NOT NULL;") ∧
      (accountsPlan .postgres).entryOf? (.columnModified "accounts" emailDiff) =
        .ok (some ("ALTER TABLE accounts ALTER COLUMN email TYPE TEXT;\n" ++
          "ALTER TABLE accounts ALTER COLUMN email SET NOT NULL;\n" ++
          "ALTER TABLE accounts ALTER COLUMN email DROP DEFAULT;")) ∧
      (accountsPlan .mysql).entryOf? (.columnModified "accounts" emailDiff) =
        .ok (some "ALTER TABLE accounts MODIFY COLUMN email TEXT NOT NULL;") ∧
      (accountsPlan .mysql).entryOf?
          (.columnModified "accounts" ⟨"size", [.type "text" "integer"]⟩) =
        .ok (some "ALTER TABLE accounts MODIFY COLUMN size INTEGER;") := by
  refine ⟨fun d => by cases d <;> decide +kernel, ?_⟩
  simp only [MigrationPlan.entryOf?_columnModified (m := accountsPlan .postgres) rfl,
    MigrationPlan.entryOf?_columnModified (m := accountsPlan .mysql) rfl]
  decide +kernel

end SchemaDdl.Drift
