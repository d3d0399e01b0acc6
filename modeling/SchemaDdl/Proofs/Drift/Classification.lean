/-
# What a difference contains

A comparison puts every table, column, attribute, enum type and index into its place, and
no entry of a difference is empty or says the same thing twice.  Names need not be distinct:
of several live tables or columns of one name the first is the one that is compared.

* `TableDiff.reports_tableDiff` : what the entry of a table says;
* `existsUnique_inClass` : every live index is in exactly one class;
* `classifies_compare` : all lists of a difference together.
-/
import SchemaDdl.Proofs.Drift.InSync
import SchemaDdl.Proofs.Drift.EnumValues

namespace SchemaDdl.Drift

/-! ## Columns and tables -/

/-- The entry of a column states the attributes in which a field and a live column differ.
There is one at least, and each is stated once. -/
structure ColumnDiff.Reports (diff : ColumnDiff) (s : DesiredSchema) (d : Dialect)
    (t : DesiredTable) (f : Field) (c : LiveColumn) : Prop where
  desired : f.name = diff.column
  live : c.name = diff.column
  changes : diff.changes ≠ []
  attributes : (diff.changes.map ColumnChange.attributeName).Nodup
  differ : ∀ change, change ∈ diff.changes ↔ AttributeDiffers s d t f c change

/-- No attribute of a field and a live column differs. -/
def ColumnUnchanged (s : DesiredSchema) (d : Dialect) (t : DesiredTable) (f : Field)
    (c : LiveColumn) : Prop :=
  ∀ change, ¬AttributeDiffers s d t f c change

/-- The entry of a table states the columns that are on one side only and those that differ.
It is not empty. -/
structure TableDiff.Reports (diff : TableDiff) (s : DesiredSchema) (d : Dialect)
    (t : DesiredTable) (l : LiveTable) : Prop where
  desired : t.name = diff.table
  live : l.name = diff.table
  hasChanges : diff.hasChanges = true
  added : ∀ name, name ∈ diff.added ↔
    name ∈ t.fields.map Field.name ∧ name ∉ l.columns.map LiveColumn.name
  removed : ∀ name, name ∈ diff.removed ↔
    name ∈ l.columns.map LiveColumn.name ∧ name ∉ t.fields.map Field.name
  modified : ∀ column ∈ diff.modified, ∃ f ∈ t.fields, ∃ c ∈ l.columns,
    l.column? column.column = some c ∧ column.Reports s d t f c
  unmodified : ∀ f ∈ t.fields, ∀ c, l.column? f.name = some c →
    (∃ column ∈ diff.modified, column.Reports s d t f c) ∨ ColumnUnchanged s d t f c

/-- Both tables have the same columns, and none of them differs. -/
def TableUnchanged (s : DesiredSchema) (d : Dialect) (t : DesiredTable) (l : LiveTable) : Prop :=
  (∀ name, name ∈ t.fields.map Field.name ↔ name ∈ l.columns.map LiveColumn.name) ∧
    ∀ f ∈ t.fields, ∀ c, l.column? f.name = some c → ColumnUnchanged s d t f c

/-- The change of a single attribute names this attribute and nothing else. -/
theorem map_attributeName_changeOf_sublist {α : Type} [DecidableEq α]
    {change : α → α → ColumnChange} {name : String}
    (hname : ∀ desired live, (change desired live).attributeName = name) (desired live : α) :
    ((changeOf change desired live).map ColumnChange.attributeName).Sublist [name] := by
  unfold changeOf
  split
  · exact List.nil_sublist _
  · rw [List.map_singleton, hname]

/-- No attribute of a column changes twice. -/
theorem nodup_map_attributeName_columnChanges (s : DesiredSchema) (d : Dialect)
    (t : DesiredTable) (f : Field) (c : LiveColumn) :
    ((columnChanges s d t f c).map ColumnChange.attributeName).Nodup := by
  have hdefault : ((defaultChange s d f c).map ColumnChange.attributeName).Sublist
      ["default"] := by
    unfold defaultChange
    split
    · exact List.nil_sublist _
    · exact map_attributeName_changeOf_sublist (fun _ _ => rfl) _ _
  have hnames : ((columnChanges s d t f c).map ColumnChange.attributeName).Sublist
      (["type"] ++ ["nullable"] ++ ["primary"] ++ ["unique"] ++ ["default"]) := by
    simp only [columnChanges, List.map_append]
    refine List.Sublist.append ?_ hdefault
    refine List.Sublist.append ?_ (map_attributeName_changeOf_sublist (fun _ _ => rfl) _ _)
    refine List.Sublist.append ?_ (map_attributeName_changeOf_sublist (fun _ _ => rfl) _ _)
    exact (map_attributeName_changeOf_sublist (fun _ _ => rfl) _ _).append
      (map_attributeName_changeOf_sublist (fun _ _ => rfl) _ _)
  exact hnames.nodup (by decide)

/-- A column has no changes exactly if it is unchanged. -/
theorem columnChanges_eq_nil_iff_unchanged (s : DesiredSchema) (d : Dialect) (t : DesiredTable)
    (f : Field) (c : LiveColumn) :
    columnChanges s d t f c = [] ↔ ColumnUnchanged s d t f c := by
  rw [List.eq_nil_iff_forall_not_mem]
  exact forall_congr' fun change => not_congr mem_columnChanges_iff

section Tables

variable {s : DesiredSchema} {d : Dialect} {t : DesiredTable} {l : LiveTable}

/-- The entry of a column reports a field and the live column that is found under its name. -/
theorem ColumnDiff.reports_columnChanges {f : Field} {c : LiveColumn}
    (hfound : l.column? f.name = some c) (hchanges : columnChanges s d t f c ≠ []) :
    (ColumnDiff.mk f.name (columnChanges s d t f c)).Reports s d t f c where
  desired := rfl
  live := beq_iff_eq.mp (List.find?_some (p := fun c : LiveColumn => c.name == f.name) hfound)
  changes := hchanges
  attributes := nodup_map_attributeName_columnChanges s d t f c
  differ := fun _ => mem_columnChanges_iff

/-- Every column that is modified is on both sides, and its entry reports it. -/
theorem exists_reports_of_mem_modified {column : ColumnDiff}
    (h : column ∈ (tableDiff s d t l).modified) :
    ∃ f ∈ t.fields, ∃ c ∈ l.columns,
      l.column? column.column = some c ∧ column.Reports s d t f c := by
  obtain ⟨f, hf, hdiff⟩ := List.mem_filterMap.mp h
  obtain ⟨c, hfound, hchanges, rfl⟩ := columnDiff?_eq_some_iff.mp hdiff
  exact ⟨f, hf, c, List.mem_of_find?_eq_some hfound, hfound,
    ColumnDiff.reports_columnChanges hfound hchanges⟩

/-- A column on both sides that is not reported is unchanged. -/
theorem reports_or_columnUnchanged {f : Field} (hf : f ∈ t.fields) {c : LiveColumn}
    (hfound : l.column? f.name = some c) :
    (∃ column ∈ (tableDiff s d t l).modified, column.Reports s d t f c) ∨
      ColumnUnchanged s d t f c := by
  by_cases hchanges : columnChanges s d t f c = []
  · exact .inr ((columnChanges_eq_nil_iff_unchanged s d t f c).mp hchanges)
  · have hdiff : columnDiff? s d t l f = some ⟨f.name, columnChanges s d t f c⟩ :=
      columnDiff?_eq_some_iff.mpr ⟨c, hfound, hchanges, rfl⟩
    exact .inl ⟨_, List.mem_filterMap.mpr ⟨f, hf, hdiff⟩,
      ColumnDiff.reports_columnChanges hfound hchanges⟩

/-- The entry of a table reports a desired table and the live table of its name. -/
theorem TableDiff.reports_tableDiff (hname : l.name = t.name)
    (hchanges : (tableDiff s d t l).hasChanges = true) :
    (tableDiff s d t l).Reports s d t l where
  desired := rfl
  live := hname
  hasChanges := hchanges
  added := mem_added_tableDiff_iff s d t l
  removed := mem_removed_tableDiff_iff s d t l
  modified := fun _ hcolumn => exists_reports_of_mem_modified hcolumn
  unmodified := fun _ hf _ hfound => reports_or_columnUnchanged hf hfound

/-- Tables without changes are unchanged. -/
theorem tableUnchanged_of_hasChanges_eq_false (h : (tableDiff s d t l).hasChanges = false) :
    TableUnchanged s d t l := by
  obtain ⟨hadded, hremoved, hmodified⟩ := (TableDiff.hasChanges_eq_false_iff _).mp h
  have hnames := sameNames_iff (mem_added_tableDiff_iff s d t l)
    (mem_removed_tableDiff_iff s d t l)
  refine ⟨hnames.mp ⟨hadded, hremoved⟩, ?_⟩
  intro f hf c hfound
  rcases reports_or_columnUnchanged hf hfound with ⟨column, hcolumn, _⟩ | hunchanged
  · rw [hmodified] at hcolumn
    exact absurd hcolumn List.not_mem_nil
  · exact hunchanged

end Tables

/-- Every table that is modified is on both sides, and its entry reports it. -/
theorem exists_reports_of_mem_tablesModified {s : DesiredSchema} {live : LiveSchema}
    {d : Dialect} {table : TableDiff} (h : table ∈ (compare s live d).tablesModified) :
    ∃ t ∈ s.tables, ∃ l ∈ live.tables,
      live.table? table.table = some l ∧ table.Reports s d t l := by
  obtain ⟨t, ht, hdiff⟩ := List.mem_filterMap.mp h
  obtain ⟨l, hfound, hchanges, rfl⟩ := tableDiff?_eq_some_iff.mp hdiff
  have hname := List.find?_some (p := fun l : LiveTable => l.name == t.name) hfound
  exact ⟨t, ht, l, List.mem_of_find?_eq_some hfound, hfound,
    TableDiff.reports_tableDiff (beq_iff_eq.mp hname) hchanges⟩

/-- A table on both sides that is not reported is unchanged. -/
theorem reports_or_tableUnchanged {s : DesiredSchema} {live : LiveSchema} (d : Dialect)
    {t : DesiredTable} (ht : t ∈ s.tables) {l : LiveTable}
    (hfound : live.table? t.name = some l) :
    (∃ table ∈ (compare s live d).tablesModified, table.Reports s d t l) ∨
      TableUnchanged s d t l := by
  cases hchanges : (tableDiff s d t l).hasChanges with
  | false => exact .inr (tableUnchanged_of_hasChanges_eq_false hchanges)
  | true =>
    have hname := List.find?_some (p := fun l : LiveTable => l.name == t.name) hfound
    have hdiff : tableDiff? s live d t = some (tableDiff s d t l) :=
      tableDiff?_eq_some_iff.mpr ⟨l, hfound, hchanges, rfl⟩
    exact .inl ⟨_, List.mem_filterMap.mpr ⟨t, ht, hdiff⟩,
      TableDiff.reports_tableDiff (beq_iff_eq.mp hname) hchanges⟩

/-! ## Enum types -/

/-- The entry of an enum type has its name and a value at least. -/
theorem eq_name_of_enumDiff? {e : EnumType} {lists : List (List String)} {diff : EnumDiff}
    (h : enumDiff? e lists = some diff) :
    diff.name = e.name ∧ (diff.added ≠ [] ∨ diff.removed ≠ []) := by
  obtain ⟨hvalues, rfl⟩ := enumDiff?_eq_some_iff.mp h
  exact ⟨rfl, hvalues⟩

/-- Every enum type that is modified is declared, and its entry has a value at least. -/
theorem declared_of_mem_enumsModified {s : DesiredSchema} {live : LiveSchema} {d : Dialect}
    {diff : EnumDiff} (h : diff ∈ (compare s live d).enumsModified) :
    diff.name ∈ s.enums.map EnumType.name ∧ (diff.added ≠ [] ∨ diff.removed ≠ []) := by
  obtain ⟨e, he, hdiff⟩ := List.mem_filterMap.mp h
  have hlists : ∃ lists, enumDiff? e lists = some diff := by
    unfold declaredEnumDiff? at hdiff
    split at hdiff
    · exact ⟨_, hdiff⟩
    · split at hdiff
      · exact ⟨_, hdiff⟩
      · simp at hdiff
  obtain ⟨lists, hlists⟩ := hlists
  obtain ⟨hname, hvalues⟩ := eq_name_of_enumDiff? hlists
  exact ⟨hname ▸ List.mem_map_of_mem he, hvalues⟩

/-! ## Indexes -/

/-- The name of a live index and its table. -/
def IndexName.ofLive (j : LiveIndex) : IndexName :=
  ⟨j.name, j.table⟩

/-- An index stands behind a primary key, or behind the one field that is found under the name
of its only column. -/
def ImpliedByKey (s : DesiredSchema) (j : LiveIndex) : Prop :=
  j.primary = true ∨
    (j.unique = true ∧ ∃ column, j.columns = [column] ∧
      ∃ t, s.table? j.table = some t ∧ ∃ f, t.field? column = some f ∧
        (f.unique = true ∨ t.isPrimary f = true))

/-- What can become of a live index. -/
inductive IndexClass where
  | declared
  | impliedByKey
  | onRemovedTable
  | dropped
  deriving DecidableEq, Repr

/-- A live index is in the first class that it fits: its name is declared, it stands behind a
key, it goes with its table, or it is to be dropped. -/
def InClass (s : DesiredSchema) (diff : SchemaDiff) (j : LiveIndex) : IndexClass → Prop
  | .declared => ∃ i ∈ s.indexes, i.directive.name = j.name
  | .impliedByKey => (∀ i ∈ s.indexes, i.directive.name ≠ j.name) ∧ ImpliedByKey s j
  | .onRemovedTable =>
    (∀ i ∈ s.indexes, i.directive.name ≠ j.name) ∧ ¬ImpliedByKey s j ∧
      j.table ∈ diff.tablesRemoved
  | .dropped =>
    (∀ i ∈ s.indexes, i.directive.name ≠ j.name) ∧ ¬ImpliedByKey s j ∧
      j.table ∉ diff.tablesRemoved ∧ .ofLive j ∈ diff.indexesRemoved

/-- The stale indexes are those that are declared nowhere, stand behind no key and are on a
table that stays. -/
theorem isStale_iff_impliedByKey (s : DesiredSchema) (live : LiveSchema) (j : LiveIndex) :
    isStale s live j = true ↔
      (∀ i ∈ s.indexes, i.directive.name ≠ j.name) ∧ ¬ImpliedByKey s j ∧
        j.table ∉ tablesRemoved s live := by
  rw [isStale_iff, ← Bool.not_eq_true, impliedIndex_iff]
  rfl

/-- The class of a live index is that of the stale ones exactly if it is one. -/
theorem inClass_dropped_iff {s : DesiredSchema} {live : LiveSchema} (d : Dialect)
    {j : LiveIndex} (hj : j ∈ live.indexes) :
    InClass s (compare s live d) j .dropped ↔ isStale s live j = true := by
  rw [isStale_iff_impliedByKey]
  constructor
  · rintro ⟨hname, hkey, htable, _⟩
    exact ⟨hname, hkey, htable⟩
  · rintro ⟨hname, hkey, htable⟩
    have hstale := (isStale_iff_impliedByKey s live j).mpr ⟨hname, hkey, htable⟩
    exact ⟨hname, hkey, htable, (mem_indexesRemoved_iff s live _).mpr ⟨j, hj, hstale, rfl⟩⟩

/-- Every live index is in a class. -/
theorem exists_inClass (s : DesiredSchema) {live : LiveSchema} (d : Dialect) {j : LiveIndex}
    (hj : j ∈ live.indexes) : ∃ k, InClass s (compare s live d) j k := by
  by_cases hname : ∃ i ∈ s.indexes, i.directive.name = j.name
  · exact ⟨.declared, hname⟩
  · push Not at hname
    by_cases hkey : ImpliedByKey s j
    · exact ⟨.impliedByKey, hname, hkey⟩
    · by_cases htable : j.table ∈ tablesRemoved s live
      · exact ⟨.onRemovedTable, hname, hkey, htable⟩
      · have hstale := (isStale_iff_impliedByKey s live j).mpr ⟨hname, hkey, htable⟩
        exact ⟨.dropped, (inClass_dropped_iff d hj).mpr hstale⟩

/-- No index is in two classes. -/
theorem InClass.unique {s : DesiredSchema} {diff : SchemaDiff} {j : LiveIndex}
    {k k' : IndexClass} (h : InClass s diff j k) (h' : InClass s diff j k') : k = k' := by
  -- Each class rules out those before it.
  cases k <;> cases k' <;> simp only [InClass] at h h' <;> grind

/-- Every live index is in exactly one class. -/
theorem existsUnique_inClass (s : DesiredSchema) {live : LiveSchema} (d : Dialect)
    {j : LiveIndex} (hj : j ∈ live.indexes) : ∃! k, InClass s (compare s live d) j k := by
  obtain ⟨k, hk⟩ := exists_inClass s d hj
  exact ⟨k, hk, fun _ hk' => hk'.unique hk⟩

/-! ## Schemas -/

/-- Each list of a difference has what belongs there and nothing else. -/
structure SchemaDiff.Classifies (diff : SchemaDiff) (s : DesiredSchema) (live : LiveSchema)
    (d : Dialect) : Prop where
  tablesAdded : ∀ name, name ∈ diff.tablesAdded ↔
    name ∈ s.tables.map DesiredTable.name ∧ name ∉ live.tables.map LiveTable.name
  tablesRemoved : ∀ name, name ∈ diff.tablesRemoved ↔
    name ∈ live.tables.map LiveTable.name ∧ name ∉ s.tables.map DesiredTable.name
  tablesModified : ∀ table ∈ diff.tablesModified, ∃ t ∈ s.tables, ∃ l ∈ live.tables,
    live.table? table.table = some l ∧ table.Reports s d t l
  tablesUnmodified : ∀ t ∈ s.tables, ∀ l, live.table? t.name = some l →
    (∃ table ∈ diff.tablesModified, table.Reports s d t l) ∨ TableUnchanged s d t l
  enumsAdded : ∀ name, name ∈ diff.enumsAdded ↔
    d.isMysqlFamily = false ∧ name ∈ s.enums.map EnumType.name ∧
      name ∉ live.enums.map EnumType.name
  enumsRemoved : ∀ name, name ∈ diff.enumsRemoved ↔
    name ∈ live.enums.map EnumType.name ∧ name ∉ s.enums.map EnumType.name
  enumsModified : ∀ e ∈ diff.enumsModified,
    e.name ∈ s.enums.map EnumType.name ∧ (e.added ≠ [] ∨ e.removed ≠ [])
  indexesAdded : ∀ n, n ∈ diff.indexesAdded ↔
    ∃ i ∈ s.indexes, (∀ j ∈ live.indexes, j.name ≠ i.directive.name) ∧
      n = ⟨i.directive.name, i.table⟩
  indexesRemoved : ∀ n, n ∈ diff.indexesRemoved ↔
    ∃ j ∈ live.indexes, InClass s diff j .dropped ∧ n = .ofLive j
  liveIndexes : ∀ j ∈ live.indexes, ∃! k, InClass s diff j k

/-- **Classification.**  Whatever names occur on both sides, each list of a comparison has what
belongs there and nothing else, no entry is empty, and every live index is in exactly one
class. -/
theorem classifies_compare (s : DesiredSchema) (live : LiveSchema) (d : Dialect) :
    (compare s live d).Classifies s live d where
  tablesAdded := mem_tablesAdded_iff s live
  tablesRemoved := mem_tablesRemoved_iff s live
  tablesModified := fun _ htable => exists_reports_of_mem_tablesModified htable
  tablesUnmodified := fun _ ht _ hfound => reports_or_tableUnchanged d ht hfound
  enumsAdded := mem_enumsAdded_iff s live d
  enumsRemoved := mem_enumsRemoved_iff s live
  enumsModified := fun _ he => declared_of_mem_enumsModified he
  indexesAdded := mem_indexesAdded_iff s live
  indexesRemoved := by
    intro n
    have hremoved : n ∈ (compare s live d).indexesRemoved ↔
        ∃ j ∈ live.indexes, isStale s live j = true ∧ n = ⟨j.name, j.table⟩ :=
      mem_indexesRemoved_iff s live n
    rw [hremoved]
    refine exists_congr fun j => and_congr_right fun hj => ?_
    rw [inClass_dropped_iff d hj]
    rfl
  liveIndexes := fun _ hj => existsUnique_inClass s d hj

end SchemaDdl.Drift
