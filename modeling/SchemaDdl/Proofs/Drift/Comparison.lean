/-
# What a comparison reports

Each pass of a comparison by what it reports: names and changes of columns by membership,
differences by when there are none.  No pass needs to be opened again after this.
-/
import SchemaDdl.Drift.Comparison
import SchemaDdl.Proofs.Lookup

namespace SchemaDdl.Drift

/-! ## Names on one side only -/

/-- The tables to create are those that are not live. -/
theorem mem_tablesAdded_iff (s : DesiredSchema) (live : LiveSchema) (name : String) :
    name ∈ tablesAdded s live ↔
      name ∈ s.tables.map DesiredTable.name ∧ name ∉ live.tables.map LiveTable.name :=
  mem_filter_isNone_find?_iff LiveTable.name live.tables _ name

/-- The tables to remove are those that are not desired. -/
theorem mem_tablesRemoved_iff (s : DesiredSchema) (live : LiveSchema) (name : String) :
    name ∈ tablesRemoved s live ↔
      name ∈ live.tables.map LiveTable.name ∧ name ∉ s.tables.map DesiredTable.name :=
  mem_filter_isNone_find?_iff DesiredTable.name s.tables _ name

/-- The columns to add are those that are not live. -/
theorem mem_added_tableDiff_iff (s : DesiredSchema) (d : Dialect) (t : DesiredTable)
    (live : LiveTable) (name : String) :
    name ∈ (tableDiff s d t live).added ↔
      name ∈ t.fields.map Field.name ∧ name ∉ live.columns.map LiveColumn.name :=
  mem_filter_isNone_find?_iff LiveColumn.name live.columns _ name

/-- The columns to remove are those that are not desired. -/
theorem mem_removed_tableDiff_iff (s : DesiredSchema) (d : Dialect) (t : DesiredTable)
    (live : LiveTable) (name : String) :
    name ∈ (tableDiff s d t live).removed ↔
      name ∈ live.columns.map LiveColumn.name ∧ name ∉ t.fields.map Field.name :=
  mem_filter_isNone_find?_iff Field.name t.fields _ name

/-- The enum types to create are those that are not live, outside the MySQL family. -/
theorem mem_enumsAdded_iff (s : DesiredSchema) (live : LiveSchema) (d : Dialect)
    (name : String) :
    name ∈ enumsAdded s live d ↔
      d.isMysqlFamily = false ∧ name ∈ s.enums.map EnumType.name ∧
        name ∉ live.enums.map EnumType.name := by
  unfold enumsAdded
  by_cases hd : d.isMysqlFamily
  · simp [hd]
  · rw [if_neg hd]
    simp only [hd, true_and]
    exact mem_filter_isNone_find?_iff EnumType.name live.enums _ name

/-- The enum types to remove are those that are not declared. -/
theorem mem_enumsRemoved_iff (s : DesiredSchema) (live : LiveSchema) (name : String) :
    name ∈ enumsRemoved s live ↔
      name ∈ live.enums.map EnumType.name ∧ name ∉ s.enums.map EnumType.name :=
  mem_filter_isNone_find?_iff EnumType.name s.enums _ name

/-! ## Attributes of columns -/

/-- An attribute changes exactly if its two values differ. -/
theorem changeOf_eq_nil_iff {α : Type} [DecidableEq α] (change : α → α → ColumnChange)
    (desired live : α) : changeOf change desired live = [] ↔ desired = live := by
  unfold changeOf
  split <;> simp_all

/-- A change of an attribute is reported with its two values if they differ. -/
theorem mem_changeOf_iff {α : Type} [DecidableEq α] {change : α → α → ColumnChange}
    {desired live : α} {reported : ColumnChange} :
    reported ∈ changeOf change desired live ↔ desired ≠ live ∧ reported = change desired live := by
  unfold changeOf
  split <;> simp_all

/-- The default changes unless a sequence stands behind it or the two forms agree. -/
theorem defaultChange_eq_nil_iff (s : DesiredSchema) (d : Dialect) (f : Field)
    (c : LiveColumn) :
    defaultChange s d f c = [] ↔
      sequenceBacked d f c = true ∨
        defaultForm (f.default.map DefaultValue.text) (desiredBucket s d f) =
          defaultForm c.default (liveBucket d c) := by
  unfold defaultChange
  by_cases h : sequenceBacked d f c
  · simp [h]
  · rw [if_neg h, changeOf_eq_nil_iff]
    simp [h]

/-- The default changes if its two forms differ and no sequence stands behind it. -/
theorem mem_defaultChange_iff {s : DesiredSchema} {d : Dialect} {f : Field} {c : LiveColumn}
    {change : ColumnChange} :
    change ∈ defaultChange s d f c ↔
      sequenceBacked d f c = false ∧
        defaultForm (f.default.map DefaultValue.text) (desiredBucket s d f) ≠
          defaultForm c.default (liveBucket d c) ∧
        change = .default (defaultForm (f.default.map DefaultValue.text) (desiredBucket s d f))
          (defaultForm c.default (liveBucket d c)) := by
  unfold defaultChange
  split
  · rename_i hsequence
    simp [hsequence]
  · rename_i hsequence
    simp [hsequence, mem_changeOf_iff]

/-- A change states the desired and the live value of an attribute, and these differ.  A
default that comes from a sequence has none to state. -/
def AttributeDiffers (s : DesiredSchema) (d : Dialect) (t : DesiredTable) (f : Field)
    (c : LiveColumn) : ColumnChange → Prop
  | .type desired live =>
    desired = desiredBucket s d f ∧ live = liveBucket d c ∧ desired ≠ live
  | .nullable desired live => desired = acceptsNull t f ∧ live = c.nullable ∧ desired ≠ live
  | .primary desired live => desired = t.isPrimary f ∧ live = c.primary ∧ desired ≠ live
  | .unique desired live => desired = f.unique ∧ live = c.unique ∧ desired ≠ live
  | .default desired live =>
    desired = defaultForm (f.default.map DefaultValue.text) (desiredBucket s d f) ∧
      live = defaultForm c.default (liveBucket d c) ∧ desired ≠ live ∧
      sequenceBacked d f c = false

/-- The changes of a column are the attributes that differ. -/
theorem mem_columnChanges_iff {s : DesiredSchema} {d : Dialect} {t : DesiredTable} {f : Field}
    {c : LiveColumn} {change : ColumnChange} :
    change ∈ columnChanges s d t f c ↔ AttributeDiffers s d t f c change := by
  simp only [columnChanges, List.mem_append, mem_changeOf_iff, mem_defaultChange_iff]
  constructor
  · rintro ((((⟨hne, rfl⟩ | ⟨hne, rfl⟩) | ⟨hne, rfl⟩) | ⟨hne, rfl⟩) | ⟨hsequence, hne, rfl⟩)
    · exact ⟨rfl, rfl, hne⟩
    · exact ⟨rfl, rfl, hne⟩
    · exact ⟨rfl, rfl, hne⟩
    · exact ⟨rfl, rfl, hne⟩
    · exact ⟨rfl, rfl, hne, hsequence⟩
  · intro h
    cases change with
    | type desired live =>
      obtain ⟨rfl, rfl, hne⟩ := h
      exact .inl (.inl (.inl (.inl ⟨hne, rfl⟩)))
    | nullable desired live =>
      obtain ⟨rfl, rfl, hne⟩ := h
      exact .inl (.inl (.inl (.inr ⟨hne, rfl⟩)))
    | primary desired live =>
      obtain ⟨rfl, rfl, hne⟩ := h
      exact .inl (.inl (.inr ⟨hne, rfl⟩))
    | unique desired live =>
      obtain ⟨rfl, rfl, hne⟩ := h
      exact .inl (.inr ⟨hne, rfl⟩)
    | default desired live =>
      obtain ⟨rfl, rfl, hne, hsequence⟩ := h
      exact .inr ⟨hsequence, hne, rfl⟩

/-! ## Tables -/

/-- A column has no difference if it is not live or none of its attributes changes. -/
theorem columnDiff?_eq_none_iff (s : DesiredSchema) (d : Dialect) (t : DesiredTable)
    (live : LiveTable) (f : Field) :
    columnDiff? s d t live f = none ↔
      ∀ c, live.column? f.name = some c → columnChanges s d t f c = [] := by
  unfold columnDiff?
  cases live.column? f.name with
  | none => simp
  | some c => simp

/-- A column has a difference if it is live and some of its attributes change. -/
theorem columnDiff?_eq_some_iff {s : DesiredSchema} {d : Dialect} {t : DesiredTable}
    {live : LiveTable} {f : Field} {diff : ColumnDiff} :
    columnDiff? s d t live f = some diff ↔
      ∃ c, live.column? f.name = some c ∧ columnChanges s d t f c ≠ [] ∧
        ⟨f.name, columnChanges s d t f c⟩ = diff := by
  unfold columnDiff?
  cases live.column? f.name with
  | none => simp
  | some c => simp

/-- A table has changes unless its three lists are empty. -/
theorem TableDiff.hasChanges_eq_false_iff (d : TableDiff) :
    d.hasChanges = false ↔ d.added = [] ∧ d.removed = [] ∧ d.modified = [] := by
  simp [TableDiff.hasChanges, and_assoc]

/-- A table has no difference if it is not live or none of its columns changes. -/
theorem tableDiff?_eq_none_iff (s : DesiredSchema) (live : LiveSchema) (d : Dialect)
    (t : DesiredTable) :
    tableDiff? s live d t = none ↔
      ∀ l, live.table? t.name = some l → (tableDiff s d t l).hasChanges = false := by
  unfold tableDiff?
  cases live.table? t.name with
  | none => simp
  | some l => simp

/-- A table has a difference if it is live and has changes. -/
theorem tableDiff?_eq_some_iff {s : DesiredSchema} {live : LiveSchema} {d : Dialect}
    {t : DesiredTable} {diff : TableDiff} :
    tableDiff? s live d t = some diff ↔
      ∃ l, live.table? t.name = some l ∧ (tableDiff s d t l).hasChanges = true ∧
        tableDiff s d t l = diff := by
  unfold tableDiff?
  cases live.table? t.name with
  | none => simp
  | some l => simp

/-! ## Values of enum types -/

/-- Adding names adds those that are not known yet. -/
theorem mem_addNew_iff (known names : List String) (v : String) :
    v ∈ addNew known names ↔ v ∈ known ∨ v ∈ names := by
  induction names generalizing known with
  | nil => simp [addNew]
  | cons name rest ih =>
    rw [addNew, ih, List.mem_cons]
    split
    · rename_i hknown
      have hmem : name ∈ known := List.contains_iff_mem.mp hknown
      constructor
      · rintro (h | h)
        · exact Or.inl h
        · exact Or.inr (Or.inr h)
      · rintro (h | rfl | h)
        · exact Or.inl h
        · exact Or.inl hmem
        · exact Or.inr h
    · rw [List.mem_append, List.mem_singleton, or_assoc]

/-- What is gathered from several lists is what some of them holds. -/
theorem mem_foldl_addNew_iff (pick : List String → List String) (lists : List (List String))
    (known : List String) (v : String) :
    v ∈ lists.foldl (fun known list => addNew known (pick list)) known ↔
      v ∈ known ∨ ∃ list ∈ lists, v ∈ pick list := by
  -- Each list is gathered on top of what the lists before it gave.
  induction lists generalizing known with
  | nil => simp
  | cons list rest ih =>
    rw [List.foldl_cons, ih, mem_addNew_iff]
    simp [or_assoc]

/-- The values to add are the declared ones that some live list lacks. -/
theorem mem_valuesAdded_iff (declared : List String) (lists : List (List String))
    (v : String) :
    v ∈ valuesAdded declared lists ↔ v ∈ declared ∧ ∃ list ∈ lists, v ∉ list := by
  rw [valuesAdded, mem_foldl_addNew_iff]
  constructor
  · rintro (h | ⟨list, hlist, h⟩)
    · simp at h
    · simp only [List.mem_filter, Bool.not_eq_true', List.contains_eq_mem,
        decide_eq_false_iff_not] at h
      exact ⟨h.1, list, hlist, h.2⟩
  · rintro ⟨hv, list, hlist, h⟩
    exact Or.inr ⟨list, hlist, by simp [hv, h]⟩

/-- The values to remove are those of a live list that are not declared. -/
theorem mem_valuesRemoved_iff (declared : List String) (lists : List (List String))
    (v : String) :
    v ∈ valuesRemoved declared lists ↔ v ∉ declared ∧ ∃ list ∈ lists, v ∈ list := by
  rw [valuesRemoved, mem_foldl_addNew_iff]
  constructor
  · rintro (h | ⟨list, hlist, h⟩)
    · simp at h
    · simp only [List.mem_filter, Bool.not_eq_true', List.contains_eq_mem,
        decide_eq_false_iff_not] at h
      exact ⟨h.2, list, hlist, h.1⟩
  · rintro ⟨hv, list, hlist, h⟩
    exact Or.inr ⟨list, hlist, by simp [hv, h]⟩

/-- An enum type has no difference if every live list holds just the declared values. -/
theorem enumDiff?_eq_none_iff (e : EnumType) (lists : List (List String)) :
    enumDiff? e lists = none ↔ ∀ list ∈ lists, ∀ v, v ∈ e.values ↔ v ∈ list := by
  have hnone : enumDiff? e lists = none ↔
      valuesAdded e.values lists = [] ∧ valuesRemoved e.values lists = [] := by
    unfold enumDiff?
    simp
  rw [hnone, List.eq_nil_iff_forall_not_mem, List.eq_nil_iff_forall_not_mem]
  simp only [mem_valuesAdded_iff, mem_valuesRemoved_iff]
  constructor
  · rintro ⟨hadded, hremoved⟩ list hlist v
    constructor
    · intro hv
      by_contra hmissing
      exact hadded v ⟨hv, list, hlist, hmissing⟩
    · intro hv
      by_contra hmissing
      exact hremoved v ⟨hmissing, list, hlist, hv⟩
  · intro h
    constructor
    · rintro v ⟨hv, list, hlist, hmissing⟩
      exact hmissing ((h list hlist v).mp hv)
    · rintro v ⟨hmissing, list, hlist, hv⟩
      exact hmissing ((h list hlist v).mpr hv)

/-- The values written out in the live columns of the fields of an enum type. -/
theorem mem_inlineValues_iff (s : DesiredSchema) (live : LiveSchema) (name : String)
    (values : List String) :
    values ∈ inlineValues s live name ↔
      ∃ t ∈ s.tables, ∃ l, live.table? t.name = some l ∧ ∃ f ∈ t.fields, f.dataType = name ∧
        ∃ c, l.column? f.name = some c ∧ enumValues? c.dataType = some values := by
  rw [inlineValues, List.mem_flatMap]
  refine exists_congr fun t => and_congr_right fun _ => ?_
  unfold inlineValuesIn
  cases live.table? t.name with
  | none => simp
  | some l =>
    simp only [List.mem_filterMap, List.mem_filter, beq_iff_eq, Option.some.injEq]
    constructor
    · rintro ⟨c, ⟨f, ⟨hf, htype⟩, hc⟩, hvalues⟩
      exact ⟨l, rfl, f, hf, htype, c, hc, hvalues⟩
    · rintro ⟨_, rfl, f, hf, htype, c, hc, hvalues⟩
      exact ⟨c, ⟨f, ⟨hf, htype⟩, hc⟩, hvalues⟩

/-! ## Indexes -/

/-- The indexes to create are those whose name no live index has. -/
theorem mem_indexesAdded_iff (s : DesiredSchema) (live : LiveSchema) (n : IndexName) :
    n ∈ indexesAdded s live ↔
      ∃ i ∈ s.indexes, (∀ j ∈ live.indexes, j.name ≠ i.directive.name) ∧
        n = ⟨i.directive.name, i.table⟩ := by
  simp only [indexesAdded, List.mem_map, List.mem_filter, Bool.not_eq_true',
    List.any_eq_false, beq_iff_eq]
  constructor
  · rintro ⟨i, ⟨hi, hnew⟩, rfl⟩
    exact ⟨i, hi, hnew, rfl⟩
  · rintro ⟨i, hi, hnew, rfl⟩
    exact ⟨i, ⟨hi, hnew⟩, rfl⟩

/-- An index is stale if its name is not declared, it backs no key and its table stays. -/
theorem isStale_iff (s : DesiredSchema) (live : LiveSchema) (j : LiveIndex) :
    isStale s live j = true ↔
      (∀ i ∈ s.indexes, i.directive.name ≠ j.name) ∧ impliedIndex s j = false ∧
        j.table ∉ tablesRemoved s live := by
  simp only [isStale, Bool.and_eq_true, Bool.not_eq_true', List.any_eq_false, beq_iff_eq,
    List.contains_eq_mem, decide_eq_false_iff_not, and_assoc]

/-- The indexes to drop are the stale ones. -/
theorem mem_indexesRemoved_iff (s : DesiredSchema) (live : LiveSchema) (n : IndexName) :
    n ∈ indexesRemoved s live ↔
      ∃ j ∈ live.indexes, isStale s live j = true ∧ n = ⟨j.name, j.table⟩ := by
  simp only [indexesRemoved, List.mem_map, List.mem_filter]
  constructor
  · rintro ⟨j, ⟨hj, hstale⟩, rfl⟩
    exact ⟨j, hj, hstale, rfl⟩
  · rintro ⟨j, hj, hstale, rfl⟩
    exact ⟨j, ⟨hj, hstale⟩, rfl⟩

/-- A live index that is no primary key is implied if it is unique over one column that
is unique or a primary key by itself. -/
theorem impliedIndex_iff (s : DesiredSchema) (j : LiveIndex) :
    impliedIndex s j = true ↔
      j.primary = true ∨
        (j.unique = true ∧ ∃ column, j.columns = [column] ∧
          ∃ t, s.table? j.table = some t ∧ ∃ f, t.field? column = some f ∧
            (f.unique = true ∨ t.isPrimary f = true)) := by
  unfold impliedIndex
  rw [Bool.or_eq_true]
  refine or_congr_right ?_
  split
  · rename_i column t hunique hcolumns htable
    rw [Option.any_eq_true]
    simp [hunique, hcolumns, htable]
  · rename_i hother
    simp only [Bool.false_eq_true, false_iff]
    rintro ⟨hunique, column, hcolumns, t, htable, _⟩
    exact hother column t hunique hcolumns htable

/-! ## Schemas -/

/-- A schema has changes unless its eight lists are empty. -/
theorem SchemaDiff.hasChanges_eq_false_iff (d : SchemaDiff) :
    d.hasChanges = false ↔
      (d.tablesAdded = [] ∧ d.tablesRemoved = [] ∧ d.tablesModified = []) ∧
        (d.enumsAdded = [] ∧ d.enumsRemoved = [] ∧ d.enumsModified = []) ∧
        d.indexesAdded = [] ∧ d.indexesRemoved = [] := by
  simp [SchemaDiff.hasChanges, and_assoc]

end SchemaDdl.Drift
