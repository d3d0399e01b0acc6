/-
# Schemas in sync

When a desired and a live schema are in sync is said here without the passes of a
comparison: by names, attributes, values and keys.  The main statement is that a
comparison reports no change exactly then:

* `compare_hasChanges_eq_false_iff` : no changes if and only if in sync.

All names are taken to be distinct, since of several things of one name a comparison
sees the first only.
-/
import SchemaDdl.Proofs.Drift.Comparison

namespace SchemaDdl.Drift

/-! ## What it means to be in sync -/

/-- A live column has the attributes that a field asks for.  Where a sequence stands
behind the column there is no default to compare. -/
structure ColumnInSync (s : DesiredSchema) (d : Dialect) (t : DesiredTable) (f : Field)
    (c : LiveColumn) : Prop where
  type : desiredBucket s d f = typeBucket d c.effectiveType
  nullable : c.nullable = (f.nullable && !t.isPrimary f)
  primary : c.primary = t.isPrimary f
  unique : c.unique = f.unique
  default : sequenceBacked d f c = true ∨
    defaultForm (f.default.map DefaultValue.text) (desiredBucket s d f) =
      defaultForm c.default (typeBucket d c.effectiveType)

/-- A live table has the columns that a desired table asks for and no more. -/
structure TableInSync (s : DesiredSchema) (d : Dialect) (t : DesiredTable)
    (l : LiveTable) : Prop where
  names : ∀ name, name ∈ t.fields.map Field.name ↔ name ∈ l.columns.map LiveColumn.name
  columns : ∀ f ∈ t.fields, ∀ c ∈ l.columns, f.name = c.name → ColumnInSync s d t f c

/-- Two lists hold the same values, whatever their order. -/
def SameValues (a b : List String) : Prop :=
  ∀ v, v ∈ a ↔ v ∈ b

/-- The values are written out in a live column whose field is declared with the enum
type of the given name. -/
def WrittenInline (s : DesiredSchema) (live : LiveSchema) (name : String)
    (values : List String) : Prop :=
  ∃ t ∈ s.tables, ∃ l ∈ live.tables, l.name = t.name ∧
    ∃ f ∈ t.fields, f.dataType = name ∧
      ∃ c ∈ l.columns, c.name = f.name ∧ enumValues? c.dataType = some values

/-- The database holds just the values of a declared enum type: in an enum type of its
own or, in the MySQL family, in every column where they are written out. -/
def EnumInSync (s : DesiredSchema) (live : LiveSchema) (d : Dialect) (e : EnumType) : Prop :=
  (∃ l ∈ live.enums, l.name = e.name ∧ SameValues e.values l.values) ∨
    ((∀ l ∈ live.enums, l.name ≠ e.name) ∧ d.isMysqlFamily = true ∧
      ∀ values, WrittenInline s live e.name values → SameValues e.values values)

/-- An index stands behind a key: behind the primary key of its table, or behind a
single desired column that is unique or a primary key. -/
def BacksKey (s : DesiredSchema) (j : LiveIndex) : Prop :=
  j.primary = true ∨
    (j.unique = true ∧ ∃ t ∈ s.tables, t.name = j.table ∧
      ∃ f ∈ t.fields, j.columns = [f.name] ∧ (f.unique = true ∨ t.isPrimary f = true))

/-- A live schema is what a desired schema asks for.  Tables on the live side only are
out of sync by themselves, so that their indexes need no word of their own. -/
structure InSync (s : DesiredSchema) (live : LiveSchema) (d : Dialect) : Prop where
  tableNames : ∀ name,
    name ∈ s.tables.map DesiredTable.name ↔ name ∈ live.tables.map LiveTable.name
  tables : ∀ t ∈ s.tables, ∀ l ∈ live.tables, t.name = l.name → TableInSync s d t l
  liveEnums : ∀ l ∈ live.enums, l.name ∈ s.enums.map EnumType.name
  enums : ∀ e ∈ s.enums, EnumInSync s live d e
  indexes : ∀ i ∈ s.indexes, ∃ j ∈ live.indexes, j.name = i.directive.name
  liveIndexes : ∀ j ∈ live.indexes,
    (∃ i ∈ s.indexes, i.directive.name = j.name) ∨ BacksKey s j

/-! ## Names -/

/-- Two lists hold the same names exactly if neither holds a name that the other lacks. -/
theorem sameNames_iff {a b onlyA onlyB : List String}
    (hA : ∀ name, name ∈ onlyA ↔ name ∈ a ∧ name ∉ b)
    (hB : ∀ name, name ∈ onlyB ↔ name ∈ b ∧ name ∉ a) :
    onlyA = [] ∧ onlyB = [] ↔ ∀ name, name ∈ a ↔ name ∈ b := by
  rw [List.eq_nil_iff_forall_not_mem, List.eq_nil_iff_forall_not_mem]
  constructor
  · rintro ⟨hnoneA, hnoneB⟩ name
    constructor
    · intro hname
      by_contra hmissing
      exact hnoneA name ((hA name).mpr ⟨hname, hmissing⟩)
    · intro hname
      by_contra hmissing
      exact hnoneB name ((hB name).mpr ⟨hname, hmissing⟩)
  · intro h
    constructor
    · intro name hname
      obtain ⟨hin, hout⟩ := (hA name).mp hname
      exact hout ((h name).mp hin)
    · intro name hname
      obtain ⟨hin, hout⟩ := (hB name).mp hname
      exact hout ((h name).mpr hin)

/-! ## Columns and tables -/

/-- No attribute of a column changes exactly if the column is in sync. -/
theorem columnChanges_eq_nil_iff (s : DesiredSchema) (d : Dialect) (t : DesiredTable)
    (f : Field) (c : LiveColumn) :
    columnChanges s d t f c = [] ↔ ColumnInSync s d t f c := by
  simp only [columnChanges, List.append_eq_nil_iff, changeOf_eq_nil_iff,
    defaultChange_eq_nil_iff]
  constructor
  · rintro ⟨⟨⟨⟨htype, hnullable⟩, hprimary⟩, hunique⟩, hdefault⟩
    exact ⟨htype, hnullable.symm, hprimary.symm, hunique.symm, hdefault⟩
  · rintro ⟨htype, hnullable, hprimary, hunique, hdefault⟩
    exact ⟨⟨⟨⟨htype, hnullable.symm⟩, hprimary.symm⟩, hunique.symm⟩, hdefault⟩

/-- No column is modified exactly if the columns on both sides are in sync. -/
theorem modified_tableDiff_eq_nil_iff (s : DesiredSchema) (d : Dialect) (t : DesiredTable)
    {l : LiveTable} (hl : (l.columns.map LiveColumn.name).Nodup) :
    (tableDiff s d t l).modified = [] ↔
      ∀ f ∈ t.fields, ∀ c ∈ l.columns, f.name = c.name → ColumnInSync s d t f c := by
  have hnil : (tableDiff s d t l).modified = [] ↔
      ∀ f ∈ t.fields, columnDiff? s d t l f = none :=
    List.filterMap_eq_nil_iff
  rw [hnil]
  refine forall₂_congr fun f _ => ?_
  rw [columnDiff?_eq_none_iff]
  have hfound : ∀ c, l.column? f.name = some c ↔ c ∈ l.columns ∧ c.name = f.name :=
    find?_key_eq_some_iff LiveColumn.name hl f.name
  constructor
  · intro h c hc hname
    exact (columnChanges_eq_nil_iff s d t f c).mp (h c ((hfound c).mpr ⟨hc, hname.symm⟩))
  · intro h c hc
    obtain ⟨hmem, hname⟩ := (hfound c).mp hc
    exact (columnChanges_eq_nil_iff s d t f c).mpr (h c hmem hname.symm)

/-- A table has no changes exactly if it is in sync. -/
theorem tableDiff_hasChanges_eq_false_iff (s : DesiredSchema) (d : Dialect)
    (t : DesiredTable) {l : LiveTable} (hl : (l.columns.map LiveColumn.name).Nodup) :
    (tableDiff s d t l).hasChanges = false ↔ TableInSync s d t l := by
  have hnames := sameNames_iff (mem_added_tableDiff_iff s d t l)
    (mem_removed_tableDiff_iff s d t l)
  rw [TableDiff.hasChanges_eq_false_iff, ← and_assoc, hnames,
    modified_tableDiff_eq_nil_iff s d t hl]
  exact ⟨fun ⟨names, columns⟩ => ⟨names, columns⟩, fun h => ⟨h.names, h.columns⟩⟩

/-- No table is modified exactly if the tables on both sides are in sync. -/
theorem tablesModified_eq_nil_iff (s : DesiredSchema) {live : LiveSchema} (d : Dialect)
    (hlive : live.NamesDistinct) :
    s.tables.filterMap (tableDiff? s live d) = [] ↔
      ∀ t ∈ s.tables, ∀ l ∈ live.tables, t.name = l.name → TableInSync s d t l := by
  rw [List.filterMap_eq_nil_iff]
  refine forall₂_congr fun t _ => ?_
  rw [tableDiff?_eq_none_iff]
  have hfound : ∀ l, live.table? t.name = some l ↔ l ∈ live.tables ∧ l.name = t.name :=
    find?_key_eq_some_iff LiveTable.name hlive.tables t.name
  constructor
  · intro h l hl hname
    have hsame := h l ((hfound l).mpr ⟨hl, hname.symm⟩)
    exact (tableDiff_hasChanges_eq_false_iff s d t (hlive.columns l hl)).mp hsame
  · intro h l hl
    obtain ⟨hmem, hname⟩ := (hfound l).mp hl
    exact (tableDiff_hasChanges_eq_false_iff s d t (hlive.columns l hmem)).mpr
      (h l hmem hname.symm)

/-! ## Enum types -/

/-- The lists that are compared are those that are written out in live columns. -/
theorem mem_inlineValues_iff_writtenInline {live : LiveSchema} (hlive : live.NamesDistinct)
    (s : DesiredSchema) (name : String) (values : List String) :
    values ∈ inlineValues s live name ↔ WrittenInline s live name values := by
  rw [mem_inlineValues_iff]
  refine exists_congr fun t => and_congr_right fun _ => ?_
  constructor
  · rintro ⟨l, hl, f, hf, htype, c, hc, hvalues⟩
    obtain ⟨hlmem, hlname⟩ :=
      (find?_key_eq_some_iff LiveTable.name hlive.tables t.name l).mp hl
    obtain ⟨hcmem, hcname⟩ :=
      (find?_key_eq_some_iff LiveColumn.name (hlive.columns l hlmem) f.name c).mp hc
    exact ⟨l, hlmem, hlname, f, hf, htype, c, hcmem, hcname, hvalues⟩
  · rintro ⟨l, hlmem, hlname, f, hf, htype, c, hcmem, hcname, hvalues⟩
    have hl := (find?_key_eq_some_iff LiveTable.name hlive.tables t.name l).mpr
      ⟨hlmem, hlname⟩
    have hc := (find?_key_eq_some_iff LiveColumn.name (hlive.columns l hlmem) f.name c).mpr
      ⟨hcmem, hcname⟩
    exact ⟨l, hl, f, hf, htype, c, hc, hvalues⟩

/-- An enum type that the database has of its own is compared with that one. -/
theorem enumInSync_iff_of_live {live : LiveSchema} (hlive : live.NamesDistinct)
    (s : DesiredSchema) (d : Dialect) (e : EnumType) {l : EnumType}
    (hfound : live.enum? e.name = some l) :
    EnumInSync s live d e ↔ SameValues e.values l.values := by
  have hsome : ∀ l, live.enum? e.name = some l ↔ l ∈ live.enums ∧ l.name = e.name :=
    find?_key_eq_some_iff EnumType.name hlive.enums e.name
  obtain ⟨hl, hname⟩ := (hsome l).mp hfound
  constructor
  · rintro (⟨l', hl', hname', hsame⟩ | ⟨hmissing, _⟩)
    · have hfound' := (hsome l').mpr ⟨hl', hname'⟩
      rw [hfound] at hfound'
      rw [Option.some.inj hfound']
      exact hsame
    · exact absurd hname (hmissing l hl)
  · intro hsame
    exact Or.inl ⟨l, hl, hname, hsame⟩

/-- Any other enum type is in sync only in the MySQL family, where it is compared with
the values in the columns. -/
theorem enumInSync_iff_of_missing (s : DesiredSchema) {live : LiveSchema} (d : Dialect)
    (e : EnumType) (hfound : live.enum? e.name = none) :
    EnumInSync s live d e ↔
      d.isMysqlFamily = true ∧
        ∀ values, WrittenInline s live e.name values → SameValues e.values values := by
  have hmissing := (find?_key_eq_none_iff EnumType.name live.enums e.name).mp hfound
  have hall : ∀ l ∈ live.enums, l.name ≠ e.name := by
    intro l hl hname
    exact hmissing (hname ▸ List.mem_map_of_mem hl)
  constructor
  · rintro (⟨l, hl, hname, _⟩ | ⟨_, hsame⟩)
    · exact absurd hname (hall l hl)
    · exact hsame
  · intro hsame
    exact Or.inr ⟨hall, hsame⟩

/-- A declared enum type is neither created nor modified exactly if it is in sync. -/
theorem enumInSync_iff {live : LiveSchema} (hlive : live.NamesDistinct) (s : DesiredSchema)
    (d : Dialect) (e : EnumType) :
    EnumInSync s live d e ↔
      (d.isMysqlFamily = false → e.name ∈ live.enums.map EnumType.name) ∧
        declaredEnumDiff? s live d e = none := by
  have hnone : live.enum? e.name = none ↔ e.name ∉ live.enums.map EnumType.name :=
    find?_key_eq_none_iff EnumType.name live.enums e.name
  unfold declaredEnumDiff?
  -- An enum type of the database hides the values that are written out in columns.
  cases hfound : live.enum? e.name with
  | some l =>
    have hlisted : e.name ∈ live.enums.map EnumType.name := by
      by_contra hmissing
      rw [hnone.mpr hmissing] at hfound
      exact absurd hfound (Option.some_ne_none l).symm
    rw [enumInSync_iff_of_live hlive s d e hfound]
    simp only [enumDiff?_eq_none_iff, List.mem_singleton, forall_eq, hlisted, implies_true,
      true_and]
    exact Iff.rfl
  | none =>
    rw [enumInSync_iff_of_missing s d e hfound]
    have hmissing := hnone.mp hfound
    by_cases hd : d.isMysqlFamily
    · simp only [hd, if_true, enumDiff?_eq_none_iff,
        mem_inlineValues_iff_writtenInline hlive]
      simp [SameValues]
    · simp [hd, hmissing]

/-- No enum type is created or modified exactly if all declared ones are in sync. -/
theorem enumPasses_eq_nil_iff {live : LiveSchema} (hlive : live.NamesDistinct)
    (s : DesiredSchema) (d : Dialect) :
    enumsAdded s live d = [] ∧ s.enums.filterMap (declaredEnumDiff? s live d) = [] ↔
      ∀ e ∈ s.enums, EnumInSync s live d e := by
  rw [List.eq_nil_iff_forall_not_mem, List.filterMap_eq_nil_iff]
  simp only [mem_enumsAdded_iff, enumInSync_iff hlive]
  constructor
  · rintro ⟨hadded, hmodified⟩ e he
    refine ⟨fun hd => ?_, hmodified e he⟩
    by_contra hmissing
    exact hadded e.name ⟨hd, List.mem_map_of_mem he, hmissing⟩
  · intro h
    refine ⟨?_, fun e he => (h e he).2⟩
    rintro name ⟨hd, hdeclared, hmissing⟩
    obtain ⟨e, he, rfl⟩ := List.mem_map.mp hdeclared
    exact hmissing ((h e he).1 hd)

/-- No enum type is removed exactly if all live ones are declared. -/
theorem enumsRemoved_eq_nil_iff (s : DesiredSchema) (live : LiveSchema) :
    enumsRemoved s live = [] ↔ ∀ l ∈ live.enums, l.name ∈ s.enums.map EnumType.name := by
  rw [List.eq_nil_iff_forall_not_mem]
  simp only [mem_enumsRemoved_iff]
  constructor
  · intro h l hl
    by_contra hmissing
    exact h l.name ⟨List.mem_map_of_mem hl, hmissing⟩
  · rintro h name ⟨hlive, hmissing⟩
    obtain ⟨l, hl, rfl⟩ := List.mem_map.mp hlive
    exact hmissing (h l hl)

/-! ## Indexes -/

/-- An index is implied exactly if it stands behind a key. -/
theorem impliedIndex_iff_backsKey {s : DesiredSchema} (hs : s.NamesDistinct)
    (j : LiveIndex) : impliedIndex s j = true ↔ BacksKey s j := by
  rw [impliedIndex_iff]
  refine or_congr_right (and_congr_right fun _ => ?_)
  constructor
  · rintro ⟨column, hcolumns, t, ht, f, hf, hkey⟩
    obtain ⟨htmem, htname⟩ :=
      (find?_key_eq_some_iff DesiredTable.name hs.tables j.table t).mp ht
    obtain ⟨hfmem, rfl⟩ :=
      (find?_key_eq_some_iff Field.name (hs.fields t htmem) column f).mp hf
    exact ⟨t, htmem, htname, f, hfmem, hcolumns, hkey⟩
  · rintro ⟨t, htmem, htname, f, hfmem, hcolumns, hkey⟩
    have ht := (find?_key_eq_some_iff DesiredTable.name hs.tables j.table t).mpr
      ⟨htmem, htname⟩
    have hf := (find?_key_eq_some_iff Field.name (hs.fields t htmem) f.name f).mpr
      ⟨hfmem, rfl⟩
    exact ⟨f.name, hcolumns, t, ht, f, hf, hkey⟩

/-- No index is created exactly if all declared names are live. -/
theorem indexesAdded_eq_nil_iff (s : DesiredSchema) (live : LiveSchema) :
    indexesAdded s live = [] ↔
      ∀ i ∈ s.indexes, ∃ j ∈ live.indexes, j.name = i.directive.name := by
  rw [List.eq_nil_iff_forall_not_mem]
  simp only [mem_indexesAdded_iff]
  constructor
  · intro h i hi
    by_contra hmissing
    push Not at hmissing
    exact h ⟨i.directive.name, i.table⟩ ⟨i, hi, hmissing, rfl⟩
  · rintro h _ ⟨i, hi, hnew, rfl⟩
    obtain ⟨j, hj, hname⟩ := h i hi
    exact hnew j hj hname

/-- Where no table is removed, no index is dropped exactly if all live ones are declared
or stand behind a key. -/
theorem indexesRemoved_eq_nil_iff {s : DesiredSchema} (hs : s.NamesDistinct)
    {live : LiveSchema} (htables : tablesRemoved s live = []) :
    indexesRemoved s live = [] ↔
      ∀ j ∈ live.indexes, (∃ i ∈ s.indexes, i.directive.name = j.name) ∨ BacksKey s j := by
  -- As no table is removed, an index is stale by its name and its key alone.
  have hstale : ∀ j, isStale s live j = true ↔
      ¬ ((∃ i ∈ s.indexes, i.directive.name = j.name) ∨ BacksKey s j) := by
    intro j
    rw [isStale_iff, htables, ← Bool.not_eq_true, impliedIndex_iff_backsKey hs]
    push Not
    simp
  rw [List.eq_nil_iff_forall_not_mem]
  simp only [mem_indexesRemoved_iff]
  constructor
  · intro h j hj
    by_contra hnot
    exact h ⟨j.name, j.table⟩ ⟨j, hj, (hstale j).mpr hnot, rfl⟩
  · rintro h _ ⟨j, hj, hdropped, rfl⟩
    exact (hstale j).mp hdropped (h j hj)

/-! ## Schemas -/

/-- **Exactness.**  A comparison of schemas with distinct names reports no change if and
only if the two are in sync. -/
theorem compare_hasChanges_eq_false_iff {s : DesiredSchema} {live : LiveSchema}
    (hs : s.NamesDistinct) (hlive : live.NamesDistinct) (d : Dialect) :
    (compare s live d).hasChanges = false ↔ InSync s live d := by
  have hnames := sameNames_iff (mem_tablesAdded_iff s live) (mem_tablesRemoved_iff s live)
  have htables := tablesModified_eq_nil_iff s d hlive
  have henums := enumPasses_eq_nil_iff hlive s d
  have hliveEnums := enumsRemoved_eq_nil_iff s live
  have hindexes := indexesAdded_eq_nil_iff s live
  rw [SchemaDiff.hasChanges_eq_false_iff]
  constructor
  · rintro ⟨⟨hadded, hremoved, hmodified⟩, ⟨henumsAdded, henumsRemoved, henumsModified⟩,
      hindexesAdded, hindexesRemoved⟩
    exact {
      tableNames := hnames.mp ⟨hadded, hremoved⟩
      tables := htables.mp hmodified
      liveEnums := hliveEnums.mp henumsRemoved
      enums := henums.mp ⟨henumsAdded, henumsModified⟩
      indexes := hindexes.mp hindexesAdded
      liveIndexes := (indexesRemoved_eq_nil_iff hs hremoved).mp hindexesRemoved }
  · intro h
    obtain ⟨hadded, hremoved⟩ := hnames.mpr h.tableNames
    obtain ⟨henumsAdded, henumsModified⟩ := henums.mpr h.enums
    exact ⟨⟨hadded, hremoved, htables.mpr h.tables⟩,
      ⟨henumsAdded, hliveEnums.mpr h.liveEnums, henumsModified⟩,
      hindexes.mpr h.indexes, (indexesRemoved_eq_nil_iff hs hremoved).mpr h.liveIndexes⟩

/-- A table of users with a counted key, a unique column and an enum type. -/
def usersSchema : DesiredSchema where
  tables := [{
    directive := ⟨"User", "users", none, none, []⟩
    fields := [
      { Field.new "User" "id" "INTEGER" with
        primary := true, nullable := false, autoIncrement := true },
      { Field.new "User" "email" "VARCHAR(255)" with unique := true, nullable := false },
      { Field.new "User" "active" "BOOLEAN" with default := some (.literal "true") },
      Field.new "User" "mood" "mood"] }]
  indexes := [⟨"users", ⟨"User", "users_mood", ["mood"], false, none, none⟩⟩]
  enums := [⟨"mood", ["sad", "happy"]⟩]

/-- The table of users as a catalog of the MySQL family reports it. -/
def usersCatalog : LiveSchema where
  tables := [⟨"users", [
    ⟨"mood", "enum('happy','sad')", none, true, false, false, none, false⟩,
    ⟨"id", "int(11)", none, false, true, false, none, true⟩,
    ⟨"email", "varchar(255)", none, false, false, true, none, false⟩,
    ⟨"active", "tinyint(1)", none, true, false, false, some "1", false⟩]⟩]
  indexes := [⟨"PRIMARY", "users", ["id"], true, true⟩,
    ⟨"email", "users", ["email"], false, true⟩,
    ⟨"users_mood", "users", ["mood"], false, false⟩]
  enums := []

/-- A catalog may report columns and values in another order and in other words. -/
theorem inSync_usersSchema_usersCatalog :
    usersSchema.NamesDistinct ∧ usersCatalog.NamesDistinct ∧
      InSync usersSchema usersCatalog .mysql := by
  have hs : usersSchema.NamesDistinct := ⟨by decide, by decide, by decide⟩
  have hlive : usersCatalog.NamesDistinct := ⟨by decide, by decide, by decide⟩
  have hnone : (compare usersSchema usersCatalog .mysql).hasChanges = false := by
    decide +kernel
  exact ⟨hs, hlive, (compare_hasChanges_eq_false_iff hs hlive .mysql).mp hnone⟩

end SchemaDdl.Drift
