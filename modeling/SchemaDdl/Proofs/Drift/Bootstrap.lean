/-
# Migrating from an empty database

A schema reaches an empty database by its statements in a row or by the entries of a
migration.  The two are the same text, but for the blank line that parts enum types
from the rest:

* `compare_empty` : against an empty database all is added and nothing else changes;
* `entries_compare_empty_eq_render` : the entries make up the rendered text.
-/
import SchemaDdl.Command.Run
import SchemaDdl.Drift.Migration
import SchemaDdl.Proofs.Ddl.EnumPlacement
import SchemaDdl.Proofs.Ddl.WellFormed
import SchemaDdl.Proofs.Lookup
import SchemaDdl.Proofs.Traversal

namespace SchemaDdl.Drift

open Renderer

/-! ## The difference to an empty database -/

/-- Nothing is written out in the columns of an empty database. -/
theorem inlineValues_empty (s : DesiredSchema) (name : String) :
    inlineValues s .empty name = [] := by
  have hnone : inlineValuesIn .empty name = fun _ => [] := by
    funext t
    rfl
  rw [inlineValues, hnone]
  simp

/-- Against an empty database all is added, and nothing is removed or modified. -/
theorem compare_empty (s : DesiredSchema) (d : Dialect) :
    compare s .empty d =
      { tablesAdded := s.tables.map DesiredTable.name
        tablesRemoved := []
        tablesModified := []
        enumsAdded := if d.isMysqlFamily then [] else s.enums.map EnumType.name
        enumsRemoved := []
        enumsModified := []
        indexesAdded := s.indexes.map fun i => ⟨i.directive.name, i.table⟩
        indexesRemoved := [] } := by
  have htables : tablesAdded s .empty = s.tables.map DesiredTable.name :=
    List.filter_eq_self.mpr fun _ _ => rfl
  have hmodified : s.tables.filterMap (tableDiff? s .empty d) = [] :=
    List.filterMap_eq_nil_iff.mpr fun _ _ => rfl
  have henums : enumsAdded s .empty d =
      if d.isMysqlFamily then [] else s.enums.map EnumType.name := by
    unfold enumsAdded
    split
    · rfl
    · exact List.filter_eq_self.mpr fun _ _ => rfl
  have hvalues : s.enums.filterMap (declaredEnumDiff? s .empty d) = [] := by
    rw [List.filterMap_eq_nil_iff]
    intro e _
    show (if d.isMysqlFamily then enumDiff? e (inlineValues s .empty e.name) else none) = none
    rw [inlineValues_empty]
    split <;> rfl
  have hindexes : indexesAdded s .empty =
      s.indexes.map fun i => ⟨i.directive.name, i.table⟩ :=
    congrArg _ (List.filter_eq_self.mpr fun _ _ => rfl)
  unfold compare
  rw [htables, hmodified, henums, hvalues, hindexes]
  rfl

/-! ## The statements of a schema -/

/-- The statements that create the tables and then the indexes of a schema. -/
def tablesAndIndexes (s : DesiredSchema) (d : Dialect) : List Statement :=
  s.tables.map (fun t => .createTable (t.definition d)) ++
    s.indexes.map fun i => .createIndex i.definition

/-- The enum types of a schema come before its tables and indexes. -/
theorem statements_eq (s : DesiredSchema) (d : Dialect) :
    s.statements d = s.enums.map .enumType ++ tablesAndIndexes s d := by
  rw [DesiredSchema.statements, tablesAndIndexes, List.append_assoc]

/-- No table or index declares an enum type. -/
theorem isEnum_of_mem_tablesAndIndexes {s : DesiredSchema} {d : Dialect} {st : Statement}
    (h : st ∈ tablesAndIndexes s d) : st.isEnum = false := by
  rcases List.mem_append.mp h with htable | hindex
  · obtain ⟨t, _, rfl⟩ := List.mem_map.mp htable
    rfl
  · obtain ⟨i, _, rfl⟩ := List.mem_map.mp hindex
    rfl

/-- The statements of a schema declare the enum types of the schema. -/
theorem declaredEnums_statements (s : DesiredSchema) (d : Dialect) :
    declaredEnums (s.statements d) = s.enums := by
  have hnone : (tablesAndIndexes s d).filterMap Statement.enum? = [] := by
    rw [List.filterMap_eq_nil_iff]
    intro st hst
    have hother : st.enum?.isSome = false := isEnum_of_mem_tablesAndIndexes hst
    exact Option.not_isSome_iff_eq_none.mp (by simp [hother])
  rw [declaredEnums, statements_eq, List.filterMap_append, hnone, List.append_nil,
    List.filterMap_map]
  exact List.filterMap_some

/-- Each table and each index is written as one text that ends visibly. -/
theorem exists_statementTexts_of_mem (known : KnownEnums) {s : DesiredSchema} {d : Dialect}
    {st : Statement} (h : st ∈ tablesAndIndexes s d) :
    ∃ text, d.profile.statementTexts known st = .ok [text] ∧ Text.EndsNonblank text := by
  rcases List.mem_append.mp h with htable | hindex
  · obtain ⟨t, _, rfl⟩ := List.mem_map.mp htable
    obtain ⟨text, htext, hend⟩ := t.exists_createTable d known
    refine ⟨text, ?_, hend⟩
    rw [Profile.statementTexts, htext]
    rfl
  · obtain ⟨i, _, rfl⟩ := List.mem_map.mp hindex
    exact ⟨_, rfl, d.profile.endsNonblank_createIndex i.definition⟩

/-! ## The entries of the migration -/

/-- The entries that create the enum types of a schema, in dialects that have them. -/
def createEnumEntries (s : DesiredSchema) (d : Dialect) : List String :=
  s.enums.filterMap d.profile.createEnum

/-- Where enum types are added, each has an entry that creates it. -/
theorem map_enumAddedEntry (m : MigrationPlan)
    (henums : (m.schema.enums.map EnumType.name).Nodup) :
    ((compare m.schema .empty m.dialect).enumsAdded.filterMap m.schema.enum?).map
      m.enumAddedEntry = createEnumEntries m.schema m.dialect := by
  rw [compare_empty]
  unfold createEnumEntries MigrationPlan.enumAddedEntry
  cases m.dialect with
  | postgres =>
    have hfound : (m.schema.enums.map EnumType.name).filterMap m.schema.enum? = m.schema.enums :=
      filterMap_find?_map EnumType.name henums
    simp only [Dialect.isMysqlFamily, Bool.false_eq_true, if_false]
    rw [hfound, ← List.filterMap_eq_map]
    rfl
  | mysql => simp [Dialect.isMysqlFamily, Dialect.profile, Profile.mysql, Profile.common]
  | mariadb =>
    simp [Dialect.isMysqlFamily, Dialect.profile, Profile.mariadb, Profile.mysql, Profile.common]

/-- Each table that is added is created by its own definition. -/
theorem mapM_tableAddedEntry (m : MigrationPlan)
    (htables : (m.schema.tables.map DesiredTable.name).Nodup) :
    ((compare m.schema .empty m.dialect).tablesAdded.filterMap m.schema.table?).mapM
      m.tableAddedEntry =
    (m.schema.tables.map fun t => Statement.createTable (t.definition m.dialect)).mapM
      m.statementEntry := by
  have hfound : (m.schema.tables.map DesiredTable.name).filterMap m.schema.table? =
      m.schema.tables := filterMap_find?_map DesiredTable.name htables
  rw [compare_empty, List.mapM_map, hfound]
  rfl

/-- Each index that is added is created by its own definition. -/
theorem mapM_indexAddedEntry {m : MigrationPlan} (hemit : m.emitStatements = true)
    (hindexes : (m.schema.indexes.map fun i => (i.directive.name, i.table)).Nodup) :
    (compare m.schema .empty m.dialect).indexesAdded.mapM m.indexAddedEntry =
    (m.schema.indexes.map fun i => Statement.createIndex i.definition).mapM
      m.statementEntry := by
  rw [compare_empty, List.mapM_map, List.mapM_map]
  apply mapM_congr_of_mem
  intro i hi
  -- A migration looks up name and table one by one, and distinct are the pairs.
  have hfound : m.declaredIndex? ⟨i.directive.name, i.table⟩ = some i := by
    rw [← find?_key_of_mem (fun j : DesiredIndex => (j.directive.name, j.table)) hindexes hi]
    unfold MigrationPlan.declaredIndex?
    congr 1
    funext j
    rw [Bool.eq_iff_iff]
    simp
  rw [Function.comp, MigrationPlan.indexAddedEntry, hfound, hemit]
  rfl

/-- The entries of a migration from an empty database: one for each enum type where there
are enum types, and then one for each table and index. -/
theorem entries_compare_empty {m : MigrationPlan} (hemit : m.emitStatements = true)
    (htables : (m.schema.tables.map DesiredTable.name).Nodup)
    (henums : (m.schema.enums.map EnumType.name).Nodup)
    (hindexes : (m.schema.indexes.map fun i => (i.directive.name, i.table)).Nodup)
    {others : List String}
    (hothers : (tablesAndIndexes m.schema m.dialect).mapM m.statementEntry = .ok others) :
    m.entries (compare m.schema .empty m.dialect) =
      .ok (createEnumEntries m.schema m.dialect ++ others) := by
  obtain ⟨tables, indexes, htexts, hindexTexts, rfl⟩ := mapM_append_eq_ok_iff.mp hothers
  unfold MigrationPlan.entries
  rw [map_enumAddedEntry m henums, mapM_tableAddedEntry m htables,
    mapM_indexAddedEntry hemit hindexes, compare_empty, htexts, hindexTexts]
  simp [bind, Except.bind, pure, Except.pure]

/-! ## The rendered text -/

/-- The other statements of a schema are its tables and indexes. -/
theorem filter_not_isEnum_statements (s : DesiredSchema) (d : Dialect) :
    (s.statements d).filter (!·.isEnum) = tablesAndIndexes s d := by
  have henums : (s.enums.map Statement.enumType).filter (!·.isEnum) = [] := by
    rw [List.filter_eq_nil_iff]
    intro st hst
    obtain ⟨e, _, rfl⟩ := List.mem_map.mp hst
    simp [Statement.isEnum, Statement.enum?]
  have hothers : (tablesAndIndexes s d).filter (!·.isEnum) = tablesAndIndexes s d := by
    rw [List.filter_eq_self]
    intro st hst
    simp [isEnum_of_mem_tablesAndIndexes hst]
  rw [statements_eq, List.filter_append, henums, hothers, List.nil_append]

/-- Entries as one text, each with a newline after it.  In PostgreSQL a blank line parts
the entries of enum types from the others if there are both. -/
def scriptText (d : Dialect) (enums others : List String) : String :=
  terminated enums ++ (if d = .postgres ∧ enums ≠ [] ∧ others ≠ [] then "\n" else "") ++
    terminated others

/-- An opening is the entries of enum types, with the gap after them. -/
theorem schemaOpening_append_terminated {s : DesiredSchema} {d : Dialect} {others : List String}
    (hlength : others.length = (tablesAndIndexes s d).length) :
    schemaOpening d s.enums (tablesAndIndexes s d) ++ terminated others =
      scriptText d (createEnumEntries s d) others := by
  have hothers : tablesAndIndexes s d ≠ [] ↔ others ≠ [] := by
    rw [← List.length_pos_iff, ← List.length_pos_iff, hlength]
  have hgap : (d.profile.enumsFirst = true ∧ s.enums ≠ [] ∧ tablesAndIndexes s d ≠ []) ↔
      d = .postgres ∧ createEnumEntries s d ≠ [] ∧ others ≠ [] := by
    cases d with
    | postgres =>
      -- In PostgreSQL each enum type has an entry.
      have hentries : createEnumEntries s .postgres ≠ [] ↔ s.enums ≠ [] := by
        rw [createEnumEntries, Dialect.profile, filterMap_createEnum_postgres, ne_eq,
          List.map_eq_nil_iff]
      have hfirst : (Dialect.profile .postgres).enumsFirst = true := rfl
      simp only [hfirst, hentries, hothers, true_and]
    | mysql => exact ⟨fun h => absurd h.1 (by decide), fun h => absurd h.1 (by decide)⟩
    | mariadb => exact ⟨fun h => absurd h.1 (by decide), fun h => absurd h.1 (by decide)⟩
  unfold schemaOpening scriptText
  simp only [hgap]
  rfl

/-- What metadata asks for can be rendered.  The text is made of the entries of its enum
types and of those of its tables and indexes. -/
theorem exists_render_eq (m : Metadata) (d : Dialect) (emit : Bool) :
    ∃ others,
      (tablesAndIndexes m.schema d).mapM (MigrationPlan.statementEntry ⟨m.schema, d, emit⟩) =
        .ok others ∧
      m.render d = .ok (scriptText d (createEnumEntries m.schema d) others) := by
  let plan : MigrationPlan := ⟨m.schema, d, emit⟩
  obtain ⟨others, hothers, hlength, hwritten⟩ :=
    exists_entries (r := plan.renderer) fun s hs =>
      exists_statementTexts_of_mem plan.renderer.known (s := m.schema) (d := d) hs
  refine ⟨others, hothers, ?_⟩
  have hnumbered : ((m.schema.statements d).zipIdx.filter (!·.1.isEnum)).map Prod.fst =
      tablesAndIndexes m.schema d := by
    rw [map_fst_filter_zipIdx fun s => !s.isEnum, filter_not_isEnum_statements]
  -- A migration knows the enum types of its schema, as rendering does.
  have hrenderer : plan.renderer = (ofDialect d).withEnums m.schema.enums := rfl
  have hall := hwritten _ hnumbered (schemaOpening d m.schema.enums (tablesAndIndexes m.schema d))
  rw [hrenderer, schemaOpening_append_terminated hlength] at hall
  unfold Metadata.render
  rw [snd_renderSchema_eq, declaredEnums_statements, filter_not_isEnum_statements, hall]
  rfl

/-- **Bootstrap.**  If no two tables, no two enum types and no two indexes of a table have
one name, then the migration from an empty database can be written, and its entries make
up the rendered text. -/
theorem entries_compare_empty_eq_render (m : Metadata) (d : Dialect)
    (htables : (m.tables.map TableDirective.name).Nodup)
    (henums : (m.enums.map EnumType.name).Nodup)
    (hindexes : (m.schema.indexes.map fun i => (i.directive.name, i.table)).Nodup) :
    ∃ others,
      MigrationPlan.entries ⟨m.schema, d, true⟩ (compare m.schema .empty d) =
        .ok (createEnumEntries m.schema d ++ others) ∧
      m.render d = .ok (scriptText d (createEnumEntries m.schema d) others) := by
  have hnames : (m.schema.tables.map DesiredTable.name).Nodup := by
    have hmap : m.schema.tables.map DesiredTable.name = m.tables.map TableDirective.name := by
      unfold Metadata.schema
      rw [List.map_map]
      rfl
    exact hmap ▸ htables
  let plan : MigrationPlan := ⟨m.schema, d, true⟩
  obtain ⟨others, hothers, hrender⟩ := exists_render_eq m d true
  exact ⟨others, entries_compare_empty (m := plan) rfl hnames henums hindexes hothers, hrender⟩

/-- A table of notes, each of a kind from an enum type, that is searched by kind. -/
def notesMetadata : Metadata where
  fields := [
    { Field.new "Note" "id" "BIGINT" with
      primary := true, nullable := false, autoIncrement := true },
    { Field.new "Note" "kind" "note_kind" with
      nullable := false, comment := some "what it is for" }]
  tables := [⟨"Note", "notes", none, none, []⟩]
  indexes := [⟨"Note", "notes_kind", ["kind"], false, none, none⟩]
  enums := [⟨"note_kind", ["idea", "task"]⟩]
  embeddings := []

/-- The entries that create the notes make up the text that is rendered for them. -/
theorem entries_notesMetadata :
    (notesMetadata.tables.map TableDirective.name).Nodup ∧
      (notesMetadata.enums.map EnumType.name).Nodup ∧
      (notesMetadata.schema.indexes.map fun i => (i.directive.name, i.table)).Nodup ∧
      ∃ others,
        MigrationPlan.entries ⟨notesMetadata.schema, .postgres, true⟩
            (compare notesMetadata.schema .empty .postgres) =
          .ok (createEnumEntries notesMetadata.schema .postgres ++ others) ∧
        notesMetadata.render .postgres =
          .ok (scriptText .postgres (createEnumEntries notesMetadata.schema .postgres) others) := by
  have htables : (notesMetadata.tables.map TableDirective.name).Nodup := by decide
  have henums : (notesMetadata.enums.map EnumType.name).Nodup := by decide
  have hindexes :
      (notesMetadata.schema.indexes.map fun i => (i.directive.name, i.table)).Nodup := by decide
  exact ⟨htables, henums, hindexes,
    entries_compare_empty_eq_render notesMetadata .postgres htables henums hindexes⟩

end SchemaDdl.Drift
