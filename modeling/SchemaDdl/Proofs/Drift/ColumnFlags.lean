/-
# Uniqueness and `NULL` on both sides

A renderer writes for a column whether it is unique and whether it accepts `NULL`, and a
comparison expects the same of the live column.  For `NULL` both always agree, however the
field came to be in the primary key.  For uniqueness they agree unless a unique field is the
primary key by itself: then the definition leaves the word out, and the comparison asks for it.

* `uniqueAgrees_iff` : when both sides agree on uniqueness;
* `nullability_agrees` : definitions, redefinitions and comparisons agree on `NULL`.
-/
import SchemaDdl.Command.Run
import SchemaDdl.Proofs.Ddl.ColumnClauses
import SchemaDdl.Proofs.Drift.Comparison

namespace SchemaDdl.Drift

/-! ## Changes of flags -/

/-- A change of uniqueness is reported exactly where the flags differ. -/
theorem exists_unique_mem_columnChanges_iff (s : DesiredSchema) (d : Dialect) (t : DesiredTable)
    (f : Field) (c : LiveColumn) :
    (∃ desired live, .unique desired live ∈ columnChanges s d t f c) ↔ f.unique ≠ c.unique := by
  simp [mem_columnChanges_iff, AttributeDiffers]

/-- A change of nullability is reported exactly where the flags differ. -/
theorem exists_nullable_mem_columnChanges_iff (s : DesiredSchema) (d : Dialect)
    (t : DesiredTable) (f : Field) (c : LiveColumn) :
    (∃ desired live, .nullable desired live ∈ columnChanges s d t f c) ↔
      acceptsNull t f ≠ c.nullable := by
  simp [mem_columnChanges_iff, AttributeDiffers]

variable (d : Dialect) (t : DesiredTable) (f : Field) (known : KnownEnums)

/-! ## Uniqueness -/

/-- A unique field is not the primary key of its table by itself. -/
def UniqueAgrees (t : DesiredTable) (f : Field) : Prop :=
  f.unique = true → t.isPrimary f = true → t.compositeKey? ≠ none

/-- The column of a field is marked as primary key if it is the key by itself. -/
theorem primary_column_eq_false_iff :
    (t.column d f).primary = false ↔ (t.isPrimary f = true → t.compositeKey? ≠ none) := by
  show (t.isPrimary f && t.compositeKey?.isNone) = false ↔ _
  rw [Bool.and_eq_false_imp, Option.isNone_eq_false_iff, Option.isSome_iff_ne_none]

/-- The definition of the column of a field states uniqueness for a unique field that is not
the primary key by itself. -/
theorem statesUnique_column_iff :
    StatesUnique f.name (d.profile.typeText known (t.column d f))
        (d.profile.columnText known (t.column d f)) ↔
      f.unique = true ∧ (t.isPrimary f = true → t.compositeKey? ≠ none) := by
  rw [← primary_column_eq_false_iff d t f]
  exact statesUnique_columnText_iff d known (t.column d f)

/-- **Uniqueness on both sides.**  The definition of a column states uniqueness for a unique
field that is not the primary key by itself.  This is what a comparison expects, and a column
that is reported as it was written counts as unchanged in its uniqueness, exactly where no
unique field is the primary key by itself. -/
theorem uniqueAgrees_iff :
    (StatesUnique f.name (d.profile.typeText known (t.column d f))
        (d.profile.columnText known (t.column d f)) ↔
      f.unique = true ∧ (t.isPrimary f = true → t.compositeKey? ≠ none)) ∧
    ((StatesUnique f.name (d.profile.typeText known (t.column d f))
        (d.profile.columnText known (t.column d f)) ↔ f.unique = true) ↔ UniqueAgrees t f) ∧
    ∀ (s : DesiredSchema) (c : LiveColumn),
      (c.unique = true ↔ StatesUnique f.name (d.profile.typeText known (t.column d f))
        (d.profile.columnText known (t.column d f))) →
      ((∃ desired live, .unique desired live ∈ columnChanges s d t f c) ↔
        ¬UniqueAgrees t f) := by
  have hwritten := statesUnique_column_iff d t f known
  have hagrees : (StatesUnique f.name (d.profile.typeText known (t.column d f))
      (d.profile.columnText known (t.column d f)) ↔ f.unique = true) ↔ UniqueAgrees t f := by
    rw [hwritten, and_iff_left_iff_imp]
    rfl
  refine ⟨hwritten, hagrees, ?_⟩
  intro s c hreported
  rw [exists_unique_mem_columnChanges_iff, ← hagrees, ← hreported, ne_eq, Bool.eq_iff_iff]
  exact not_congr iff_comm

/-- A table of badges whose code is its primary key and unique. -/
def badgesMetadata : Metadata where
  fields := [{ Field.new "Badge" "code" "BIGINT" with
    primary := true, unique := true, nullable := false }]
  tables := [⟨"Badge", "badges", none, none, []⟩]
  indexes := []
  enums := []
  embeddings := []

/-- The table of badges as it was created. -/
def badgesCatalog : LiveSchema where
  tables := [⟨"badges", [⟨"code", "bigint", none, false, true, false, none, false⟩]⟩]
  indexes := []
  enums := []

/-- A unique primary key is created without the word, and then reported to lack it. -/
theorem not_statesUnique_badgesMetadata :
    (¬ ∀ t ∈ badgesMetadata.schema.tables, ∀ f ∈ t.fields,
      (StatesUnique f.name (Dialect.postgres.profile.typeText [] (t.column .postgres f))
        (Dialect.postgres.profile.columnText [] (t.column .postgres f)) ↔ f.unique = true)) ∧
    badgesMetadata.render .postgres = .ok ("-- POSTGRES TABLE: badges --\n" ++
      "CREATE TABLE badges (\n  code BIGINT PRIMARY KEY NOT NULL\n);\n") ∧
    (compare badgesMetadata.schema badgesCatalog .postgres).tablesModified =
      [⟨"badges", [], [], [⟨"code", [.unique true false]⟩]⟩] := by
  refine ⟨?_, by decide +kernel, by decide +kernel⟩
  simp only [statesUnique_column_iff]
  decide +kernel

/-! ## `NULL` -/

/-- The column of a field excludes `NULL`, as primary key or otherwise, exactly if a comparison
expects it to. -/
theorem column_excludesNull_iff :
    ((t.column d f).primary = true ∨ (t.column d f).nullable = false) ↔
      acceptsNull t f = false := by
  show (t.isPrimary f && t.compositeKey?.isNone) = true ∨ (f.nullable && !t.isPrimary f) = false ↔
    (f.nullable && !t.isPrimary f) = false
  rw [or_iff_right_iff_imp]
  intro hkey
  simp [(Bool.and_eq_true_iff.mp hkey).1]

/-- **`NULL` on both sides.**  The definition of the column of a field excludes `NULL`, by `NOT
NULL` or as primary key, exactly if a comparison expects the column to; and so do the
statements that give an existing column this definition, in the MySQL family and in PostgreSQL.
A column that is reported as it was written counts as unchanged in this. -/
theorem nullability_agrees :
    (ExcludesNull f.name (d.profile.typeText known (t.column d f))
      (d.profile.columnText known (t.column d f)) ↔ acceptsNull t f = false) ∧
    (∀ family ∈ [Dialect.mysql, Dialect.mariadb], ∃ definition,
      family.profile.modifyColumn known t.name (t.column d f) =
        .ok ["ALTER TABLE " ++ t.name ++ " MODIFY COLUMN " ++ definition ++ ";"] ∧
      (ExcludesNull f.name (family.profile.typeText known (t.column d f)) definition ↔
        acceptsNull t f = false)) ∧
    (∃ statements,
      Profile.postgres.modifyColumn known t.name (t.column d f) = .ok statements ∧
      ((∃ statement ∈ statements, alters t.name f.name " SET NOT NULL;" statement = true) ↔
        acceptsNull t f = false) ∧
      ((∃ statement ∈ statements, alters t.name f.name " DROP NOT NULL;" statement = true) ↔
        acceptsNull t f = true)) ∧
    ∀ (s : DesiredSchema) (c : LiveColumn),
      (c.nullable = false ↔ ExcludesNull f.name (d.profile.typeText known (t.column d f))
        (d.profile.columnText known (t.column d f))) →
      ¬∃ desired live, .nullable desired live ∈ columnChanges s d t f c := by
  have hwritten : ExcludesNull f.name (d.profile.typeText known (t.column d f))
      (d.profile.columnText known (t.column d f)) ↔ acceptsNull t f = false :=
    (excludesNull_columnText_iff d known (t.column d f)).trans (column_excludesNull_iff d t f)
  refine ⟨hwritten, ?_, ?_, ?_⟩
  · intro family hfamily
    have hmysql : ∀ family ∈ [Dialect.mysql, Dialect.mariadb], family.isMysqlFamily = true := by
      decide
    exact excludesNull_modifyColumn_iff (hmysql family hfamily) known t.name (t.column d f)
  · obtain ⟨statements, hstatements, hsays⟩ := alters_modifyColumn_iff known t.name (t.column d f)
    exact ⟨statements, hstatements, hsays false, hsays true⟩
  · intro s c hreported
    rw [hwritten] at hreported
    rw [exists_nullable_mem_columnChanges_iff, ne_eq, not_not, eq_comm]
    exact Bool.eq_iff_iff.mpr (by simpa using not_congr hreported)

end SchemaDdl.Drift
