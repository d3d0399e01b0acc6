/-
# The types of columns on both sides

A renderer writes the type of a column and a comparison puts the type into a bucket;
each settles on its own whether the type is a declared enum type.  The comparison asks
for the declared type of a field, the renderer for the type after overrides:

* `TypeAgrees` : when this makes no difference;
* `typeAgrees_iff` : exactly then both have the same bucket, and a column that is
  reported with the type that was written is not taken for changed.
-/
import SchemaDdl.Ddl.Renderer
import SchemaDdl.Proofs.Drift.Comparison
import SchemaDdl.Proofs.Drift.TypeBucket

namespace SchemaDdl.Drift

/-! ## Written types -/

/-- The type that is written for the column of a field. -/
def renderedType (s : DesiredSchema) (d : Dialect) (t : DesiredTable) (f : Field) : String :=
  d.profile.typeText ((Renderer.ofDialect d).withEnums s.enums).known (t.column d f)

/-- Renderers know the declared enum types. -/
theorem isSome_values?_eq (s : DesiredSchema) (d : Dialect) (name : String) :
    (((Renderer.ofDialect d).withEnums s.enums).known.values? name).isSome =
      (s.enum? name).isSome := by
  have hknown : ((Renderer.ofDialect d).withEnums s.enums).known = s.enums.reverse :=
    List.append_nil _
  rw [hknown, KnownEnums.values?, Option.isSome_map, DesiredSchema.enum?, findEnum?, findEnum?,
    Bool.eq_iff_iff]
  simp

/-- In PostgreSQL the written type is in the bucket of the resolved type. -/
theorem typeBucket_renderedType_postgres (s : DesiredSchema) (t : DesiredTable) (f : Field) :
    typeBucket .postgres (renderedType s .postgres t f) =
      typeBucket .postgres (f.resolveType .postgres).dataType := by
  show typeBucket .postgres (Profile.postgresType (t.column .postgres f)) = _
  unfold Profile.postgresType
  split
  · exact typeBucket_getD_serialType? .postgres (f.resolveType .postgres).dataType
  · rfl

/-- In the MySQL family the written type is in the bucket of the resolved type, unless
this is a declared enum type. -/
theorem typeBucket_renderedType_mysqlFamily {d : Dialect} (hd : d.isMysqlFamily = true)
    (s : DesiredSchema) (t : DesiredTable) (f : Field) :
    typeBucket d (renderedType s d t f) =
      if (s.enum? (f.resolveType d).dataType).isSome then enumBucket
      else typeBucket d (f.resolveType d).dataType := by
  have hcolumn : (t.column d f).dataType = (f.resolveType d).dataType := rfl
  rw [renderedType, Dialect.typeText_of_isMysqlFamily hd, Profile.mysqlType, hcolumn,
    ← isSome_values?_eq s d]
  cases ((Renderer.ofDialect d).withEnums s.enums).known.values?
      (f.resolveType d).dataType with
  | none => exact typeBucket_getD_integerForSerial? d (f.resolveType d).dataType
  | some values =>
    show typeBucket d ("ENUM(" ++ Sql.quoteLiterals values ++ ")") = enumBucket
    rw [String.append_assoc]
    exact typeBucket_enumList hd _

/-! ## Agreement -/

/-- In the MySQL family the declared and the resolved type of a field both are declared
enum types, or neither is, or the resolved type is an enum type that is written out. -/
def TypeAgrees (s : DesiredSchema) (d : Dialect) (f : Field) : Prop :=
  d.isMysqlFamily = true →
    ((s.enum? f.dataType).isSome = (s.enum? (f.resolveType d).dataType).isSome ∨
      typeBucket d (f.resolveType d).dataType = enumBucket)

/-- The desired bucket is that of the written type exactly where the types agree. -/
theorem desiredBucket_eq_iff (s : DesiredSchema) (d : Dialect) (t : DesiredTable) (f : Field) :
    desiredBucket s d f = typeBucket d (renderedType s d t f) ↔ TypeAgrees s d f := by
  unfold desiredBucket TypeAgrees
  -- Enum types are written out in the MySQL family only.
  by_cases hd : d.isMysqlFamily = true
  · rw [typeBucket_renderedType_mysqlFamily hd, hd, Bool.true_and]
    cases (s.enum? f.dataType).isSome <;> cases (s.enum? (f.resolveType d).dataType).isSome <;>
      simp [eq_comm]
  · obtain rfl := Dialect.eq_postgres_of_not_isMysqlFamily hd
    rw [typeBucket_renderedType_postgres]
    simp [Dialect.isMysqlFamily]

/-- A change of the type is reported exactly where the buckets differ. -/
theorem exists_type_mem_columnChanges_iff (s : DesiredSchema) (d : Dialect)
    (t : DesiredTable) (f : Field) (c : LiveColumn) :
    (∃ desired live, .type desired live ∈ columnChanges s d t f c) ↔
      desiredBucket s d f ≠ liveBucket d c := by
  simp [mem_columnChanges_iff, AttributeDiffers]

/-- **Types on both sides.**  A comparison and a renderer put the type of a column into
one bucket, and a column that is reported with the type that was written counts as
unchanged in its type, exactly where the declared and the resolved type agree. -/
theorem typeAgrees_iff (s : DesiredSchema) (d : Dialect) (t : DesiredTable) (f : Field) :
    (desiredBucket s d f = typeBucket d (renderedType s d t f) ↔ TypeAgrees s d f) ∧
      ∀ c : LiveColumn, c.effectiveType = renderedType s d t f →
        ((∃ desired live, .type desired live ∈ columnChanges s d t f c) ↔
          ¬ TypeAgrees s d f) := by
  have hbuckets := desiredBucket_eq_iff s d t f
  refine ⟨hbuckets, ?_⟩
  intro c hreported
  rw [exists_type_mem_columnChanges_iff, liveBucket, hreported, ne_eq, hbuckets]

/-- A field of an enum type that is a text in MySQL. -/
def moodField : Field :=
  { Field.new "Person" "mood" "mood" with overrides := Overrides.empty.set .mysql "VARCHAR(9)" }

/-- The table of the field with the enum type. -/
def peopleSchema : DesiredSchema where
  tables := [⟨⟨"Person", "people", none, none, []⟩, [moodField]⟩]
  indexes := []
  enums := [⟨"mood", ["happy", "sad"]⟩]

/-- An override of an enum type is written but not compared. -/
theorem desiredBucket_ne_peopleSchema :
    ¬ ∀ t ∈ peopleSchema.tables, ∀ f ∈ t.fields,
      desiredBucket peopleSchema .mysql f =
        typeBucket .mysql (renderedType peopleSchema .mysql t f) := by
  decide +kernel

end SchemaDdl.Drift
