/-
# MySQL and MariaDB

MariaDB follows MySQL point by point.  What differs is the label in the first line of a table
and the words that drop an index:

* `alikeButTables_mariadb_mysql` : all else that the two settle and write is the same;
* `sameButLabels_render` : lists of statements are rendered alike but for the labels;
* `mariadb_alike_mysql` : they are also compared alike where no field has types of its own in
  one of the two.
-/
import SchemaDdl.Drift.Comparison
import SchemaDdl.Proofs.Ddl.LabelLine

namespace SchemaDdl

/-! ## What profiles settle and write -/

/-- Two profiles settle and write all alike but for their dialect, the text of a table and the
words that drop an index. -/
structure Profile.AlikeButTables (p q : Profile) : Prop where
  typeText : p.typeText = q.typeText
  primaryKeyClause : p.primaryKeyClause = q.primaryKeyClause
  autoIncrementClause : p.autoIncrementClause = q.autoIncrementClause
  defaultText : p.defaultText = q.defaultText
  columnComment : p.columnComment = q.columnComment
  columnText : p.columnText = q.columnText
  tableOptions : p.tableOptions = q.tableOptions
  tableTrailer : p.tableTrailer = q.tableTrailer
  methodPlacement : p.methodPlacement = q.methodPlacement
  createIndex : p.createIndex = q.createIndex
  createEnum : p.createEnum = q.createEnum
  addEnumValue : p.addEnumValue = q.addEnumValue
  modifyColumn : p.modifyColumn = q.modifyColumn
  alterTable : p.alterTable = q.alterTable
  enumsFirst : p.enumsFirst = q.enumsFirst

/-- MariaDB follows MySQL in all but tables and dropping indexes. -/
theorem alikeButTables_mariadb_mysql : Profile.mariadb.AlikeButTables Profile.mysql := by
  constructor <;> rfl

/-! ## Lists of statements -/

/-- The texts of MariaDB after the label lines are those of MySQL. -/
theorem Profile.bodyText_mariadb : Profile.mariadb.bodyText = Profile.mysql.bodyText := by
  funext known s
  cases s <;> rfl

namespace Renderer

/-- Statements with the given label in their label lines and a text each after these. -/
def labelled (label : String) (statements : List Statement) (bodies : List String) :
    List String :=
  statements.zipWith (fun s body => labelLine label s ++ body) bodies

/-- Two renderers have the same outcome for a list of statements but for the labels of tables:
both fail alike, or each statement adds its label line and after that the same in both, and
these are the two texts. -/
def SameButLabels (r r' : Renderer) (label label' : String) (statements : List Statement)
    (render : Renderer → List Statement → Renderer × Except Failure String) : Prop :=
  (∃ failure, (render r statements).2 = .error failure ∧
    (render r' statements).2 = .error failure) ∨
  ∃ bodies,
    (r.withEnums (declaredEnums statements)).Adds statements (labelled label statements bodies) ∧
    (r'.withEnums (declaredEnums statements)).Adds statements (labelled label' statements bodies) ∧
    (render r statements).2 = .ok (String.join (labelled label statements bodies)) ∧
    (render r' statements).2 = .ok (String.join (labelled label' statements bodies))

/-- Statements with a text each after their label lines add these lines and texts. -/
theorem adds_labelled {r : Renderer} {statements : List Statement} {bodies : List String}
    (h : List.Forall₂ (fun s body => r.profile.bodyText r.known s = .ok body) statements
      bodies) :
    r.Adds statements (labelled r.profile.tableLabel statements bodies) := by
  induction h with
  | nil => exact .nil
  | cons hs _ ih =>
    refine .cons ?_ ih
    rw [addition_eq_map_bodyText, hs]
    rfl

/-- A statement adds something if it has a text after its label line. -/
theorem exists_addition_eq_ok {r : Renderer} {s : Statement} {body : String}
    (h : r.profile.bodyText r.known s = .ok body) : ∃ text, r.addition s = .ok text := by
  rw [addition_eq_map_bodyText, h]
  exact ⟨_, rfl⟩

/-- A statement fails if there is no text to come after its label line. -/
theorem addition_eq_error_of_bodyText {r : Renderer} {s : Statement} {cause : Failure}
    (h : r.profile.bodyText r.known s = .error cause) : r.addition s = .error cause := by
  rw [addition_eq_map_bodyText, h]
  rfl

/-- Renderers that know the same enum types and agree on what comes after label lines have the
same outcomes but for the labels. -/
theorem sameButLabels_render (r r' : Renderer) (hknown : r'.known = r.known)
    (hbody : r'.profile.bodyText = r.profile.bodyText) (statements : List Statement) :
    SameButLabels r r' r.profile.tableLabel r'.profile.tableLabel statements render := by
  let start := r.withEnums (declaredEnums statements)
  let start' := r'.withEnums (declaredEnums statements)
  have hsame : ∀ s, start'.profile.bodyText start'.known s =
      start.profile.bodyText start.known s := by
    intro s
    show r'.profile.bodyText (r'.known.add _) s = r.profile.bodyText (r.known.add _) s
    rw [hknown, hbody]
  rcases forall₂_or_exists_first_error (start.profile.bodyText start.known) statements with
    ⟨bodies, hbodies⟩ | ⟨before, s, after, bodies, cause, hsplit, hbodies, hs⟩
  · have hadds : start.Adds statements (labelled r.profile.tableLabel statements bodies) :=
      adds_labelled hbodies
    have hadds' : start'.Adds statements (labelled r'.profile.tableLabel statements bodies) :=
      adds_labelled (hbodies.imp fun s body hs => (hsame s).trans hs)
    exact .inr ⟨bodies, hadds, hadds', snd_render_eq_ok_iff.mpr ⟨_, hadds, rfl⟩,
      snd_render_eq_ok_iff.mpr ⟨_, hadds', rfl⟩⟩
  · have hbefore : ∀ s' ∈ before, ∃ body, start.profile.bodyText start.known s' = .ok body :=
      fun _ hs' => exists_eq_ok_of_forall₂ hbodies hs'
    subst hsplit
    refine .inl ⟨.atStatement before.length cause, ?_, ?_⟩
    · refine snd_render_eq_error (fun s' hs' => ?_) (addition_eq_error_of_bodyText hs)
      obtain ⟨_, hbody'⟩ := hbefore s' hs'
      exact exists_addition_eq_ok hbody'
    · refine snd_render_eq_error (fun s' hs' => ?_)
        (addition_eq_error_of_bodyText ((hsame s).trans hs))
      obtain ⟨_, hbody'⟩ := hbefore s' hs'
      exact exists_addition_eq_ok ((hsame s').trans hbody')

end Renderer

namespace Drift

/-! ## Comparisons -/

/-- A field whose types for both dialects coincide is resolved alike. -/
theorem resolveType_mariadb {f : Field} (h : f.overrides.mysql = f.overrides.mariadb) :
    f.resolveType .mariadb = f.resolveType .mysql := by
  have hoverride : f.overrides.get? .mariadb = f.overrides.get? .mysql := h.symm
  unfold Field.resolveType
  rw [hoverride]
  rfl

/-- A column is compared alike if the types of its field coincide. -/
theorem columnChanges_mariadb {f : Field} (h : f.overrides.mysql = f.overrides.mariadb)
    (s : DesiredSchema) (t : DesiredTable) (c : LiveColumn) :
    columnChanges s .mariadb t f c = columnChanges s .mysql t f c := by
  have hresolved := resolveType_mariadb h
  have hdesired : desiredBucket s .mariadb f = desiredBucket s .mysql f := by
    unfold desiredBucket
    rw [hresolved]
    rfl
  have hsequence : sequenceBacked .mariadb f c = sequenceBacked .mysql f c := by
    unfold sequenceBacked
    rw [hresolved]
  have hlive : liveBucket .mariadb c = liveBucket .mysql c := rfl
  unfold columnChanges defaultChange
  rw [hdesired, hsequence, hlive]

/-- A table is compared alike if the types of each of its fields coincide. -/
theorem tableDiff_mariadb {t : DesiredTable}
    (h : ∀ f ∈ t.fields, f.overrides.mysql = f.overrides.mariadb) (s : DesiredSchema)
    (l : LiveTable) : tableDiff s .mariadb t l = tableDiff s .mysql t l := by
  have hmodified : t.fields.filterMap (columnDiff? s .mariadb t l) =
      t.fields.filterMap (columnDiff? s .mysql t l) := by
    refine List.filterMap_congr fun f hf => ?_
    unfold columnDiff?
    simp only [columnChanges_mariadb (h f hf)]
  unfold tableDiff
  rw [hmodified]

/-- Schemas are compared alike if the types of each field coincide. -/
theorem compare_mariadb {s : DesiredSchema}
    (h : ∀ t ∈ s.tables, ∀ f ∈ t.fields, f.overrides.mysql = f.overrides.mariadb)
    (live : LiveSchema) : compare s live .mariadb = compare s live .mysql := by
  have htables : s.tables.filterMap (tableDiff? s live .mariadb) =
      s.tables.filterMap (tableDiff? s live .mysql) := by
    refine List.filterMap_congr fun t ht => ?_
    unfold tableDiff?
    simp only [tableDiff_mariadb (h t ht)]
  have henums : declaredEnumDiff? s live .mariadb = declaredEnumDiff? s live .mysql := rfl
  have hadded : enumsAdded s live .mariadb = enumsAdded s live .mysql := rfl
  unfold compare
  rw [htables, henums, hadded]

end Drift

/-! ## Both dialects -/

/-- **MySQL and MariaDB.**  Both settle and write all alike but for tables and dropping
indexes.  With the same enum types known, both render a list of statements, or a schema, with
the same outcome but for the label of each table.  And both compare schemas alike in which no
field has types of its own for one of the two. -/
theorem mariadb_alike_mysql :
    Profile.mariadb.AlikeButTables Profile.mysql ∧
      (∀ (enums : List EnumType) (statements : List Statement),
        ∀ render ∈ [Renderer.render, Renderer.renderSchema],
          Renderer.SameButLabels ((Renderer.ofDialect .mysql).withEnums enums)
            ((Renderer.ofDialect .mariadb).withEnums enums) "MYSQL TABLE" "MARIADB TABLE"
            statements render) ∧
      ∀ (s : DesiredSchema) (live : LiveSchema),
        (∀ t ∈ s.tables, ∀ f ∈ t.fields, f.overrides.mysql = f.overrides.mariadb) →
          Drift.compare s live .mariadb = Drift.compare s live .mysql := by
  refine ⟨alikeButTables_mariadb_mysql, fun enums statements render hrender => ?_,
    fun s live h => Drift.compare_mariadb h live⟩
  have hrendered := Renderer.sameButLabels_render ((Renderer.ofDialect .mysql).withEnums enums)
    ((Renderer.ofDialect .mariadb).withEnums enums) rfl Profile.bodyText_mariadb statements
  rcases List.mem_pair.mp hrender with rfl | rfl
  · exact hrendered
  · -- Neither dialect has its enum types first, so a schema is rendered in order.
    exact hrendered

/-- Tickets with a state, an enum type that is written as a text in the MySQL family. -/
def ticketsSchema : DesiredSchema where
  tables := [⟨⟨"Ticket", "tickets", some "by state", none, []⟩,
    [{ Field.new "Ticket" "state" "state" with
        overrides := ⟨none, some "VARCHAR(9)", some "VARCHAR(9)"⟩ },
      Field.new "Ticket" "mood" "mood"]⟩]
  indexes := []
  enums := [⟨"state", ["open", "done"]⟩, ⟨"mood", ["calm"]⟩]

/-- Tickets without a mood. -/
def ticketsCatalog : LiveSchema where
  tables := [⟨"tickets", [⟨"state", "text", none, false, false, false, none, false⟩]⟩]
  indexes := []
  enums := []

/-- Both dialects report that a mood is missing and that the state has another type and
excludes nothing, and the table has the label of the dialect in its first line only. -/
theorem mariadb_alike_mysql_ticketsSchema :
    (∀ t ∈ ticketsSchema.tables, ∀ f ∈ t.fields, f.overrides.mysql = f.overrides.mariadb) ∧
      Drift.compare ticketsSchema ticketsCatalog .mariadb =
        Drift.compare ticketsSchema ticketsCatalog .mysql ∧
      (Drift.compare ticketsSchema ticketsCatalog .mysql).tablesModified =
        [⟨"tickets", ["mood"], [], [⟨"state", [.type "enum" "text", .nullable true false]⟩]⟩] ∧
      Renderer.SameButLabels ((Renderer.ofDialect .mysql).withEnums [])
        ((Renderer.ofDialect .mariadb).withEnums []) "MYSQL TABLE" "MARIADB TABLE"
        (ticketsSchema.statements .mysql) Renderer.renderSchema ∧
      (((Renderer.ofDialect .mariadb).withEnums []).renderSchema
        (ticketsSchema.statements .mysql)).2 = .ok ("-- MARIADB TABLE: tickets --\n" ++
          "-- by state\nCREATE TABLE tickets (\n  state VARCHAR(9),\n" ++
          "  mood ENUM('calm')\n) COMMENT='by state';\n") := by
  have hoverrides : ∀ t ∈ ticketsSchema.tables, ∀ f ∈ t.fields,
      f.overrides.mysql = f.overrides.mariadb := by
    decide
  obtain ⟨_, hrendered, hcompared⟩ := mariadb_alike_mysql
  exact ⟨hoverrides, hcompared ticketsSchema ticketsCatalog hoverrides, by decide +kernel,
    hrendered [] (ticketsSchema.statements .mysql) Renderer.renderSchema (by simp),
    by decide +kernel⟩

end SchemaDdl
