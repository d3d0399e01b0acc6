/-
# Where enum types are declared

A rendered schema does not depend on where its enum types are declared.  PostgreSQL has them
first, and the MySQL family knows all of them before it writes a column and has no
statements for them:

* `walk_congr_of_map_fst`, `walk_filter` : numbers of statements, and statements that change
  nothing;
* `snd_renderSchema_eq` : a schema by its enum types and its other statements;
* `renderSchema_enumPlacement` : schemas with the same of both.
-/
import SchemaDdl.Proofs.Ddl.FirstFailure
import SchemaDdl.Proofs.Ddl.Reuse

namespace SchemaDdl

/-! ## Walks over some of the statements -/

section Walk

variable {σ : Type} {step : σ → Statement → Except Failure σ}

/-- The numbers of statements show in the places of failures only. -/
theorem walk_congr_of_map_fst {numbered numbered' : List (Statement × Nat)}
    (h : numbered.map Prod.fst = numbered'.map Prod.fst) (state : σ) :
    (walk step state numbered).1 = (walk step state numbered').1 ∧
      (walk step state numbered).2.mapError Failure.rootCause =
        (walk step state numbered').2.mapError Failure.rootCause := by
  induction numbered generalizing numbered' state with
  | nil =>
    obtain rfl : numbered' = [] := List.map_eq_nil_iff.mp h.symm
    exact ⟨rfl, rfl⟩
  | cons s rest ih =>
    obtain ⟨s', rest', rfl, hs, hrest⟩ := List.map_eq_cons_iff.mp h.symm
    rw [walk, walk, hs]
    cases step state s.1 with
    | error cause => exact ⟨rfl, rfl⟩
    | ok next => exact ih hrest.symm next

/-- Statements that leave every state as it is can be left out. -/
theorem walk_filter (keep : Statement → Bool)
    (h : ∀ state s, keep s = false → step state s = .ok state)
    (numbered : List (Statement × Nat)) (state : σ) :
    walk step state (numbered.filter fun s => keep s.1) = walk step state numbered := by
  induction numbered generalizing state with
  | nil => rfl
  | cons s rest ih =>
    by_cases hkeep : keep s.1
    · rw [List.filter_cons_of_pos (by simpa using hkeep), walk, walk]
      cases step state s.1 with
      | error cause => rfl
      | ok next => exact ih next
    · rw [Bool.not_eq_true] at hkeep
      rw [List.filter_cons_of_neg (by simp [hkeep]), walk, h state s.1 hkeep]
      exact ih state

end Walk

/-! ## Enum types among other statements -/

/-- A statement that declares an enum type is the statement of this type. -/
theorem Statement.enum?_eq_some_iff {s : Statement} {e : EnumType} :
    s.enum? = some e ↔ s = .enumType e := by
  cases s <;> simp [enum?]

/-- The statements that declare enum types are those of the declared enum types. -/
theorem filter_isEnum_eq_map (statements : List Statement) :
    statements.filter (·.isEnum) = (declaredEnums statements).map .enumType := by
  unfold declaredEnums
  induction statements with
  | nil => rfl
  | cons s rest ih =>
    cases henum : s.enum? with
    | none =>
      rw [List.filter_cons_of_neg (by simp [Statement.isEnum, henum]),
        List.filterMap_cons_none henum, ih]
    | some e =>
      rw [List.filter_cons_of_pos (by simp [Statement.isEnum, henum]),
        List.filterMap_cons_some henum, List.map_cons, ih, Statement.enum?_eq_some_iff.mp henum]

/-- Lists with the same statements for enum types declare the same. -/
theorem declaredEnums_congr {statements statements' : List Statement}
    (h : statements.filter (·.isEnum) = statements'.filter (·.isEnum)) :
    declaredEnums statements = declaredEnums statements' := by
  rw [filter_isEnum_eq_map, filter_isEnum_eq_map] at h
  exact List.map_injective_iff.mpr (fun _ _ heq => Statement.enumType.inj heq) h

namespace Renderer

/-! ## A schema as two groups -/

/-- The text before the statements that declare no enum types: the enum types, in dialects
that have statements for them, and a blank line if these come first and neither group is
empty. -/
def schemaOpening (d : Dialect) (enums : List EnumType) (others : List Statement) : String :=
  terminated (enums.filterMap d.profile.createEnum) ++
    if d.profile.enumsFirst = true ∧ enums ≠ [] ∧ others ≠ [] then "\n" else ""

/-- Where there are no statements for enum types, the other statements can be written
alone. -/
theorem writeNumbered_filter_not_isEnum {r : Renderer} (h : ∀ e, r.profile.createEnum e = none)
    (numbered : List (Statement × Nat)) :
    r.writeNumbered (numbered.filter (!·.1.isEnum)) = r.writeNumbered numbered := by
  rw [writeNumbered_eq, writeNumbered_eq, walk_filter fun s => !s.isEnum]
  intro output s hs
  obtain ⟨e, he⟩ : ∃ e, s.enum? = some e :=
    Option.isSome_iff_exists.mp (by simpa [Statement.isEnum] using hs)
  have htexts : r.profile.statementTexts r.known s = .ok [] := by
    rw [Statement.enum?_eq_some_iff.mp he, Profile.statementTexts, h]
    rfl
  rw [appendTexts, htexts]
  simp [Except.map]

/-- A dialect that does not have enum types first has no statements for them. -/
theorem createEnum_eq_none {d : Dialect} (h : d.profile.enumsFirst = false) (e : EnumType) :
    d.profile.createEnum e = none := by
  cases d with
  | postgres => simp [Dialect.profile, Profile.postgres] at h
  | mysql => rfl
  | mariadb => rfl

/-- Without statements for enum types nothing stands before the others. -/
theorem schemaOpening_eq_empty {d : Dialect} (h : d.profile.enumsFirst = false)
    (enums : List EnumType) (others : List Statement) : schemaOpening d enums others = "" := by
  have hnone : enums.filterMap d.profile.createEnum = [] :=
    List.filterMap_eq_nil_iff.mpr fun e _ => createEnum_eq_none h e
  simp [schemaOpening, hnone, h]

/-- With the enum types first, the other statements are written after the opening. -/
theorem snd_renderEnumsFirst_eq {d : Dialect} (h : d.profile.enumsFirst = true)
    (statements : List Statement) :
    ((ofDialect d).renderEnumsFirst statements).2 =
      (withOutput ({ (ofDialect d).withEnums (declaredEnums statements) with
          output := schemaOpening d (declaredEnums statements) (statements.filter (!·.isEnum))
        }.writeNumbered (statements.zipIdx.filter (!·.1.isEnum)))).2 := by
  let start := (ofDialect d).withEnums (declaredEnums statements)
  have henums : (statements.zipIdx.filter (·.1.isEnum)).map Prod.fst =
      (declaredEnums statements).map .enumType := by
    rw [map_fst_filter_zipIdx, filter_isEnum_eq_map]
  have hothers : (statements.zipIdx.filter (!·.1.isEnum)).map Prod.fst =
      statements.filter (!·.isEnum) := map_fst_filter_zipIdx (fun s => !s.isEnum) statements
  have hfirst : ((ofDialect d).reset.withEnums (declaredEnums statements)).writeNumbered
      (statements.zipIdx.filter (·.1.isEnum)) =
        ({ start with output := "" ++ terminated ((declaredEnums statements).filterMap
          d.profile.createEnum) }, .ok ()) := writeNumbered_enumTypes (r := start) henums
  -- The gap asks for the numbered statements, the opening for the statements themselves.
  have hnoEnums : (statements.zipIdx.filter (·.1.isEnum)).isEmpty =
      (declaredEnums statements).isEmpty := by
    rw [← List.isEmpty_map (f := Prod.fst), henums, List.isEmpty_map]
  have hnoOthers : (statements.zipIdx.filter (!·.1.isEnum)).isEmpty =
      (statements.filter (!·.isEnum)).isEmpty := by
    rw [← List.isEmpty_map (f := Prod.fst), hothers]
  have hgap : (if (declaredEnums statements).isEmpty || (statements.filter (!·.isEnum)).isEmpty
      then "" else "\n") =
        if d.profile.enumsFirst = true ∧ declaredEnums statements ≠ [] ∧
          statements.filter (!·.isEnum) ≠ [] then "\n" else "" := by
    rw [h]
    cases declaredEnums statements <;> cases statements.filter (!·.isEnum) <;> simp
  unfold renderEnumsFirst schemaOpening
  dsimp only
  rw [hfirst, hnoEnums, hnoOthers, hgap, String.empty_append]

/-- **A schema as two groups.**  A schema is rendered as its enum types, and then its other
statements by a renderer that knows all of its enum types. -/
theorem snd_renderSchema_eq (d : Dialect) (statements : List Statement) :
    ((ofDialect d).renderSchema statements).2 =
      (withOutput ({ (ofDialect d).withEnums (declaredEnums statements) with
          output := schemaOpening d (declaredEnums statements) (statements.filter (!·.isEnum))
        }.writeNumbered (statements.zipIdx.filter (!·.1.isEnum)))).2 := by
  have hprofile : (ofDialect d).profile = d.profile := rfl
  rw [renderSchema, hprofile]
  cases hfirst : d.profile.enumsFirst with
  | true =>
    rw [if_pos rfl]
    exact snd_renderEnumsFirst_eq hfirst statements
  | false =>
    have hwritten := writeNumbered_filter_not_isEnum
      (r := (ofDialect d).withEnums (declaredEnums statements))
      (fun e => createEnum_eq_none hfirst e) statements.zipIdx
    rw [if_neg (by simp), schemaOpening_eq_empty hfirst]
    exact congrArg (fun result => (withOutput result).2) hwritten.symm

/-! ## Placement -/

/-- What is written of the same statements differs in the places of failures only. -/
theorem snd_withOutput_writeNumbered_congr_of_map_fst (r : Renderer)
    {numbered numbered' : List (Statement × Nat)}
    (h : numbered.map Prod.fst = numbered'.map Prod.fst) :
    (withOutput (r.writeNumbered numbered)).2.mapError Failure.rootCause =
      (withOutput (r.writeNumbered numbered')).2.mapError Failure.rootCause := by
  have hmap : ∀ (result : Except Failure Unit) (text : String),
      (result.map fun _ => text).mapError Failure.rootCause =
        (result.mapError Failure.rootCause).map fun _ => text := by
    intro result text
    cases result <;> rfl
  have hsame : (r.writeNumbered numbered).1 = (r.writeNumbered numbered').1 ∧
      (r.writeNumbered numbered).2.mapError Failure.rootCause =
        (r.writeNumbered numbered').2.mapError Failure.rootCause := walk_congr_of_map_fst h r
  rw [withOutput, withOutput, hmap, hmap, hsame.1, hsame.2]

/-- PostgreSQL has a statement for each enum type. -/
theorem filterMap_createEnum_postgres (enums : List EnumType) :
    enums.filterMap Profile.postgres.createEnum = enums.map fun e =>
      "CREATE TYPE " ++ e.name ++ " AS ENUM (" ++ Sql.quoteLiterals e.values ++ ");" := by
  rw [← List.filterMap_eq_map]
  rfl

/-- The opening in PostgreSQL. -/
theorem schemaOpening_postgres (enums : List EnumType) (others : List Statement) :
    schemaOpening .postgres enums others =
      terminated (enums.map fun e =>
        "CREATE TYPE " ++ e.name ++ " AS ENUM (" ++ Sql.quoteLiterals e.values ++ ");") ++
        if enums ≠ [] ∧ others ≠ [] then "\n" else "" := by
  have hfirst : Profile.postgres.enumsFirst = true := rfl
  unfold schemaOpening Dialect.profile
  simp only [filterMap_createEnum_postgres, hfirst, true_and]

/-- **Placement of enum types.**  Schemas with the same statements for enum types and the
same other statements are rendered alike, or fail for the same cause.  In PostgreSQL a
rendered schema has the statements that create its enum types first and then what the other
statements add, with a blank line between both groups exactly if neither is empty. -/
theorem renderSchema_enumPlacement :
    (∀ (d : Dialect) (statements statements' : List Statement),
      statements.filter (·.isEnum) = statements'.filter (·.isEnum) →
      statements.filter (!·.isEnum) = statements'.filter (!·.isEnum) →
      ((ofDialect d).renderSchema statements).2.mapError Failure.rootCause =
        ((ofDialect d).renderSchema statements').2.mapError Failure.rootCause) ∧
      ∀ (statements : List Statement) (text : String),
        ((ofDialect .postgres).renderSchema statements).2 = .ok text ↔
          ∃ texts, ((ofDialect .postgres).withEnums (declaredEnums statements)).Adds
              (statements.filter (!·.isEnum)) texts ∧
            text = terminated ((declaredEnums statements).map fun e =>
                "CREATE TYPE " ++ e.name ++ " AS ENUM (" ++ Sql.quoteLiterals e.values ++ ");") ++
              (if declaredEnums statements ≠ [] ∧ statements.filter (!·.isEnum) ≠ [] then "\n"
                else "") ++ String.join texts := by
  refine ⟨fun d statements statements' henums hothers => ?_, fun statements text => ?_⟩
  · rw [snd_renderSchema_eq, snd_renderSchema_eq, declaredEnums_congr henums, hothers]
    apply snd_withOutput_writeNumbered_congr_of_map_fst
    have hnumbered := map_fst_filter_zipIdx fun s => !s.isEnum
    rw [hnumbered, hnumbered, hothers]
  · have hnumbered := map_fst_filter_zipIdx (fun s => !s.isEnum) statements
    rw [snd_renderSchema_eq, snd_withOutput_writeNumbered_eq_ok_iff, schemaOpening_postgres,
      hnumbered]

/-! ## An enum type that is declared twice -/

/-- A table before the enum type of its column, and this in two versions. -/
def moodsLast : List Statement :=
  [.createTable moodTable, .enumType ⟨"mood", ["happy"]⟩, .enumType ⟨"mood", ["happy", "sad"]⟩]

/-- The same table between both versions. -/
def moodsAround : List Statement :=
  [.enumType ⟨"mood", ["happy"]⟩, .createTable moodTable, .enumType ⟨"mood", ["happy", "sad"]⟩]

/-- The latest version counts in MySQL, wherever the table stands. -/
theorem renderSchema_moodsLast :
    moodsLast.filter (·.isEnum) = moodsAround.filter (·.isEnum) ∧
      moodsLast.filter (!·.isEnum) = moodsAround.filter (!·.isEnum) ∧
      ((ofDialect .mysql).renderSchema moodsLast).2.mapError Failure.rootCause =
        ((ofDialect .mysql).renderSchema moodsAround).2.mapError Failure.rootCause ∧
      ((ofDialect .mysql).renderSchema moodsLast).2 = .ok ("-- MYSQL TABLE: people --\n" ++
        "CREATE TABLE people (\n  mood ENUM('happy', 'sad')\n);\n") := by
  have henums : moodsLast.filter (·.isEnum) = moodsAround.filter (·.isEnum) := by decide
  have hothers : moodsLast.filter (!·.isEnum) = moodsAround.filter (!·.isEnum) := by decide
  exact ⟨henums, hothers, renderSchema_enumPlacement.1 .mysql moodsLast moodsAround henums hothers,
    by decide +kernel⟩

end Renderer

end SchemaDdl
