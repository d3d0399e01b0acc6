/-
# Schemas and their statements in order

Statements can be rendered as a schema or just in order.  Both fail for the same statement,
and where they do not fail they have the same lines, but for empty ones:

* `Profile.statementTexts_map_unit_congr` : no statement fails for the enum types it is
  written with;
* `snd_render_eq_error`, `snd_renderSchema_eq_error` : the first statement that fails, both
  ways;
* `snd_render_eq_ok`, `snd_renderSchema_eq_ok` : statements that can be written, both ways;
* `render_renderSchema_alike` : the one way against the other.
-/
import SchemaDdl.Proofs.Ddl.EnumPlacement
import SchemaDdl.Proofs.Text.Lines

namespace SchemaDdl

/-! ## Failures and known enum types -/

namespace Profile

variable {p : Profile} {known : KnownEnums} {s : Statement}

/-- Whether and why a table fails is settled by its constraints. -/
theorem createTable_map_unit (p : Profile) (known : KnownEnums) (t : Table) :
    ((p.createTable known t).map fun _ => ()) =
      ((writtenConstraints t).mapM Constraint.sql).map fun _ => () := by
  rw [createTable, tableLines]
  cases (writtenConstraints t).mapM Constraint.sql <;> rfl

/-- Whether and why a new column fails is settled by its reference. -/
theorem addColumn_map_unit (p : Profile) (known : KnownEnums) (table : String) (c : Column) :
    ((p.addColumn known table c).map fun _ => ()) =
      (c.foreignKey?.toList.mapM Constraint.sql).map fun _ => () := by
  rw [addColumn]
  cases c.foreignKey?.toList.mapM Constraint.sql <;> rfl

/-- Whether and why an alteration fails is settled by its operations. -/
theorem alterTable_map_unit (p : Profile) (known : KnownEnums) (a : Alteration) :
    ((p.alterTable known a).map fun _ => ()) =
      (a.operations.mapM (p.alterOperation known a.table)).map fun _ => () := by
  rw [alterTable]
  cases a.operations.mapM (p.alterOperation known a.table) <;> rfl

/-- Whether and why an operation fails does not depend on the enum types that are known. -/
theorem alterOperation_map_unit_congr (p : Profile) (known known' : KnownEnums)
    (table : String) (operation : AlterOperation) :
    ((p.alterOperation known table operation).map fun _ => ()) =
      (p.alterOperation known' table operation).map fun _ => () := by
  cases operation with
  | addColumn c =>
    rw [alterOperation, alterOperation, addColumn_map_unit, addColumn_map_unit]
  | dropColumn name => rfl
  | modifyColumn c =>
    rw [alterOperation, alterOperation, modifyColumn, modifyColumn]
    cases p.redefinition <;> rfl

/-- Whether and why a statement fails does not depend on the enum types that are known. -/
theorem statementTexts_map_unit_congr (p : Profile) (known known' : KnownEnums)
    (s : Statement) :
    ((p.statementTexts known s).map fun _ => ()) =
      (p.statementTexts known' s).map fun _ => () := by
  cases s with
  | createTable t =>
    have htable : ∀ known, ((p.statementTexts known (.createTable t)).map fun _ => ()) =
        (p.createTable known t).map fun _ => () := by
      intro known
      rw [statementTexts]
      cases p.createTable known t <;> rfl
    rw [htable, htable, createTable_map_unit, createTable_map_unit]
  | alterTable a =>
    rw [statementTexts, statementTexts, alterTable_map_unit, alterTable_map_unit]
    exact map_unit_mapM_congr fun operation _ =>
      p.alterOperation_map_unit_congr known known' a.table operation
  | column c => rfl
  | constraint c => rfl
  | createIndex i => rfl
  | enumType e => rfl
  | comment text => rfl

/-- A statement that fails does so for the same cause whichever enum types are known. -/
theorem statementTexts_eq_error_of_known {cause : Failure}
    (h : p.statementTexts known s = .error cause) (known' : KnownEnums) :
    p.statementTexts known' s = .error cause := by
  have hunit := p.statementTexts_map_unit_congr known' known s
  rw [h] at hunit
  cases htexts : p.statementTexts known' s with
  | error cause' =>
    rw [htexts] at hunit
    exact congrArg Except.error (Except.error.inj hunit)
  | ok texts =>
    rw [htexts] at hunit
    cases hunit

/-- A statement that can be written can be so whichever enum types are known. -/
theorem exists_statementTexts_eq_ok_of_known {texts : List String}
    (h : p.statementTexts known s = .ok texts) (known' : KnownEnums) :
    ∃ texts', p.statementTexts known' s = .ok texts' := by
  cases htexts : p.statementTexts known' s with
  | error cause =>
    rw [statementTexts_eq_error_of_known htexts known] at h
    cases h
  | ok texts' => exact ⟨texts', rfl⟩

end Profile

namespace Renderer

variable {d : Dialect} {r : Renderer} {s : Statement}

/-! ## Statements on their own -/

/-- A statement on its own is rendered as what it adds to a text, without the blank end. -/
theorem snd_renderStatement_eq (r : Renderer) (s : Statement) :
    (r.renderStatement s).2 = (r.addition s).map Text.trimRight := by
  rw [renderStatement, addition]
  cases r.reset.write s <;> rfl

/-- A statement that cannot be added where some enum types are known cannot be rendered where
they are not. -/
theorem snd_renderStatement_eq_error {enums : List EnumType} {cause : Failure}
    (h : (r.withEnums enums).addition s = .error cause) :
    (r.renderStatement s).2 = .error cause := by
  have htexts : r.profile.statementTexts r.known s = .error cause :=
    Profile.statementTexts_eq_error_of_known (addition_eq_error_iff.mp h) r.known
  rw [snd_renderStatement_eq, addition_eq_error_iff.mpr htexts]
  rfl

/-- A statement that can be added where some enum types are known can be rendered where they
are not. -/
theorem exists_snd_renderStatement_eq_ok {enums : List EnumType} {text : String}
    (h : (r.withEnums enums).addition s = .ok text) :
    ∃ text', (r.renderStatement s).2 = .ok text' := by
  obtain ⟨_, htexts, _⟩ := addition_eq_ok_iff.mp h
  obtain ⟨texts', htexts'⟩ : ∃ texts', r.profile.statementTexts r.known s = .ok texts' :=
    Profile.exists_statementTexts_eq_ok_of_known htexts r.known
  refine ⟨Text.trimRight (terminated texts'), ?_⟩
  rw [snd_renderStatement_eq, addition_eq_ok_iff.mpr ⟨texts', htexts', rfl⟩]
  rfl

/-- Statements that declare enum types do not fail. -/
theorem isEnum_eq_false_of_addition_eq_error {cause : Failure}
    (h : r.addition s = .error cause) : s.isEnum = false := by
  rw [addition_eq_error_iff] at h
  cases s with
  | enumType e => cases h
  | _ => rfl

/-! ## The first statement that fails -/

section Failing

variable {before after : List Statement} {cause : Failure}
  (hbefore : ∀ s' ∈ before, ∃ text,
    ((ofDialect d).withEnums (declaredEnums (before ++ s :: after))).addition s' = .ok text)
  (hs : ((ofDialect d).withEnums (declaredEnums (before ++ s :: after))).addition s =
    .error cause)

include hbefore hs

/-- In a schema, the first statement that fails is met after the enum types, and then after
those before it that declare none. -/
theorem snd_renderSchema_eq_error :
    ((ofDialect d).renderSchema (before ++ s :: after)).2 =
      .error (.atStatement before.length cause) := by
  have hnumbered : ∀ s' ∈ (before.zipIdx.filter (!·.1.isEnum)).map Prod.fst, ∃ text,
      ((ofDialect d).withEnums (declaredEnums (before ++ s :: after))).addition s' =
        .ok text := by
    intro s' hs'
    rw [map_fst_filter_zipIdx fun s => !s.isEnum] at hs'
    exact hbefore s' (List.mem_of_mem_filter hs')
  have hfilter : (before ++ s :: after).zipIdx.filter (!·.1.isEnum) =
      before.zipIdx.filter (!·.1.isEnum) ++
        (s, before.length) :: (after.zipIdx (before.length + 1)).filter (!·.1.isEnum) := by
    have henum : (!s.isEnum) = true := by
      rw [isEnum_eq_false_of_addition_eq_error hs]
      rfl
    rw [List.zipIdx_append, List.zipIdx_cons, Nat.zero_add, List.filter_append,
      List.filter_cons_of_pos (a := (s, before.length)) henum]
  rw [snd_renderSchema_eq, hfilter]
  exact snd_withOutput_writeNumbered_eq_error hnumbered hs before.length _ _

end Failing

/-! ## Lines -/

/-- The lines of texts, each with a newline after it, are those of one text after another. -/
theorem nonemptyLines_terminated_append (texts : List String) (rest : String) :
    Text.nonemptyLines (terminated texts ++ rest) =
      (texts.flatMap fun text => Text.nonemptyLines (text ++ "\n")) ++
        Text.nonemptyLines rest := by
  induction texts with
  | nil => simp
  | cons text texts ih =>
    rw [terminated_cons, String.append_assoc, Text.nonemptyLines_append_newline_append, ih,
      List.flatMap_cons, List.append_assoc]

/-- The lines of texts with a newline after each. -/
theorem nonemptyLines_terminated (texts : List String) :
    Text.nonemptyLines (terminated texts) =
      texts.flatMap fun text => Text.nonemptyLines (text ++ "\n") := by
  have hlines := nonemptyLines_terminated_append texts ""
  rwa [String.append_empty, Text.nonemptyLines_empty, List.append_nil] at hlines

/-- The blank line of an opening is empty. -/
theorem nonemptyLines_schemaOpening_append (enums : List EnumType) (others : List Statement)
    (rest : String) :
    Text.nonemptyLines (schemaOpening d enums others ++ rest) =
      ((enums.filterMap d.profile.createEnum).flatMap fun text =>
        Text.nonemptyLines (text ++ "\n")) ++ Text.nonemptyLines rest := by
  have hblank : Text.nonemptyLines ("\n" ++ rest) = Text.nonemptyLines rest := by
    have hcut := Text.nonemptyLines_append_newline_append "" rest
    rwa [Text.nonemptyLines_newline, String.empty_append, List.nil_append] at hcut
  rw [schemaOpening, String.append_assoc, nonemptyLines_terminated_append]
  split
  · rw [hblank]
  · rw [String.empty_append]

/-! ## Statements that can be written -/

section Writing

variable {statements : List Statement} {texts : Statement → List String}
  (h : ∀ s ∈ statements, d.profile.statementTexts
    ((ofDialect d).withEnums (declaredEnums statements)).known s = .ok (texts s))

include h

/-- In order, the texts of all statements follow one another. -/
theorem snd_render_eq_ok :
    ((ofDialect d).render statements).2 = .ok (terminated (statements.flatMap texts)) := by
  have hnumbered : ∀ s ∈ statements.zipIdx, d.profile.statementTexts
      ((ofDialect d).withEnums (declaredEnums statements)).known s.1 = .ok (texts s.1) :=
    fun s hs => h s.1 (List.fst_mem_of_mem_zipIdx hs)
  have hwritten := writeNumbered_eq_ok
    (r := (ofDialect d).withEnums (declaredEnums statements)) texts hnumbered
  rw [List.zipIdx_map_fst] at hwritten
  have hempty : ((ofDialect d).withEnums (declaredEnums statements)).output = "" := rfl
  rw [hempty, String.empty_append] at hwritten
  exact congrArg (fun result => (withOutput result).2) hwritten

/-- The enum types of a schema have the texts of the statements that declare them. -/
theorem filterMap_createEnum_eq_flatMap :
    (declaredEnums statements).filterMap d.profile.createEnum =
      (statements.filter (·.isEnum)).flatMap texts := by
  rw [filter_isEnum_eq_map, List.flatMap_map, List.filterMap_eq_flatMap_toList]
  refine List.flatMap_congr fun e he => ?_
  have hmem : Statement.enumType e ∈ statements := by
    have hfilter : Statement.enumType e ∈ statements.filter (·.isEnum) := by
      rw [filter_isEnum_eq_map]
      exact List.mem_map_of_mem he
    exact List.mem_of_mem_filter hfilter
  exact Except.ok.inj (h (.enumType e) hmem)

/-- In a schema, the texts of the statements that declare no enum types follow the opening. -/
theorem snd_renderSchema_eq_ok :
    ((ofDialect d).renderSchema statements).2 =
      .ok (schemaOpening d (declaredEnums statements) (statements.filter (!·.isEnum)) ++
        terminated ((statements.filter (!·.isEnum)).flatMap texts)) := by
  have hnumbered : ∀ s ∈ statements.zipIdx.filter (!·.1.isEnum), d.profile.statementTexts
      ((ofDialect d).withEnums (declaredEnums statements)).known s.1 = .ok (texts s.1) :=
    fun s hs => h s.1 (List.fst_mem_of_mem_zipIdx (List.mem_of_mem_filter hs))
  have hwritten := writeNumbered_eq_ok
    (r := { (ofDialect d).withEnums (declaredEnums statements) with
      output := schemaOpening d (declaredEnums statements) (statements.filter (!·.isEnum)) })
    texts hnumbered
  rw [map_fst_filter_zipIdx fun s => !s.isEnum] at hwritten
  rw [snd_renderSchema_eq, hwritten]
  rfl

/-- Both texts have the same lines, but for the groups of the schema. -/
theorem nonemptyLines_perm :
    (Text.nonemptyLines (terminated (statements.flatMap texts))).Perm
      (Text.nonemptyLines (schemaOpening d (declaredEnums statements)
          (statements.filter (!·.isEnum)) ++
        terminated ((statements.filter (!·.isEnum)).flatMap texts))) := by
  have hgroups : (statements.flatMap texts).Perm
      ((statements.filter (·.isEnum)).flatMap texts ++
        (statements.filter (!·.isEnum)).flatMap texts) := by
    rw [← List.flatMap_append]
    exact (List.filter_append_perm (·.isEnum) statements).symm.flatMap_right texts
  rw [nonemptyLines_schemaOpening_append, filterMap_createEnum_eq_flatMap h,
    nonemptyLines_terminated, nonemptyLines_terminated, ← List.flatMap_append]
  exact hgroups.flatMap_right _

end Writing

/-! ## Both ways -/

/-- **A schema and its statements in order.**  A schema is rendered if its statements are
rendered in order, and then both texts have the same lines, but for empty ones and for where
they stand.  Otherwise both fail for the first statement that cannot be rendered on its own,
with its place and for its cause. -/
theorem render_renderSchema_alike (d : Dialect) (statements : List Statement) :
    (∃ text text', ((ofDialect d).render statements).2 = .ok text ∧
      ((ofDialect d).renderSchema statements).2 = .ok text' ∧
      (Text.nonemptyLines text).Perm (Text.nonemptyLines text')) ∨
    ∃ before s after cause, statements = before ++ s :: after ∧
      (∀ s' ∈ before, ∃ text, ((ofDialect d).renderStatement s').2 = .ok text) ∧
      ((ofDialect d).renderStatement s).2 = .error cause ∧
      ((ofDialect d).render statements).2 = .error (.atStatement before.length cause) ∧
      ((ofDialect d).renderSchema statements).2 =
        .error (.atStatement before.length cause) := by
  let start := (ofDialect d).withEnums (declaredEnums statements)
  rcases forall₂_or_exists_first_error start.addition statements with
    ⟨additions, hadditions⟩ | ⟨before, s, after, additions, cause, hsplit, hadditions, hs⟩
  · left
    have hwritable : ∀ s ∈ statements, ∃ texts,
        d.profile.statementTexts start.known s = .ok texts := by
      intro s hmem
      obtain ⟨_, haddition⟩ := exists_eq_ok_of_forall₂ hadditions hmem
      obtain ⟨texts, htexts, _⟩ := addition_eq_ok_iff.mp haddition
      exact ⟨texts, htexts⟩
    choose! texts htexts using hwritable
    exact ⟨_, _, snd_render_eq_ok htexts, snd_renderSchema_eq_ok htexts,
      nonemptyLines_perm htexts⟩
  · right
    have hbefore : ∀ s' ∈ before, ∃ text, start.addition s' = .ok text :=
      fun _ hs' => exists_eq_ok_of_forall₂ hadditions hs'
    subst hsplit
    refine ⟨before, s, after, cause, rfl, ?_, snd_renderStatement_eq_error hs,
      snd_render_eq_error hbefore hs, snd_renderSchema_eq_error hbefore hs⟩
    intro s' hs'
    obtain ⟨_, haddition⟩ := hbefore s' hs'
    exact exists_snd_renderStatement_eq_ok haddition

/-- The place of a failure is that in the given list, also where an enum type that comes later
is rendered before. -/
example : ((ofDialect .postgres).renderSchema [.comment "people",
    .constraint (Constraint.primaryKey []), .enumType ⟨"mood", ["happy"]⟩]).2 =
      .error (.atStatement 1 (.noColumns .primaryKey)) := by
  decide +kernel

end Renderer

end SchemaDdl
