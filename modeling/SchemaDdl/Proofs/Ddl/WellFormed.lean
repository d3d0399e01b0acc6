/-
# Well-formed constraints

A constraint can be written exactly if it is well-formed, and a table can be created
if the constraints that it declares are.  The tables that metadata asks for are among
these:

* `Constraint.exists_sql_iff` : a constraint is written if and only if it is well-formed;
* `mapM_sql_foreignKeys` : the references of columns are always written;
* `Profile.tableLines_eq_map` : the lines of a table, unless a declared constraint fails;
* `Profile.exists_createTable` : a table with well-formed constraints is written;
* `Profile.exists_alterTable` : every alteration is written where columns can be redefined;
* `DesiredTable.wellFormed_of_mem_constraints` : metadata asks for such tables only.
-/
import SchemaDdl.Ddl.Clause
import SchemaDdl.Entity.Statements
import SchemaDdl.Proofs.Text.Ending
import SchemaDdl.Proofs.Traversal

namespace SchemaDdl

/-! ## Constraints -/

/-- A constraint has what its kind needs: a key has columns, a foreign key a reference
as well, and a check an expression. -/
structure Constraint.WellFormed (c : Constraint) : Prop where
  columns : c.kind ≠ .check → c.columns ≠ []
  reference : c.kind = .foreignKey → c.reference ≠ none
  expression : c.kind = .check → c.expression ≠ none

/-- What a constraint says can be written if it has its reference or its expression. -/
theorem Constraint.exists_body_iff (c : Constraint) :
    (∃ text, c.body = .ok text) ↔
      (c.kind = .foreignKey → c.reference ≠ none) ∧ (c.kind = .check → c.expression ≠ none) := by
  unfold Constraint.body
  cases hkind : c.kind with
  | primaryKey => simp
  | unique => simp
  | foreignKey => cases c.reference <;> simp
  | check => cases c.expression <;> simp

/-- A constraint can be written exactly if it is well-formed. -/
theorem Constraint.exists_sql_iff (c : Constraint) :
    (∃ text, c.sql = .ok text) ↔ c.WellFormed := by
  unfold Constraint.sql
  by_cases hempty : c.kind ≠ .check ∧ c.columns = []
  · rw [if_pos hempty]
    constructor
    · rintro ⟨text, htext⟩
      simp at htext
    · intro h
      exact absurd hempty.2 (h.columns hempty.1)
  · rw [if_neg hempty]
    have hcolumns : c.kind ≠ .check → c.columns ≠ [] :=
      fun hkind hnil => hempty ⟨hkind, hnil⟩
    have hbody : (∃ text, c.body.map (c.nameClause ++ ·) = .ok text) ↔
        ∃ text, c.body = .ok text := by
      cases c.body <;> simp [Except.map]
    rw [hbody, Constraint.exists_body_iff]
    exact ⟨fun h => ⟨hcolumns, h.1, h.2⟩, fun h => ⟨h.reference, h.expression⟩⟩

/-- A primary key over some columns is well-formed. -/
theorem Constraint.wellFormed_primaryKey {columns : List String} (hcolumns : columns ≠ []) :
    (Constraint.primaryKey columns).WellFormed where
  columns := fun _ => hcolumns
  reference := fun hkind => by simp [Constraint.primaryKey, Constraint.bare] at hkind
  expression := fun hkind => by simp [Constraint.primaryKey, Constraint.bare] at hkind

/-! ## References of columns -/

/-- The text of the constraint that states the reference of a column. -/
def Column.foreignKeyText? (c : Column) : Option String :=
  c.reference.map fun r =>
    (Constraint.foreignKey [c.name] r).nameClause ++ foreignKeyClause [c.name] r

/-- The reference of a column can be written, whatever it is. -/
theorem Column.mapM_sql_foreignKey? (c : Column) :
    c.foreignKey?.toList.mapM Constraint.sql = .ok c.foreignKeyText?.toList := by
  rw [Column.foreignKey?, Column.foreignKeyText?]
  cases c.reference <;> rfl

/-- The references of columns can be written one after another. -/
theorem mapM_sql_foreignKeys (columns : List Column) :
    (columns.filterMap Column.foreignKey?).mapM Constraint.sql =
      .ok (columns.filterMap Column.foreignKeyText?) := by
  induction columns with
  | nil => rfl
  | cons c rest ih =>
    rw [filterMap_cons_eq_append, filterMap_cons_eq_append, List.mapM_append,
      c.mapM_sql_foreignKey?, ih]
    rfl

/-! ## Tables -/

namespace Profile

/-- The lines of a table are those of its columns, those of its declared constraints unless one
of these fails, and those of the references of its columns. -/
theorem tableLines_eq_map (p : Profile) (known : KnownEnums) (t : Table) :
    p.tableLines known t = (t.constraints.mapM Constraint.sql).map fun keys =>
      t.columns.map (p.columnText known) ++
        (keys ++ t.columns.filterMap Column.foreignKeyText?) := by
  rw [tableLines, writtenConstraints, List.mapM_append, mapM_sql_foreignKeys]
  cases t.constraints.mapM Constraint.sql <;> rfl

/-- The lines of a table whose declared constraints are well-formed can be written: those
of its columns, those of its constraints and those of the references of its columns. -/
theorem exists_tableLines (p : Profile) (known : KnownEnums) {t : Table}
    (hconstraints : ∀ c ∈ t.constraints, c.WellFormed) :
    ∃ keys references, t.constraints.mapM Constraint.sql = .ok keys ∧
      (t.columns.filterMap Column.foreignKey?).mapM Constraint.sql = .ok references ∧
      p.tableLines known t = .ok (t.columns.map (p.columnText known) ++ (keys ++ references)) := by
  have hdeclared : ∀ c ∈ t.constraints, ∃ text, c.sql = .ok text :=
    fun c hc => c.exists_sql_iff.mpr (hconstraints c hc)
  obtain ⟨keys, hkeys⟩ := exists_mapM_eq_ok hdeclared
  refine ⟨keys, _, hkeys, mapM_sql_foreignKeys t.columns, ?_⟩
  rw [tableLines_eq_map, hkeys]
  rfl

/-- A table whose declared constraints are well-formed can be written.  The statement
ends in its semicolon or in what the profile adds. -/
theorem exists_createTable (p : Profile) (known : KnownEnums) {t : Table}
    (hconstraints : ∀ c ∈ t.constraints, c.WellFormed)
    (htrailer : ∀ line ∈ p.tableTrailer t, Text.EndsNonblank line) :
    ∃ text, p.createTable known t = .ok text ∧ Text.EndsNonblank text := by
  obtain ⟨_, _, _, _, hlines⟩ := p.exists_tableLines known hconstraints
  unfold createTable
  rw [hlines]
  refine ⟨_, rfl, ?_⟩
  apply Text.EndsNonblank.append_join
  · exact Text.endsNonblank_semicolon.append_left _
  · intro line hline
    obtain ⟨trailer, htrailing, rfl⟩ := List.mem_map.mp hline
    exact (htrailer trailer htrailing).append_left "\n"

/-- What a dialect adds to a table ends in a semicolon. -/
theorem endsNonblank_of_mem_tableTrailer (d : Dialect) (t : Table) {line : String}
    (h : line ∈ d.profile.tableTrailer t) : Text.EndsNonblank line := by
  cases d with
  | postgres =>
    rcases List.mem_append.mp h with htable | hcolumn
    · rw [Option.mem_toList] at htable
      obtain ⟨text, _, rfl⟩ := Option.map_eq_some_iff.mp htable
      exact Text.endsNonblank_semicolon.append_left _
    · obtain ⟨c, _, hline⟩ := List.mem_filterMap.mp hcolumn
      obtain ⟨text, _, rfl⟩ := Option.map_eq_some_iff.mp hline
      exact Text.endsNonblank_semicolon.append_left _
  | mysql => simp [Dialect.profile, mysql, common] at h
  | mariadb => simp [Dialect.profile, mariadb, mysql, common] at h

/-- The statement that creates an index ends in a semicolon. -/
theorem endsNonblank_createIndex (p : Profile) (i : Index) :
    Text.EndsNonblank (p.createIndex i) :=
  Text.endsNonblank_semicolon.append_left _

/-! ## Alterations -/

/-- A column can be added, whatever it refers to. -/
theorem exists_addColumn (p : Profile) (known : KnownEnums) (table : String) (c : Column) :
    ∃ texts, p.addColumn known table c = .ok texts := by
  unfold addColumn
  rw [c.mapM_sql_foreignKey?]
  exact ⟨_, rfl⟩

/-- A column can be redefined where the profile has a way to do so. -/
theorem exists_modifyColumn {p : Profile} (hp : p.redefinition ≠ .unsupported)
    (known : KnownEnums) (table : String) (c : Column) :
    ∃ texts, p.modifyColumn known table c = .ok texts := by
  unfold modifyColumn
  cases hkind : p.redefinition with
  | unsupported => exact absurd hkind hp
  | byAttribute => exact ⟨_, rfl⟩
  | whole => exact ⟨_, rfl⟩

/-- Every table can be altered where columns can be redefined. -/
theorem exists_alterTable {p : Profile} (hp : p.redefinition ≠ .unsupported)
    (known : KnownEnums) (a : Alteration) : ∃ texts, p.alterTable known a = .ok texts := by
  have hoperations : ∀ operation ∈ a.operations,
      ∃ texts, p.alterOperation known a.table operation = .ok texts := by
    intro operation _
    cases operation with
    | addColumn c => exact p.exists_addColumn known a.table c
    | dropColumn name => exact ⟨_, rfl⟩
    | modifyColumn c => exact exists_modifyColumn hp known a.table c
  obtain ⟨texts, htexts⟩ := exists_mapM_eq_ok hoperations
  unfold alterTable
  rw [htexts]
  exact ⟨_, rfl⟩

/-- Every dialect can redefine columns. -/
theorem redefinition_ne_unsupported (d : Dialect) : d.profile.redefinition ≠ .unsupported := by
  cases d <;> decide

end Profile

/-! ## Metadata -/

/-- The constraints of a table that metadata asks for are well-formed: the only one is a
primary key over several columns. -/
theorem DesiredTable.wellFormed_of_mem_constraints {t : DesiredTable} {c : Constraint}
    (h : c ∈ t.constraints) : c.WellFormed := by
  rw [DesiredTable.constraints, Option.mem_toList] at h
  obtain ⟨key, hkey, rfl⟩ := Option.map_eq_some_iff.mp h
  apply Constraint.wellFormed_primaryKey
  unfold DesiredTable.compositeKey? at hkey
  split at hkey
  · rename_i hlong
    rw [Option.some.injEq] at hkey
    rw [← hkey]
    intro hnil
    rw [hnil] at hlong
    simp at hlong
  · simp at hkey

/-- The tables that metadata asks for can be created in every dialect. -/
theorem DesiredTable.exists_createTable (t : DesiredTable) (d : Dialect)
    (known : KnownEnums) :
    ∃ text, d.profile.createTable known (t.definition d) = .ok text ∧
      Text.EndsNonblank text :=
  d.profile.exists_createTable known (fun _ hc => DesiredTable.wellFormed_of_mem_constraints hc)
    fun _ hline => Profile.endsNonblank_of_mem_tableTrailer d (t.definition d) hline

end SchemaDdl
