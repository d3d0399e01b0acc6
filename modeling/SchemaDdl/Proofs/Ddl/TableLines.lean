/-
# The lines of a created table

A table is written with a line for each of its columns, one for each constraint that it
declares, and one for each reference that a column holds.  Only a declared constraint can
keep it from being written:

* `Constraint.sql_eq_error_iff` : a constraint fails exactly for what it lacks;
* `Constraint.exists_lacks_iff` : it lacks something exactly if it is not well-formed;
* `Column.foreignKeyText?_eq_line` : the line of a reference, with all that it holds;
* `Profile.createTable_eq_error_iff`, `Profile.createTable_eq_ok_iff` : when a table fails, and
  what is written of it otherwise;
* `Profile.createTable_linesOrFirstFault` : all of this.
-/
import SchemaDdl.Proofs.Ddl.WellFormed

namespace SchemaDdl

/-! ## What a constraint lacks -/

namespace Constraint

/-- What a constraint lacks, and the failure that reports it.  A key without columns is
reported as such, whether or not it has a reference. -/
inductive Lacks (c : Constraint) : Failure → Prop where
  | columns (hkind : c.kind ≠ .check) (hcolumns : c.columns = []) : c.Lacks (.noColumns c.kind)
  | reference (hkind : c.kind = .foreignKey) (hcolumns : c.columns ≠ [])
      (hreference : c.reference = none) : c.Lacks (.missingReference c.displayName)
  | expression (hkind : c.kind = .check) (hexpression : c.expression = none) :
      c.Lacks (.missingExpression c.displayName)

/-- What a constraint says cannot be written exactly for a foreign key without reference and
for a check without expression. -/
theorem body_eq_error_iff {c : Constraint} {cause : Failure} :
    c.body = .error cause ↔
      c.kind = .foreignKey ∧ c.reference = none ∧ cause = .missingReference c.displayName ∨
        c.kind = .check ∧ c.expression = none ∧ cause = .missingExpression c.displayName := by
  unfold body
  cases hkind : c.kind with
  | primaryKey => simp
  | unique => simp
  | foreignKey => cases c.reference <;> simp [eq_comm]
  | check => cases c.expression <;> simp [eq_comm]

/-- A constraint cannot be written exactly if it lacks something, which is what is reported. -/
theorem sql_eq_error_iff {c : Constraint} {cause : Failure} :
    c.sql = .error cause ↔ c.Lacks cause := by
  unfold sql
  -- The columns are looked at first, so a key without columns has no other failure.
  by_cases hempty : c.kind ≠ .check ∧ c.columns = []
  · rw [if_pos hempty, Except.error.injEq]
    constructor
    · rintro rfl
      exact .columns hempty.1 hempty.2
    · intro hlacks
      cases hlacks with
      | columns _ _ => rfl
      | reference _ hcolumns _ => exact absurd hempty.2 hcolumns
      | expression hkind _ => exact absurd hkind hempty.1
  · have hbody : c.body.map (c.nameClause ++ ·) = .error cause ↔ c.body = .error cause := by
      cases c.body <;> simp [Except.map]
    rw [if_neg hempty, hbody, body_eq_error_iff]
    constructor
    · rintro (⟨hkind, hreference, rfl⟩ | ⟨hkind, hexpression, rfl⟩)
      · have hcolumns : c.columns ≠ [] := fun hnil => hempty ⟨by simp [hkind], hnil⟩
        exact .reference hkind hcolumns hreference
      · exact .expression hkind hexpression
    · intro hlacks
      cases hlacks with
      | columns hkind hcolumns => exact absurd ⟨hkind, hcolumns⟩ hempty
      | reference hkind _ hreference => exact .inl ⟨hkind, hreference, rfl⟩
      | expression hkind hexpression => exact .inr ⟨hkind, hexpression, rfl⟩

example : (bare .foreignKey []).sql = .error (.noColumns .foreignKey) := rfl

/-- A constraint lacks something exactly if it is not well-formed. -/
theorem exists_lacks_iff {c : Constraint} : (∃ cause, c.Lacks cause) ↔ ¬ c.WellFormed := by
  rw [← c.exists_sql_iff]
  simp only [← sql_eq_error_iff]
  cases c.sql <;> simp

end Constraint

/-! ## References of columns -/

/-- The line that states the reference of a column: its name if it has one, the column, the
table and the column that it refers to, and its actions. -/
def Reference.line (column : String) (r : Reference) : String :=
  r.name.elim "" (fun name => "CONSTRAINT " ++ name ++ " ") ++
    "FOREIGN KEY (" ++ column ++ ") REFERENCES " ++ r.table ++ "(" ++ r.column ++ ")" ++
    r.onDelete.elim "" (fun action => " ON DELETE " ++ action.sql) ++
    r.onUpdate.elim "" (fun action => " ON UPDATE " ++ action.sql)

/-- An action is written with the words before it, or not at all. -/
theorem actionClause_eq_elim (words : String) (action : Option ReferentialAction) :
    actionClause words action = action.elim "" fun a => words ++ a.sql := by
  cases action <;> rfl

/-- A constraint is written with its name, or without one. -/
theorem Constraint.nameClause_eq_elim (c : Constraint) :
    c.nameClause = c.name.elim "" fun name => "CONSTRAINT " ++ name ++ " " := by
  unfold nameClause
  cases c.name <;> rfl

/-- The constraint that states the reference of a column is written as its line. -/
theorem Constraint.foreignKey_text_eq_line (column : String) (r : Reference) :
    (Constraint.foreignKey [column] r).nameClause ++ foreignKeyClause [column] r =
      r.line column := by
  unfold foreignKeyClause Reference.line
  simp only [Constraint.nameClause_eq_elim, Constraint.foreignKey, actionClause_eq_elim,
    String.intercalate_singleton, String.append_assoc]

/-- The reference of a column is written with all that it holds. -/
theorem Column.foreignKeyText?_eq_line (c : Column) :
    c.foreignKeyText? = c.reference.map (Reference.line c.name) := by
  rw [foreignKeyText?]
  simp only [Constraint.foreignKey_text_eq_line]

/-! ## Tables -/

namespace Profile

/-- The text of a table that is created, with the lines between its parentheses. -/
def tableText (p : Profile) (t : Table) (lines : List String) : String :=
  p.tableHeader t ++ "CREATE TABLE " ++ t.name ++ " (\n" ++
    ",\n".intercalate (lines.map ("  " ++ ·)) ++ "\n)" ++ p.optionsClause t ++ ";" ++
    String.join ((p.tableTrailer t).map ("\n" ++ ·))

/-- A table is written with the lines of its columns, of its declared constraints unless one
of these fails, and of the references of its columns. -/
theorem createTable_eq_map_tableText (p : Profile) (known : KnownEnums) (t : Table) :
    p.createTable known t = (t.constraints.mapM Constraint.sql).map fun keys =>
      p.tableText t (t.columns.map (p.columnText known) ++ keys ++
        t.columns.filterMap fun c => c.reference.map (Reference.line c.name)) := by
  have hreferences : t.columns.filterMap Column.foreignKeyText? =
      t.columns.filterMap fun c => c.reference.map (Reference.line c.name) :=
    List.filterMap_congr fun c _ => c.foreignKeyText?_eq_line
  rw [createTable, tableLines_eq_map, hreferences]
  simp only [List.append_assoc]
  cases t.constraints.mapM Constraint.sql <;> rfl

/-- A table fails exactly with the first of its declared constraints that lacks something. -/
theorem createTable_eq_error_iff {p : Profile} {known : KnownEnums} {t : Table}
    {cause : Failure} :
    p.createTable known t = .error cause ↔
      ∃ before c after, t.constraints = before ++ c :: after ∧
        (∀ c' ∈ before, c'.WellFormed) ∧ c.Lacks cause := by
  have hconstraints : p.createTable known t = .error cause ↔
      t.constraints.mapM Constraint.sql = .error cause := by
    rw [createTable_eq_map_tableText]
    cases t.constraints.mapM Constraint.sql <;> simp [Except.map]
  rw [hconstraints, mapM_eq_error_iff]
  simp only [Constraint.exists_sql_iff, Constraint.sql_eq_error_iff]

/-- A table fails exactly if one of its declared constraints is not well-formed. -/
theorem exists_createTable_eq_error_iff {p : Profile} {known : KnownEnums} {t : Table} :
    (∃ cause, p.createTable known t = .error cause) ↔ ∃ c ∈ t.constraints, ¬ c.WellFormed := by
  constructor
  · rintro ⟨cause, hfailed⟩
    obtain ⟨before, c, after, hsplit, _, hlacks⟩ := createTable_eq_error_iff.mp hfailed
    exact ⟨c, by simp [hsplit], Constraint.exists_lacks_iff.mp ⟨cause, hlacks⟩⟩
  · rintro ⟨c, hc, hillFormed⟩
    cases hwritten : t.constraints.mapM Constraint.sql with
    | error cause =>
      refine ⟨cause, ?_⟩
      rw [createTable_eq_map_tableText, hwritten]
      rfl
    | ok keys =>
      have hsql := exists_eq_ok_of_forall₂ (mapM_eq_ok_iff_forall₂.mp hwritten) hc
      exact absurd (c.exists_sql_iff.mp hsql) hillFormed

/-- A table that is written has a line for each column, for each declared constraint and for
each reference of a column. -/
theorem createTable_eq_ok_iff {p : Profile} {known : KnownEnums} {t : Table} {text : String} :
    p.createTable known t = .ok text ↔
      ∃ keys, List.Forall₂ (fun c line => c.sql = .ok line) t.constraints keys ∧
        text = p.tableText t (t.columns.map (p.columnText known) ++ keys ++
          t.columns.filterMap fun c => c.reference.map (Reference.line c.name)) := by
  simp only [← mapM_eq_ok_iff_forall₂]
  rw [createTable_eq_map_tableText]
  cases t.constraints.mapM Constraint.sql <;> simp [Except.map, eq_comm]

/-- **The lines of a created table.**  A table fails exactly if a declared constraint is not
well-formed, and then reports what the first such constraint lacks; the references of its
columns never make it fail.  Otherwise it is written with one line for each column, then one
for each declared constraint, then one for each reference that a column holds, all of them in
order; the last state the name, the table, the column and both actions of the reference. -/
theorem createTable_linesOrFirstFault (p : Profile) (known : KnownEnums) (t : Table) :
    ((∃ cause, p.createTable known t = .error cause) ↔ ∃ c ∈ t.constraints, ¬ c.WellFormed) ∧
      (∀ cause, p.createTable known t = .error cause ↔
        ∃ before c after, t.constraints = before ++ c :: after ∧
          (∀ c' ∈ before, c'.WellFormed) ∧ c.Lacks cause) ∧
      ∀ text, p.createTable known t = .ok text ↔
        ∃ keys, List.Forall₂ (fun c line => c.sql = .ok line) t.constraints keys ∧
          text = p.tableText t (t.columns.map (p.columnText known) ++ keys ++
            t.columns.filterMap fun c => c.reference.map (Reference.line c.name)) :=
  ⟨exists_createTable_eq_error_iff, fun _ => createTable_eq_error_iff,
    fun _ => createTable_eq_ok_iff⟩

end Profile

end SchemaDdl
