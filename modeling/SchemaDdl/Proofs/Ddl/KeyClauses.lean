/-
# Primary keys in the definition of a table

A definition states the primary key of its table by marks on columns or by constraints, and
each mark and each constraint is written on a line of its own:

* `DesiredTable.keyCount_definition` : how many keys a definition states;
* `DesiredTable.countP_tableLines` : how many lines state a key;
* `DesiredTable.keyCount_definition_iff` : when there is at most one.

Without a composite key every primary field is marked, and each mark is a key of its own
(`DesiredTable.keyCount_membersMetadata`).
-/
import SchemaDdl.Command.Run
import SchemaDdl.Proofs.Ddl.WellFormed
import SchemaDdl.Proofs.Entity.PrimaryKey

namespace SchemaDdl

/-! ## Lines that state a key -/

/-- Whether a line has the words of a primary key. -/
def statesKey (line : String) : Bool :=
  decide ("PRIMARY KEY".toList <:+: line.toList)

/-- A line still has the words after something else. -/
theorem statesKey_append_left (before : String) {line : String} (h : statesKey line = true) :
    statesKey (before ++ line) = true := by
  have hwords : "PRIMARY KEY".toList <:+: line.toList := of_decide_eq_true h
  refine decide_eq_true ?_
  rw [String.toList_append]
  exact hwords.trans (List.suffix_append before.toList line.toList).isInfix

/-- A line still has the words before something else. -/
theorem statesKey_append_right {line : String} (h : statesKey line = true) (after : String) :
    statesKey (line ++ after) = true := by
  have hwords : "PRIMARY KEY".toList <:+: line.toList := of_decide_eq_true h
  refine decide_eq_true ?_
  rw [String.toList_append]
  exact hwords.trans (List.prefix_append line.toList after.toList).isInfix

/-- Every dialect has the words in the clause of a marked column. -/
theorem statesKey_primaryKeyClause (d : Dialect) : statesKey d.profile.primaryKeyClause = true := by
  cases d <;> decide

/-- A marked column states a key. -/
theorem statesKey_columnText (d : Dialect) (known : KnownEnums) {c : Column}
    (h : c.primary = true) : statesKey (d.profile.columnText known c) = true := by
  have hclause : statesKey (d.profile.nullClause c) = true := by
    rw [Profile.nullClause, h]
    exact statesKey_primaryKeyClause d
  unfold Profile.columnText
  iterate 5 apply statesKey_append_right
  exact statesKey_append_left _ hclause

/-- A primary key constraint states a key. -/
theorem exists_sql_primaryKey {columns : List String} (h : columns ≠ []) :
    ∃ line, (Constraint.primaryKey columns).sql = .ok line ∧ statesKey line = true := by
  obtain ⟨line, hline⟩ := (Constraint.exists_sql_iff _).mpr (Constraint.wellFormed_primaryKey h)
  refine ⟨line, hline, ?_⟩
  have hwords : statesKey (ConstraintKind.sql .primaryKey) = true := by decide
  unfold Constraint.sql at hline
  split at hline
  · simp at hline
  · obtain rfl := Except.ok.inj hline
    exact statesKey_append_left _ (statesKey_append_right
      (statesKey_append_right (statesKey_append_right hwords _) _) _)

/-! ## Keys of a definition -/

/-- How many primary keys the definition of a table states, by marks on columns and by
constraints. -/
def Table.keyCount (t : Table) : Nat :=
  t.columns.countP (·.primary) + t.constraints.countP (·.kind = .primaryKey)

namespace DesiredTable

/-- A composite key is the only key of a definition.  Without it each primary field is a
key of its own. -/
theorem keyCount_definition (t : DesiredTable) (d : Dialect) :
    (t.definition d).keyCount = if t.compositeKey?.isSome then 1 else t.primaryNames.length := by
  have hmarks := congrArg List.length (t.map_name_filter_primary d)
  rw [List.length_map, ← List.countP_eq_length_filter] at hmarks
  have hconstraints : (t.definition d).constraints = t.constraints := rfl
  rw [Table.keyCount, hmarks, hconstraints, constraints]
  cases t.compositeKey? with
  | none => rfl
  | some key => rfl

/-- A definition states at most one key exactly if its table has a composite key or at most
one primary field. -/
theorem keyCount_definition_le_one (t : DesiredTable) (d : Dialect) :
    (t.definition d).keyCount ≤ 1 ↔
      t.compositeKey?.isSome = true ∨ t.primaryNames.length ≤ 1 := by
  rw [keyCount_definition]
  split
  · rename_i hkey
    simp [hkey]
  · rename_i hkey
    simp [hkey]

/-! ## Lines of a definition -/

/-- The constraints of a table are written as keys, each on a line. -/
theorem exists_mapM_sql_constraints (t : DesiredTable) :
    ∃ keys, t.constraints.mapM Constraint.sql = .ok keys ∧
      keys.countP statesKey = t.constraints.countP (·.kind = .primaryKey) := by
  cases hkey : t.compositeKey? with
  | none =>
    rw [constraints_of_compositeKey?_eq_none hkey]
    exact ⟨[], rfl, rfl⟩
  | some key =>
    have hone := constraints_of_compositeKey?_eq_some hkey
    have hwellFormed : (Constraint.primaryKey key).WellFormed :=
      wellFormed_of_mem_constraints (t := t) (hone ▸ List.mem_singleton_self _)
    have hcolumns : key ≠ [] :=
      hwellFormed.columns (by simp [Constraint.primaryKey, Constraint.bare])
    obtain ⟨line, hline, hstates⟩ := exists_sql_primaryKey hcolumns
    refine ⟨[line], ?_, ?_⟩
    · rw [hone, List.mapM_cons, hline]
      rfl
    · rw [hone, List.countP_singleton, hstates]
      rfl

/-- The lines of a definition that state a key are as many as the keys of the definition,
apart from lines of other columns and of references that happen to have the words. -/
theorem countP_tableLines (t : DesiredTable) (d : Dialect) (known : KnownEnums) :
    ∃ lines references,
      ((t.definition d).columns.filterMap Column.foreignKey?).mapM Constraint.sql =
        .ok references ∧
      d.profile.tableLines known (t.definition d) = .ok lines ∧
      lines.countP statesKey = (t.definition d).keyCount +
        ((((t.definition d).columns.filter (!·.primary)).map (d.profile.columnText known)) ++
          references).countP statesKey := by
  obtain ⟨keys, references, hkeys, hreferences, hlines⟩ :=
    d.profile.exists_tableLines known (t := t.definition d)
      fun _ hc => wellFormed_of_mem_constraints hc
  obtain ⟨keys', hkeys', hcount⟩ := t.exists_mapM_sql_constraints
  obtain rfl : keys = keys' := Except.ok.inj (hkeys.symm.trans hkeys')
  refine ⟨_, references, hreferences, hlines, ?_⟩
  -- Among the columns the marked ones all have the words.
  have hmarked : ((t.definition d).columns.filter (·.primary)).countP
      (statesKey ∘ d.profile.columnText known) = (t.definition d).columns.countP (·.primary) := by
    rw [List.countP_eq_length_filter (p := fun c : Column => c.primary), List.countP_eq_length]
    intro c hc
    exact statesKey_columnText d known (List.mem_filter.mp hc).2
  have hcolumns := List.countP_eq_countP_filter_add (t.definition d).columns
    (statesKey ∘ d.profile.columnText known) (·.primary)
  have hconstraints : (t.definition d).constraints = t.constraints := rfl
  rw [List.countP_append, List.countP_append, List.countP_append, List.countP_map, List.countP_map,
    hcolumns, hmarked, hcount, Table.keyCount, hconstraints]
  omega

/-! ## At most one key -/

/-- **At most one primary key.**  A definition states as many keys as its table has primary
fields, or a single one if the key is composite.  So there is at most one exactly if the
key is composite or there is at most one primary field, and in every dialect each key has
a line of its own. -/
theorem keyCount_definition_le_one_iff (t : DesiredTable) (d : Dialect) :
    (t.definition d).keyCount = (if t.compositeKey?.isSome then 1 else t.primaryNames.length) ∧
      ((t.definition d).keyCount ≤ 1 ↔
        t.compositeKey?.isSome = true ∨ t.primaryNames.length ≤ 1) ∧
      ∀ known, ∃ lines references,
        ((t.definition d).columns.filterMap Column.foreignKey?).mapM Constraint.sql =
          .ok references ∧
        d.profile.tableLines known (t.definition d) = .ok lines ∧
        lines.countP statesKey = (t.definition d).keyCount +
          ((((t.definition d).columns.filter (!·.primary)).map (d.profile.columnText known)) ++
            references).countP statesKey :=
  ⟨t.keyCount_definition d, t.keyCount_definition_le_one d, t.countP_tableLines d⟩

/-- A table of members whose user and group are both marked as primary key. -/
def membersMetadata : Metadata where
  fields := [
    { Field.new "Member" "user_id" "BIGINT" with primary := true, nullable := false },
    { Field.new "Member" "group_id" "BIGINT" with primary := true, nullable := false }]
  tables := [⟨"Member", "members", none, none, []⟩]
  indexes := []
  enums := []
  embeddings := []

/-- Two marked fields without a key list are two primary keys of one table. -/
theorem keyCount_membersMetadata :
    (membersMetadata.schema.tables.map fun t => (t.definition .postgres).keyCount) = [2] ∧
      membersMetadata.render .postgres = .ok ("-- POSTGRES TABLE: members --\n" ++
        "CREATE TABLE members (\n  user_id BIGINT PRIMARY KEY NOT NULL,\n" ++
        "  group_id BIGINT PRIMARY KEY NOT NULL\n);\n") := by
  decide +kernel

end DesiredTable

end SchemaDdl
