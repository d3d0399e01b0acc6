/-
# Writing never fails

What metadata asks for has no constraint that cannot be written, and every dialect can
redefine columns.  So nothing fails on the way from metadata to text:

* `MigrationPlan.exists_entryOf?_iff` : every change is written, and exactly the enum types
  and tables that are not declared are passed over;
* `render_and_entries_eq_ok` : rendering never fails, and neither does a migration, not even
  one that is written for a difference of other schemas.
-/
import SchemaDdl.Proofs.Drift.Bootstrap
import SchemaDdl.Proofs.Drift.ChangeList

namespace SchemaDdl.Drift

namespace MigrationPlan

/-- An enum type or a table that is not declared is passed over. -/
theorem entryOf?_eq_none {m : MigrationPlan} {change : Change} (h : ¬m.Declares change) :
    m.entryOf? change = .ok none := by
  cases change with
  | enumAdded name =>
    have hmissing : m.schema.enum? name = none :=
      (find?_key_eq_none_iff EnumType.name _ name).mpr h
    rw [entryOf?, hmissing]
    rfl
  | tableAdded name =>
    have hmissing : m.schema.table? name = none :=
      (find?_key_eq_none_iff DesiredTable.name _ name).mpr h
    rw [entryOf?, hmissing]
    rfl
  | _ => exact absurd trivial h

/-- No change fails, and a change has an entry exactly if what it creates is declared. -/
theorem exists_entryOf?_iff (m : MigrationPlan) (change : Change) :
    ∃ result, m.entryOf? change = .ok result ∧ (result.isSome = true ↔ m.Declares change) := by
  by_cases hdeclared : m.Declares change
  · obtain ⟨entry, hentry⟩ := exists_entryOf? hdeclared
    exact ⟨some entry, hentry, by simp [hdeclared]⟩
  · exact ⟨none, entryOf?_eq_none hdeclared, by simp [hdeclared]⟩

/-- The migration for any difference is written: it has an entry for each change, apart from
enum types and tables that are to be added and are not declared. -/
theorem exists_entries_eq_ok (m : MigrationPlan) (d : SchemaDiff) :
    ∃ results, m.entries d = .ok results.reduceOption ∧
      List.Forall₂
        (fun change result => m.entryOf? change = .ok result ∧
          (result.isSome = true ↔ m.Declares change))
        d.changes results := by
  have hwritten : ∀ change ∈ d.changes, ∃ result, m.entryOf? change = .ok result := by
    intro change _
    obtain ⟨result, hentry, _⟩ := m.exists_entryOf?_iff change
    exact ⟨result, hentry⟩
  obtain ⟨results, hmapM, hentries⟩ := exists_mapM_eq_ok_forall₂ hwritten
  refine ⟨results, ?_, hentries.imp fun change result hentry => ⟨hentry, ?_⟩⟩
  · rw [entries_eq, collect, hmapM]
    rfl
  · obtain ⟨found, hfound, hiff⟩ := m.exists_entryOf?_iff change
    obtain rfl : result = found := Except.ok.inj (hentry.symm.trans hfound)
    exact hiff

end MigrationPlan

/-- **Writing never fails.**  In every dialect metadata is rendered, as the entries of its
enum types, tables and indexes, and the migration for any difference is written, with an
entry for each change that adds nothing undeclared. -/
theorem render_and_entries_eq_ok (m : Metadata) (d : Dialect) (emit : Bool) :
    (∃ others,
      (tablesAndIndexes m.schema d).mapM (MigrationPlan.statementEntry ⟨m.schema, d, emit⟩) =
        .ok others ∧
      m.render d = .ok (scriptText d (createEnumEntries m.schema d) others)) ∧
      ∀ diff : SchemaDiff, ∃ results,
        MigrationPlan.entries ⟨m.schema, d, emit⟩ diff = .ok results.reduceOption ∧
        List.Forall₂
          (fun change result => MigrationPlan.entryOf? ⟨m.schema, d, emit⟩ change = .ok result ∧
            (result.isSome = true ↔ MigrationPlan.Declares ⟨m.schema, d, emit⟩ change))
          diff.changes results :=
  ⟨exists_render_eq m d emit, MigrationPlan.exists_entries_eq_ok ⟨m.schema, d, emit⟩⟩

end SchemaDdl.Drift
