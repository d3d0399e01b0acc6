/-
# The primary key on both sides

A comparison takes a field for a part of the primary key by its own mark or by the key
list of its table.  The definition of the table marks columns or has a constraint, but
never both:

* `keyColumns_of_compositeKey?_eq_none`, `keyColumns_of_compositeKey?_eq_some` : the key
  of the definition;
* `primaryNames_iff_keyColumns_iff` : exactly when both have the same columns.
-/
import Mathlib
import SchemaDdl.Entity.Statements

namespace SchemaDdl

/-- The columns of the primary key by the definition of a table: those that are marked
and those of its primary key constraints. -/
def Table.keyColumns (t : Table) : List String :=
  (t.columns.filter (·.primary)).map Column.name ++
    (t.constraints.filter fun c => decide (c.kind = .primaryKey)).flatMap Constraint.columns

namespace DesiredTable

/-- The names of the fields that belong to the primary key of a table. -/
def primaryNames (t : DesiredTable) : List String :=
  (t.fields.filter t.isPrimary).map Field.name

/-- A name is in the primary key by the mark of a field or, if there is a field of this
name, by the key list. -/
theorem mem_primaryNames_iff (t : DesiredTable) (name : String) :
    name ∈ t.primaryNames ↔
      ∃ f ∈ t.fields, f.name = name ∧
        (f.primary = true ∨ f.name ∈ t.directive.primaryKey) := by
  simp only [primaryNames, isPrimary, TableDirective.isPrimary, List.mem_map, List.mem_filter,
    Bool.or_eq_true, List.contains_eq_mem, decide_eq_true_eq]
  constructor
  · rintro ⟨f, ⟨hf, hprimary⟩, hname⟩
    exact ⟨f, hf, hname, hprimary⟩
  · rintro ⟨f, hf, hname, hprimary⟩
    exact ⟨f, ⟨hf, hprimary⟩, hname⟩

/-! ## The key of the definition -/

/-- The marked columns are those of the primary key, unless this has several columns. -/
theorem map_name_filter_primary (t : DesiredTable) (d : Dialect) :
    (((t.definition d).columns.filter (·.primary)).map Column.name) =
      if t.compositeKey?.isNone then t.primaryNames else [] := by
  have hcolumns : (t.definition d).columns = t.fields.map (t.column d) := rfl
  have hmark : (fun c : Column => c.primary) ∘ t.column d =
      fun f => t.isPrimary f && t.compositeKey?.isNone := rfl
  have hname : Column.name ∘ t.column d = Field.name := rfl
  rw [hcolumns, List.filter_map, List.map_map, hmark, hname, primaryNames]
  cases t.compositeKey?.isNone <;> simp

/-- Without a composite key a table has no constraints. -/
theorem constraints_of_compositeKey?_eq_none {t : DesiredTable} (h : t.compositeKey? = none) :
    t.constraints = [] := by
  rw [constraints, h]
  rfl

/-- A composite key is the only constraint of its table. -/
theorem constraints_of_compositeKey?_eq_some {t : DesiredTable} {key : List String}
    (h : t.compositeKey? = some key) : t.constraints = [.primaryKey key] := by
  rw [constraints, h]
  rfl

/-- Without a composite key the key of the definition is made of the primary fields. -/
theorem keyColumns_of_compositeKey?_eq_none {t : DesiredTable} (h : t.compositeKey? = none)
    (d : Dialect) : (t.definition d).keyColumns = t.primaryNames := by
  have hconstraints : (t.definition d).constraints = [] := constraints_of_compositeKey?_eq_none h
  rw [Table.keyColumns, map_name_filter_primary, h, hconstraints]
  simp

/-- A composite key is the key of the definition. -/
theorem keyColumns_of_compositeKey?_eq_some {t : DesiredTable} {key : List String}
    (h : t.compositeKey? = some key) (d : Dialect) : (t.definition d).keyColumns = key := by
  have hconstraints : (t.definition d).constraints = [.primaryKey key] :=
    constraints_of_compositeKey?_eq_some h
  rw [Table.keyColumns, map_name_filter_primary, h, hconstraints]
  simp [Constraint.primaryKey, Constraint.bare]

/-! ## Agreement -/

/-- A composite key lists the names of all fields that are marked themselves, and only
names of fields. -/
def KeyAgrees (t : DesiredTable) : Prop :=
  ∀ key, t.compositeKey? = some key →
    (∀ f ∈ t.fields, f.primary = true → f.name ∈ key) ∧
      ∀ name ∈ key, ∃ f ∈ t.fields, f.name = name

/-- The composite key of a table is its key list. -/
theorem eq_primaryKey_of_compositeKey?_eq_some {t : DesiredTable} {key : List String}
    (h : t.compositeKey? = some key) : key = t.directive.primaryKey := by
  unfold compositeKey? at h
  split at h
  · exact (Option.some.inj h).symm
  · simp at h

/-- The primary fields are those of the key list exactly when the list has all fields with
a mark and nothing but fields. -/
theorem primaryNames_iff_primaryKey_iff (t : DesiredTable) :
    (∀ name, name ∈ t.primaryNames ↔ name ∈ t.directive.primaryKey) ↔
      (∀ f ∈ t.fields, f.primary = true → f.name ∈ t.directive.primaryKey) ∧
        ∀ name ∈ t.directive.primaryKey, ∃ f ∈ t.fields, f.name = name := by
  constructor
  · intro hsame
    constructor
    · intro f hf hmark
      exact (hsame f.name).mp ((t.mem_primaryNames_iff _).mpr ⟨f, hf, rfl, .inl hmark⟩)
    · intro name hname
      obtain ⟨f, hf, hfield, _⟩ := (t.mem_primaryNames_iff name).mp ((hsame name).mpr hname)
      exact ⟨f, hf, hfield⟩
  · rintro ⟨hmarked, hfields⟩ name
    rw [mem_primaryNames_iff]
    constructor
    · rintro ⟨f, hf, rfl, hmark | hlisted⟩
      · exact hmarked f hf hmark
      · exact hlisted
    · intro hname
      obtain ⟨f, hf, rfl⟩ := hfields name hname
      exact ⟨f, hf, rfl, .inr hname⟩

/-- **The primary key on both sides.**  The fields that a comparison takes for the primary
key are the key columns of the definition exactly when a composite key lists all fields
with a mark and nothing but fields. -/
theorem primaryNames_iff_keyColumns_iff (t : DesiredTable) (d : Dialect) :
    (∀ name, name ∈ t.primaryNames ↔ name ∈ (t.definition d).keyColumns) ↔ t.KeyAgrees := by
  -- Only a composite key can leave out a field or name a column that is no field.
  cases hkey : t.compositeKey? with
  | none =>
    rw [keyColumns_of_compositeKey?_eq_none hkey]
    simp [KeyAgrees, hkey]
  | some key =>
    rw [keyColumns_of_compositeKey?_eq_some hkey, eq_primaryKey_of_compositeKey?_eq_some hkey,
      primaryNames_iff_primaryKey_iff, ← eq_primaryKey_of_compositeKey?_eq_some hkey]
    constructor
    · rintro hagrees _ hcomposite
      rw [hkey, Option.some.injEq] at hcomposite
      exact hcomposite ▸ hagrees
    · intro hagrees
      exact hagrees key hkey

/-- A table with a composite key and a marked field outside of it. -/
def entriesMetadata : Metadata where
  fields := [
    { Field.new "Entry" "a" "BIGINT" with nullable := false },
    { Field.new "Entry" "b" "BIGINT" with nullable := false },
    { Field.new "Entry" "c" "BIGINT" with primary := true, nullable := false }]
  tables := [⟨"Entry", "entries", none, none, ["a", "b"]⟩]
  indexes := []
  enums := []
  embeddings := []

/-- A marked field outside of a composite key is primary but not in the key. -/
theorem mem_primaryNames_not_mem_keyColumns :
    ¬ ∀ t ∈ entriesMetadata.schema.tables, ∀ name,
      name ∈ t.primaryNames ↔ name ∈ (t.definition .mysql).keyColumns := by
  intro hsame
  have hmem : DesiredTable.ofDirective entriesMetadata ⟨"Entry", "entries", none, none, ["a", "b"]⟩
      ∈ entriesMetadata.schema.tables := List.mem_singleton_self _
  have hkey := (hsame _ hmem "c").mp (by decide +kernel)
  revert hkey
  decide +kernel

end DesiredTable

end SchemaDdl
