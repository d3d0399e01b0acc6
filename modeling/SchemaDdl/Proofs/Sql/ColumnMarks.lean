/-
# The marks of a column

A column is made without marks and is then changed step by step.  Whether it is a primary key
and whether it accepts `NULL` depends on the order of its changes:

* `Column.Consistent.edits` : a primary key never accepts `NULL`;
* `Column.primary_edits_new_iff` : when a column is a primary key;
* `Column.exists_sinceNullable_nullable_iff` : when a column accepts `NULL`;
* `Column.marks_edits_new` : all of this, for every column and all changes.
-/
import SchemaDdl.Proofs.History
import SchemaDdl.Sql.Column

namespace SchemaDdl

/-! ## Histories of a column -/

namespace ColumnEdit

/-- Changes make a primary key of a column and do not take it away afterwards. -/
def KeyedBy (changes : List ColumnEdit) : Prop :=
  HappenedSince (· = .primary) (· = .withoutKeys) changes

/-- The changes since a column was last made nullable, which does not happen while it is a
primary key, or all changes if this never happened. -/
structure SinceNullable (changes recent : List ColumnEdit) : Prop where
  start : changes = recent ∨
    ∃ before, changes = before ++ .nullable :: recent ∧ ¬ KeyedBy before
  -- The recent changes make it nullable only where this does not happen.
  latest : ∀ before rest, changes = before ++ .nullable :: rest →
    rest.length < recent.length → KeyedBy before

namespace SinceNullable

variable {changes recent : List ColumnEdit}

/-- At first there are no recent changes. -/
theorem nil : SinceNullable [] [] :=
  ⟨.inl rfl, fun _ _ hsplit => by simp at hsplit⟩

/-- The recent changes begin anew when a column is made nullable that is no primary key. -/
theorem concat_nullable (hkey : ¬ KeyedBy changes) : SinceNullable (changes ++ [.nullable]) [] :=
  ⟨.inr ⟨changes, rfl, hkey⟩, fun _ _ _ hlater => absurd hlater (Nat.not_lt_zero _)⟩

/-- Any other change is one more recent change. -/
theorem concat (h : SinceNullable changes recent) {change : ColumnEdit}
    (hchange : change = .nullable → KeyedBy changes) :
    SinceNullable (changes ++ [change]) (recent ++ [change]) := by
  constructor
  · rcases h.start with rfl | ⟨before, rfl, hbefore⟩
    · exact .inl rfl
    · exact .inr ⟨before, by simp, hbefore⟩
  · intro before rest hsplit hlater
    rcases append_singleton_eq_append_cons_iff.mp hsplit with
      ⟨rfl, hnullable, -⟩ | ⟨earlier, rfl, hearlier⟩
    · exact hchange hnullable
    · exact h.latest before earlier hearlier (by simpa using hlater)

/-- No changes are more recent than the recent ones. -/
theorem length_le {recent' : List ColumnEdit} (h : SinceNullable changes recent)
    (h' : SinceNullable changes recent') : recent'.length ≤ recent.length := by
  rcases h.start with rfl | ⟨before, hsplit, hbefore⟩
  · rcases h'.start with rfl | ⟨before, rfl, -⟩
    · exact le_rfl
    · simp only [List.length_append, List.length_cons]
      omega
  · by_contra hlater
    exact hbefore (h'.latest before recent hsplit (Nat.lt_of_not_le hlater))

/-- The recent changes end a history. -/
theorem suffix (h : SinceNullable changes recent) : recent <:+ changes := by
  rcases h.start with rfl | ⟨before, rfl, -⟩
  · exact List.suffix_rfl
  · exact (List.suffix_cons _ _).trans (List.suffix_append _ _)

/-- There is only one way to tell the recent changes. -/
theorem eq {recent' : List ColumnEdit} (h : SinceNullable changes recent)
    (h' : SinceNullable changes recent') : recent' = recent :=
  (List.suffix_of_suffix_length_le h'.suffix h.suffix (h.length_le h')).eq_of_length_le
    (h'.length_le h)

end SinceNullable

end ColumnEdit

/-! ## Columns -/

namespace Column

open ColumnEdit

/-- A primary key does not accept `NULL`. -/
def Consistent (c : Column) : Prop :=
  c.primary = true → c.nullable = false

/-- A new column is consistent. -/
theorem consistent_new (name dataType : String) : (Column.new name dataType).Consistent :=
  fun hprimary => Bool.noConfusion hprimary

/-- A change makes a primary key, or leaves it if there is one. -/
theorem primary_edit_iff (c : Column) (change : ColumnEdit) :
    (c.edit change).primary = true ↔
      change = .primary ∨ ¬ change = .withoutKeys ∧ c.primary = true := by
  cases change with
  | nullable => by_cases hprimary : c.primary = true <;> simp [edit, asNullable, hprimary]
  | _ => simp [edit, asPrimary, asNotNull, withoutKeys]

/-- A change makes a column nullable that is no primary key, or leaves it so. -/
theorem nullable_edit_iff (c : Column) (change : ColumnEdit) :
    (c.edit change).nullable = true ↔
      change = .nullable ∧ c.primary = false ∨
        ¬ change = .primary ∧ ¬ change = .notNull ∧ c.nullable = true := by
  cases change with
  | nullable => by_cases hprimary : c.primary = true <;> simp [edit, asNullable, hprimary]
  | _ => simp [edit, asPrimary, asNotNull, withoutKeys]

/-- A consistent column stays consistent. -/
theorem Consistent.edit {c : Column} (h : c.Consistent) (change : ColumnEdit) :
    (c.edit change).Consistent := by
  intro hprimary
  by_contra hnullable
  rw [Bool.not_eq_false, nullable_edit_iff] at hnullable
  rcases (c.primary_edit_iff change).mp hprimary with rfl | ⟨_, hkeyed⟩
  · simp at hnullable
  · simp [h hkeyed, hkeyed] at hnullable

/-- A consistent column stays consistent under all changes. -/
theorem Consistent.edits {c : Column} (h : c.Consistent) (changes : List ColumnEdit) :
    (c.edits changes).Consistent := by
  induction changes generalizing c with
  | nil => exact h
  | cons change rest ih => exact ih (h.edit change)

section New

variable (name dataType : String) (changes : List ColumnEdit)

/-- A column is a primary key if it was made one and this was not taken away since. -/
theorem primary_edits_new_iff :
    ((Column.new name dataType).edits changes).primary = true ↔ KeyedBy changes := by
  induction changes using List.reverseRecOn with
  | nil =>
    have hnew : ¬ (Column.new name dataType).primary = true := Bool.false_ne_true
    exact iff_of_false hnew (not_happenedSince_nil _ _)
  | append_singleton changes change ih =>
    rw [edits_concat, primary_edit_iff, ih, KeyedBy, KeyedBy, happenedSince_concat_iff]

/-- A column accepts `NULL` if nothing has excluded it since it was last made nullable. -/
theorem exists_sinceNullable_nullable_iff :
    ∃ recent, SinceNullable changes recent ∧
      (((Column.new name dataType).edits changes).nullable = true ↔
        .primary ∉ recent ∧ .notNull ∉ recent) := by
  induction changes using List.reverseRecOn with
  | nil => exact ⟨[], .nil, iff_of_true rfl (by simp)⟩
  | append_singleton changes change ih =>
    obtain ⟨recent, hrecent, hnullable⟩ := ih
    rw [edits_concat, nullable_edit_iff, ← Bool.not_eq_true, primary_edits_new_iff, hnullable]
    by_cases hchange : change = .nullable ∧ ¬ KeyedBy changes
    · obtain ⟨rfl, hkey⟩ := hchange
      exact ⟨[], .concat_nullable hkey, iff_of_true (.inl ⟨rfl, hkey⟩) (by simp)⟩
    · refine ⟨recent ++ [change], hrecent.concat fun h => ?_, ?_⟩
      · by_contra hkey
        exact hchange ⟨h, hkey⟩
      · rw [or_iff_right hchange]
        simp only [List.mem_append, List.mem_singleton, not_or]
        tauto

/-- **The marks of a column.**  After any changes to a new column it does not accept `NULL` if it
is a primary key; it is a primary key exactly if it was made one and its keys were not taken away
since; and it accepts `NULL` exactly if it was not made a primary key or excluded `NULL` since it
was last made nullable while it was no primary key, or since it was made. -/
theorem marks_edits_new :
    (((Column.new name dataType).edits changes).primary = true →
        ((Column.new name dataType).edits changes).nullable = false) ∧
      (((Column.new name dataType).edits changes).primary = true ↔ KeyedBy changes) ∧
      (∃ recent, SinceNullable changes recent) ∧
      ∀ recent, SinceNullable changes recent →
        (((Column.new name dataType).edits changes).nullable = true ↔
          .primary ∉ recent ∧ .notNull ∉ recent) := by
  obtain ⟨recent, hrecent, hnullable⟩ := exists_sinceNullable_nullable_iff name dataType changes
  refine ⟨(consistent_new name dataType).edits changes,
    primary_edits_new_iff name dataType changes, ⟨recent, hrecent⟩, fun recent' hrecent' => ?_⟩
  obtain rfl := hrecent.eq hrecent'
  exact hnullable

example :
    ((Column.new "id" "INTEGER").edits [.primary, .nullable, .withoutKeys]).nullable = false := rfl

end New

end Column

end SchemaDdl
