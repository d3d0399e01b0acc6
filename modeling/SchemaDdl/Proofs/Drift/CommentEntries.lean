/-
# Comments in migrations

What is left to people becomes a comment, into which names, values, types and defaults of
both schemas are put as they are.  It stays a comment exactly if each of these texts can
stand in one:

* `ColumnChange.keepsComment_describe_iff` : the words for a change of an attribute;
* `MigrationPlan.isComment_iff` : the comment of a change;
* `MigrationPlan.isComment_entries_iff` : the comments of a migration.

A value with a newline cannot, and what follows the newline is carried out
(`MigrationPlan.not_isComment_moodPlan`).
-/
import SchemaDdl.Proofs.Drift.ChangeList
import SchemaDdl.Proofs.Text.Comment

namespace SchemaDdl.Drift

open Text

/-! ## Changes of columns -/

/-- The texts of both schemas in the words for a change of an attribute. -/
def ColumnChange.texts : ColumnChange → List String
  | .type desired live => [live, desired]
  | .default desired live => [live, desired]
  | _ => []

/-- A truth value can stand in a comment. -/
theorem keepsComment_boolWord (b : Bool) : KeepsComment (boolWord b) := by
  cases b <;> decide

/-- The words for a change of an attribute can stand in a comment if its texts can. -/
theorem ColumnChange.keepsComment_describe_iff (change : ColumnChange) :
    KeepsComment change.describe ↔ ∀ text ∈ change.texts, KeepsComment text := by
  have hfromTo : ∀ opening live desired : String, '\n' ∉ opening.toList →
      (KeepsComment (opening ++ live ++ " -> " ++ desired) ↔
        KeepsComment live ∧ KeepsComment desired) := by
    intro opening live desired hopening
    rw [keepsComment_append_word_append (by simp [IsWord]), keepsComment_append hopening]
  have hflag : ∀ (opening : String) (live desired : Bool), '\n' ∉ opening.toList →
      KeepsComment (opening ++ boolWord live ++ " -> " ++ boolWord desired) :=
    fun opening live desired hopening => (hfromTo opening _ _ hopening).mpr
      ⟨keepsComment_boolWord live, keepsComment_boolWord desired⟩
  cases change with
  | type desired live =>
    rw [describe, hfromTo "type " live desired (by simp)]
    simp [texts]
  | default desired live =>
    rw [describe, keepsComment_append_word (by simp [IsWord]),
      keepsComment_append_word_append (by simp [IsWord]), keepsComment_append (by simp)]
    simp [texts]
  | nullable desired live => exact iff_of_true (hflag _ _ _ (by simp)) (by simp [texts])
  | primary desired live => exact iff_of_true (hflag _ _ _ (by simp)) (by simp [texts])
  | unique desired live => exact iff_of_true (hflag _ _ _ (by simp)) (by simp [texts])

/-- The texts of both schemas in the words for the changes of a column. -/
def ColumnDiff.texts (d : ColumnDiff) : List String :=
  d.changes.flatMap ColumnChange.texts

/-- The words for the changes of a column can stand in a comment if its texts can. -/
theorem ColumnDiff.keepsComment_describe_iff (d : ColumnDiff) :
    KeepsComment d.describe ↔ ∀ text ∈ d.texts, KeepsComment text := by
  rw [describe, keepsComment_intercalate, texts, List.forall_mem_map, List.forall_mem_flatMap]
  exact forall₂_congr fun change _ => change.keepsComment_describe_iff

/-! ## Comments -/

namespace MigrationPlan

/-- The notice about an enum type that is written out in its columns. -/
theorem isComment_enumAddedEntry_iff {m : MigrationPlan} {e : EnumType}
    (h : m.dialect.profile.createEnum e = none) :
    IsComment (m.enumAddedEntry e) ↔
      KeepsComment e.name ∧ ∀ value ∈ e.values, KeepsComment value := by
  unfold enumAddedEntry
  rw [h, Option.getD_none, isComment_append_word (by simp [IsWord]),
    isComment_append_word_append (by simp [IsWord]),
    isComment_append (by simp [commentMark]), keepsComment_intercalate]

/-- The comment for a value that an enum type without statements is to get. -/
theorem isComment_valueAddedEntry_iff {m : MigrationPlan} {enumName value : String}
    (h : m.dialect.profile.addEnumValue enumName value = none) :
    IsComment (m.valueAddedEntry enumName value) ↔
      KeepsComment value ∧ KeepsComment enumName := by
  unfold valueAddedEntry
  rw [h, Option.getD_none, isComment_append_word (by simp [IsWord]),
    isComment_append_word_append (by simp [IsWord]), isComment_append (by simp [commentMark])]

/-- The warning about a value. -/
theorem isComment_valueRemovedEntry_iff (enumName value : String) :
    IsComment (valueRemovedEntry enumName value) ↔
      KeepsComment enumName ∧ KeepsComment value := by
  unfold valueRemovedEntry
  rw [isComment_append_word (by simp [IsWord]),
    isComment_append_word_append (by simp [IsWord]), isComment_append (by simp [commentMark])]

/-- The warning about an enum type. -/
theorem isComment_enumRemovedEntry_iff (name : String) :
    IsComment (enumRemovedEntry name) ↔ KeepsComment name := by
  unfold enumRemovedEntry
  rw [isComment_append_word (by simp [IsWord]), isComment_append (by simp [commentMark])]

/-- The warning about a table. -/
theorem isComment_tableRemovedEntry_iff (name : String) :
    IsComment (tableRemovedEntry name) ↔ KeepsComment name := by
  unfold tableRemovedEntry
  rw [isComment_append_word (by simp [IsWord]), isComment_append (by simp [commentMark])]

/-- The comment for a column that is to be added and is not declared. -/
theorem isComment_columnTodo_iff (table column : String) :
    IsComment ("-- TODO: add column " ++ table ++ "." ++ column) ↔
      KeepsComment table ∧ KeepsComment column := by
  rw [isComment_append_word_append (by simp [IsWord]), isComment_append (by simp [commentMark])]

/-- The comment for a column that is to be modified. -/
theorem isComment_columnModifiedTodo_iff (table : String) (d : ColumnDiff) :
    IsComment (columnModifiedTodo table d) ↔
      (KeepsComment table ∧ KeepsComment d.column) ∧ ∀ text ∈ d.texts, KeepsComment text := by
  unfold columnModifiedTodo
  rw [isComment_append_word (by simp [IsWord]),
    isComment_append_word_append (by simp [IsWord]),
    isComment_append_word_append (by simp [IsWord]),
    isComment_append (by simp [commentMark]), d.keepsComment_describe_iff]

/-- The warning about a column. -/
theorem isComment_columnRemovedEntry_iff (table column : String) :
    IsComment (columnRemovedEntry table column) ↔
      KeepsComment table ∧ KeepsComment column := by
  unfold columnRemovedEntry
  rw [isComment_append_word (by simp [IsWord]),
    isComment_append_word_append (by simp [IsWord]), isComment_append (by simp [commentMark])]

/-- The comment for an index that is to be created. -/
theorem isComment_indexTodo_iff (name table : String) :
    IsComment ("-- TODO: create index " ++ name ++ " on " ++ table) ↔
      KeepsComment name ∧ KeepsComment table := by
  rw [isComment_append_word_append (by simp [IsWord]), isComment_append (by simp [commentMark])]

/-! ## The comment of a change -/

/-- The texts of both schemas in the comment that a change becomes, or nothing if it
becomes a statement. -/
def commentTexts? (m : MigrationPlan) : Change → Option (List String)
  | .enumAdded name => (m.schema.enum? name).bind fun e =>
    if (m.dialect.profile.createEnum e).isSome then none else some (e.name :: e.values)
  | .valueAdded enumName value =>
    if (m.dialect.profile.addEnumValue enumName value).isSome then none
    else some [value, enumName]
  | .valueRemoved enumName value => some [enumName, value]
  | .tableAdded _ => none
  | .columnAdded table column =>
    match m.declared? table column with
    | some (_, f) =>
      if m.emitStatements then none else some [table, column, (f.resolveType m.dialect).dataType]
    | none => some [table, column]
  | .columnModified table d =>
    if m.emitStatements && (m.declared? table d.column).isSome then none
    else some (table :: d.column :: d.texts)
  | .columnRemoved table column => some [table, column]
  | .indexAdded i =>
    if m.emitStatements && (m.declaredIndex? i).isSome then none else some [i.name, i.table]
  | .indexRemoved _ => none
  | .tableRemoved name => some [name]
  | .enumRemoved name => some [name]

variable {m : MigrationPlan} {entry : String} {texts : List String}

/-- The comment for a column that is to be added. -/
theorem isComment_columnAddedEntry_iff {table column : String}
    (hentry : m.columnAddedEntry table column = .ok entry)
    (htexts : m.commentTexts? (.columnAdded table column) = some texts) :
    IsComment entry ↔ ∀ text ∈ texts, KeepsComment text := by
  unfold columnAddedEntry at hentry
  unfold commentTexts? at htexts
  cases hdeclared : m.declared? table column with
  | none =>
    simp only [hdeclared, Except.ok.injEq, Option.some.injEq] at hentry htexts
    rw [← hentry, ← htexts, isComment_columnTodo_iff]
    simp
  | some declared =>
    simp only [hdeclared, Option.ite_none_left_eq_some, Option.some.injEq] at hentry htexts
    obtain ⟨hemit, rfl⟩ := htexts
    rw [if_neg hemit, Except.ok.injEq] at hentry
    rw [← hentry, isComment_append_word_append (by simp [IsWord]), isComment_columnTodo_iff]
    simp [and_assoc]

/-- The comment for a column that is to be modified. -/
theorem isComment_columnModifiedEntry_iff {table : String} {d : ColumnDiff}
    (hentry : m.columnModifiedEntry table d = .ok entry)
    (htexts : m.commentTexts? (.columnModified table d) = some texts) :
    IsComment entry ↔ ∀ text ∈ texts, KeepsComment text := by
  simp only [commentTexts?, Option.ite_none_left_eq_some, Option.some.injEq] at htexts
  obtain ⟨hleft, rfl⟩ := htexts
  rw [columnModifiedEntry_eq_todo hleft, Except.ok.injEq] at hentry
  rw [← hentry, isComment_columnModifiedTodo_iff, List.forall_mem_cons, List.forall_mem_cons,
    and_assoc]

/-- The comment for an index that is to be created. -/
theorem isComment_indexAddedEntry_iff {i : IndexName} (hentry : m.indexAddedEntry i = .ok entry)
    (htexts : m.commentTexts? (.indexAdded i) = some texts) :
    IsComment entry ↔ ∀ text ∈ texts, KeepsComment text := by
  simp only [commentTexts?, Option.ite_none_left_eq_some, Option.some.injEq] at htexts
  obtain ⟨hleft, rfl⟩ := htexts
  rw [indexAddedEntry_eq_todo hleft, Except.ok.injEq] at hentry
  rw [← hentry, isComment_indexTodo_iff]
  simp

/-- **The comment of a change.**  It is one exactly if all texts in it can stand in one. -/
theorem isComment_iff {change : Change} (hentry : m.entryOf? change = .ok (some entry))
    (htexts : m.commentTexts? change = some texts) :
    IsComment entry ↔ ∀ text ∈ texts, KeepsComment text := by
  cases change with
  | enumAdded name =>
    obtain ⟨e, he, hnotice⟩ := Option.bind_eq_some_iff.mp htexts
    simp only [Option.ite_none_left_eq_some, Option.some.injEq] at hnotice
    obtain ⟨hinline, rfl⟩ := hnotice
    rw [entryOf?, he, Option.map_some, Except.ok.injEq, Option.some.injEq] at hentry
    rw [← hentry, isComment_enumAddedEntry_iff (Option.not_isSome_iff_eq_none.mp hinline),
      List.forall_mem_cons]
  | valueAdded enumName value =>
    simp only [commentTexts?, Option.ite_none_left_eq_some, Option.some.injEq] at htexts
    obtain ⟨hinline, rfl⟩ := htexts
    rw [entryOf?, Except.ok.injEq, Option.some.injEq] at hentry
    rw [← hentry, isComment_valueAddedEntry_iff (Option.not_isSome_iff_eq_none.mp hinline)]
    simp
  | valueRemoved enumName value =>
    rw [entryOf?, Except.ok.injEq, Option.some.injEq] at hentry
    rw [commentTexts?, Option.some.injEq] at htexts
    rw [← hentry, ← htexts, isComment_valueRemovedEntry_iff]
    simp
  | tableAdded name => simp [commentTexts?] at htexts
  | columnAdded table column =>
    exact isComment_columnAddedEntry_iff (eq_of_map_some hentry) htexts
  | columnModified table d =>
    exact isComment_columnModifiedEntry_iff (eq_of_map_some hentry) htexts
  | columnRemoved table column =>
    rw [entryOf?, Except.ok.injEq, Option.some.injEq] at hentry
    rw [commentTexts?, Option.some.injEq] at htexts
    rw [← hentry, ← htexts, isComment_columnRemovedEntry_iff]
    simp
  | indexAdded i => exact isComment_indexAddedEntry_iff (eq_of_map_some hentry) htexts
  | indexRemoved i => simp [commentTexts?] at htexts
  | tableRemoved name =>
    rw [entryOf?, Except.ok.injEq, Option.some.injEq] at hentry
    rw [commentTexts?, Option.some.injEq] at htexts
    rw [← hentry, ← htexts, isComment_tableRemovedEntry_iff, List.forall_mem_singleton]
  | enumRemoved name =>
    rw [entryOf?, Except.ok.injEq, Option.some.injEq] at hentry
    rw [commentTexts?, Option.some.injEq] at htexts
    rw [← hentry, ← htexts, isComment_enumRemovedEntry_iff, List.forall_mem_singleton]

/-- **The comments of a migration.**  For every desired and live schema the migration is
written, and each of its entries that is left to people is a comment exactly if all texts
of the schemas in it can stand in one. -/
theorem isComment_entries_iff (m : MigrationPlan) (live : LiveSchema) :
    ∃ entries, m.entries (m.diff live) = .ok entries ∧
      List.Forall₂ (fun change entry => m.entryOf? change = .ok (some entry) ∧
          ∀ texts ∈ m.commentTexts? change,
            (IsComment entry ↔ ∀ text ∈ texts, KeepsComment text))
        (m.diff live).changes entries := by
  obtain ⟨entries, hentries, hchanges⟩ := m.exists_entries_diff live
  exact ⟨entries, hentries, hchanges.imp fun change entry hentry =>
    ⟨hentry, fun texts htexts => isComment_iff hentry htexts⟩⟩

/-- The plan for moods of which there is one. -/
def moodPlan : MigrationPlan where
  schema := ⟨[], [], [⟨"mood", ["happy"]⟩]⟩
  dialect := .postgres
  emitStatements := false

/-- A database with a mood of two lines. -/
def moodCatalog : LiveSchema :=
  ⟨[], [], [⟨"mood", ["happy", "sad\nDROP TABLE people;"]⟩]⟩

/-- The second line of a value is not part of the warning about it. -/
theorem not_isComment_moodPlan :
    moodPlan.entries (moodPlan.diff moodCatalog) =
        .ok [valueRemovedEntry "mood" "sad\nDROP TABLE people;"] ∧
      ¬ IsComment (valueRemovedEntry "mood" "sad\nDROP TABLE people;") := by
  have hvalue : ¬ KeepsComment "sad\nDROP TABLE people;" := by decide
  refine ⟨by decide +kernel, ?_⟩
  rw [isComment_valueRemovedEntry_iff, not_and_or]
  exact .inr hvalue

end MigrationPlan

end SchemaDdl.Drift
