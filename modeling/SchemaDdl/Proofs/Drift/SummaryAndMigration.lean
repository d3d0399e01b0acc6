/-
# Summaries and migrations

A summary and a migration go through the same difference on their own.  Both speak of the
same changes in the same order, and neither has anything to say where nothing changes:

* `changes_compare_eq_nil_iff` : a comparison finds changes exactly if there is one in the
  list;
* `Change.beginsWith_warning` : what would lose data becomes a warning;
* `lines_entries_correspond` : line by line and entry by entry, the changes are the same.
-/
import SchemaDdl.Proofs.Command.Check
import SchemaDdl.Proofs.Drift.ChangeList

namespace SchemaDdl.Drift

/-! ## When there are changes -/

/-- An enum type that is reported has a change. -/
theorem changes_ne_nil_of_enumDiff? {e : EnumType} {lists : List (List String)} {d : EnumDiff}
    (h : enumDiff? e lists = some d) : d.changes ≠ [] := by
  simp only [enumDiff?] at h
  split at h
  · simp at h
  · rename_i hvalues
    rw [← Option.some.inj h]
    simpa [EnumDiff.changes] using hvalues

/-- A table with changes has one in its list. -/
theorem TableDiff.changes_ne_nil {d : TableDiff} (h : d.hasChanges = true) :
    d.changes ≠ [] := by
  intro hnil
  simp only [changes, List.append_eq_nil_iff, List.map_eq_nil_iff] at hnil
  obtain ⟨⟨hadded, hmodified⟩, hremoved⟩ := hnil
  have hnone : d.hasChanges = false :=
    d.hasChanges_eq_false_iff.mpr ⟨hadded, hremoved, hmodified⟩
  rw [hnone] at h
  simp at h

/-- An enum type that a comparison reports has a change. -/
theorem changes_ne_nil_of_mem_enumsModified {s : DesiredSchema} {live : LiveSchema}
    {d : Dialect} {e : EnumDiff} (h : e ∈ (compare s live d).enumsModified) :
    e.changes ≠ [] := by
  obtain ⟨declared, _, hdiff⟩ := List.mem_filterMap.mp h
  unfold declaredEnumDiff? at hdiff
  split at hdiff
  · exact changes_ne_nil_of_enumDiff? hdiff
  · split at hdiff
    · exact changes_ne_nil_of_enumDiff? hdiff
    · simp at hdiff

/-- A table that a comparison reports has a change. -/
theorem changes_ne_nil_of_mem_tablesModified {s : DesiredSchema} {live : LiveSchema}
    {d : Dialect} {t : TableDiff} (h : t ∈ (compare s live d).tablesModified) :
    t.changes ≠ [] := by
  obtain ⟨desired, _, hdiff⟩ := List.mem_filterMap.mp h
  obtain ⟨l, _, hchanges, rfl⟩ := tableDiff?_eq_some_iff.mp hdiff
  exact TableDiff.changes_ne_nil hchanges

/-- A comparison finds changes exactly if there is one in the list. -/
theorem changes_compare_eq_nil_iff (s : DesiredSchema) (live : LiveSchema) (d : Dialect) :
    (compare s live d).changes = [] ↔ (compare s live d).hasChanges = false := by
  have henums : (compare s live d).enumsModified.flatMap EnumDiff.changes = [] ↔
      (compare s live d).enumsModified = [] := by
    rw [List.flatMap_eq_nil_iff, List.eq_nil_iff_forall_not_mem]
    exact forall₂_congr fun e he => iff_of_false (changes_ne_nil_of_mem_enumsModified he) id
  have htables : (compare s live d).tablesModified.flatMap TableDiff.changes = [] ↔
      (compare s live d).tablesModified = [] := by
    rw [List.flatMap_eq_nil_iff, List.eq_nil_iff_forall_not_mem]
    exact forall₂_congr fun t ht => iff_of_false (changes_ne_nil_of_mem_tablesModified ht) id
  rw [SchemaDiff.hasChanges_eq_false_iff, SchemaDiff.changes]
  simp only [List.append_eq_nil_iff, List.map_eq_nil_iff, henums, htables]
  tauto

/-! ## Summaries -/

/-- The mark of a change: a plus for what is added, a minus for what is removed as a whole,
and a tilde for what is modified. -/
def Change.mark : Change → Char
  | .enumAdded _ => '+'
  | .tableAdded _ => '+'
  | .indexAdded _ => '+'
  | .indexRemoved _ => '-'
  | .tableRemoved _ => '-'
  | .enumRemoved _ => '-'
  | _ => '~'

/-- A line starts with the mark of its change. -/
theorem Change.head?_line (change : Change) : change.line.toList.head? = some change.mark := by
  cases change <;> dsimp only [line, mark] <;>
    simp only [String.toList_append, List.append_assoc] <;> rfl

/-- Lines of changes are not the words that there are none, which start with no mark. -/
theorem terminated_lines_ne_upToDate {d : SchemaDiff} (h : d.changes ≠ []) :
    Renderer.terminated d.lines ≠ "schema is up to date\n" := by
  intro hsame
  obtain ⟨first, rest, hchanges⟩ := List.exists_cons_of_ne_nil h
  have hhead : (Renderer.terminated d.lines).toList.head? = some first.mark := by
    rw [d.lines_eq, hchanges, Renderer.terminated, List.map_cons, List.map_cons,
      String.join_cons, String.toList_append, String.toList_append, List.append_assoc,
      List.head?_append, first.head?_line, Option.some_or]
  have hword : "schema is up to date\n".toList.head? = some 's' := by decide
  rw [hsame, hword] at hhead
  cases first <;> simp [Change.mark] at hhead

/-- With changes a summary is made of its lines. -/
theorem SchemaDiff.summary_of_hasChanges {d : SchemaDiff} (h : d.hasChanges = true) :
    d.summary = Renderer.terminated d.lines := by
  rw [summary, if_pos h]
  rfl

/-- The summary of a comparison says that nothing changes exactly if nothing does. -/
theorem summary_compare_eq_upToDate_iff (s : DesiredSchema) (live : LiveSchema) (d : Dialect) :
    (compare s live d).summary = "schema is up to date\n" ↔
      (compare s live d).hasChanges = false := by
  constructor
  · intro hsummary
    by_contra hchanges
    rw [Bool.not_eq_false] at hchanges
    have hlisted : (compare s live d).changes ≠ [] := by
      rw [ne_eq, changes_compare_eq_nil_iff, hchanges]
      simp
    rw [SchemaDiff.summary_of_hasChanges hchanges] at hsummary
    exact terminated_lines_ne_upToDate hlisted hsummary
  · intro hnone
    rw [SchemaDiff.summary, hnone]
    rfl

/-! ## Warnings -/

/-- A change that would lose data: an enum type, a value, a table or a column is removed. -/
def Change.losesData : Change → Bool
  | .valueRemoved _ _ => true
  | .columnRemoved _ _ => true
  | .tableRemoved _ => true
  | .enumRemoved _ => true
  | _ => false

/-- The words that open a warning. -/
def warningOpening : String := "-- WARNING"

/-- What would lose data becomes a warning. -/
theorem Change.beginsWith_warning {m : MigrationPlan} {change : Change} {entry : String}
    (hloss : change.losesData = true) (hentry : m.entryOf? change = .ok (some entry)) :
    Text.beginsWith entry warningOpening = true := by
  cases change with
  | valueRemoved enumName value =>
    rw [← Option.some.inj (Except.ok.inj hentry)]
    unfold MigrationPlan.valueRemovedEntry
    iterate 4 apply Text.beginsWith_append
    decide
  | columnRemoved table column =>
    rw [← Option.some.inj (Except.ok.inj hentry)]
    unfold MigrationPlan.columnRemovedEntry
    iterate 4 apply Text.beginsWith_append
    decide
  | tableRemoved name =>
    rw [← Option.some.inj (Except.ok.inj hentry)]
    unfold MigrationPlan.tableRemovedEntry
    iterate 2 apply Text.beginsWith_append
    decide
  | enumRemoved name =>
    rw [← Option.some.inj (Except.ok.inj hentry)]
    unfold MigrationPlan.enumRemovedEntry
    iterate 2 apply Text.beginsWith_append
    decide
  | _ => simp [losesData] at hloss

/-! ## Line by line and entry by entry -/

/-- A migration has no entries exactly if nothing changes. -/
theorem entries_diff_eq_nil_iff (m : MigrationPlan) (live : LiveSchema) :
    m.entries (m.diff live) = .ok [] ↔ (m.diff live).hasChanges = false := by
  obtain ⟨entries, hentries, hchanges⟩ := m.exists_entries_diff live
  have hlength := hchanges.length_eq
  rw [hentries, Except.ok.injEq, ← changes_compare_eq_nil_iff, ← List.length_eq_zero_iff,
    ← List.length_eq_zero_iff, ← hlength]

/-- **The summary and the migration.**  For every desired and live schema the migration is
written, and it has as many entries as the summary has lines: those of the same changes in
the same order, where what would lose data is a warning.  If there are changes, the
summary is these lines; the summary says that there are none, the migration is empty, and a
check of the two schemas succeeds, exactly if there are none. -/
theorem lines_entries_correspond (m : MigrationPlan) (live : LiveSchema) :
    (∃ entries, m.entries (m.diff live) = .ok entries ∧
      entries.length = (m.diff live).lines.length ∧
      (m.diff live).lines = (m.diff live).changes.map Change.line ∧
      List.Forall₂ (fun change entry => m.entryOf? change = .ok (some entry) ∧
          (change.losesData = true → Text.beginsWith entry warningOpening = true))
        (m.diff live).changes entries) ∧
    ((m.diff live).hasChanges = true →
      (m.diff live).summary = Renderer.terminated (m.diff live).lines) ∧
    ((m.diff live).summary = "schema is up to date\n" ↔ (m.diff live).hasChanges = false) ∧
    (m.entries (m.diff live) = .ok [] ↔ (m.diff live).hasChanges = false) ∧
    ∀ (files : Command.Directory) (schemaPath livePath : String) (metadata : Metadata),
      files.metadata? schemaPath = some metadata → metadata.schema = m.schema →
      files.catalog? livePath = some live →
      (((Command.run Command.directoryAccess
            (.run m.dialect (.check schemaPath livePath))).run files).1 = .printed "" ↔
        (m.diff live).hasChanges = false) := by
  obtain ⟨entries, hentries, hchanges⟩ := m.exists_entries_diff live
  refine ⟨⟨entries, hentries, ?_, (m.diff live).lines_eq, ?_⟩,
    SchemaDiff.summary_of_hasChanges, summary_compare_eq_upToDate_iff m.schema live m.dialect,
    entries_diff_eq_nil_iff m live, ?_⟩
  · rw [(m.diff live).lines_eq, List.length_map, hchanges.length_eq]
  · exact hchanges.imp fun change entry hentry =>
      ⟨hentry, fun hloss => Change.beginsWith_warning hloss hentry⟩
  · intro files schemaPath livePath metadata hmetadata hschema hlive
    rw [Command.run_check hmetadata hlive, hschema, Command.checkOutcome]
    cases (m.diff live).hasChanges <;> simp [Command.Outcome.printed]

/-- Posts are asked for. -/
def postsMetadata : Metadata :=
  ⟨[], [⟨"Post", "posts", none, none, []⟩], [], [], []⟩

/-- There are drafts only. -/
def draftsCatalog : LiveSchema :=
  ⟨[⟨"drafts", []⟩], [], []⟩

/-- Both as documents. -/
def draftsFiles : Command.Directory := .ofFiles
  [("schema.json", "\x7b\"tables\":[\x7b\"struct_name\":\"Post\",\"name\":\"posts\"\x7d]\x7d"),
    ("live.json", "\x7b\"tables\":[\x7b\"name\":\"drafts\"\x7d]\x7d")]

/-- The migration from drafts to posts. -/
def postsPlan : MigrationPlan :=
  ⟨postsMetadata.schema, .postgres, false⟩

/-- From drafts to posts there are two changes, which are the lines of the summary, and a
check of the documents fails. -/
theorem check_draftsFiles_ne_printed :
    (postsPlan.diff draftsCatalog).hasChanges = true ∧
      (postsPlan.diff draftsCatalog).summary = "+ table posts\n- table drafts\n" ∧
      draftsFiles.metadata? "schema.json" = some postsMetadata ∧
      draftsFiles.catalog? "live.json" = some draftsCatalog ∧
      ((Command.run Command.directoryAccess
        (.run postsPlan.dialect (.check "schema.json" "live.json"))).run draftsFiles).1 ≠
          .printed "" := by
  have hchanges : (postsPlan.diff draftsCatalog).hasChanges = true := by decide +kernel
  have hmetadata : draftsFiles.metadata? "schema.json" = some postsMetadata := by
    decide +kernel
  have hcatalog : draftsFiles.catalog? "live.json" = some draftsCatalog := by decide +kernel
  obtain ⟨_, hsummary, _, _, hcheck⟩ := lines_entries_correspond postsPlan draftsCatalog
  refine ⟨hchanges, ?_, hmetadata, hcatalog, ?_⟩
  · rw [hsummary hchanges]
    decide +kernel
  · rw [ne_eq, hcheck draftsFiles "schema.json" "live.json" postsMetadata hmetadata rfl hcatalog,
      hchanges]
    exact Bool.noConfusion

end SchemaDdl.Drift
