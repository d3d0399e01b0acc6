/-
# The order in which tables are created

A foreign key can only be declared when the table that it refers to exists.  A migration
creates the tables that are missing in the order in which they are declared, whatever
they refer to:

* `DesiredTable.refersTo_iff` : a table refers to others by the references of its fields;
* `MigrationPlan.createsReferencedFirst_iff` : tables come after those that they refer to
  exactly if they are declared in such an order.

References without a cycle are not enough (`MigrationPlan.not_createsReferencedFirst_shopPlan`).
-/
import SchemaDdl.Proofs.Drift.ChangeList

namespace SchemaDdl

/-! ## References between tables -/

/-- A table refers to another one by a foreign key in its definition. -/
def DesiredTable.RefersTo (t : DesiredTable) (d : Dialect) (name : String) : Prop :=
  t.name ≠ name ∧ ∃ c ∈ Profile.writtenConstraints (t.definition d),
    c.reference.map Reference.table = some name

/-- The key list of a table is no foreign key. -/
theorem DesiredTable.reference_of_mem_constraints {t : DesiredTable} {c : Constraint}
    (h : c ∈ t.constraints) : c.reference = none := by
  rw [DesiredTable.constraints, Option.mem_toList] at h
  obtain ⟨key, _, rfl⟩ := Option.map_eq_some_iff.mp h
  rfl

/-- A table refers to others by the references of its fields, in every dialect alike. -/
theorem DesiredTable.refersTo_iff (t : DesiredTable) (d : Dialect) (name : String) :
    t.RefersTo d name ↔
      t.name ≠ name ∧ ∃ f ∈ t.fields, f.reference?.map Reference.table = some name := by
  refine and_congr_right fun _ => ?_
  constructor
  · rintro ⟨c, hc, hname⟩
    rcases List.mem_append.mp hc with hlisted | hcolumn
    · rw [t.reference_of_mem_constraints hlisted] at hname
      simp at hname
    · obtain ⟨column, hcolumns, hkey⟩ := List.mem_filterMap.mp hcolumn
      obtain ⟨f, hf, rfl⟩ := List.mem_map.mp hcolumns
      obtain ⟨reference, hreference, rfl⟩ := Option.map_eq_some_iff.mp hkey
      refine ⟨f, hf, ?_⟩
      have hfield : f.reference? = some reference := hreference
      rw [hfield]
      exact hname
  · rintro ⟨f, hf, hname⟩
    obtain ⟨reference, hreference, hname⟩ := Option.map_eq_some_iff.mp hname
    have hkey : (t.column d f).foreignKey? = some (.foreignKey [f.name] reference) :=
      congrArg (Option.map (Constraint.foreignKey [f.name])) hreference
    exact ⟨.foreignKey [f.name] reference,
      List.mem_append_right _ (List.mem_filterMap.mpr ⟨_, List.mem_map_of_mem hf, hkey⟩),
      congrArg some hname⟩

namespace Drift.MigrationPlan

variable (m : MigrationPlan)

/-! ## Created tables -/

/-- The table that a change creates. -/
def created? : Change → Option DesiredTable
  | .tableAdded name => m.schema.table? name
  | _ => none

/-- No table is created before another one that it refers to. -/
def CreatesReferencedFirst (changes : List Change) : Prop :=
  changes.Pairwise fun earlier later =>
    ∀ t, m.created? earlier = some t → ∀ t', m.created? later = some t' →
      ¬ t.RefersTo m.dialect t'.name

/-- The entry of a change that creates a table is the statement that does so. -/
theorem tableAddedEntry_of_created? {m : MigrationPlan} {change : Change} {t : DesiredTable}
    {entry : String} (hcreated : m.created? change = some t)
    (hentry : m.entryOf? change = .ok (some entry)) : m.tableAddedEntry t = .ok entry := by
  cases change with
  | tableAdded name =>
    have hfound : m.schema.table? name = some t := hcreated
    rw [entryOf?, hfound] at hentry
    exact eq_of_map_some hentry
  | _ => simp [created?] at hcreated

/-- The changes of a schema create the tables that are to be added, in their order. -/
theorem filterMap_created? (d : SchemaDiff) :
    d.changes.filterMap m.created? = d.tablesAdded.filterMap m.schema.table? := by
  have hnone : ∀ {α : Type} (xs : List α) (change : α → Change),
      (∀ x, m.created? (change x) = none) → (xs.map change).filterMap m.created? = [] := by
    intro α xs change hchange
    rw [List.filterMap_map, List.filterMap_eq_nil_iff]
    exact fun x _ => hchange x
  have henums : (d.enumsModified.flatMap EnumDiff.changes).filterMap m.created? = [] := by
    rw [List.filterMap_flatMap, List.flatMap_eq_nil_iff]
    intro e _
    rw [EnumDiff.changes, List.filterMap_append, hnone _ _ fun _ => rfl, hnone _ _ fun _ => rfl]
    rfl
  have htables : (d.tablesModified.flatMap TableDiff.changes).filterMap m.created? = [] := by
    rw [List.filterMap_flatMap, List.flatMap_eq_nil_iff]
    intro t _
    rw [TableDiff.changes, List.filterMap_append, List.filterMap_append,
      hnone _ _ fun _ => rfl, hnone _ _ fun _ => rfl, hnone _ _ fun _ => rfl]
    rfl
  have hcreated : (d.tablesAdded.map .tableAdded).filterMap m.created? =
      d.tablesAdded.filterMap m.schema.table? := by
    rw [List.filterMap_map]
    rfl
  rw [SchemaDiff.changes]
  simp only [List.filterMap_append, henums, htables, hcreated, List.nil_append, List.append_nil,
    hnone d.enumsAdded .enumAdded fun _ => rfl, hnone d.indexesAdded .indexAdded fun _ => rfl,
    hnone d.indexesRemoved .indexRemoved fun _ => rfl,
    hnone d.tablesRemoved .tableRemoved fun _ => rfl,
    hnone d.enumsRemoved .enumRemoved fun _ => rfl]

/-! ## The order of declarations -/

/-- A table that the database lacks refers to another one that it lacks. -/
def Needs (live : LiveSchema) (name needed : String) : Prop :=
  name ∈ tablesAdded m.schema live ∧ needed ∈ tablesAdded m.schema live ∧
    ∃ t, m.schema.table? name = some t ∧ t.RefersTo m.dialect needed

/-- No table that is missing needs itself by way of others. -/
def Acyclic (live : LiveSchema) : Prop :=
  ∀ name, ¬ Relation.TransGen (m.Needs live) name name

/-- No table is declared before one that it needs. -/
def DeclaresReferencedFirst (live : LiveSchema) : Prop :=
  (m.schema.tables.map DesiredTable.name).Pairwise fun earlier later =>
    ¬ m.Needs live earlier later

/-- The tables that are missing are created in the order in which they are declared. -/
theorem createsReferencedFirst_changes_iff (live : LiveSchema) :
    m.CreatesReferencedFirst (m.diff live).changes ↔ m.DeclaresReferencedFirst live := by
  -- Only the changes that create a table matter, and these are the missing names in order.
  rw [CreatesReferencedFirst, ← List.pairwise_filterMap, filterMap_created?,
    List.pairwise_filterMap, diff, compare, tablesAdded, List.pairwise_filter,
    DeclaresReferencedFirst]
  refine List.Pairwise.iff_of_mem fun {earlier later} hearlier hlater => ?_
  have hadded : ∀ name, name ∈ m.schema.tables.map DesiredTable.name →
      (name ∈ tablesAdded m.schema live ↔ (live.table? name).isNone = true) := by
    intro name hname
    rw [tablesAdded, List.mem_filter]
    exact and_iff_right hname
  rw [Needs, hadded earlier hearlier, hadded later hlater, not_and, not_and]
  refine forall₂_congr fun _ _ => ?_
  -- What is declared under a name is found under it.
  cases hfound : m.schema.table? later with
  | none => exact absurd hlater ((find?_key_eq_none_iff DesiredTable.name _ later).mp hfound)
  | some t' =>
    have hkey := List.find?_some hfound
    have hname : t'.name = later := beq_iff_eq.mp hkey
    simp [hname]

/-- **The order of creation.**  For every desired and live schema the migration is written,
its entries are those of the changes in their order, and a table is created by its
statement.  These statements come after those of all missing tables that they refer to
exactly if the tables are declared in such an order. -/
theorem createsReferencedFirst_iff (live : LiveSchema) :
    (∃ entries, m.entries (m.diff live) = .ok entries ∧
      List.Forall₂ (fun change entry => m.entryOf? change = .ok (some entry) ∧
          ∀ t ∈ m.created? change, m.tableAddedEntry t = .ok entry)
        (m.diff live).changes entries) ∧
    (m.CreatesReferencedFirst (m.diff live).changes ↔ m.DeclaresReferencedFirst live) := by
  obtain ⟨entries, hentries, hchanges⟩ := m.exists_entries_diff live
  refine ⟨⟨entries, hentries, ?_⟩, m.createsReferencedFirst_changes_iff live⟩
  exact hchanges.imp fun change entry hentry =>
    ⟨hentry, fun t ht => tableAddedEntry_of_created? ht hentry⟩

/-- Orders, which refer to customers. -/
def ordersTable : DesiredTable where
  directive := ⟨"Order", "orders", none, none, []⟩
  fields := [{ Field.new "Order" "customer_id" "BIGINT" with
    nullable := false, foreignKey := some "customers(id)" }]

/-- Customers. -/
def customersTable : DesiredTable where
  directive := ⟨"Customer", "customers", none, none, []⟩
  fields := [{ Field.new "Customer" "id" "BIGINT" with nullable := false, primary := true }]

/-- The plan for a shop, in which orders are declared before customers. -/
def shopPlan : MigrationPlan :=
  ⟨⟨[ordersTable, customersTable], [], []⟩, .postgres, false⟩

/-- Only orders refer to another table, which is that of customers. -/
theorem eq_of_needs_shopPlan {live : LiveSchema} {name needed : String}
    (h : shopPlan.Needs live name needed) : name = "orders" ∧ needed = "customers" := by
  obtain ⟨_, _, t, hfound, hrefers⟩ := h
  obtain ⟨_, f, hf, htarget⟩ := (t.refersTo_iff _ _).mp hrefers
  have hkey := List.find?_some hfound
  have hname : t.name = name := beq_iff_eq.mp hkey
  have ht : t ∈ [ordersTable, customersTable] := List.mem_of_find?_eq_some hfound
  have horders : ∀ f ∈ ordersTable.fields, f.reference?.map Reference.table = some "customers" := by
    decide +kernel
  have hcustomers : ∀ f ∈ customersTable.fields, f.reference?.map Reference.table = none := by
    decide +kernel
  rcases List.mem_pair.mp ht with rfl | rfl
  · rw [horders f hf, Option.some.injEq] at htarget
    exact ⟨hname.symm, htarget.symm⟩
  · rw [hcustomers f hf] at htarget
    simp at htarget

/-- In a new database orders are created before the customers that they refer to, although
there is no cycle. -/
theorem not_createsReferencedFirst_shopPlan :
    shopPlan.Acyclic .empty ∧
      ¬ shopPlan.CreatesReferencedFirst (shopPlan.diff .empty).changes := by
  constructor
  · -- The first table on a cycle would be that of orders and the last that of customers.
    intro name hcycle
    obtain ⟨_, hfirst, _⟩ := Relation.TransGen.head'_iff.mp hcycle
    obtain ⟨_, _, hlast⟩ := Relation.TransGen.tail'_iff.mp hcycle
    have horders := (eq_of_needs_shopPlan hfirst).1
    have hcustomers := (eq_of_needs_shopPlan hlast).2
    exact absurd (horders.symm.trans hcustomers) (by decide)
  · have hneeds : shopPlan.Needs .empty "orders" "customers" := by
      refine ⟨by decide, by decide, ordersTable, by decide, ?_⟩
      rw [DesiredTable.refersTo_iff]
      decide +kernel
    rw [createsReferencedFirst_changes_iff]
    intro hdeclared
    exact List.rel_of_pairwise_cons hdeclared (by simp [customersTable, DesiredTable.name]) hneeds

end Drift.MigrationPlan

end SchemaDdl
