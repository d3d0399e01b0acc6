/-
# Indexes by name

An index belongs to a table, and some engines let indexes of different tables share a name.  A
comparison tells indexes apart by their names alone:

* `mem_indexesAdded_iff_isMissing`, `mem_indexesRemoved_iff_isLeftOver` : an index that is on one
  side only is listed unless the other side has its name on some other table;
* `indexes_listedByName` : where no name changes its table between the sides, all indexes that
  are on one side only are listed.

Where a name does, an index can be missing and another left over without any change to report
(`hasChanges_customersSchema`).
-/
import SchemaDdl.Proofs.Drift.Classification

namespace SchemaDdl.Drift

/-! ## Indexes on one side only -/

/-- The name of a declared index and its table. -/
def IndexName.ofDeclared (i : DesiredIndex) : IndexName :=
  ⟨i.directive.name, i.table⟩

/-- A declared index is missing: no live index has its name and its table. -/
def IsMissing (s : DesiredSchema) (live : LiveSchema) (n : IndexName) : Prop :=
  n ∈ s.indexes.map .ofDeclared ∧ n ∉ live.indexes.map .ofLive

/-- A live index is left over: it stands behind no key, its table stays, and no declared index
has its name and its table. -/
def IsLeftOver (s : DesiredSchema) (live : LiveSchema) (n : IndexName) : Prop :=
  (∃ j ∈ live.indexes, n = .ofLive j ∧ ¬ImpliedByKey s j) ∧
    n.table ∉ tablesRemoved s live ∧ n ∉ s.indexes.map .ofDeclared

/-- A name that both sides have is one of indexes of the same table. -/
def KeepsTables (s : DesiredSchema) (live : LiveSchema) : Prop :=
  ∀ i ∈ s.indexes, ∀ j ∈ live.indexes, i.directive.name = j.name → i.table = j.table

/-! ## What is listed -/

/-- An index whose name is not live is not live. -/
theorem IndexName.not_mem_live {live : LiveSchema} {n : IndexName}
    (h : n.name ∉ live.indexes.map LiveIndex.name) : n ∉ live.indexes.map .ofLive := by
  intro hlive
  obtain ⟨j, hj, rfl⟩ := List.mem_map.mp hlive
  exact h (List.mem_map_of_mem hj)

/-- An index whose name is not declared is not declared. -/
theorem IndexName.not_mem_declared {s : DesiredSchema} {n : IndexName}
    (h : n.name ∉ s.indexes.map (·.directive.name)) : n ∉ s.indexes.map .ofDeclared := by
  intro hdeclared
  obtain ⟨i, hi, rfl⟩ := List.mem_map.mp hdeclared
  exact h (List.mem_map.mpr ⟨i, hi, rfl⟩)

/-- The indexes to create are the missing ones whose name is not live on another table. -/
theorem mem_indexesAdded_iff_isMissing (s : DesiredSchema) (live : LiveSchema) (n : IndexName) :
    n ∈ indexesAdded s live ↔ IsMissing s live n ∧ n.name ∉ live.indexes.map LiveIndex.name := by
  rw [mem_indexesAdded_iff]
  constructor
  · rintro ⟨i, hi, hnew, rfl⟩
    have hname : i.directive.name ∉ live.indexes.map LiveIndex.name := by
      intro hlive
      obtain ⟨j, hj, hsame⟩ := List.mem_map.mp hlive
      exact hnew j hj hsame
    exact ⟨⟨List.mem_map_of_mem hi, IndexName.not_mem_live hname⟩, hname⟩
  · rintro ⟨⟨hdeclared, _⟩, hname⟩
    obtain ⟨i, hi, rfl⟩ := List.mem_map.mp hdeclared
    refine ⟨i, hi, ?_, rfl⟩
    intro j hj hsame
    exact hname (List.mem_map.mpr ⟨j, hj, hsame⟩)

/-- The indexes to drop are those left over whose name is not declared on another table. -/
theorem mem_indexesRemoved_iff_isLeftOver (s : DesiredSchema) (live : LiveSchema)
    (n : IndexName) :
    n ∈ indexesRemoved s live ↔
      IsLeftOver s live n ∧ n.name ∉ s.indexes.map (·.directive.name) := by
  simp only [mem_indexesRemoved_iff, isStale_iff_impliedByKey]
  constructor
  · rintro ⟨j, hj, ⟨hnew, hkey, htable⟩, rfl⟩
    have hname : j.name ∉ s.indexes.map (·.directive.name) := by
      intro hdeclared
      obtain ⟨i, hi, hsame⟩ := List.mem_map.mp hdeclared
      exact hnew i hi hsame
    exact ⟨⟨⟨j, hj, rfl, hkey⟩, htable, IndexName.not_mem_declared hname⟩, hname⟩
  · rintro ⟨⟨⟨j, hj, rfl, hkey⟩, htable, _⟩, hname⟩
    refine ⟨j, hj, ⟨?_, hkey, htable⟩, rfl⟩
    intro i hi hsame
    exact hname (List.mem_map.mpr ⟨i, hi, hsame⟩)

section KeepsTables

variable {s : DesiredSchema} {live : LiveSchema} (h : KeepsTables s live) {n : IndexName}

include h

/-- Where names keep their tables, the name of a missing index is not live. -/
theorem KeepsTables.not_mem_of_isMissing (hn : IsMissing s live n) :
    n.name ∉ live.indexes.map LiveIndex.name := by
  obtain ⟨hdeclared, hmissing⟩ := hn
  obtain ⟨i, hi, rfl⟩ := List.mem_map.mp hdeclared
  intro hlive
  obtain ⟨j, hj, hname⟩ := List.mem_map.mp hlive
  have htable := h i hi j hj hname.symm
  have hsame : IndexName.ofLive j = .ofDeclared i := by
    rw [IndexName.ofLive, IndexName.ofDeclared, hname, htable]
    rfl
  exact hmissing (hsame ▸ List.mem_map_of_mem hj)

/-- Where names keep their tables, the name of an index that is left over is not declared. -/
theorem KeepsTables.not_mem_of_isLeftOver (hn : IsLeftOver s live n) :
    n.name ∉ s.indexes.map (·.directive.name) := by
  obtain ⟨⟨j, hj, rfl, _⟩, _, hundeclared⟩ := hn
  intro hdeclared
  obtain ⟨i, hi, hname⟩ := List.mem_map.mp hdeclared
  have htable := h i hi j hj hname
  have hsame : IndexName.ofDeclared i = .ofLive j := by
    rw [IndexName.ofLive, IndexName.ofDeclared, hname, htable]
    rfl
  exact hundeclared (hsame ▸ List.mem_map_of_mem hi)

end KeepsTables

/-- **Indexes by name.**  A comparison lists the declared indexes whose name is not live and, of
the live ones that stand behind no key and whose table stays, those whose name is not declared.
These are all indexes that are missing or left over wherever a name on both sides is one of
indexes of the same table. -/
theorem indexes_listedByName (s : DesiredSchema) (live : LiveSchema) (d : Dialect) :
    (∀ n, n ∈ (compare s live d).indexesAdded ↔
      IsMissing s live n ∧ n.name ∉ live.indexes.map LiveIndex.name) ∧
    (∀ n, n ∈ (compare s live d).indexesRemoved ↔
      IsLeftOver s live n ∧ n.name ∉ s.indexes.map (·.directive.name)) ∧
    (KeepsTables s live →
      (∀ n, n ∈ (compare s live d).indexesAdded ↔ IsMissing s live n) ∧
        ∀ n, n ∈ (compare s live d).indexesRemoved ↔ IsLeftOver s live n) := by
  have hadded := mem_indexesAdded_iff_isMissing s live
  have hremoved := mem_indexesRemoved_iff_isLeftOver s live
  refine ⟨hadded, hremoved, fun htables => ⟨fun n => ?_, fun n => ?_⟩⟩
  · exact (hadded n).trans (and_iff_left_of_imp htables.not_mem_of_isMissing)
  · exact (hremoved n).trans (and_iff_left_of_imp htables.not_mem_of_isLeftOver)

/-- Customers with an index over their regions, and orders without one. -/
def customersSchema : DesiredSchema where
  tables := [⟨⟨"Customer", "customers", none, none, []⟩, [Field.new "Customer" "region" "BIGINT"]⟩,
    ⟨⟨"Order", "orders", none, none, []⟩, [Field.new "Order" "region" "BIGINT"]⟩]
  indexes := [⟨"customers", ⟨"Customer", "by_region", ["region"], false, none, none⟩⟩]
  enums := []

/-- The same tables in a database, in which the orders have a further index. -/
def customersCatalog : LiveSchema where
  tables := [⟨"customers", [⟨"region", "bigint", none, true, false, false, none, false⟩]⟩,
    ⟨"orders", [⟨"region", "bigint", none, true, false, false, none, false⟩]⟩]
  indexes := [⟨"by_region", "customers", ["region"], false, false⟩,
    ⟨"order_region", "orders", ["region"], false, false⟩]
  enums := []

/-- The index of the customers is found under its name, and that of the orders is dropped. -/
theorem indexes_listedByName_customersSchema :
    KeepsTables customersSchema customersCatalog ∧
      IsLeftOver customersSchema customersCatalog ⟨"order_region", "orders"⟩ ∧
      ⟨"order_region", "orders"⟩ ∈
        (compare customersSchema customersCatalog .mysql).indexesRemoved := by
  have htables : KeepsTables customersSchema customersCatalog := by
    unfold KeepsTables
    decide
  obtain ⟨_, hremoved⟩ := (indexes_listedByName customersSchema customersCatalog .mysql).2.2 htables
  have hdropped : ⟨"order_region", "orders"⟩ ∈
      (compare customersSchema customersCatalog .mysql).indexesRemoved := by decide +kernel
  exact ⟨htables, (hremoved _).mp hdropped, hdropped⟩

/-- The same tables in a database that has the index on the orders in place of the customers. -/
def misplacedCatalog : LiveSchema where
  tables := customersCatalog.tables
  indexes := [⟨"by_region", "orders", ["region"], false, false⟩]
  enums := []

/-- An index of the same name on another table hides that the declared one is missing, and that
it is itself left over. -/
theorem hasChanges_customersSchema :
    IsMissing customersSchema misplacedCatalog ⟨"by_region", "customers"⟩ ∧
      IsLeftOver customersSchema misplacedCatalog ⟨"by_region", "orders"⟩ ∧
      (compare customersSchema misplacedCatalog .mysql).hasChanges = false := by
  have hkey : ¬ImpliedByKey customersSchema ⟨"by_region", "orders", ["region"], false, false⟩ := by
    simp [ImpliedByKey]
  refine ⟨⟨by decide, by decide⟩, ⟨⟨_, List.mem_singleton_self _, rfl, hkey⟩, ?_, by decide⟩, ?_⟩
  · decide +kernel
  · decide +kernel

end SchemaDdl.Drift
