/-
# Looking things up by name

Tables, fields, columns and enum types are looked up by their names, and the first of
several of one name counts.  Where the names are distinct, what is found under a name
is what bears it:

* `find?_key_eq_none_iff` : nothing is found under a name that nothing bears;
* `find?_key_eq_some_iff` : what is found under a name is the only thing that bears it;
* `filterMap_find?_map` : looking up the names of all elements gives the elements back;
* `mem_filter_isNone_find?_iff` : the names that are missing on the other side.
-/
import Mathlib
import SchemaDdl.Catalog.LiveSchema
import SchemaDdl.Entity.DesiredSchema

namespace SchemaDdl

/-! ## Lists with keys -/

section Keyed

variable {α κ : Type} [DecidableEq κ] (key : α → κ)

/-- Nothing is found under a key that no element has. -/
theorem find?_key_eq_none_iff (xs : List α) (k : κ) :
    xs.find? (fun x => key x == k) = none ↔ k ∉ xs.map key := by
  rw [List.find?_eq_none, List.mem_map]
  constructor
  · rintro h ⟨x, hx, hk⟩
    exact h x hx (beq_iff_eq.mpr hk)
  · intro h x hx hk
    exact h ⟨x, hx, beq_iff_eq.mp hk⟩

/-- An element is found under its key if no other element has that key. -/
theorem find?_key_of_mem {xs : List α} (hnodup : (xs.map key).Nodup) {x : α} (hx : x ∈ xs) :
    xs.find? (fun y => key y == key x) = some x := by
  induction xs with
  | nil => simp at hx
  | cons y rest ih =>
    rw [List.map_cons, List.nodup_cons] at hnodup
    rcases List.mem_cons.mp hx with rfl | hrest
    · rw [List.find?_cons_of_pos (by simp)]
    · have hne : ¬ key y = key x := by
        intro heq
        exact hnodup.1 (heq ▸ List.mem_map_of_mem hrest)
      rw [List.find?_cons_of_neg (by simpa using hne)]
      exact ih hnodup.2 hrest

/-- Where keys are distinct, what is found under a key is what has it. -/
theorem find?_key_eq_some_iff {xs : List α} (hnodup : (xs.map key).Nodup) (k : κ) (x : α) :
    xs.find? (fun y => key y == k) = some x ↔ x ∈ xs ∧ key x = k := by
  constructor
  · intro h
    have hkey := List.find?_some h
    exact ⟨List.mem_of_find?_eq_some h, beq_iff_eq.mp hkey⟩
  · rintro ⟨hx, rfl⟩
    exact find?_key_of_mem key hnodup hx

/-- Looking up the keys of all elements gives the elements back. -/
theorem filterMap_find?_map {xs : List α} (hnodup : (xs.map key).Nodup) :
    (xs.map key).filterMap (fun k => xs.find? (fun x => key x == k)) = xs := by
  rw [List.filterMap_map]
  have hfound : ∀ x ∈ xs, (xs.find? fun y => key y == key x) = some x :=
    fun x hx => find?_key_of_mem key hnodup hx
  rw [List.filterMap_congr (g := some) (by simpa using hfound), List.filterMap_some]

/-- The names that are kept because nothing is found under them. -/
theorem mem_filter_isNone_find?_iff (xs : List α) (names : List κ) (k : κ) :
    k ∈ names.filter (fun n => (xs.find? fun x => key x == n).isNone) ↔
      k ∈ names ∧ k ∉ xs.map key := by
  rw [List.mem_filter, Option.isNone_iff_eq_none, find?_key_eq_none_iff]

end Keyed

/-! ## Schemas whose names are distinct -/

/-- No two tables, no two enum types, and no two fields of one table share a name. -/
structure DesiredSchema.NamesDistinct (s : DesiredSchema) : Prop where
  tables : (s.tables.map DesiredTable.name).Nodup
  fields : ∀ t ∈ s.tables, (t.fields.map Field.name).Nodup
  enums : (s.enums.map EnumType.name).Nodup

/-- No two tables, no two enum types, and no two columns of one table share a name. -/
structure LiveSchema.NamesDistinct (s : LiveSchema) : Prop where
  tables : (s.tables.map LiveTable.name).Nodup
  columns : ∀ t ∈ s.tables, (t.columns.map LiveColumn.name).Nodup
  enums : (s.enums.map EnumType.name).Nodup

end SchemaDdl
