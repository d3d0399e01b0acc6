/-
# The order of fields in a table

The fields of a struct become the columns of its table.  Those of the primary key are moved
to the front; none is lost, doubled or renamed on the way:

* `PrimaryFirst` : one list of fields as another, but for its primary fields, which come first;
* `primaryFirst_iff` : there is exactly one such list;
* `Metadata.columns_schema_primaryFirst` : the fields of each table and their columns.
-/
import Mathlib
import SchemaDdl.Entity.Statements

namespace SchemaDdl

/-! ## Two groups in a row -/

/-- Where no element of a group comes after one that is not in it, a list is made of the group
and of the others. -/
theorem filter_append_filter_not_of_pairwise {α : Type} {p : α → Bool} {xs : List α}
    (h : xs.Pairwise fun x y => p y → p x) : xs.filter p ++ xs.filter (!p ·) = xs := by
  induction h with
  | nil => rfl
  | @cons x rest hfirst _ ih =>
    cases hx : p x with
    | true => simp [hx, ih]
    | false =>
      -- None of the rest belongs to the group, as the first element does not.
      have hrest : ∀ y ∈ rest, p y = false := by
        intro y hy
        cases hy' : p y with
        | false => rfl
        | true => exact absurd (hfirst y hy hy') (by simp [hx])
      have hnone : rest.filter p = [] :=
        List.filter_eq_nil_iff.mpr fun y hy => by simp [hrest y hy]
      have hall : rest.filter (!p ·) = rest :=
        List.filter_eq_self.mpr fun y hy => by simp [hrest y hy]
      simp [hx, hnone, hall]

/-- Some fields have the primary ones of the declared fields first: they are the declared
fields in another order, no primary field comes after one that is not primary, and either
group keeps its order. -/
structure PrimaryFirst (primary : Field → Bool) (declared fields : List Field) : Prop where
  perm : fields.Perm declared
  noneAfterOther : fields.Pairwise fun f g => primary g = true → primary f = true
  primaries : fields.filter primary = declared.filter primary
  others : fields.filter (!primary ·) = declared.filter (!primary ·)

/-- The fields that have the primary ones first are the primary ones and then the others. -/
theorem primaryFirst_iff {primary : Field → Bool} {declared fields : List Field} :
    PrimaryFirst primary declared fields ↔
      fields = declared.filter primary ++ declared.filter (!primary ·) := by
  constructor
  · intro h
    calc fields = fields.filter primary ++ fields.filter (!primary ·) :=
          (filter_append_filter_not_of_pairwise h.noneAfterOther).symm
      _ = declared.filter primary ++ declared.filter (!primary ·) := by
          rw [h.primaries, h.others]
  · rintro rfl
    have hprimary : ∀ f ∈ declared.filter primary, primary f = true :=
      fun _ hf => (List.mem_filter.mp hf).2
    have hother : ∀ f ∈ declared.filter (!primary ·), ¬ primary f = true :=
      fun _ hf => by simpa using (List.mem_filter.mp hf).2
    refine ⟨List.filter_append_perm primary declared, ?_, ?_, ?_⟩
    · refine List.pairwise_append.mpr ⟨?_, ?_, ?_⟩
      · exact List.pairwise_of_forall_mem_list fun f hf _ _ _ => hprimary f hf
      · exact List.pairwise_of_forall_mem_list fun _ _ g hg hg' => absurd hg' (hother g hg)
      · exact fun f hf _ _ _ => hprimary f hf
    · simp [List.filter_append, List.filter_filter]
    · simp [List.filter_append, List.filter_filter]

/-! ## Tables -/

/-- A table has the fields of its struct, the primary ones first. -/
theorem DesiredTable.primaryFirst_ofDirective_iff (m : Metadata) (d : TableDirective)
    {fields : List Field} :
    PrimaryFirst d.isPrimary (m.allFieldsOf d.owner) fields ↔
      fields = (DesiredTable.ofDirective m d).fields :=
  primaryFirst_iff

/-- The columns of a table are those of its fields, one by one and under their names. -/
theorem DesiredTable.forall₂_columns (t : DesiredTable) (dialect : Dialect) :
    List.Forall₂ (fun f c => c.name = f.name ∧ c = t.column dialect f) t.fields
      (t.definition dialect).columns :=
  List.forall₂_map_right_iff.mpr (List.forall₂_same.mpr fun _ _ => ⟨rfl, rfl⟩)

/-- **The order of fields and columns.**  For each table directive there is one table, in
order.  Its fields are those of its struct in the only order in which no primary field comes
after one that is not primary and either group keeps its order, and its definition in a dialect
has one column for each field, in this order and with the name of the field. -/
theorem Metadata.columns_schema_primaryFirst (m : Metadata) (dialect : Dialect) :
    List.Forall₂ (fun d t => t.directive = d ∧
        (∀ fields, PrimaryFirst d.isPrimary (m.allFieldsOf d.owner) fields ↔ fields = t.fields) ∧
        List.Forall₂ (fun f c => c.name = f.name ∧ c = t.column dialect f) t.fields
          (t.definition dialect).columns)
      m.tables m.schema.tables :=
  List.forall₂_map_right_iff.mpr (List.forall₂_same.mpr fun d _ =>
    ⟨rfl, fun _ => DesiredTable.primaryFirst_ofDirective_iff m d,
      (DesiredTable.ofDirective m d).forall₂_columns dialect⟩)

end SchemaDdl
