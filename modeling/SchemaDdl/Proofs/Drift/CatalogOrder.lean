/-
# The order of a catalog

A catalog reports tables, columns, indexes, enum types and values in some order.  Where names
are distinct, another order gives the same differences:

* `table?_rel`, `enum?_rel` : what is found under a name does not depend on the order;
* `tableDiff_sameButOrder`, `declaredEnumDiff?_rel` : what is compared with it does not either;
* `compare_sameButOrder` : all that is added and modified is the same, and what is removed is
  the same up to order.
-/
import SchemaDdl.Proofs.Drift.EnumValues

namespace SchemaDdl

/-! ## Catalogs in another order -/

/-- A list of things of which each is replaced by one that is related to it, and then put in
any order. -/
def ReorderedBy {α : Type} (R : α → α → Prop) (xs ys : List α) : Prop :=
  ∃ zs, List.Forall₂ R xs zs ∧ zs.Perm ys

/-- The same table with its columns in any order. -/
structure LiveTable.Reordered (t t' : LiveTable) : Prop where
  name : t.name = t'.name
  columns : t.columns.Perm t'.columns

/-- The same enum type with its values in any order. -/
structure EnumType.Reordered (e e' : EnumType) : Prop where
  name : e.name = e'.name
  values : e.values.Perm e'.values

/-- The same live schema with its tables, their columns, its indexes, its enum types and their
values in any order. -/
structure LiveSchema.Reordered (live live' : LiveSchema) : Prop where
  tables : ReorderedBy LiveTable.Reordered live.tables live'.tables
  indexes : live.indexes.Perm live'.indexes
  enums : ReorderedBy EnumType.Reordered live.enums live'.enums

/-! ## Looking things up in another order -/

section Keyed

variable {α κ : Type} {key : α → κ} {R : α → α → Prop} {xs ys : List α}

/-- Things that are related have the same keys. -/
theorem map_key_eq (hkey : ∀ x y, R x y → key x = key y) (h : List.Forall₂ R xs ys) :
    xs.map key = ys.map key := by
  induction h with
  | nil => rfl
  | cons hfirst _ ih => rw [List.map_cons, List.map_cons, hkey _ _ hfirst, ih]

/-- The keys are the same up to order. -/
theorem map_key_perm (hkey : ∀ x y, R x y → key x = key y) (h : ReorderedBy R xs ys) :
    (xs.map key).Perm (ys.map key) := by
  obtain ⟨zs, hrelated, hperm⟩ := h
  rw [map_key_eq hkey hrelated]
  exact hperm.map key

/-- Of two results that are related neither is missing alone. -/
theorem isNone_eq_of_rel {a b : Option α} (h : Option.Rel R a b) : a.isNone = b.isNone := by
  cases h <;> rfl

variable [DecidableEq κ]

/-- Where keys are distinct, the order does not matter for what is found. -/
theorem find?_key_perm (hnodup : (xs.map key).Nodup) (h : xs.Perm ys) (k : κ) :
    xs.find? (fun x => key x == k) = ys.find? (fun x => key x == k) := by
  have hnodup' : (ys.map key).Nodup := (h.map key).nodup_iff.mp hnodup
  refine Option.ext fun x => ?_
  rw [find?_key_eq_some_iff key hnodup, find?_key_eq_some_iff key hnodup', h.mem_iff]

/-- What is found among related things is related. -/
theorem find?_key_forall₂ (hkey : ∀ x y, R x y → key x = key y) (h : List.Forall₂ R xs ys)
    (k : κ) :
    Option.Rel R (xs.find? fun x => key x == k) (ys.find? fun y => key y == k) := by
  induction h with
  | nil => exact .none
  | cons hfirst _ ih =>
    have hsame := hkey _ _ hfirst
    rw [List.find?_cons, List.find?_cons, hsame]
    split
    · exact .some hfirst
    · exact ih

/-- Where keys are distinct, what is found in another order is related. -/
theorem find?_key_rel (hkey : ∀ x y, R x y → key x = key y) (hnodup : (xs.map key).Nodup)
    (h : ReorderedBy R xs ys) (k : κ) :
    Option.Rel (fun x y => x ∈ xs ∧ R x y) (xs.find? fun x => key x == k)
      (ys.find? fun y => key y == k) := by
  obtain ⟨zs, hrelated, hperm⟩ := h
  have hnodup' : (zs.map key).Nodup := by rwa [← map_key_eq hkey hrelated]
  rw [← find?_key_perm hnodup' hperm k]
  have hmem : List.Forall₂ (fun x y => x ∈ xs ∧ R x y) xs zs :=
    (List.forall₂_and_left xs zs).mpr ⟨fun _ hx => hx, hrelated⟩
  exact find?_key_forall₂ (fun x y hxy => hkey x y hxy.2) hmem k

end Keyed

namespace LiveSchema

variable {live live' : LiveSchema} (h : live.Reordered live') (hnames : live.NamesDistinct)

include h in
/-- Both catalogs have the same tables. -/
theorem tableNames_perm : (live.tables.map LiveTable.name).Perm (live'.tables.map LiveTable.name) :=
  map_key_perm (fun _ _ ht => ht.name) h.tables

include h in
/-- Both catalogs have the same enum types. -/
theorem enumNames_perm : (live.enums.map EnumType.name).Perm (live'.enums.map EnumType.name) :=
  map_key_perm (fun _ _ he => he.name) h.enums

include h hnames

/-- Under each name both catalogs have the same table, in which the same columns are found, or
both have none. -/
theorem table?_rel (name : String) :
    Option.Rel (fun t t' => t.columns.Perm t'.columns ∧
        ∀ column, t.column? column = t'.column? column)
      (live.table? name) (live'.table? name) := by
  have hrel := find?_key_rel (fun _ _ ht => ht.name) hnames.tables h.tables name
  unfold table?
  generalize live.tables.find? (fun t => t.name == name) = found at hrel ⊢
  generalize live'.tables.find? (fun t => t.name == name) = found' at hrel ⊢
  cases hrel with
  | none => exact .none
  | some hfound =>
    obtain ⟨hmem, hsame⟩ := hfound
    exact .some ⟨hsame.columns, find?_key_perm (hnames.columns _ hmem) hsame.columns⟩

/-- Under each name both catalogs have the same enum type, or both have none. -/
theorem enum?_rel (name : String) :
    Option.Rel (fun e e' => e.values.Perm e'.values) (live.enum? name) (live'.enum? name) := by
  have hrel := find?_key_rel (fun _ _ he => he.name) hnames.enums h.enums name
  unfold enum? findEnum?
  generalize live.enums.find? (fun e => e.name == name) = found at hrel ⊢
  generalize live'.enums.find? (fun e => e.name == name) = found' at hrel ⊢
  cases hrel with
  | none => exact .none
  | some hfound => exact .some hfound.2.values

end LiveSchema

namespace Drift

/-! ## Differences up to order -/

/-- The same differences of a table, but for the order of the columns to remove. -/
structure TableDiff.SameButOrder (d d' : TableDiff) : Prop where
  table : d.table = d'.table
  added : d.added = d'.added
  removed : d.removed.Perm d'.removed
  modified : d.modified = d'.modified

/-- The same differences of an enum type, but for the order of the values to remove. -/
structure EnumDiff.SameButOrder (d d' : EnumDiff) : Prop where
  name : d.name = d'.name
  added : d.added = d'.added
  removed : d.removed.Perm d'.removed

/-- A difference that may be missing is the same as itself. -/
theorem EnumDiff.sameButOrder_refl (found : Option EnumDiff) :
    Option.Rel EnumDiff.SameButOrder found found := by
  cases found with
  | none => exact .none
  | some d => exact .some ⟨rfl, rfl, .refl d.removed⟩

/-- The same differences of schemas, but for the order of what is to be removed. -/
structure SchemaDiff.SameButOrder (d d' : SchemaDiff) : Prop where
  tablesAdded : d.tablesAdded = d'.tablesAdded
  tablesRemoved : d.tablesRemoved.Perm d'.tablesRemoved
  tablesModified : List.Forall₂ TableDiff.SameButOrder d.tablesModified d'.tablesModified
  enumsAdded : d.enumsAdded = d'.enumsAdded
  enumsRemoved : d.enumsRemoved.Perm d'.enumsRemoved
  enumsModified : List.Forall₂ EnumDiff.SameButOrder d.enumsModified d'.enumsModified
  indexesAdded : d.indexesAdded = d'.indexesAdded
  indexesRemoved : d.indexesRemoved.Perm d'.indexesRemoved

/-- Differences that are the same up to order are changes or not alike. -/
theorem TableDiff.SameButOrder.hasChanges_eq {d d' : TableDiff} (h : d.SameButOrder d') :
    d.hasChanges = d'.hasChanges := by
  have hremoved : d.removed.isEmpty = d'.removed.isEmpty := h.removed.isEmpty_eq
  rw [TableDiff.hasChanges, TableDiff.hasChanges, h.added, hremoved, h.modified]

/-! ## Tables -/

/-- A table is compared with its columns in any order. -/
theorem tableDiff_sameButOrder (s : DesiredSchema) (d : Dialect) (t : DesiredTable)
    {l l' : LiveTable} (hcolumns : l.columns.Perm l'.columns)
    (hfound : ∀ name, l.column? name = l'.column? name) :
    (tableDiff s d t l).SameButOrder (tableDiff s d t l') where
  table := rfl
  added := by
    unfold tableDiff
    simp only [hfound]
  removed := (hcolumns.map LiveColumn.name).filter _
  modified := by
    have hdiff : columnDiff? s d t l = columnDiff? s d t l' := by
      funext f
      rw [columnDiff?, columnDiff?, hfound]
    rw [tableDiff, tableDiff, hdiff]

/-! ## Values of enum types -/

/-- An enum type is compared with a list of values in any order. -/
theorem enumDiff?_singleton_rel (e : EnumType) {values values' : List String}
    (h : values.Perm values') :
    Option.Rel EnumDiff.SameButOrder (enumDiff? e [values]) (enumDiff? e [values']) := by
  have hadded : valuesAdded e.values [values] = valuesAdded e.values [values'] := by
    unfold valuesAdded
    simp only [List.foldl_cons, List.foldl_nil, h.contains_eq]
  have hremoved : (valuesRemoved e.values [values]).Perm (valuesRemoved e.values [values']) := by
    refine (List.perm_ext_iff_of_nodup (nodup_valuesRemoved _ _) (nodup_valuesRemoved _ _)).mpr
      fun v => ?_
    simp only [mem_valuesRemoved_iff, List.mem_singleton, exists_eq_left, h.mem_iff]
  unfold enumDiff?
  dsimp only
  rw [hadded, hremoved.isEmpty_eq]
  split
  · exact .none
  · exact .some ⟨rfl, rfl, hremoved⟩

/-! ## Schemas -/

/-- Differences that are found one by one and related are related as lists. -/
theorem forall₂_filterMap {α β : Type} {R : β → β → Prop} {f g : α → Option β}
    (h : ∀ x, Option.Rel R (f x) (g x)) (xs : List α) :
    List.Forall₂ R (xs.filterMap f) (xs.filterMap g) := by
  have hsame : List.Forall₂ Eq xs xs := List.forall₂_refl xs
  refine List.rel_filterMap (R := Eq) ?_ hsame
  rintro x _ rfl
  exact h x

section Reordered

variable {live live' : LiveSchema} (h : live.Reordered live') (hnames : live.NamesDistinct)
  (s : DesiredSchema) (d : Dialect)

include h in
/-- The same tables are to be removed. -/
theorem tablesRemoved_perm : (tablesRemoved s live).Perm (tablesRemoved s live') :=
  (LiveSchema.tableNames_perm h).filter _

include h in
/-- The same indexes are to be created. -/
theorem indexesAdded_eq : indexesAdded s live = indexesAdded s live' := by
  unfold indexesAdded
  simp only [h.indexes.any_eq]

include h in
/-- The same indexes are to be dropped. -/
theorem indexesRemoved_perm : (indexesRemoved s live).Perm (indexesRemoved s live') := by
  have hstale : isStale s live = isStale s live' := by
    funext j
    rw [isStale, isStale, (tablesRemoved_perm h s).contains_eq]
  unfold indexesRemoved
  rw [hstale]
  exact (h.indexes.filter _).map _

include h hnames

/-- The same tables are to be created. -/
theorem tablesAdded_eq : tablesAdded s live = tablesAdded s live' := by
  exact List.filter_congr fun name _ => isNone_eq_of_rel (LiveSchema.table?_rel h hnames name)

/-- A table has the same difference, or none in either catalog. -/
theorem tableDiff?_rel (t : DesiredTable) :
    Option.Rel TableDiff.SameButOrder (tableDiff? s live d t) (tableDiff? s live' d t) := by
  have hrel := LiveSchema.table?_rel h hnames t.name
  unfold tableDiff?
  generalize live.table? t.name = found at hrel ⊢
  generalize live'.table? t.name = found' at hrel ⊢
  cases hrel with
  | none => exact .none
  | some hfound =>
    have hdiff := tableDiff_sameButOrder s d t hfound.1 hfound.2
    dsimp only
    rw [hdiff.hasChanges_eq]
    split
    · exact .some hdiff
    · exact .none

/-- The values that are written out in columns are the same. -/
theorem inlineValues_eq (name : String) : inlineValues s live name = inlineValues s live' name := by
  refine List.flatMap_congr fun t _ => ?_
  have hrel := LiveSchema.table?_rel h hnames t.name
  unfold inlineValuesIn
  generalize live.table? t.name = found at hrel ⊢
  generalize live'.table? t.name = found' at hrel ⊢
  cases hrel with
  | none => rfl
  | some hfound => simp only [hfound.2]

/-- The same enum types are to be created. -/
theorem enumsAdded_eq : enumsAdded s live d = enumsAdded s live' d := by
  unfold enumsAdded
  split
  · rfl
  · exact List.filter_congr fun name _ => isNone_eq_of_rel (LiveSchema.enum?_rel h hnames name)

/-- An enum type has the same difference, or none in either catalog. -/
theorem declaredEnumDiff?_rel (e : EnumType) :
    Option.Rel EnumDiff.SameButOrder (declaredEnumDiff? s live d e)
      (declaredEnumDiff? s live' d e) := by
  have hrel := LiveSchema.enum?_rel h hnames e.name
  unfold declaredEnumDiff?
  rw [inlineValues_eq h hnames]
  generalize live.enum? e.name = found at hrel ⊢
  generalize live'.enum? e.name = found' at hrel ⊢
  cases hrel with
  | none => exact EnumDiff.sameButOrder_refl _
  | some hfound => exact enumDiff?_singleton_rel e hfound

end Reordered

/-- **The order of a catalog.**  Catalogs with distinct names that differ in the order of what
they report have the same differences from a desired schema, but for the order of what is to
be removed. -/
theorem compare_sameButOrder {live live' : LiveSchema} (h : live.Reordered live')
    (hnames : live.NamesDistinct) (s : DesiredSchema) (d : Dialect) :
    (compare s live d).SameButOrder (compare s live' d) where
  tablesAdded := tablesAdded_eq h hnames s
  tablesRemoved := tablesRemoved_perm h s
  tablesModified := forall₂_filterMap (tableDiff?_rel h hnames s d) s.tables
  enumsAdded := enumsAdded_eq h hnames s d
  enumsRemoved := (LiveSchema.enumNames_perm h).filter _
  enumsModified := forall₂_filterMap (declaredEnumDiff?_rel h hnames s d) s.enums
  indexesAdded := indexesAdded_eq h s
  indexesRemoved := indexesRemoved_perm h s

/-- A table of users with a mood. -/
def moodsSchema : DesiredSchema where
  tables := [⟨⟨"User", "users", none, none, []⟩,
    [Field.new "User" "name" "TEXT", Field.new "User" "mood" "mood"]⟩]
  indexes := []
  enums := [⟨"mood", ["happy"]⟩]

/-- A catalog with more of everything. -/
def moodsCatalog : LiveSchema where
  tables := [
    ⟨"logs", []⟩,
    ⟨"users", [⟨"age", "integer", none, true, false, false, none, false⟩,
      ⟨"name", "varchar", none, true, false, false, none, false⟩,
      ⟨"nick", "text", none, true, false, false, none, false⟩]⟩,
    ⟨"notes", []⟩]
  indexes := [⟨"users_age", "users", ["age"], false, false⟩,
    ⟨"users_nick", "users", ["nick"], false, false⟩]
  enums := [⟨"mood", ["sad", "happy", "angry"]⟩, ⟨"color", []⟩, ⟨"size", []⟩]

/-- The same catalog in another order. -/
def moodsCatalogReordered : LiveSchema where
  tables := [
    ⟨"notes", []⟩,
    ⟨"users", [⟨"nick", "text", none, true, false, false, none, false⟩,
      ⟨"age", "integer", none, true, false, false, none, false⟩,
      ⟨"name", "varchar", none, true, false, false, none, false⟩]⟩,
    ⟨"logs", []⟩]
  indexes := [⟨"users_nick", "users", ["nick"], false, false⟩,
    ⟨"users_age", "users", ["age"], false, false⟩]
  enums := [⟨"size", []⟩, ⟨"color", []⟩, ⟨"mood", ["angry", "happy", "sad"]⟩]

/-- Both orders show the same missing column and the same change of a type, and the same
names to remove in different order. -/
theorem compare_sameButOrder_moodsCatalog :
    moodsCatalog.Reordered moodsCatalogReordered ∧ moodsCatalog.NamesDistinct ∧
      (compare moodsSchema moodsCatalog .postgres).SameButOrder
        (compare moodsSchema moodsCatalogReordered .postgres) ∧
      (compare moodsSchema moodsCatalog .postgres).tablesModified =
        [⟨"users", ["mood"], ["age", "nick"], [⟨"name", [.type "text" "varchar"]⟩]⟩] ∧
      (compare moodsSchema moodsCatalogReordered .postgres).tablesModified =
        [⟨"users", ["mood"], ["nick", "age"], [⟨"name", [.type "text" "varchar"]⟩]⟩] := by
  have hreordered : moodsCatalog.Reordered moodsCatalogReordered := by
    refine ⟨⟨moodsCatalogReordered.tables.reverse, ?_, by decide⟩, by decide,
      ⟨moodsCatalogReordered.enums.reverse, ?_, by decide⟩⟩
    · exact .cons ⟨rfl, by decide⟩ (.cons ⟨rfl, by decide⟩ (.cons ⟨rfl, by decide⟩ .nil))
    · exact .cons ⟨rfl, by decide⟩ (.cons ⟨rfl, by decide⟩ (.cons ⟨rfl, by decide⟩ .nil))
  have hnames : moodsCatalog.NamesDistinct := ⟨by decide, by decide, by decide⟩
  exact ⟨hreordered, hnames, compare_sameButOrder hreordered hnames moodsSchema .postgres,
    by decide +kernel, by decide +kernel⟩

end Drift

end SchemaDdl
