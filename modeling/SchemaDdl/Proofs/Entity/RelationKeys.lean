/-
# The foreign keys of relations

A relation makes a column with a foreign key, whose name it puts together from its struct and
its column.  Where the struct is embedded inline the column gets another owner and another
name, but its foreign key keeps the name that it had:

* `through_mem_fields` : every relation within eight inline embeddings makes a column;
* `pairwise_foreignKeyName_iff` : when the foreign keys of relations have names of their own.
-/
import SchemaDdl.Command.Run
import SchemaDdl.Proofs.Entity.FieldOrder
import SchemaDdl.Proofs.Entity.Nesting

namespace SchemaDdl

/-! ## Fields of relations -/

namespace Field

/-- The name of the foreign key that a relation makes of a field, from the struct and the name
of the field. -/
def relationKey (f : Field) : String :=
  "fk_" ++ Text.snakeCase f.owner ++ "_" ++ Text.snakeCase f.name

/-- The field of the outermost struct that comes from a field at the end of a chain of inline
embeddings. -/
def through (f : Field) (chain : List Embedding) (owner : String) : Field :=
  { f with
    owner := owner
    name := String.join (chain.map fun e => e.namePrefix.getD "") ++ f.name }

end Field

namespace Metadata

variable {m : Metadata} {owner : String} {chain : List Embedding} {f : Field}

/-- A relation makes a field in the struct that at most eight inline embeddings lead to. -/
def Relates (m : Metadata) (owner : String) (chain : List Embedding) (f : Field) : Prop :=
  m.InlineChain owner chain ∧ chain.length ≤ 8 ∧
    ∃ e ∈ m.embeddingsOf (chainEnd owner chain), e.mode = .relation ∧ e.relationField = some f

/-- A field of a struct comes from a relation. -/
def MadeByRelation (m : Metadata) (owner : String) (f : Field) : Prop :=
  ∃ chain made, m.Relates owner chain made ∧ made.through chain owner = f

/-- An embedding is a part of its struct. -/
theorem exists_partsOf_eq_some {e : Embedding} (h : e ∈ m.embeddingsOf owner) :
    ∃ i : Nat, (m.partsOf owner)[i]? = some (StructPart.embedding e) := by
  have hpart : StructPart.embedding e ∈ m.partsOf owner :=
    List.mem_append_right _ (List.mem_map_of_mem h)
  exact List.mem_iff_getElem?.mp hpart

/-- What a relation makes has a place in the structs that lead to it. -/
theorem exists_occurs_of_relation (hchain : m.InlineChain owner chain) {e : Embedding}
    (he : e ∈ m.embeddingsOf (chainEnd owner chain)) (hmode : e.mode = .relation)
    (hf : e.relationField = some f) : ∃ position, m.Occurs owner ⟨position, chain, f⟩ := by
  induction chain generalizing owner with
  | nil =>
    obtain ⟨i, hpart⟩ := exists_partsOf_eq_some he
    have hfield : (StructPart.embedding e).field? = some f := by
      rw [StructPart.field?, hmode]
      exact hf
    exact ⟨[i], .here hpart hfield⟩
  | cons inner rest ih =>
    obtain ⟨hinner, hinline, hrest⟩ := hchain
    obtain ⟨position, hplace⟩ := ih hrest he
    obtain ⟨i, hpart⟩ := exists_partsOf_eq_some hinner
    exact ⟨i :: position, .nested hpart hinline hplace⟩

/-- What a relation makes is among all fields of the outermost struct. -/
theorem through_mem_allFieldsOf (h : m.Relates owner chain f) :
    f.through chain owner ∈ m.allFieldsOf owner := by
  obtain ⟨hchain, hlength, e, he, hmode, hf⟩ := h
  obtain ⟨position, hplace⟩ := exists_occurs_of_relation hchain he hmode hf
  rw [allFieldsOf_eq_lentFields, lentFields_eq_map_adopted]
  have hvisited : ⟨position, chain, f⟩ ∈ m.occurrences (8 + 1) owner :=
    mem_occurrences_iff.mpr ⟨hplace, Nat.lt_succ_of_le hlength⟩
  exact List.mem_map_of_mem hvisited

/-- The inline embeddings on the way leave the name of the foreign key as it is. -/
theorem Relates.foreignKeyName_through (h : m.Relates owner chain f) :
    (f.through chain owner).foreignKeyName = some f.relationKey := by
  obtain ⟨_, _, e, _, _, hf⟩ := h
  exact (Embedding.relationField_eq_some hf).2.2

end Metadata

/-! ## Foreign keys of a table -/

namespace DesiredTable

/-- The fields of a table are all fields of its struct. -/
theorem mem_fields_ofDirective_iff {m : Metadata} {d : TableDirective} {f : Field} :
    f ∈ (ofDirective m d).fields ↔ f ∈ m.allFieldsOf d.owner :=
  ((primaryFirst_ofDirective_iff m d).mpr rfl).perm.mem_iff

/-- What a relation makes is a field of the table. -/
theorem through_mem_fields {m : Metadata} {d : TableDirective} {chain : List Embedding} {f : Field}
    (h : m.Relates d.owner chain f) : f.through chain d.owner ∈ (ofDirective m d).fields :=
  mem_fields_ofDirective_iff.mpr (Metadata.through_mem_allFieldsOf h)

/-- A field with a reference has a foreign key in the definition of its table. -/
theorem exists_foreignKey {t : DesiredTable} {f : Field} (hf : f ∈ t.fields)
    (hreference : f.reference?.isSome = true) (dialect : Dialect) :
    ∃ c ∈ Profile.writtenConstraints (t.definition dialect),
      c.columns = [f.name] ∧ c.name = f.foreignKeyName := by
  obtain ⟨r, hr⟩ := Option.isSome_iff_exists.mp hreference
  have hcolumn : t.column dialect f ∈ (t.definition dialect).columns := List.mem_map_of_mem hf
  have hkey : (t.column dialect f).foreignKey? = some (Constraint.foreignKey [f.name] r) := by
    show f.reference?.map (Constraint.foreignKey [f.name]) = _
    rw [hr]
    rfl
  have hname : r.name = f.foreignKeyName := by
    obtain ⟨target, _, rfl⟩ := Option.map_eq_some_iff.mp hr
    rfl
  exact ⟨_, List.mem_append_right _ (List.mem_filterMap.mpr ⟨_, hcolumn, hkey⟩), rfl, hname⟩

/-- **Names of foreign keys.**  Every relation that at most eight inline embeddings lead to
makes a field of the table, and its foreign key is named after the struct and the column of the
relation itself, whatever the embeddings put before the name of the column.  So in a table
whose columns have names of their own the foreign keys of relations do exactly if no two
relations of different columns have structs and columns of the same words. -/
theorem pairwise_foreignKeyName_iff (m : Metadata) (d : TableDirective)
    (hnames : ((ofDirective m d).fields.map Field.name).Nodup) :
    (∀ chain f, m.Relates d.owner chain f →
      f.through chain d.owner ∈ (ofDirective m d).fields ∧
        (f.through chain d.owner).foreignKeyName = some f.relationKey ∧
        ((f.through chain d.owner).reference?.isSome = true → ∀ dialect,
          ∃ c ∈ Profile.writtenConstraints ((ofDirective m d).definition dialect),
            c.columns = [(f.through chain d.owner).name] ∧ c.name = some f.relationKey)) ∧
    ((ofDirective m d).fields.Pairwise (fun f g =>
        m.MadeByRelation d.owner f → m.MadeByRelation d.owner g →
          f.foreignKeyName ≠ g.foreignKeyName) ↔
      ∀ chain f chain' f', m.Relates d.owner chain f → m.Relates d.owner chain' f' →
        f.relationKey = f'.relationKey →
          (f.through chain d.owner).name = (f'.through chain' d.owner).name) := by
  constructor
  · intro chain f hrelates
    have hkept := hrelates.foreignKeyName_through
    refine ⟨through_mem_fields hrelates, hkept, ?_⟩
    intro hreference dialect
    rw [← hkept]
    exact exists_foreignKey (through_mem_fields hrelates) hreference dialect
  · constructor
    · intro hdistinct chain f chain' f' hrelates hrelates' hsame
      by_contra hother
      have : Std.Symm fun f g : Field =>
          m.MadeByRelation d.owner f → m.MadeByRelation d.owner g →
            f.foreignKeyName ≠ g.foreignKeyName :=
        ⟨fun f g hfg hg hf => (hfg hf hg).symm⟩
      have hne : f.through chain d.owner ≠ f'.through chain' d.owner :=
        fun heq => hother (congrArg Field.name heq)
      refine hdistinct.forall (through_mem_fields hrelates)
        (through_mem_fields hrelates') hne ⟨chain, f, hrelates, rfl⟩ ⟨chain', f', hrelates', rfl⟩ ?_
      rw [hrelates.foreignKeyName_through, hrelates'.foreignKeyName_through, hsame]
    · intro hapart
      refine (List.pairwise_map.mp hnames).imp ?_
      rintro _ _ hne ⟨chain, f, hrelates, rfl⟩ ⟨chain', f', hrelates', rfl⟩ hsame
      rw [hrelates.foreignKeyName_through, hrelates'.foreignKeyName_through,
        Option.some.injEq] at hsame
      exact hne (hapart chain f chain' f' hrelates hrelates' hsame)

/-- A relation that does not accept `NULL`. -/
def relationEmbedding (owner embedded column reference : String) : Embedding where
  owner := owner
  embedded := embedded
  mode := .relation
  namePrefix := none
  name := none
  dataType := none
  nullable := false
  comment := none
  column := some column
  reference := some reference
  onDelete := none
  overrides := .empty

/-- The column of such a relation to an integer key. -/
def relationColumn (owner column reference key : String) : Field :=
  { Field.new owner column "INTEGER" with
    nullable := false, foreignKey := some reference, foreignKeyName := some key }

/-- A table of posts with two relations to users, whose columns are of the same words. -/
def authorsMetadata : Metadata where
  fields := []
  tables := [⟨"Post", "posts", none, none, []⟩]
  indexes := []
  enums := []
  embeddings := [relationEmbedding "Post" "User" "userId" "users(id)",
    relationEmbedding "Post" "User" "user_id" "users(id)"]

/-- Two columns of a table are of the same words, and so their foreign keys have one name. -/
theorem not_pairwise_foreignKeyName_authorsMetadata :
    ((ofDirective authorsMetadata ⟨"Post", "posts", none, none, []⟩).fields.map Field.name).Nodup ∧
      ¬ (ofDirective authorsMetadata ⟨"Post", "posts", none, none, []⟩).fields.Pairwise
        fun f g => authorsMetadata.MadeByRelation "Post" f →
          authorsMetadata.MadeByRelation "Post" g → f.foreignKeyName ≠ g.foreignKeyName := by
  have hnames : ((ofDirective authorsMetadata
      ⟨"Post", "posts", none, none, []⟩).fields.map Field.name).Nodup := by decide +kernel
  have hcamel : authorsMetadata.Relates "Post" []
      (relationColumn "Post" "userId" "users(id)" "fk_post_user_id") :=
    ⟨trivial, Nat.zero_le 8, relationEmbedding "Post" "User" "userId" "users(id)",
      by decide +kernel, rfl, by decide +kernel⟩
  have hsnake : authorsMetadata.Relates "Post" []
      (relationColumn "Post" "user_id" "users(id)" "fk_post_user_id") :=
    ⟨trivial, Nat.zero_le 8, relationEmbedding "Post" "User" "user_id" "users(id)",
      by decide +kernel, rfl, by decide +kernel⟩
  refine ⟨hnames, fun hdistinct => ?_⟩
  have hcolumns := (pairwise_foreignKeyName_iff _ _ hnames).2.mp hdistinct _ _ _ _ hcamel hsnake
    (by decide +kernel)
  revert hcolumns
  decide +kernel

/-- A table of orders with two addresses, each of which refers to its country. -/
def addressesMetadata : Metadata where
  fields := []
  tables := [⟨"Order", "orders", none, none, []⟩]
  indexes := []
  enums := []
  embeddings := [relationEmbedding "Address" "Country" "country_id" "countries(id)",
    Metadata.inlineEmbedding "Order" "Address" "billing_",
    Metadata.inlineEmbedding "Order" "Address" "shipping_"]

/-- A struct that is embedded twice brings two foreign keys of one name into its table. -/
theorem not_pairwise_foreignKeyName_addressesMetadata :
    (¬ ∀ d ∈ addressesMetadata.tables,
      ((ofDirective addressesMetadata d).fields.map Field.name).Nodup →
        (ofDirective addressesMetadata d).fields.Pairwise fun f g =>
          addressesMetadata.MadeByRelation d.owner f →
            addressesMetadata.MadeByRelation d.owner g → f.foreignKeyName ≠ g.foreignKeyName) ∧
    addressesMetadata.render .postgres = .ok ("-- POSTGRES TABLE: orders --\n" ++
      "CREATE TABLE orders (\n  billing_country_id INTEGER NOT NULL,\n" ++
      "  shipping_country_id INTEGER NOT NULL,\n" ++
      "  CONSTRAINT fk_address_country_id FOREIGN KEY (billing_country_id) " ++
      "REFERENCES countries(id),\n" ++
      "  CONSTRAINT fk_address_country_id FOREIGN KEY (shipping_country_id) " ++
      "REFERENCES countries(id)\n);\n") := by
  refine ⟨?_, by decide +kernel⟩
  intro hdistinct
  have hpairwise := hdistinct ⟨"Order", "orders", none, none, []⟩ (List.mem_singleton_self _)
    (by decide +kernel)
  have hrelation : relationEmbedding "Address" "Country" "country_id" "countries(id)" ∈
      addressesMetadata.embeddingsOf "Address" := by decide +kernel
  have hmade : ∀ namePrefix ∈ ["billing_", "shipping_"], addressesMetadata.MadeByRelation "Order"
      (relationColumn "Order" (namePrefix ++ "country_id") "countries(id)"
        "fk_address_country_id") := by
    intro namePrefix hgiven
    refine ⟨[Metadata.inlineEmbedding "Order" "Address" namePrefix],
      relationColumn "Address" "country_id" "countries(id)" "fk_address_country_id",
      ⟨⟨?_, rfl, trivial⟩, by simp, _, hrelation, rfl, by decide +kernel⟩, ?_⟩
    · revert namePrefix
      decide +kernel
    · simp [Field.through, relationColumn, Metadata.inlineEmbedding, Field.new]
  have hfields : (ofDirective addressesMetadata ⟨"Order", "orders", none, none, []⟩).fields =
      [relationColumn "Order" ("billing_" ++ "country_id") "countries(id)" "fk_address_country_id",
        relationColumn "Order" ("shipping_" ++ "country_id") "countries(id)"
          "fk_address_country_id"] := by
    decide +kernel
  rw [hfields, List.pairwise_pair] at hpairwise
  exact hpairwise (hmade _ (by decide)) (hmade _ (by decide)) rfl

end DesiredTable

end SchemaDdl
