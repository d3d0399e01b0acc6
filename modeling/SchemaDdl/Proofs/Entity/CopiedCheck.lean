/-
# The checks of embedded structs

An inline embedding puts its prefix before the names of the fields that it lends and before
nothing else.  So the check of a field stands in the table of the outermost struct as it was
declared, and may speak of columns by names that they do not have there:

* `exists_declared_of_check` : every check of a struct is declared at the end of a chain of
  inline embeddings;
* `check_asDeclared` : what is written of a check, and when this is what a renaming of its
  identifiers would give.
-/
import SchemaDdl.Proofs.Entity.RelationKeys
import SchemaDdl.Proofs.Text.Identifier

namespace SchemaDdl

open Text

/-! ## Where checks come from -/

/-- Only the own fields of a struct have checks. -/
theorem StructPart.eq_field_of_check {part : StructPart} {f : Field} (hfield : part.field? = some f)
    {expression : String} (hcheck : f.check = some expression) : part = .field f := by
  cases part with
  | field f' => exact congrArg StructPart.field (Option.some.inj hfield)
  | embedding e =>
    exfalso
    rw [StructPart.field?] at hfield
    cases hmode : e.mode with
    | inline => simp [hmode] at hfield
    | json =>
      rw [hmode] at hfield
      obtain rfl := Option.some.inj hfield
      simp [Embedding.jsonField, Field.new] at hcheck
    | relation =>
      rw [hmode] at hfield
      have hnone := (Embedding.relationField_eq_some hfield).2.1
      simp [hnone] at hcheck
    | skip => simp [hmode] at hfield

namespace Metadata

variable {m : Metadata} {owner : String}

/-- The check at a place is declared by a field of the struct that the place is in. -/
theorem Occurs.mem_fieldsOf_of_check {o : Occurrence} (h : m.Occurs owner o) {expression : String}
    (hcheck : o.field.check = some expression) :
    m.InlineChain owner o.chain ∧ o.field ∈ m.fieldsOf (chainEnd owner o.chain) := by
  induction h with
  | here hpart hfield =>
    obtain rfl := StructPart.eq_field_of_check hfield hcheck
    have hmem := List.mem_of_getElem? hpart
    refine ⟨trivial, ?_⟩
    simpa [partsOf, chainEnd] using hmem
  | nested hpart hmode _ ih =>
    obtain ⟨hchain, hfield⟩ := ih hcheck
    have hmem := List.mem_of_getElem? hpart
    refine ⟨⟨?_, hmode, hchain⟩, hfield⟩
    simpa [partsOf] using hmem

/-- A check of a struct is declared at the end of a chain of inline embeddings, and stands as
it is declared there. -/
theorem exists_declared_of_check {g : Field} (hg : g ∈ m.allFieldsOf owner) {expression : String}
    (hcheck : g.check = some expression) :
    ∃ chain f, m.InlineChain owner chain ∧ f ∈ m.fieldsOf (chainEnd owner chain) ∧
      f.check = some expression ∧ f.through chain owner = g := by
  rw [allFieldsOf_eq_lentFields, lentFields_eq_map_adopted, List.mem_map] at hg
  obtain ⟨o, ho, rfl⟩ := hg
  obtain ⟨hplace, _⟩ := mem_occurrences_iff.mp ho
  obtain ⟨hchain, hfield⟩ := hplace.mem_fieldsOf_of_check hcheck
  exact ⟨o.chain, o.field, hchain, hfield, hcheck, rfl⟩

end Metadata

/-! ## Renaming the columns of an embedded struct -/

namespace Embedding

/-- The name in the owner of what an expression of an embedded struct calls `w`: a column of
this struct has the prefix before its name, unless the owner has a column that is called so. -/
def renameColumn (e : Embedding) (lent owned : List String) (w : String) : String :=
  if w ∈ lent ∧ w ∉ owned then e.namePrefix.getD "" ++ w else w

variable {e : Embedding} (hgiven : e.namePrefix.getD "" ≠ "") (lent owned : List String)

include hgiven

/-- A name with a prefix is longer. -/
theorem renameColumn_longer (w : String) :
    e.renameColumn lent owned w = w ∨ w.length < (e.renameColumn lent owned w).length := by
  unfold renameColumn
  split
  · have hlength : (e.namePrefix.getD "").length ≠ 0 := by
      simpa [String.length_eq_zero_iff] using hgiven
    rw [String.length_append]
    omega
  · exact .inl rfl

/-- A name is kept exactly if it is no name of a column of the embedded struct, or one of the
owner as well. -/
theorem renameColumn_eq_self_iff (w : String) :
    e.renameColumn lent owned w = w ↔ (w ∈ lent → w ∈ owned) := by
  unfold renameColumn
  split
  · rename_i hstale
    simp [hstale.1, hstale.2, hgiven]
  · rename_i hstale
    simpa using hstale

/-- An expression is that with its columns renamed exactly if it speaks of no column of the
embedded struct by a name that the owner does not have. -/
theorem renameIdentifiers_renameColumn_iff (quotes : List Char) (expression : String) :
    renameIdentifiers quotes (e.renameColumn lent owned) expression = expression ↔
      ∀ w ∈ identifiers quotes expression, w ∈ lent → w ∈ owned := by
  rw [renameIdentifiers_eq_self_iff (renameColumn_longer hgiven lent owned)]
  exact forall₂_congr fun w _ => renameColumn_eq_self_iff hgiven lent owned w

end Embedding

/-! ## Checks in tables -/

/-- The check of a column stands in its definition as it is. -/
theorem Profile.exists_columnText_eq_check (p : Profile) (known : KnownEnums) {c : Column}
    {expression : String} (h : c.check = some expression) :
    ∃ before after, p.columnText known c = before ++ (" CHECK (" ++ expression ++ ")") ++ after := by
  have hclause : Profile.checkClause c = " CHECK (" ++ expression ++ ")" := by
    rw [Profile.checkClause, h]
  rw [← hclause]
  exact ⟨_, p.columnComment c, rfl⟩

namespace Metadata

/-- The names of all columns that a struct has in its table. -/
def columnNames (m : Metadata) (owner : String) : List String :=
  (m.allFieldsOf owner).map Field.name

/-- **Checks as they were declared.**  The check of a column in a table is declared at the end of
a chain of inline embeddings, and it is written as it is declared there, whatever the embeddings
put before the name of the column.  So the field that an inline embedding makes of a field with
a check has the same check.  This is the check with the prefix before the columns of the
embedded struct exactly if it speaks of none of them by a name that is no column of the
owner. -/
theorem check_asDeclared (m : Metadata) (quotes : List Char) :
    (∀ d ∈ m.tables, ∀ g ∈ (DesiredTable.ofDirective m d).fields, ∀ expression,
      g.check = some expression →
        (∃ chain f, m.InlineChain d.owner chain ∧ f ∈ m.fieldsOf (chainEnd d.owner chain) ∧
          f.check = some expression ∧ f.through chain d.owner = g) ∧
        ∀ dialect known, ∃ before after,
          Profile.columnText (Dialect.profile dialect) known
              ((DesiredTable.ofDirective m d).column dialect g) =
            before ++ (" CHECK (" ++ expression ++ ")") ++ after) ∧
    ∀ e ∈ m.embeddings, e.mode = .inline → e.namePrefix.getD "" ≠ "" → ∀ levels,
      ∀ f ∈ m.lentFields levels e.embedded, ∀ expression, f.check = some expression →
        e.adopt f ∈ e.contribution (m.lentFields levels) ∧
        (e.adopt f).check = some expression ∧
        ((e.adopt f).check = some (renameIdentifiers quotes
            (e.renameColumn ((m.lentFields levels e.embedded).map Field.name)
              (m.columnNames e.owner)) expression) ↔
          ∀ w ∈ identifiers quotes expression,
            w ∈ (m.lentFields levels e.embedded).map Field.name →
              w ∈ m.columnNames e.owner) := by
  constructor
  · intro d _ g hg expression hcheck
    refine ⟨?_, fun dialect known => Profile.exists_columnText_eq_check _ known hcheck⟩
    exact exists_declared_of_check (DesiredTable.mem_fields_ofDirective_iff.mp hg) hcheck
  · intro e _ hmode hgiven levels f hf expression hcheck
    have hkept : (e.adopt f).check = some expression := hcheck
    refine ⟨?_, hkept, ?_⟩
    · rw [Embedding.contribution, hmode]
      exact List.mem_map_of_mem hf
    · rw [hkept, Option.some.injEq, eq_comm]
      exact Embedding.renameIdentifiers_renameColumn_iff hgiven _ _ quotes expression

/-- The amount of a price, which is not negative. -/
def amountField : Field :=
  { Field.new "Price" "amount" "BIGINT" with nullable := false, check := some "amount > 0" }

/-- The price of an item. -/
def itemPrice : Embedding :=
  inlineEmbedding "Item" "Price" "price_"

/-- Items that are sold in shops, with their prices. -/
def itemsMetadata : Metadata where
  fields := [amountField]
  tables := [⟨"Item", "items", none, none, []⟩]
  indexes := []
  enums := []
  embeddings := [itemPrice, inlineEmbedding "Shop" "Item" "item_"]

/-- Below one prefix and below two the check still speaks of the amount, which is no column
there. -/
theorem check_asDeclared_itemsMetadata :
    itemPrice.adopt amountField ∈ itemPrice.contribution (itemsMetadata.lentFields 8) ∧
      (itemPrice.adopt amountField).check ≠
        some (renameIdentifiers ['\'', '"'] (itemPrice.renameColumn
          ((itemsMetadata.lentFields 8 itemPrice.embedded).map Field.name)
          (itemsMetadata.columnNames itemPrice.owner)) "amount > 0") ∧
      (itemsMetadata.allFieldsOf "Shop").map (fun g => (g.name, g.check)) =
        [("item_price_amount", some "amount > 0")] := by
  obtain ⟨hmem, _, hrenamed⟩ := (itemsMetadata.check_asDeclared ['\'', '"']).2 itemPrice
    (by decide +kernel) rfl (by decide) 8 amountField (by decide +kernel) "amount > 0" rfl
  refine ⟨hmem, fun hsame => ?_, by decide +kernel⟩
  have howned := hrenamed.mp hsame "amount" (by decide +kernel) (by decide +kernel)
  revert howned
  decide +kernel

/-- A check keeps the name of a column that has another name in the table of the owner. -/
theorem not_renamesCheck_itemsMetadata :
    (¬ ∀ e ∈ itemsMetadata.embeddings, e.mode = .inline → e.namePrefix.getD "" ≠ "" →
      ∀ g ∈ itemsMetadata.expand e, ∀ expression, g.check = some expression →
        ∀ w ∈ identifiers ['\'', '"'] expression,
          w ∈ (itemsMetadata.lentFields maxNesting e.embedded).map Field.name →
            w ∈ itemsMetadata.columnNames e.owner) ∧
    itemsMetadata.render .postgres = .ok ("-- POSTGRES TABLE: items --\n" ++
      "CREATE TABLE items (\n  price_amount BIGINT NOT NULL CHECK (amount > 0)\n);\n") := by
  refine ⟨?_, by decide +kernel⟩
  intro hrenames
  have hamount := hrenames itemPrice (by decide +kernel) rfl (by decide)
    (itemPrice.adopt amountField) (by decide +kernel) "amount > 0" rfl "amount"
    (by decide +kernel) (by decide +kernel)
  revert hamount
  decide +kernel

end Metadata

end SchemaDdl
