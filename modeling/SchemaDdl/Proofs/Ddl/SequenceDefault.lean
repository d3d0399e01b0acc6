/-
# Defaults that come from a sequence

PostgreSQL fills a column that counts up from a sequence, which is the default of the column.
A field has no default of its own for it, so a new definition has nothing to set and must not
drop what is there.  It keeps the sequence of a field that is marked, and drops that of a
column that counts up by its type alone:

* `filter_altersDefault_sql` : the statements that alter a default are those of the actions
  that do;
* `altersDefault_modifyColumn_iff` : which statements these are for the column of a field.
-/
import SchemaDdl.Entity.Statements
import SchemaDdl.Proofs.Ddl.Redefinition

namespace SchemaDdl

/-! ## Statements that alter a default -/

/-- Whether an action sets or drops the default of a column by itself. -/
def ColumnAction.isDefault : ColumnAction → Bool
  | .setDefault _ => true
  | _ => false

/-- Whether a statement sets or drops the default of a column. -/
def altersDefault (table column statement : String) : Bool :=
  alters table column " SET DEFAULT " statement || alters table column " DROP DEFAULT;" statement

/-- The statement of an action alters a default if the action does. -/
theorem altersDefault_sql (table column : String) (action : ColumnAction) :
    altersDefault table column (action.sql table column) = action.isDefault := by
  rw [altersDefault, alters_sql, alters_sql]
  cases action with
  | setType dataType =>
    simp only [ColumnAction.words?, Option.any_some, Text.beginsWith, String.toList_append]
    rfl
  | setNullable nullable => cases nullable <;> rfl
  | setDefault default =>
    cases default with
    | none => rfl
    | some text =>
      simp only [ColumnAction.words?, Option.any_some, Text.beginsWith, String.toList_append]
      rfl
  | redefine dataType nullable autoIncrement default rest => rfl

/-- Among the statements of actions those that alter a default are those of the actions that
do. -/
theorem filter_altersDefault_sql (table column : String) (actions : List ColumnAction) :
    (actions.map (ColumnAction.sql table column)).filter (altersDefault table column) =
      (actions.filter ColumnAction.isDefault).map (ColumnAction.sql table column) := by
  rw [List.filter_map]
  exact congrArg _ (List.filter_congr fun action _ => altersDefault_sql table column action)

/-! ## Redefinitions in PostgreSQL -/

/-- A redefinition sets the default that a column has.  It drops the default of a column that
has none, unless the column is marked to count up. -/
theorem filter_isDefault_modifyActions (known : KnownEnums) (c : Column) :
    (Dialect.modifyActions .postgres known c).filter ColumnAction.isDefault =
      if c.default.isNone && c.autoIncrement then []
      else [.setDefault (c.default.map Profile.postgres.defaultText)] := by
  rw [Dialect.modifyActions, if_neg (by decide), List.filter_append]
  split <;> rfl

/-- Whether PostgreSQL fills the column of a field from a sequence: by the mark of the field or
by a serial type. -/
def Field.isSequenceFilled (f : Field) : Bool :=
  f.autoIncrement || (Sql.serialBase? (f.resolveType .postgres).dataType).isSome

namespace DesiredTable

/-- **Defaults of counted columns.**  The statements that give the column of a field its
definition in PostgreSQL set the default that the field declares.  Without one they drop the
default of the column, also where it comes from a sequence by the type of the column.  They
leave it alone exactly if the field is marked to count up. -/
theorem altersDefault_modifyColumn_iff (t : DesiredTable) (f : Field) (known : KnownEnums) :
    ∃ statements,
      Profile.postgres.modifyColumn known t.name (t.column .postgres f) = .ok statements ∧
      statements.filter (altersDefault t.name f.name) =
        (match f.default with
        | some value =>
          ["ALTER TABLE " ++ t.name ++ " ALTER COLUMN " ++ f.name ++ " SET DEFAULT " ++
            Profile.postgres.defaultText value ++ ";"]
        | none =>
          if f.autoIncrement then []
          else ["ALTER TABLE " ++ t.name ++ " ALTER COLUMN " ++ f.name ++ " DROP DEFAULT;"]) ∧
      ((∀ statement ∈ statements, altersDefault t.name f.name statement = false) ↔
        f.default = none ∧ f.autoIncrement = true) := by
  have hname : (t.column .postgres f).name = f.name := rfl
  have hdefault : (t.column .postgres f).default = f.default := rfl
  have hcounts : (t.column .postgres f).autoIncrement = f.autoIncrement :=
    f.autoIncrement_resolveType_postgres
  have hstatements := Dialect.modifyColumn_eq .postgres known t.name (t.column .postgres f)
  have hactions := filter_isDefault_modifyActions known (t.column .postgres f)
  have haltered := filter_altersDefault_sql t.name f.name
    (Dialect.modifyActions .postgres known (t.column .postgres f))
  rw [hname] at hstatements
  rw [hactions, hdefault, hcounts] at haltered
  refine ⟨_, hstatements, ?_, ?_⟩
  · rw [haltered]
    cases f.default with
    | none => cases f.autoIncrement <;> rfl
    | some value => rfl
  · simp only [← Bool.not_eq_true]
    rw [← List.filter_eq_nil_iff, haltered]
    cases f.default with
    | none => cases f.autoIncrement <;> simp
    | some value => simp

/-- The number of an invoice, which is counted up by its type. -/
def numberField : Field :=
  { Field.new "Invoice" "number" "SERIAL" with nullable := false }

/-- A table of invoices with their numbers. -/
def invoicesMetadata : Metadata where
  fields := [numberField]
  tables := [⟨"Invoice", "invoices", none, none, []⟩]
  indexes := []
  enums := []
  embeddings := []

/-- A column that is counted up by its type loses its sequence. -/
theorem not_keepsDefault_invoicesMetadata :
    ¬ ∀ t ∈ invoicesMetadata.schema.tables, ∀ f ∈ t.fields,
      f.default = none → f.isSequenceFilled = true →
        ∃ statements,
          Profile.postgres.modifyColumn [] t.name (t.column .postgres f) = .ok statements ∧
            ∀ statement ∈ statements, altersDefault t.name f.name statement = false := by
  intro hkeeps
  obtain ⟨statements, hstatements, hnone⟩ := hkeeps
    ⟨⟨"Invoice", "invoices", none, none, []⟩, [numberField]⟩ (by decide +kernel) numberField
    (List.mem_singleton_self _) rfl (by decide +kernel)
  have hdrop : "ALTER TABLE invoices ALTER COLUMN number DROP DEFAULT;" ∈ statements := by
    obtain rfl := Except.ok.inj hstatements
    decide +kernel
  have hkept := hnone _ hdrop
  revert hkept
  decide +kernel

end DesiredTable

end SchemaDdl
