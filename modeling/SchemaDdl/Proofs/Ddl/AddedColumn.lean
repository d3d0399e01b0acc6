/-
# Columns that are added to a table

A column comes to its table with the statements that create the table or, later, with those
that add the column.  Each statement leaves the table in another state:

* `TableState.after_eq` : what some statements leave of a table;
* `Dialect.createTable_eq_map`, `Dialect.alterTable_addColumn` : the statements of a creation and
  of an addition;
* `Dialect.created_eq`, `Dialect.after_addActions` : what they leave;
* `Dialect.addColumn_alike_createTable` : a table that is given a column, against one that is
  created with it.

In PostgreSQL an added column loses its comment (`Dialect.columnComments_usersTable`).
-/
import SchemaDdl.Proofs.Ddl.WellFormed

namespace SchemaDdl

/-! ## Texts and lists -/

/-- The last of at most one element is that element. -/
theorem getLast?_toList {α : Type} (x : Option α) : x.toList.getLast? = x := by
  cases x <;> rfl

/-- Texts with a separator between them are the first one and the others after a separator
each. -/
theorem intercalate_cons_eq_append_join (separator text : String) (rest : List String) :
    separator.intercalate (text :: rest) = text ++ String.join (rest.map (separator ++ ·)) := by
  induction rest generalizing text with
  | nil => simp
  | cons next rest ih =>
    rw [String.intercalate_cons_cons, ih, List.map_cons, String.join_cons]
    simp only [String.append_assoc]

/-! ## States of a table -/

/-- What the statement that creates a table says of it: the definitions of its columns, its
constraints, and its options with a blank before them. -/
structure TableBody where
  columns : List String
  constraints : List String
  options : String
  deriving DecidableEq, Repr

/-- The statement that creates a table. -/
def TableBody.sql (table : String) (b : TableBody) : String :=
  "CREATE TABLE " ++ table ++ " (\n" ++
    ",\n".intercalate ((b.columns ++ b.constraints).map ("  " ++ ·)) ++ "\n)" ++ b.options ++ ";"

/-- A table with the comment that a statement has set on it, and with the comments set on its
columns, each with the name of its column. -/
structure TableState extends TableBody where
  comment : Option String
  columnComments : List (String × String)
  deriving DecidableEq, Repr

/-- A table that has just been created, with no comment set. -/
def TableBody.state (b : TableBody) : TableState where
  toTableBody := b
  comment := none
  columnComments := []

/-- What a single statement does to a table that exists. -/
inductive TableAction where
  | addColumn (definition : String)
  | addConstraint (text : String)
  | setComment (text : String)
  | setColumnComment (column text : String)
  deriving DecidableEq, Repr

namespace TableAction

/-- The statement of an action. -/
def sql (table : String) : TableAction → String
  | addColumn definition => "ALTER TABLE " ++ table ++ " ADD COLUMN " ++ definition ++ ";"
  | addConstraint text => "ALTER TABLE " ++ table ++ " ADD " ++ text ++ ";"
  | setComment text => "COMMENT ON TABLE " ++ table ++ " IS " ++ Sql.quoteLiteral text ++ ";"
  | setColumnComment column text =>
    "COMMENT ON COLUMN " ++ table ++ "." ++ column ++ " IS " ++ Sql.quoteLiteral text ++ ";"

/-- The table that an action leaves. -/
def apply (s : TableState) : TableAction → TableState
  | addColumn definition => { s with columns := s.columns ++ [definition] }
  | addConstraint text => { s with constraints := s.constraints ++ [text] }
  | setComment text => { s with comment := some text }
  | setColumnComment column text =>
    { s with columnComments := s.columnComments ++ [(column, text)] }

/-- The definition of the column that an action adds. -/
def definition? : TableAction → Option String
  | addColumn definition => some definition
  | _ => none

/-- The constraint that an action adds. -/
def constraint? : TableAction → Option String
  | addConstraint text => some text
  | _ => none

/-- The comment that an action sets on the table. -/
def comment? : TableAction → Option String
  | setComment text => some text
  | _ => none

/-- The column on which an action sets a comment, and the comment. -/
def columnComment? : TableAction → Option (String × String)
  | setColumnComment column text => some (column, text)
  | _ => none

end TableAction

/-- The table after actions from first to last. -/
def TableState.after (s : TableState) (actions : List TableAction) : TableState :=
  actions.foldl TableAction.apply s

/-- Two states of a table agree in all but the comments on columns; the order of columns and
constraints does not matter. -/
structure TableState.Alike (s s' : TableState) : Prop where
  columns : s.columns.Perm s'.columns
  constraints : s.constraints.Perm s'.constraints
  options : s.options = s'.options
  comment : s.comment = s'.comment

/-- An action adds its column, its constraint or its comment on a column to those of the table,
or replaces the comment on the table. -/
theorem TableAction.apply_eq (s : TableState) (action : TableAction) :
    action.apply s =
      { columns := s.columns ++ action.definition?.toList
        constraints := s.constraints ++ action.constraint?.toList
        options := s.options
        comment := action.comment?.or s.comment
        columnComments := s.columnComments ++ action.columnComment?.toList } := by
  cases action <;> simp [apply, definition?, constraint?, comment?, columnComment?]

/-- Actions add their columns, constraints and comments on columns in order, and the last
comment on the table counts. -/
theorem TableState.after_eq (s : TableState) (actions : List TableAction) :
    s.after actions =
      { columns := s.columns ++ actions.filterMap TableAction.definition?
        constraints := s.constraints ++ actions.filterMap TableAction.constraint?
        options := s.options
        comment := (actions.filterMap TableAction.comment?).getLast?.or s.comment
        columnComments := s.columnComments ++ actions.filterMap TableAction.columnComment? } := by
  induction actions generalizing s with
  | nil => simp [after]
  | cons action rest ih =>
    have hrest : s.after (action :: rest) = (action.apply s).after rest := rfl
    rw [hrest, ih, TableAction.apply_eq]
    -- A comment that the first action sets counts only if no later action sets one.
    simp only [filterMap_cons_eq_append, List.getLast?_append, getLast?_toList, List.append_assoc,
      Option.or_assoc]

namespace Dialect

variable (d : Dialect) (known : KnownEnums)

/-! ## Creating a table -/

/-- What the creation of a table says of it, with the texts of its declared constraints. -/
def tableBody (t : Table) (keys : List String) : TableBody where
  columns := t.columns.map (d.profile.columnText known)
  constraints := keys ++ t.columns.filterMap Column.foreignKeyText?
  options := d.profile.optionsClause t

/-- The actions that follow the creation of a table: PostgreSQL sets comments one by one. -/
def commentActions (t : Table) : List TableAction :=
  if d.isMysqlFamily then []
  else (t.comment.map TableAction.setComment).toList ++
    t.columns.filterMap fun c => c.comment.map (TableAction.setColumnComment c.name)

/-- The text of a creation: comment lines and the statements. -/
def creationText (t : Table) (keys : List String) : String :=
  d.profile.tableHeader t ++ "\n".intercalate
    ((d.tableBody known t keys).sql t.name :: (d.commentActions t).map (TableAction.sql t.name))

/-- What the statements of a creation leave. -/
def created (t : Table) (keys : List String) : TableState :=
  (d.tableBody known t keys).state.after (d.commentActions t)

/-- What a dialect adds to a table are the statements that set its comments. -/
theorem tableTrailer_eq (t : Table) :
    d.profile.tableTrailer t = (d.commentActions t).map (TableAction.sql t.name) := by
  cases d with
  | mysql => rfl
  | mariadb => rfl
  | postgres =>
    have hcomments : Dialect.postgres.commentActions t =
        (t.comment.map TableAction.setComment).toList ++
          t.columns.filterMap fun c => c.comment.map (TableAction.setColumnComment c.name) := rfl
    have htable : (t.comment.map TableAction.setComment).toList.map (TableAction.sql t.name) =
        (t.comment.map fun text => (TableAction.setComment text).sql t.name).toList := by
      cases t.comment <;> rfl
    rw [hcomments, List.map_append, List.map_filterMap, htable]
    simp only [Option.map_map]
    rfl

/-- The text of a creation is that of the statement that creates the table, between the comment
lines before it and the statements after it. -/
theorem creationText_eq (t : Table) (keys : List String) :
    d.creationText known t keys =
      d.profile.tableHeader t ++ "CREATE TABLE " ++ t.name ++ " (\n" ++
        ",\n".intercalate ((t.columns.map (d.profile.columnText known) ++
          (keys ++ t.columns.filterMap Column.foreignKeyText?)).map ("  " ++ ·)) ++ "\n)" ++
        d.profile.optionsClause t ++ ";" ++
        String.join ((d.profile.tableTrailer t).map ("\n" ++ ·)) := by
  have hbody : (d.tableBody known t keys).sql t.name =
      "CREATE TABLE " ++ t.name ++ " (\n" ++
        ",\n".intercalate ((t.columns.map (d.profile.columnText known) ++
          (keys ++ t.columns.filterMap Column.foreignKeyText?)).map ("  " ++ ·)) ++ "\n)" ++
        d.profile.optionsClause t ++ ";" := rfl
  rw [tableTrailer_eq, creationText, intercalate_cons_eq_append_join, hbody]
  simp only [String.append_assoc]

/-- A table is created by its statements unless one of its declared constraints fails. -/
theorem createTable_eq_map (t : Table) :
    d.profile.createTable known t =
      (t.constraints.mapM Constraint.sql).map (d.creationText known t) := by
  rw [Profile.createTable, Profile.tableLines_eq_map]
  cases t.constraints.mapM Constraint.sql with
  | error cause => rfl
  | ok keys => exact congrArg Except.ok (d.creationText_eq known t keys).symm

/-- What is picked from the actions that set comments. -/
theorem filterMap_commentActions {α : Type} (pick : TableAction → Option α) (t : Table) :
    (d.commentActions t).filterMap pick =
      if d.isMysqlFamily then []
      else (t.comment.bind fun text => pick (.setComment text)).toList ++
        t.columns.filterMap fun c => c.comment.bind fun text =>
          pick (.setColumnComment c.name text) := by
  rw [commentActions]
  split
  · rfl
  · rw [List.filterMap_append, List.filterMap_filterMap]
    simp only [Option.bind_map]
    have htable : (t.comment.map TableAction.setComment).toList.filterMap pick =
        (t.comment.bind fun text => pick (.setComment text)).toList := by
      cases t.comment with
      | none => rfl
      | some text =>
        rw [Option.map_some, Option.toList_some, filterMap_cons_eq_append, List.filterMap_nil,
          List.append_nil, Option.bind_some]
    rw [htable]
    rfl

/-- A created table is left with its columns, constraints and options, and with the comments
that statements set on it. -/
theorem created_eq (t : Table) (keys : List String) :
    d.created known t keys =
      { d.tableBody known t keys with
        comment := if d.isMysqlFamily then none else t.comment
        columnComments :=
          if d.isMysqlFamily then []
          else t.columns.filterMap fun c => c.comment.map (c.name, ·) } := by
  rw [created, TableState.after_eq]
  simp only [filterMap_commentActions, TableAction.definition?, TableAction.constraint?,
    TableAction.comment?, TableAction.columnComment?]
  split
  · simp [TableBody.state]
  · simp [TableBody.state, getLast?_toList, Option.map_eq_bind]

/-! ## Adding a column -/

/-- The actions that add a column and its reference. -/
def addActions (c : Column) : List TableAction :=
  .addColumn (d.profile.columnText known c) ::
    (c.foreignKeyText?.map TableAction.addConstraint).toList

/-- The statements of an addition are those of its actions. -/
theorem alterTable_addColumn (table : String) (c : Column) :
    d.profile.alterTable known ⟨table, [.addColumn c]⟩ =
      .ok ((d.addActions known c).map (TableAction.sql table)) := by
  have hadd : d.profile.addColumn known table c =
      .ok ((d.addActions known c).map (TableAction.sql table)) := by
    rw [Profile.addColumn, c.mapM_sql_foreignKey?, addActions, List.map_cons]
    cases c.foreignKeyText? <;> rfl
  have hoperations : [AlterOperation.addColumn c].mapM (d.profile.alterOperation known table) =
      .ok [(d.addActions known c).map (TableAction.sql table)] := by
    rw [List.mapM_cons, Profile.alterOperation, hadd]
    rfl
  rw [Profile.alterTable, hoperations]
  exact congrArg Except.ok (List.append_nil _)

/-- An addition adds the definition of the column and its reference, and no comment. -/
theorem after_addActions (s : TableState) (c : Column) :
    s.after (d.addActions known c) =
      { s with
        columns := s.columns ++ [d.profile.columnText known c]
        constraints := s.constraints ++ c.foreignKeyText?.toList } := by
  rw [addActions]
  cases c.foreignKeyText? with
  | none =>
    rw [Option.toList_none, List.append_nil]
    rfl
  | some text => rfl

/-! ## The two ways against each other -/

/-- In the MySQL family, and only there, the definition of a column ends in its comment. -/
theorem exists_columnText_eq_append (c : Column) :
    ∃ clauses, d.profile.columnText known c =
      clauses ++ if d.isMysqlFamily then c.comment.elim "" (" COMMENT " ++ Sql.quoteLiteral ·)
        else "" := by
  have hcomment : d.profile.columnComment c =
      if d.isMysqlFamily then c.comment.elim "" (" COMMENT " ++ Sql.quoteLiteral ·) else "" := by
    have hmysql : Profile.mysqlColumnComment c =
        c.comment.elim "" (" COMMENT " ++ Sql.quoteLiteral ·) := by
      unfold Profile.mysqlColumnComment
      cases c.comment <;> rfl
    cases d with
    | postgres => rfl
    | mysql => exact hmysql
    | mariadb => exact hmysql
  rw [← hcomment]
  exact ⟨_, rfl⟩

section Table

variable (t : Table) (before : List Column) (c : Column) (after : List Column)
  (keys : List String)

/-- A table that is created with a column among others. -/
def createdWith : TableState :=
  d.created known { t with columns := before ++ c :: after } keys

/-- A table that is created with the other columns and then given the column. -/
def createdThenGiven : TableState :=
  (d.created known { t with columns := before ++ after } keys).after (d.addActions known c)

/-- The two tables are alike. -/
theorem alike_createdThenGiven :
    (d.createdThenGiven known t before c after keys).Alike
      (d.createdWith known t before c after keys) := by
  rw [createdThenGiven, after_addActions, created_eq, createdWith, created_eq]
  have hoptions : ∀ columns, d.profile.optionsClause { t with columns := columns } =
      d.profile.optionsClause t := by
    intro columns
    cases d <;> rfl
  exact {
    columns := by
      simp only [tableBody, List.map_append, List.map_cons]
      exact (List.perm_append_singleton _ _).trans List.perm_middle.symm
    constraints := by
      simp only [tableBody, List.append_assoc]
      exact (filterMap_append_perm Column.foreignKeyText? before c after).append_left keys
    options := (hoptions _).trans (hoptions _).symm
    comment := rfl }

/-- Their columns have the same comments set on them exactly if none is set on the new one. -/
theorem columnComments_createdThenGiven :
    (d.createdThenGiven known t before c after keys).columnComments =
        (d.createdWith known t before c after keys).columnComments ↔
      d.isMysqlFamily = true ∨ c.comment = none := by
  rw [createdThenGiven, after_addActions, created_eq, createdWith, created_eq]
  by_cases hd : d.isMysqlFamily = true
  · simp [hd]
  · simp only [hd, Bool.false_eq_true, if_false, false_or, List.filterMap_append]
    -- The comments of the columns before and after it are the same on both sides.
    rw [List.append_cancel_left_eq, filterMap_cons_eq_append, List.self_eq_append_left,
      Option.toList_eq_nil_iff, Option.map_eq_none_iff]

end Table

/-- **A column that comes later.**  Every column can be added to every table, and brings along
the same definition and the same constraint for its reference as when the table is created with
it.  In the MySQL family its comment is part of the definition.  In PostgreSQL the comment is set
when the table is created and not when the column is added, so that the two tables are the same
but for the order of their lines exactly if the column has no comment. -/
theorem addColumn_alike_createTable (t : Table) (before : List Column) (c : Column)
    (after : List Column) :
    (∀ columns, d.profile.createTable known { t with columns := columns } =
      (t.constraints.mapM Constraint.sql).map
        (d.creationText known { t with columns := columns })) ∧
    d.profile.alterTable known ⟨t.name, [.addColumn c]⟩ =
      .ok ((d.addActions known c).map (TableAction.sql t.name)) ∧
    (∃ clauses, d.profile.columnText known c =
      clauses ++ if d.isMysqlFamily then c.comment.elim "" (" COMMENT " ++ Sql.quoteLiteral ·)
        else "") ∧
    (∀ s : TableState, s.after (d.addActions known c) =
      { s with
        columns := s.columns ++ [d.profile.columnText known c]
        constraints := s.constraints ++ c.foreignKeyText?.toList }) ∧
    ∀ keys,
      (d.createdThenGiven known t before c after keys).Alike
        (d.createdWith known t before c after keys) ∧
      ((d.createdThenGiven known t before c after keys).columnComments =
          (d.createdWith known t before c after keys).columnComments ↔
        d.isMysqlFamily = true ∨ c.comment = none) :=
  ⟨fun _ => d.createTable_eq_map known _, d.alterTable_addColumn known t.name c,
    d.exists_columnText_eq_append known c, fun s => d.after_addActions known s c,
    fun keys => ⟨d.alike_createdThenGiven known t before c after keys,
      d.columnComments_createdThenGiven known t before c after keys⟩⟩

/-- A column with a comment. -/
def emailColumn : Column :=
  { Column.new "email" "TEXT" with comment := some "login address" }

/-- A table of users with such a column. -/
def usersTable : Table :=
  { Table.new "users" with columns := [Column.new "id" "BIGINT", emailColumn] }

/-- PostgreSQL sets the comment when the table is created, and does not when the column is
added. -/
theorem columnComments_usersTable :
    Dialect.postgres.profile.createTable [] usersTable = .ok ("-- POSTGRES TABLE: users --\n" ++
      "CREATE TABLE users (\n  id BIGINT,\n  email TEXT\n);\n" ++
      "COMMENT ON COLUMN users.email IS 'login address';") ∧
    Dialect.postgres.profile.alterTable [] ⟨"users", [.addColumn emailColumn]⟩ =
      .ok ["ALTER TABLE users ADD COLUMN email TEXT;"] ∧
    (Dialect.postgres.createdWith [] usersTable [Column.new "id" "BIGINT"] emailColumn []
      []).columnComments = [("email", "login address")] ∧
    (Dialect.postgres.createdThenGiven [] usersTable [Column.new "id" "BIGINT"] emailColumn []
      []).columnComments = [] := by
  decide +kernel

end Dialect

end SchemaDdl
