/-
# Redefining columns

A dialect gives a column that exists already a new definition by one or more actions.  Each
action is a statement, and each leaves the column with other attributes:

* `alters_sql` : what a statement changes can be read off its text;
* `Dialect.modifyColumn_eq` : the statements of a redefinition are those of its actions;
* `Dialect.effectiveType_after`, `Dialect.nullable_after`, `Dialect.default_after` : the
  attributes that are left are those of the new definition;
* `Dialect.keys_after` : the keys are left as they were.
-/
import SchemaDdl.Catalog.LiveSchema
import SchemaDdl.Ddl.Renderer
import SchemaDdl.Proofs.Text.Ending

namespace SchemaDdl

/-! ## Actions -/

/-- What a single statement does to a column that exists. -/
inductive ColumnAction where
  | setType (dataType : String)
  | setNullable (nullable : Bool)
  | setDefault (default : Option String)
  | redefine (dataType : String) (nullable autoIncrement : Bool) (default : Option String)
      (rest : String)
  deriving DecidableEq, Repr

namespace ColumnAction

/-- The statement of an action. -/
def sql (table column : String) : ColumnAction → String
  | setType dataType =>
    "ALTER TABLE " ++ table ++ " ALTER COLUMN " ++ column ++ " TYPE " ++ dataType ++ ";"
  | setNullable nullable =>
    "ALTER TABLE " ++ table ++ " ALTER COLUMN " ++ column ++
      if nullable then " DROP NOT NULL;" else " SET NOT NULL;"
  | setDefault (some text) =>
    "ALTER TABLE " ++ table ++ " ALTER COLUMN " ++ column ++ " SET DEFAULT " ++ text ++ ";"
  | setDefault none => "ALTER TABLE " ++ table ++ " ALTER COLUMN " ++ column ++ " DROP DEFAULT;"
  | redefine dataType nullable autoIncrement default rest =>
    "ALTER TABLE " ++ table ++ " MODIFY COLUMN " ++
      (column ++ " " ++ dataType ++ (if nullable then "" else " NOT NULL") ++
        (if autoIncrement then " AUTO_INCREMENT" else "") ++
        default.elim "" (" DEFAULT " ++ ·) ++ rest) ++ ";"

/-- The column that an action leaves.  A whole definition replaces all attributes of the
column but its keys.  Those that it has are indexes of the table and stay, and none is made. -/
def apply (c : LiveColumn) : ColumnAction → LiveColumn
  | setType dataType => { c with dataType := dataType, udtName := none }
  | setNullable nullable => { c with nullable := nullable }
  | setDefault default => { c with default := default }
  | redefine dataType nullable autoIncrement default _ =>
    { c with
      dataType := dataType
      udtName := none
      nullable := nullable
      autoIncrement := autoIncrement
      default := default }

/-- The statement of an action ends in a semicolon. -/
theorem endsNonblank_sql (table column : String) (action : ColumnAction) :
    Text.EndsNonblank (action.sql table column) := by
  cases action with
  | setType dataType => exact Text.endsNonblank_semicolon.append_left _
  | setNullable nullable =>
    have hend : Text.EndsNonblank (if nullable then " DROP NOT NULL;" else " SET NOT NULL;") := by
      cases nullable
      · exact ⟨" SET NOT NULL".toList, ';', by decide, by decide⟩
      · exact ⟨" DROP NOT NULL".toList, ';', by decide, by decide⟩
    exact hend.append_left _
  | setDefault default =>
    cases default with
    | none =>
      have hend : Text.EndsNonblank " DROP DEFAULT;" :=
        ⟨" DROP DEFAULT".toList, ';', by decide, by decide⟩
      exact hend.append_left _
    | some text => exact Text.endsNonblank_semicolon.append_left _
  | redefine dataType nullable autoIncrement default rest =>
    exact Text.endsNonblank_semicolon.append_left _

/-- The statement of an action alters a table. -/
theorem exists_sql_eq (table column : String) (action : ColumnAction) :
    ∃ later, action.sql table column = "ALTER TABLE " ++ later := by
  cases action with
  | setDefault default =>
    cases default <;> (simp only [sql, String.append_assoc]; exact ⟨_, rfl⟩)
  | _ =>
    simp only [sql, String.append_assoc]
    exact ⟨_, rfl⟩

/-- The words by which a column is made to accept `NULL` or not. -/
def nullabilityWords (nullable : Bool) : String :=
  if nullable then " DROP NOT NULL;" else " SET NOT NULL;"

/-- What an action says after the name of its column, if it changes a single attribute. -/
def words? : ColumnAction → Option String
  | setType dataType => some (" TYPE " ++ dataType ++ ";")
  | setNullable nullable => some (nullabilityWords nullable)
  | setDefault (some text) => some (" SET DEFAULT " ++ text ++ ";")
  | setDefault none => some " DROP DEFAULT;"
  | redefine _ _ _ _ _ => none

/-- The statement of such an action is its words after the name of the column. -/
theorem sql_eq_of_words? {table column said : String} {action : ColumnAction}
    (h : action.words? = some said) :
    action.sql table column = "ALTER TABLE " ++ table ++ " ALTER COLUMN " ++ column ++ said := by
  cases action with
  | setType dataType =>
    obtain rfl := Option.some.inj h
    show "ALTER TABLE " ++ table ++ " ALTER COLUMN " ++ column ++ " TYPE " ++ dataType ++ ";" = _
    simp only [String.append_assoc]
  | setNullable nullable =>
    obtain rfl := Option.some.inj h
    rfl
  | setDefault default =>
    cases default with
    | none =>
      obtain rfl := Option.some.inj h
      rfl
    | some text =>
      obtain rfl := Option.some.inj h
      show "ALTER TABLE " ++ table ++ " ALTER COLUMN " ++ column ++ " SET DEFAULT " ++ text ++
        ";" = _
      simp only [String.append_assoc]
  | redefine dataType nullable autoIncrement default rest => exact absurd h (by simp [words?])

end ColumnAction

/-- Whether a statement changes a column by the given words. -/
def alters (table column words statement : String) : Bool :=
  Text.beginsWith statement ("ALTER TABLE " ++ table ++ " ALTER COLUMN " ++ column ++ words)

/-- A whole definition departs from the other statements right after the name of its table. -/
theorem alters_redefine (table column words dataType : String) (nullable autoIncrement : Bool)
    (default : Option String) (rest : String) :
    alters table column words
      ((ColumnAction.redefine dataType nullable autoIncrement default rest).sql table column) =
        false := by
  show Text.beginsWith ("ALTER TABLE " ++ table ++ " MODIFY COLUMN " ++ _ ++ ";")
    ("ALTER TABLE " ++ table ++ " ALTER COLUMN " ++ column ++ words) = false
  simp only [String.append_assoc]
  rw [Text.beginsWith_append_append "ALTER TABLE ", Text.beginsWith_append_append table,
    Text.beginsWith]
  simp only [String.toList_append]
  rfl

/-- The statement of an action changes its column by the words of the action. -/
theorem alters_sql (table column words : String) (action : ColumnAction) :
    alters table column words (action.sql table column) =
      action.words?.any (Text.beginsWith · words) := by
  cases hwords : action.words? with
  | some said =>
    rw [ColumnAction.sql_eq_of_words? hwords, alters, Text.beginsWith_append_append,
      Option.any_some]
  | none =>
    cases action with
    | setType dataType => simp [ColumnAction.words?] at hwords
    | setNullable nullable => simp [ColumnAction.words?] at hwords
    | setDefault default => cases default <;> simp [ColumnAction.words?] at hwords
    | redefine dataType nullable autoIncrement default rest =>
      rw [alters_redefine, Option.any_none]

/-- The column after actions from first to last. -/
def LiveColumn.after (c : LiveColumn) (actions : List ColumnAction) : LiveColumn :=
  actions.foldl ColumnAction.apply c

/-! ## Redefinitions -/

/-- Whether the MySQL family counts up a column, by its mark or by its type. -/
def Column.countsUp (c : Column) : Bool :=
  c.autoIncrement || (Sql.integerForSerial? c.dataType).isSome

namespace Dialect

/-- The type that a column is given by a new definition.  A column that exists cannot be
made a serial one in PostgreSQL, which gives it the integer type behind it. -/
def modifiedType (d : Dialect) (known : KnownEnums) (c : Column) : String :=
  if d.isMysqlFamily then d.profile.typeText known c
  else (Sql.serialBase? c.dataType).getD c.dataType

/-- The actions that give a column a new definition.  PostgreSQL sets attribute by attribute
and keeps the default of a column that counts up. -/
def modifyActions (d : Dialect) (known : KnownEnums) (c : Column) : List ColumnAction :=
  if d.isMysqlFamily then
    [.redefine (d.modifiedType known c) c.nullable c.countsUp
      (c.default.map d.profile.defaultText) (Profile.checkClause c ++ d.profile.columnComment c)]
  else
    [.setType (d.modifiedType known c), .setNullable c.nullable] ++
      if c.default.isNone && c.autoIncrement then []
      else [.setDefault (c.default.map d.profile.defaultText)]

/-- In the MySQL family the definition of a column without its keys has the clauses of the
single action. -/
theorem columnText_withoutKeys {d : Dialect} (hd : d.isMysqlFamily = true) (known : KnownEnums)
    (c : Column) :
    d.profile.columnText known c.withoutKeys =
      c.name ++ " " ++ d.profile.typeText known c ++ (if c.nullable then "" else " NOT NULL") ++
        (if c.countsUp then " AUTO_INCREMENT" else "") ++
        (c.default.map d.profile.defaultText).elim "" (" DEFAULT " ++ ·) ++
        (Profile.checkClause c ++ d.profile.columnComment c) := by
  have hunique : Profile.uniqueClause c.withoutKeys = "" := rfl
  have hnull : d.profile.nullClause c.withoutKeys = if c.nullable then "" else " NOT NULL" := rfl
  have hdefault : d.profile.defaultClause c.withoutKeys =
      (c.default.map d.profile.defaultText).elim "" (" DEFAULT " ++ ·) := by
    have hkept : c.withoutKeys.default = c.default := rfl
    rw [Profile.defaultClause, hkept]
    cases c.default <;> rfl
  have hcheck : Profile.checkClause c.withoutKeys = Profile.checkClause c := rfl
  have hmysql : d.profile.typeText known c.withoutKeys = d.profile.typeText known c ∧
      d.profile.autoIncrementClause c.withoutKeys =
        (if c.countsUp then " AUTO_INCREMENT" else "") ∧
      d.profile.columnComment c.withoutKeys = d.profile.columnComment c := by
    cases d with
    | postgres => simp [isMysqlFamily] at hd
    | mysql => exact ⟨rfl, rfl, rfl⟩
    | mariadb => exact ⟨rfl, rfl, rfl⟩
  obtain ⟨htype, hcounts, hcomment⟩ := hmysql
  rw [Profile.columnText, hunique, hnull, hdefault, hcheck, htype, hcounts, hcomment,
    String.append_empty, ← String.append_assoc]
  rfl

/-- The attributes of a column are set in PostgreSQL by its actions. -/
theorem modifyByAttribute_eq (known : KnownEnums) (table : String) (c : Column) :
    Profile.postgres.modifyByAttribute table c =
      (modifyActions .postgres known c).map (ColumnAction.sql table c.name) := by
  rw [modifyActions, if_neg (by decide), List.map_append]
  unfold Profile.modifyByAttribute
  refine congrArg₂ (· ++ ·) rfl ?_
  cases c.default with
  | none => cases c.autoIncrement <;> rfl
  | some value => rfl

/-- The statements of a redefinition are those of its actions. -/
theorem modifyColumn_eq (d : Dialect) (known : KnownEnums) (table : String) (c : Column) :
    d.profile.modifyColumn known table c =
      .ok ((d.modifyActions known c).map (ColumnAction.sql table c.name)) := by
  by_cases hd : d.isMysqlFamily = true
  · have hwhole : d.profile.redefinition = .whole := by
      cases d with
      | postgres => simp [isMysqlFamily] at hd
      | mysql => rfl
      | mariadb => rfl
    have hmodify : d.profile.modifyColumn known table c =
        .ok ["ALTER TABLE " ++ table ++ " MODIFY COLUMN " ++
          d.profile.columnText known c.withoutKeys ++ ";"] := by
      rw [Profile.modifyColumn, hwhole]
    rw [hmodify, columnText_withoutKeys hd, modifyActions, if_pos hd, modifiedType, if_pos hd]
    rfl
  · obtain rfl := eq_postgres_of_not_isMysqlFamily hd
    exact congrArg Except.ok (modifyByAttribute_eq known table c)

/-! ## What is left -/

variable (d : Dialect) (known : KnownEnums)

/-- A redefined column has the type of its definition. -/
theorem effectiveType_after (live : LiveColumn) (c : Column) :
    (live.after (d.modifyActions known c)).effectiveType = d.modifiedType known c := by
  unfold modifyActions
  split
  · rfl
  · split <;> rfl

/-- A redefined column accepts `NULL` if its definition does. -/
theorem nullable_after (live : LiveColumn) (c : Column) :
    (live.after (d.modifyActions known c)).nullable = c.nullable := by
  unfold modifyActions
  split
  · rfl
  · split <;> rfl

/-- A redefined column has the default of its definition, unless it counts up. -/
theorem default_after (live : LiveColumn) {c : Column}
    (h : d.isMysqlFamily = true ∨ c.default ≠ none ∨ c.autoIncrement = false) :
    (live.after (d.modifyActions known c)).default = c.default.map d.profile.defaultText := by
  unfold modifyActions
  split
  · rfl
  · rename_i hd
    have hset : ¬(c.default.isNone && c.autoIncrement) = true := by
      rcases h with hmysql | hdefault | hcounts
      · exact absurd hmysql hd
      · simp [hdefault]
      · simp [hcounts]
    rw [if_neg hset]
    rfl

/-- A redefined column keeps its keys. -/
theorem keys_after (live : LiveColumn) (c : Column) :
    (live.after (d.modifyActions known c)).primary = live.primary ∧
      (live.after (d.modifyActions known c)).unique = live.unique := by
  unfold modifyActions
  split
  · exact ⟨rfl, rfl⟩
  · split <;> exact ⟨rfl, rfl⟩

end Dialect

end SchemaDdl
