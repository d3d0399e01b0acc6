/-
# The types that are written

The type of a column is rewritten by its name: PostgreSQL puts a serial type in place of an
integer type that counts up, and the MySQL family puts an integer type in place of a serial
type and the values in place of a known enum type.  Metadata resolves the types of its fields
beforehand:

* `typeText_eq_iff_keepsType` : which types are written as they stand;
* `columnText_override_iff` : when this is so for the override of a field;
* `columnText_declared_eq_resolved` : a declared type may be resolved beforehand or left to the
  renderer.
-/
import SchemaDdl.Command.Run
import SchemaDdl.Proofs.Ddl.ColumnClauses
import SchemaDdl.Proofs.Drift.TypeBucket
import SchemaDdl.Proofs.Lookup

namespace SchemaDdl

/-! ## Names that are put in place of others -/

namespace Sql

/-- No serial type is the name of a plain integer type. -/
theorem integerWidth?_serialName (width : IntegerWidth) : integerWidth? width.serialName = none := by
  rw [integerWidth?, (typeWord_name width).1]
  cases width <;> rfl

/-- No plain integer type is the name of a serial type. -/
theorem serialWidth?_mysqlName (width : IntegerWidth) : serialWidth? width.mysqlName = none := by
  rw [serialWidth?, (typeWord_name width).2.2]
  cases width <;> rfl

/-- Names that are put in place of others by width stay: a second time changes nothing, and a
type that is left as it was had no width. -/
theorem getD_map_eq_self_iff {width? : String → Option IntegerWidth}
    {name : IntegerWidth → String} (hname : ∀ width, width? (name width) = none)
    (dataType : String) :
    ((width? dataType).map name).getD dataType = dataType ↔ width? dataType = none := by
  cases hwidth : width? dataType with
  | none => simp
  | some width =>
    have hnew : ((some width).map name).getD dataType = name width := rfl
    rw [hnew]
    constructor
    · intro hsame
      rw [← hsame, hname] at hwidth
      exact hwidth.symm
    · intro habsurd
      simp at habsurd

/-- A written out enum type is no serial type. -/
theorem serialWidth?_enumList (values : String) : serialWidth? ("ENUM(" ++ values) = none := by
  have hword := Drift.toList_typeWord_enumList values
  cases hwidth : serialWidth? ("ENUM(" ++ values) with
  | none => rfl
  | some width =>
    -- A serial type is one of six words, and none of them begins in this way.
    unfold serialWidth? at hwidth
    split at hwidth <;> simp_all

end Sql

/-! ## Types that stay -/

/-- Nothing is known of a name that no known enum type bears. -/
theorem KnownEnums.values?_eq_none_iff (known : KnownEnums) (name : String) :
    known.values? name = none ↔ ∀ e ∈ known, e.name ≠ name := by
  rw [values?, Option.map_eq_none_iff, findEnum?, find?_key_eq_none_iff, List.mem_map]
  push Not
  rfl

namespace Dialect

/-- A dialect writes a type as it stands.  In the MySQL family it is no serial type and no
known enum type, unless this is called by the very text that is written for it; in PostgreSQL
it is no plain integer type if the column is marked to count up. -/
def KeepsType (d : Dialect) (known : KnownEnums) (dataType : String) (counts : Bool) : Prop :=
  if d.isMysqlFamily then
    Sql.serialWidth? dataType = none ∧
      ∀ values, known.values? dataType = some values →
        "ENUM(" ++ Sql.quoteLiterals values ++ ")" = dataType
  else counts = true → Sql.integerWidth? dataType = none

variable (d : Dialect) (known : KnownEnums)

/-- **Types that stay.**  The type that is written is that of the column exactly where the
dialect keeps it. -/
theorem typeText_eq_iff_keepsType (c : Column) :
    d.profile.typeText known c = c.dataType ↔ d.KeepsType known c.dataType c.autoIncrement := by
  by_cases hd : d.isMysqlFamily = true
  · rw [KeepsType, if_pos hd, typeText_of_isMysqlFamily hd, Profile.mysqlType]
    cases hvalues : known.values? c.dataType with
    | none =>
      have hstays := Sql.getD_map_eq_self_iff Sql.serialWidth?_mysqlName c.dataType
      simpa [Sql.integerForSerial?] using hstays
    | some values =>
      show "ENUM(" ++ Sql.quoteLiterals values ++ ")" = c.dataType ↔ _
      constructor
      · intro hsame
        refine ⟨?_, ?_⟩
        · rw [← hsame, String.append_assoc]
          exact Sql.serialWidth?_enumList _
        · rintro _ ⟨⟩
          exact hsame
      · rintro ⟨_, hwritten⟩
        exact hwritten values rfl
  · rw [KeepsType, if_neg hd]
    obtain rfl := eq_postgres_of_not_isMysqlFamily hd
    show Profile.postgresType c = c.dataType ↔ _
    unfold Profile.postgresType
    have hstays := Sql.getD_map_eq_self_iff Sql.integerWidth?_serialName c.dataType
    cases c.autoIncrement with
    | false => simp
    | true => simpa [Sql.serialType?] using hstays

/-- The MySQL family has a word for columns that count up, by their mark or by their type. -/
theorem autoIncrementClause_ne_empty_iff (c : Column) :
    d.profile.autoIncrementClause c ≠ "" ↔ d.isMysqlFamily = true ∧ c.countsUp = true := by
  have hmysql : Profile.mysqlAutoIncrement c ≠ "" ↔ c.countsUp = true := by
    show (if c.countsUp then " AUTO_INCREMENT" else "") ≠ "" ↔ _
    cases c.countsUp <;> simp
  cases d with
  | postgres => simp [profile, Profile.postgres, isMysqlFamily]
  | mysql => exact hmysql.trans (and_iff_right rfl).symm
  | mariadb => exact hmysql.trans (and_iff_right rfl).symm

end Dialect

/-! ## Overrides -/

namespace DesiredTable

variable (t : DesiredTable) {f : Field} {d : Dialect}

/-- The column of a field with an override has the override as its type and counts up by the
mark of the field. -/
theorem column_of_override {override : String} (h : f.overrides.get? d = some override) :
    (t.column d f).dataType = override ∧ (t.column d f).autoIncrement = f.autoIncrement := by
  have hresolved : f.resolveType d = ⟨override, f.autoIncrement⟩ := by
    rw [Field.resolveType, h]
  exact ⟨congrArg ResolvedType.dataType hresolved, congrArg ResolvedType.autoIncrement hresolved⟩

/-- **Overrides as they stand.**  The definition of a column has the override of its field as
its type exactly where the dialect keeps this: in the MySQL family it is no serial type and no
known enum type, and in PostgreSQL no plain integer type whose field is marked to count up.  The
MySQL family adds its word for counting up if the field is marked or the override is a serial
type. -/
theorem columnText_override_iff {override : String} (h : f.overrides.get? d = some override)
    (known : KnownEnums) :
    (d.profile.columnText known (t.column d f) =
        f.name ++ " " ++ override ++ (d.profile.nullClause (t.column d f) ++
          Profile.uniqueClause (t.column d f) ++ d.profile.laterClauses (t.column d f)) ↔
      d.KeepsType known override f.autoIncrement) ∧
    (d.profile.autoIncrementClause (t.column d f) ≠ "" ↔
      d.isMysqlFamily = true ∧
        (f.autoIncrement = true ∨ (Sql.serialWidth? override).isSome = true)) := by
  obtain ⟨htype, hcounts⟩ := t.column_of_override h
  have hname : (t.column d f).name = f.name := rfl
  constructor
  · have hkeeps := d.typeText_eq_iff_keepsType known (t.column d f)
    rw [htype, hcounts] at hkeeps
    rw [← hkeeps, Profile.columnText_eq_clauses, hname, String.append_left_inj,
      String.append_right_inj]
  · rw [Dialect.autoIncrementClause_ne_empty_iff, Column.countsUp, htype, hcounts, Bool.or_eq_true,
      Sql.integerForSerial?, Option.isSome_map]

/-- The number of a voucher, with types of its own in PostgreSQL and in MySQL. -/
def voucherNumber : Field :=
  { Field.new "Voucher" "number" "BIGINT" with
    nullable := false
    overrides := (Overrides.empty.set .postgres "INTEGER").set .mysql "SERIAL" }

/-- A table of vouchers with their numbers. -/
def vouchersTable : DesiredTable :=
  ⟨⟨"Voucher", "vouchers", none, none, []⟩, [voucherNumber]⟩

/-- The metadata of this table. -/
def vouchersMetadata : Metadata where
  fields := vouchersTable.fields
  tables := [vouchersTable.directive]
  indexes := []
  enums := []
  embeddings := []

/-- PostgreSQL writes the override of the number as it stands, and MySQL writes another type. -/
theorem columnText_override_voucherNumber :
    voucherNumber.overrides.get? .postgres = some "INTEGER" ∧
      Dialect.postgres.profile.columnText [] (vouchersTable.column .postgres voucherNumber) =
        "number INTEGER NOT NULL" ∧
      voucherNumber.overrides.get? .mysql = some "SERIAL" ∧
      Dialect.mysql.profile.columnText [] (vouchersTable.column .mysql voucherNumber) ≠
        "number SERIAL NOT NULL AUTO_INCREMENT" := by
  refine ⟨rfl, ?_, rfl, ?_⟩
  · have hkeeps : Dialect.postgres.KeepsType [] "INTEGER" voucherNumber.autoIncrement :=
      fun hmark => absurd hmark (by decide)
    exact ((columnText_override_iff _ rfl []).1.mpr hkeeps).trans (by decide +kernel)
  · intro htext
    have hkeeps := (columnText_override_iff _ rfl []).1.mp (htext.trans (by decide +kernel))
    exact absurd hkeeps.1 (by decide +kernel)

/-- An override that is a serial type is written as another type, which counts up. -/
theorem not_writesOverride_vouchersMetadata :
    (¬ ∀ t ∈ vouchersMetadata.schema.tables, ∀ f ∈ t.fields, ∀ override,
      f.overrides.get? .mysql = some override →
        Dialect.mysql.profile.typeText [] (t.column .mysql f) = override ∧
          (f.autoIncrement = false →
            Dialect.mysql.profile.autoIncrementClause (t.column .mysql f) = "")) ∧
    vouchersMetadata.render .mysql = .ok ("-- MYSQL TABLE: vouchers --\n" ++
      "CREATE TABLE vouchers (\n  number INT NOT NULL AUTO_INCREMENT\n);\n") := by
  refine ⟨?_, by decide +kernel⟩
  intro hwrites
  have htable : vouchersTable ∈ vouchersMetadata.schema.tables := by decide +kernel
  have hwritten := (hwrites _ htable _ (List.mem_singleton_self _) "SERIAL" rfl).1
  revert hwritten
  decide +kernel

end DesiredTable

/-! ## Declared types -/

/-- The column with a type, and whether it counts up. -/
def Column.withType (c : Column) (type : ResolvedType) : Column :=
  { c with dataType := type.dataType, autoIncrement := type.autoIncrement }

/-- The type that a field declares, with its own mark. -/
def Field.declaredType (f : Field) : ResolvedType :=
  ⟨f.dataType, f.autoIncrement⟩

namespace Dialect

variable {f : Field}

/-- PostgreSQL writes the same type for a declared and a resolved one: once a serial type
stands there, no other is put in its place. -/
theorem postgresType_resolveType (h : f.overrides.get? .postgres = none) (c : Column) :
    Profile.postgresType (c.withType (f.resolveType .postgres)) =
      Profile.postgresType (c.withType f.declaredType) := by
  have hresolved : f.resolveType .postgres =
      if f.autoIncrement then ⟨(Sql.serialType? f.dataType).getD f.dataType, true⟩
      else ⟨f.dataType, false⟩ := by
    rw [Field.resolveType, h]
    rfl
  rw [hresolved]
  unfold Profile.postgresType Field.declaredType Column.withType
  cases f.autoIncrement with
  | false => rfl
  | true =>
    show (Sql.serialType? ((Sql.serialType? f.dataType).getD f.dataType)).getD
      ((Sql.serialType? f.dataType).getD f.dataType) = (Sql.serialType? f.dataType).getD f.dataType
    cases hserial : Sql.serialType? f.dataType with
    | none => simp [hserial]
    | some serial =>
      obtain ⟨width, _, rfl⟩ := Option.map_eq_some_iff.mp hserial
      simp [Sql.serialType?, Sql.integerWidth?_serialName]

/-- The MySQL family writes the same type and the same word for counting up for a declared and
a resolved one, unless an enum type is called as the serial type or as the integer type that is
put in its place. -/
theorem mysqlType_resolveType {d : Dialect} (hd : d.isMysqlFamily = true)
    (h : f.overrides.get? d = none) {known : KnownEnums}
    (hinteger : ∀ width : Sql.IntegerWidth, known.values? width.mysqlName = none)
    (hserial : (Sql.serialWidth? f.dataType).isSome = true → known.values? f.dataType = none)
    (c : Column) :
    Profile.mysqlType known (c.withType (f.resolveType d)) =
        Profile.mysqlType known (c.withType f.declaredType) ∧
      Profile.mysqlAutoIncrement (c.withType (f.resolveType d)) =
        Profile.mysqlAutoIncrement (c.withType f.declaredType) := by
  cases hwidth : Sql.serialWidth? f.dataType with
  | none =>
    have hresolved : f.resolveType d = f.declaredType := by
      rw [Field.resolveType, h]
      simp [hd, Sql.integerForSerial?, hwidth, Field.declaredType]
    rw [hresolved]
    exact ⟨rfl, rfl⟩
  | some width =>
    have hresolved : f.resolveType d = ⟨width.mysqlName, true⟩ := by
      rw [Field.resolveType, h]
      simp [hd, Sql.integerForSerial?, hwidth]
    have hunknown : known.values? f.dataType = none := hserial (by simp [hwidth])
    have hstays := Sql.serialWidth?_mysqlName width
    rw [hresolved]
    unfold Profile.mysqlType Profile.mysqlAutoIncrement Field.declaredType Column.withType
    dsimp only
    simp only [hinteger, hunknown, Sql.integerForSerial?, hwidth, hstays]
    simp

/-- Of a type a definition shows the type that is written for it and whether it counts up. -/
theorem columnText_withType_congr (d : Dialect) (known : KnownEnums) (c : Column)
    {type type' : ResolvedType}
    (htype : d.profile.typeText known (c.withType type) =
      d.profile.typeText known (c.withType type'))
    (hcounts : d.profile.autoIncrementClause (c.withType type) =
      d.profile.autoIncrementClause (c.withType type')) :
    d.profile.columnText known (c.withType type) =
      d.profile.columnText known (c.withType type') := by
  have hcomment : d.profile.columnComment (c.withType type) =
      d.profile.columnComment (c.withType type') := by
    cases d <;> rfl
  unfold Profile.columnText
  rw [htype, hcounts, hcomment]
  rfl

/-- **Resolving beforehand or later.**  A column is written alike with the type that a field
without override declares and with the type that this is resolved to, if no known enum type is
called as an integer type of MySQL or as the serial type of the field. -/
theorem columnText_declared_eq_resolved (d : Dialect) (h : f.overrides.get? d = none)
    (known : KnownEnums) (hinteger : ∀ e ∈ known, e.name ∉ ["INT", "BIGINT", "SMALLINT"])
    (hserial : (Sql.serialWidth? f.dataType).isSome = true → ∀ e ∈ known, e.name ≠ f.dataType)
    (c : Column) :
    d.profile.columnText known (c.withType f.declaredType) =
      d.profile.columnText known (c.withType (f.resolveType d)) := by
  have hmysql : d.isMysqlFamily = true →
      Profile.mysqlType known (c.withType (f.resolveType d)) =
          Profile.mysqlType known (c.withType f.declaredType) ∧
        Profile.mysqlAutoIncrement (c.withType (f.resolveType d)) =
          Profile.mysqlAutoIncrement (c.withType f.declaredType) := by
    intro hd
    refine mysqlType_resolveType hd h (fun width => ?_) (fun hsome => ?_) c
    · rw [KnownEnums.values?_eq_none_iff]
      rintro e he hname
      refine hinteger e he ?_
      rw [hname]
      cases width <;> decide
    · exact (known.values?_eq_none_iff _).mpr (hserial hsome)
  refine columnText_withType_congr d known c ?_ ?_
  · cases d with
    | postgres => exact (postgresType_resolveType h c).symm
    | mysql => exact (hmysql rfl).1.symm
    | mariadb => exact (hmysql rfl).1.symm
  · cases d with
    | postgres => rfl
    | mysql => exact (hmysql rfl).2.symm
    | mariadb => exact (hmysql rfl).2.symm

/-- A number that is counted up by a serial type with blanks around it. -/
def ticketNumber : Field :=
  { Field.new "Ticket" "number" " BigSerial " with nullable := false }

/-- In MariaDB both ways lead to the same integer, also where enum types are known. -/
theorem columnText_ticketNumber :
    ticketNumber.overrides.get? .mariadb = none ∧
      Dialect.mariadb.profile.columnText [⟨"SERIAL", ["a"]⟩]
          ((Column.new "number" "").asNotNull.withType ticketNumber.declaredType) =
        Dialect.mariadb.profile.columnText [⟨"SERIAL", ["a"]⟩]
          ((Column.new "number" "").asNotNull.withType (ticketNumber.resolveType .mariadb)) ∧
      Dialect.mariadb.profile.columnText [⟨"SERIAL", ["a"]⟩]
          ((Column.new "number" "").asNotNull.withType ticketNumber.declaredType) =
        "number BIGINT NOT NULL AUTO_INCREMENT" := by
  refine ⟨rfl, ?_, by decide +kernel⟩
  exact columnText_declared_eq_resolved .mariadb rfl _ (by decide) (fun _ => by decide) _

end Dialect

end SchemaDdl
