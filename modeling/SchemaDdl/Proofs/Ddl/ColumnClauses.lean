/-
# The clauses of a column

The definition of a column has its name, its type and then clauses in a fixed order, each of
which begins with words of its own.  So what a definition says of `NULL` and of uniqueness can
be read off its text:

* `excludesNull_columnText_iff` : a definition excludes `NULL` for a key and for a column that
  does not accept it;
* `statesUnique_columnText_iff` : it states uniqueness unless the column is marked as key;
* `excludesNull_modifyColumn_iff`, `alters_modifyColumn_iff` : what redefinitions say of `NULL`.
-/
import SchemaDdl.Proofs.Ddl.Redefinition

namespace SchemaDdl

/-! ## How texts go on -/

/-- A text is empty or begins with one of the given words. -/
def Text.BeginsWithOneOf (words : List String) (s : String) : Prop :=
  s = "" ∨ ∃ word ∈ words, Text.beginsWith s word = true

namespace Text.BeginsWithOneOf

variable {words : List String}

/-- Texts that begin so do so when they are put together. -/
theorem append {a b : String} (ha : BeginsWithOneOf words a) (hb : BeginsWithOneOf words b) :
    BeginsWithOneOf words (a ++ b) := by
  rcases ha with rfl | ⟨word, hword, hbegins⟩
  · rwa [String.empty_append]
  · exact .inr ⟨word, hword, beginsWith_append hbegins b⟩

/-- A text that goes on in this way begins as it does on its own, if none of the words can be
mistaken for what is looked for. -/
theorem beginsWith_append_eq {later : String} (hlater : BeginsWithOneOf words later)
    {s start : String}
    (hapart : ∀ word ∈ words, beginsWith (s ++ word) start = beginsWith s start ∧
      beginsWith start (s ++ word) = false) :
    beginsWith (s ++ later) start = beginsWith s start := by
  rcases hlater with rfl | ⟨word, hword, hbegins⟩
  · rw [String.append_empty]
  · obtain ⟨hsame, hshort⟩ := hapart word hword
    rw [Bool.eq_iff_iff]
    refine ⟨fun hstart => ?_, fun hstart => beginsWith_append hstart later⟩
    rw [← hsame]
    have hlonger : beginsWith (s ++ later) (s ++ word) = true := by
      rwa [beginsWith_append_append]
    rw [beginsWith, List.isPrefixOf_iff_prefix] at hstart hlonger ⊢
    -- Both begin the same text, so one of them begins the other.
    rcases List.prefix_or_prefix_of_prefix hstart hlonger with hprefix | hprefix
    · exact hprefix
    · rw [← List.isPrefixOf_iff_prefix, ← beginsWith, hshort] at hprefix
      exact absurd hprefix Bool.false_ne_true

end Text.BeginsWithOneOf

/-! ## Clauses of a definition -/

namespace Profile

/-- The clauses after those of `NULL` and of uniqueness. -/
def laterClauses (p : Profile) (c : Column) : String :=
  p.autoIncrementClause c ++ p.defaultClause c ++ checkClause c ++ p.columnComment c

/-- The words with which the later clauses begin. -/
def laterWords : List String :=
  [" AUTO_INCREMENT", " DEFAULT ", " CHECK (", " COMMENT "]

/-- The words that a definition can have about `NULL`. -/
def nullWords : List String :=
  ["", " NOT NULL", " PRIMARY KEY", " PRIMARY KEY NOT NULL"]

/-- A definition has its clauses after the name and the type. -/
theorem columnText_eq_clauses (p : Profile) (known : KnownEnums) (c : Column) :
    p.columnText known c = c.name ++ " " ++ p.typeText known c ++
      (p.nullClause c ++ uniqueClause c ++ p.laterClauses c) := by
  simp only [columnText, laterClauses, String.append_assoc]

end Profile

open Text Profile ColumnAction

/-- A clause of uniqueness has one form. -/
theorem uniqueClause_mem (c : Column) : uniqueClause c ∈ ["", " UNIQUE"] := by
  unfold uniqueClause
  split <;> decide

namespace Dialect

/-- A clause about `NULL` has one of four forms. -/
theorem nullClause_mem (d : Dialect) (c : Column) : d.profile.nullClause c ∈ nullWords := by
  unfold nullClause
  split
  · cases d <;> decide
  · split <;> decide

/-- The later clauses begin with words of their own. -/
theorem beginsWithOneOf_laterClauses (d : Dialect) (c : Column) :
    BeginsWithOneOf laterWords (d.profile.laterClauses c) := by
  have hcounts : BeginsWithOneOf laterWords (d.profile.autoIncrementClause c) := by
    have hmysql : BeginsWithOneOf laterWords (mysqlAutoIncrement c) := by
      unfold mysqlAutoIncrement
      split
      · exact .inr ⟨" AUTO_INCREMENT", by decide, by decide⟩
      · exact .inl rfl
    cases d with
    | postgres => exact .inl rfl
    | mysql => exact hmysql
    | mariadb => exact hmysql
  have hdefault : BeginsWithOneOf laterWords (d.profile.defaultClause c) := by
    unfold defaultClause
    split
    · exact .inr ⟨" DEFAULT ", by decide, beginsWith_append (by decide) _⟩
    · exact .inl rfl
  have hcheck : BeginsWithOneOf laterWords (checkClause c) := by
    unfold checkClause
    split
    · exact .inr ⟨" CHECK (", by decide,
        beginsWith_append (beginsWith_append (by decide) _) _⟩
    · exact .inl rfl
  have hcomment : BeginsWithOneOf laterWords (d.profile.columnComment c) := by
    have hmysql : BeginsWithOneOf laterWords (mysqlColumnComment c) := by
      unfold mysqlColumnComment
      split
      · exact .inr ⟨" COMMENT ", by decide, beginsWith_append (by decide) _⟩
      · exact .inl rfl
    cases d with
    | postgres => exact .inl rfl
    | mysql => exact hmysql
    | mariadb => exact hmysql
  exact ((hcounts.append hdefault).append hcheck).append hcomment

end Dialect

/-! ## What a definition says -/

/-- Words are told from the later clauses, wherever a definition goes on with these. -/
def ToldApart (said : String) : Prop :=
  ∀ nulls ∈ nullWords, ∀ unique ∈ ["", " UNIQUE"], ∀ word ∈ laterWords,
    beginsWith (nulls ++ unique ++ word) said = beginsWith (nulls ++ unique) said ∧
      beginsWith said (nulls ++ unique ++ word) = false

instance : DecidablePred ToldApart := fun said =>
  inferInstanceAs (Decidable (∀ nulls ∈ nullWords, ∀ unique ∈ ["", " UNIQUE"],
    ∀ word ∈ laterWords,
      beginsWith (nulls ++ unique ++ word) said = beginsWith (nulls ++ unique) said ∧
        beginsWith said (nulls ++ unique ++ word) = false))

/-- The definition of a column goes on with one of the given texts after its name and type. -/
def GoesOnWith (texts : List String) (name dataType definition : String) : Prop :=
  ∃ said ∈ texts, beginsWith definition (name ++ " " ++ dataType ++ said) = true

/-- What a definition says of `NULL` and of uniqueness does not depend on its later clauses. -/
theorem goesOnWith_columnText_iff (d : Dialect) (known : KnownEnums) (c : Column)
    {texts : List String} (htexts : ∀ said ∈ texts, ToldApart said) :
    GoesOnWith texts c.name (d.profile.typeText known c) (d.profile.columnText known c) ↔
      ∃ said ∈ texts, beginsWith (d.profile.nullClause c ++ uniqueClause c) said = true := by
  refine exists_congr fun said => and_congr_right fun hsaid => ?_
  have hlater := (d.beginsWithOneOf_laterClauses c).beginsWith_append_eq
    (htexts said hsaid _ (d.nullClause_mem c) _ (uniqueClause_mem c))
  rw [columnText_eq_clauses, beginsWith_append_append, hlater]

/-- The definition of a column excludes `NULL`: by `NOT NULL` or as primary key. -/
def ExcludesNull : String → String → String → Prop :=
  GoesOnWith [" NOT NULL", " PRIMARY KEY"]

/-- A definition excludes `NULL` for a primary key and for a column that does not accept it. -/
theorem excludesNull_columnText_iff (d : Dialect) (known : KnownEnums) (c : Column) :
    ExcludesNull c.name (d.profile.typeText known c) (d.profile.columnText known c) ↔
      c.primary = true ∨ c.nullable = false := by
  rw [ExcludesNull, goesOnWith_columnText_iff d known c (by decide +kernel)]
  unfold nullClause uniqueClause
  generalize c.primary = primary, c.nullable = nullable, c.unique = unique
  cases d <;> revert primary nullable unique <;> decide

/-- The definition of a column states uniqueness, after what it says of `NULL`. -/
def StatesUnique : String → String → String → Prop :=
  GoesOnWith [" UNIQUE", " NOT NULL UNIQUE", " PRIMARY KEY UNIQUE", " PRIMARY KEY NOT NULL UNIQUE"]

/-- A definition states uniqueness for a unique column that is not marked as primary key. -/
theorem statesUnique_columnText_iff (d : Dialect) (known : KnownEnums) (c : Column) :
    StatesUnique c.name (d.profile.typeText known c) (d.profile.columnText known c) ↔
      c.unique = true ∧ c.primary = false := by
  rw [StatesUnique, goesOnWith_columnText_iff d known c (by decide +kernel)]
  unfold nullClause uniqueClause
  generalize c.primary = primary, c.nullable = nullable, c.unique = unique
  cases d <;> revert primary nullable unique <;> decide

/-! ## Redefinitions -/

/-- In the MySQL family the definition that replaces that of a column excludes `NULL` unless
the column accepts it. -/
theorem excludesNull_modifyColumn_iff {d : Dialect} (hd : d.isMysqlFamily = true)
    (known : KnownEnums) (table : String) (c : Column) :
    ∃ definition, d.profile.modifyColumn known table c =
        .ok ["ALTER TABLE " ++ table ++ " MODIFY COLUMN " ++ definition ++ ";"] ∧
      (ExcludesNull c.name (d.profile.typeText known c) definition ↔ c.nullable = false) := by
  have hmodify : d.profile.modifyColumn known table c =
      .ok ["ALTER TABLE " ++ table ++ " MODIFY COLUMN " ++
        d.profile.columnText known c.withoutKeys ++ ";"] := by
    cases d with
    | postgres => simp [Dialect.isMysqlFamily] at hd
    | mysql => rfl
    | mariadb => rfl
  have htype : d.profile.typeText known c.withoutKeys = d.profile.typeText known c := by
    rw [Dialect.typeText_of_isMysqlFamily hd]
    rfl
  refine ⟨_, hmodify, ?_⟩
  rw [← htype]
  refine (excludesNull_columnText_iff d known c.withoutKeys).trans ?_
  simp [Column.withoutKeys]

/-- Only one action has these words. -/
theorem alters_nullabilityWords_sql (table column : String) (nullable : Bool)
    (action : ColumnAction) :
    alters table column (nullabilityWords nullable) (action.sql table column) = true ↔
      action = .setNullable nullable := by
  rw [alters_sql]
  cases action with
  | setType dataType =>
    simp only [words?, Option.any_some, beginsWith, String.toList_append]
    cases nullable <;> simp [nullabilityWords]
  | setNullable given => cases given <;> cases nullable <;> decide
  | setDefault default =>
    cases default with
    | none => cases nullable <;> decide
    | some text =>
      simp only [words?, Option.any_some, beginsWith, String.toList_append]
      cases nullable <;> simp [nullabilityWords]
  | redefine dataType given autoIncrement default rest => simp [words?]

/-- In PostgreSQL a redefinition states whether the column accepts `NULL`, and nothing to the
contrary. -/
theorem alters_modifyColumn_iff (known : KnownEnums) (table : String) (c : Column) :
    ∃ statements, Profile.postgres.modifyColumn known table c = .ok statements ∧
      ∀ nullable, (∃ statement ∈ statements,
        alters table c.name (nullabilityWords nullable) statement = true) ↔
          c.nullable = nullable := by
  refine ⟨_, Dialect.modifyColumn_eq .postgres known table c, fun nullable => ?_⟩
  have hactions : setNullable nullable ∈ Dialect.modifyActions .postgres known c ↔
      c.nullable = nullable := by
    rw [Dialect.modifyActions, if_neg (by decide)]
    split <;> simp [eq_comm]
  rw [← hactions]
  constructor
  · rintro ⟨statement, hstatement, hsays⟩
    obtain ⟨action, haction, rfl⟩ := List.mem_map.mp hstatement
    rwa [(alters_nullabilityWords_sql table c.name nullable action).mp hsays] at haction
  · intro haction
    exact ⟨_, List.mem_map_of_mem haction,
      (alters_nullabilityWords_sql table c.name nullable _).mpr rfl⟩

end SchemaDdl
