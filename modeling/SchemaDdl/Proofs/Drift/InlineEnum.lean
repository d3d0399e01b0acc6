/-
# Enum types written out and read back

The MySQL family writes an enum type out where a column uses it, and a comparison reads the
values back from the types of live columns:

* `quotedValues_quoteLiterals` : string literals in a list are read back, whatever they hold;
* `enumValues?_enumList` : so are the values of an enum type that is written out;
* `enumValues?_typeText` : a live column that was created from the written type shows no
  difference of its values.
-/
import SchemaDdl.Proofs.Drift.Comparison
import SchemaDdl.Proofs.Drift.TypeBucket
import SchemaDdl.Ddl.Profile

namespace SchemaDdl.Drift

/-! ## String literals in a list -/

/-- A value is read up to the quote that closes it.  The quote must not be followed by
another, which would make the two of them one quote of the value. -/
theorem quotedValues_doubleQuotes {rest : List Char} (h : rest.head? ≠ some '\'')
    (value cs : List Char) :
    quotedValues (some value) (Sql.doubleQuotes cs ++ '\'' :: rest) =
      (value.reverse ++ cs) :: quotedValues none rest := by
  induction cs generalizing value with
  | nil =>
    rw [Sql.doubleQuotes, List.nil_append, List.append_nil]
    cases rest with
    | nil => simp [quotedValues]
    | cons c rest =>
      have hc : c ≠ '\'' := fun heq => h (congrArg some heq)
      simp [quotedValues, hc]
  | cons c cs ih =>
    rw [Sql.doubleQuotes]
    by_cases hc : c = '\''
    · rw [if_pos hc, List.cons_append, List.cons_append, quotedValues, ih, hc]
      simp
    · rw [if_neg hc, List.cons_append, quotedValues, if_neg hc, ih]
      · simp
      · exact fun _ heq => absurd heq hc

/-- A string literal is read back, and then what follows it. -/
theorem quotedValues_quoteLiteral_append {rest : List Char} (h : rest.head? ≠ some '\'')
    (value : String) :
    quotedValues none ((Sql.quoteLiteral value).toList ++ rest) =
      value.toList :: quotedValues none rest := by
  have hliteral : (Sql.quoteLiteral value).toList ++ rest =
      '\'' :: (Sql.doubleQuotes value.toList ++ '\'' :: rest) := by
    simp [Sql.quoteLiteral]
  rw [hliteral, quotedValues, if_pos rfl, quotedValues_doubleQuotes h]
  rfl

/-- **Quoted values.**  The string literals in a list are read back, also where they are
empty or hold quotes, commas or parentheses. -/
theorem quotedValues_quoteLiterals (values : List String) :
    quotedValues none (Sql.quoteLiterals values).toList = values.map String.toList := by
  unfold Sql.quoteLiterals
  induction values with
  | nil => rfl
  | cons value rest ih =>
    cases rest with
    | nil =>
      have hend : ([] : List Char).head? ≠ some '\'' := by simp
      have hlast := quotedValues_quoteLiteral_append hend value
      rw [List.append_nil] at hlast
      exact hlast
    | cons next rest =>
      -- The comma parts the two quotes, so that they are not taken for one in a value.
      have hcomma : ∀ cs, (", ".toList ++ cs).head? ≠ some '\'' := by
        intro cs
        simp
      have hskip : ∀ cs, quotedValues none (", ".toList ++ cs) = quotedValues none cs :=
        fun _ => rfl
      have hlist : (", ".intercalate ((value :: next :: rest).map Sql.quoteLiteral)).toList =
          (Sql.quoteLiteral value).toList ++ (", ".toList ++
            (", ".intercalate ((next :: rest).map Sql.quoteLiteral)).toList) := by
        simp [String.intercalate_cons_cons]
      rw [hlist, quotedValues_quoteLiteral_append (hcomma _), hskip, ih]
      rfl

/-! ## Enum types -/

/-- The values of an enum type that is written out are read back. -/
theorem enumValues?_enumList (values : List String) :
    enumValues? ("ENUM(" ++ Sql.quoteLiterals values ++ ")") = some values := by
  have hcs : ("ENUM(" ++ Sql.quoteLiterals values ++ ")").toList =
      enumOpening.toList ++ ((Sql.quoteLiterals values).toList ++ [')']) := by
    simp [enumOpening]
  have hlast : ("ENUM(" ++ Sql.quoteLiterals values ++ ")").toList.getLast? = some ')' := by
    rw [hcs, ← List.append_assoc, List.getLast?_concat]
  have htrimmed : Text.trimmed ("ENUM(" ++ Sql.quoteLiterals values ++ ")").toList =
      ("ENUM(" ++ Sql.quoteLiterals values ++ ")").toList := by
    apply Text.trimmed_eq_self
    · intro c hc
      rw [hcs] at hc
      obtain rfl : 'E' = c := Option.some.inj hc
      decide
    · intro c hc
      rw [hlast] at hc
      obtain rfl : ')' = c := Option.some.inj hc
      decide
  have hopening : Text.beginsWith (Sql.typeWord ("ENUM(" ++ Sql.quoteLiterals values ++ ")"))
      enumOpening = true := by
    rw [String.append_assoc, Text.beginsWith, toList_typeWord_enumList]
    rfl
  have hinner : (("ENUM(" ++ Sql.quoteLiterals values ++ ")").toList.drop
      enumOpening.length).dropLast = (Sql.quoteLiterals values).toList := by
    rw [hcs, ← String.length_toList, List.drop_left, List.dropLast_concat]
  unfold enumValues?
  dsimp only
  rw [htrimmed, hlast, hopening, hinner, quotedValues_quoteLiterals, List.map_map]
  simp [Function.comp_def]

/-! ## Columns -/

/-- In the MySQL family the type of a column is written out if it is a known enum type. -/
theorem typeText_of_known {d : Dialect} (hd : d.isMysqlFamily = true) {known : KnownEnums}
    {c : Column} {values : List String} (hvalues : known.values? c.dataType = some values) :
    d.profile.typeText known c = "ENUM(" ++ Sql.quoteLiterals values ++ ")" := by
  rw [Dialect.typeText_of_isMysqlFamily hd, Profile.mysqlType, hvalues]

/-- Every live column whose field is declared with the enum type of the given name has the
given type. -/
def CreatedFrom (s : DesiredSchema) (live : LiveSchema) (name dataType : String) : Prop :=
  ∀ t ∈ s.tables, ∀ l, live.table? t.name = some l →
    ∀ f ∈ t.fields, f.dataType = name → ∀ c, l.column? f.name = some c → c.dataType = dataType

/-- **Written out and read back.**  Where the type of a column is an enum type that a renderer
of the MySQL family knows, the written type is in the bucket of enum types and has just the
values of the enum type, in order.  So a live column with this type has a list of values that
does not differ from the enum type, and a database with no other columns of the enum type has
no difference of it. -/
theorem enumValues?_typeText {d : Dialect} (hd : d.isMysqlFamily = true) {known : KnownEnums}
    {c : Column} {values : List String} (hvalues : known.values? c.dataType = some values) :
    enumValues? (d.profile.typeText known c) = some values ∧
      typeBucket d (d.profile.typeText known c) = enumBucket ∧
      ∀ e : EnumType, e.values = values →
        (∀ l : LiveColumn, l.dataType = d.profile.typeText known c →
          ∀ list, enumValues? l.dataType = some list → enumDiff? e [list] = none) ∧
        ∀ (s : DesiredSchema) (live : LiveSchema),
          CreatedFrom s live e.name (d.profile.typeText known c) →
            enumDiff? e (inlineValues s live e.name) = none := by
  rw [typeText_of_known hd hvalues]
  have hread := enumValues?_enumList values
  refine ⟨hread, ?_, ?_⟩
  · rw [String.append_assoc]
    exact typeBucket_enumList hd _
  · rintro e rfl
    refine ⟨fun l hl list hlist => ?_, fun s live hcreated => ?_⟩
    · rw [hl, hread] at hlist
      obtain rfl : e.values = list := Option.some.inj hlist
      simp [enumDiff?_eq_none_iff]
    · rw [enumDiff?_eq_none_iff]
      intro list hlist v
      obtain ⟨t, ht, l, hl, f, hf, htype, column, hcolumn, hinline⟩ :=
        (mem_inlineValues_iff s live e.name list).mp hlist
      rw [hcreated t ht l hl f hf htype column hcolumn, hread] at hinline
      rw [Option.some.inj hinline]

/-- An enum type whose values are hard to tell from what stands around them. -/
def marksEnum : EnumType :=
  ⟨"marks", ["'", "", "a, b", "', '", "x)", "two\nlines"]⟩

/-- A table with a column of this type. -/
def marksSchema : DesiredSchema where
  tables := [⟨⟨"Note", "notes", none, none, []⟩, [Field.new "Note" "mark" "marks"]⟩]
  indexes := []
  enums := [marksEnum]

/-- The table as it was created in MariaDB. -/
def marksCatalog : LiveSchema where
  tables := [⟨"notes", [⟨"mark",
    "ENUM('''', '', 'a, b', ''', ''', 'x)', 'two\nlines')", none, true, false, false, none,
    false⟩]⟩]
  indexes := []
  enums := []

/-- Values are read back from what they look like in a column. -/
theorem enumValues?_marksEnum :
    Dialect.mariadb.isMysqlFamily = true ∧
      KnownEnums.values? [marksEnum] (Column.new "mark" "marks").dataType =
        some marksEnum.values ∧
      enumValues? (Dialect.mariadb.profile.typeText [marksEnum] (Column.new "mark" "marks")) =
        some ["'", "", "a, b", "', '", "x)", "two\nlines"] ∧
      enumDiff? marksEnum (inlineValues marksSchema marksCatalog "marks") = none := by
  have hvalues : KnownEnums.values? [marksEnum] (Column.new "mark" "marks").dataType =
      some marksEnum.values := by
    decide +kernel
  have hcreated : CreatedFrom marksSchema marksCatalog "marks"
      (Dialect.mariadb.profile.typeText [marksEnum] (Column.new "mark" "marks")) := by
    have hall : ∀ l ∈ marksCatalog.tables, ∀ c ∈ l.columns, c.dataType =
        Dialect.mariadb.profile.typeText [marksEnum] (Column.new "mark" "marks") := by
      decide +kernel
    intro t _ l hl f _ _ c hc
    exact hall l (List.mem_of_find?_eq_some hl) c (List.mem_of_find?_eq_some hc)
  obtain ⟨hread, _, hdiff⟩ := enumValues?_typeText (d := .mariadb) rfl hvalues
  exact ⟨rfl, hvalues, hread, (hdiff marksEnum rfl).2 marksSchema marksCatalog hcreated⟩

end SchemaDdl.Drift
