/-
# Closed defaults

What a dialect writes for a literal default has all its quotes closed, unless the literal is
handed on as it stands because of its first and last characters or because of a name with
parentheses.  Then what stands between is not looked at:

* `defaultText_of_passesUnread` : such a literal is written as it stands;
* `quotesClosed_defaultText_of_not` : all others are closed;
* `quotesClosed_columnText_iff` : a default that is not closed turns the rest of a column
  definition inside out;
* `quotesClosed_defaultText_iff` : when defaults are closed.
-/
import SchemaDdl.Ddl.Clause
import SchemaDdl.Proofs.Ddl.LiteralDefault
import SchemaDdl.Proofs.Sql.Quotation

namespace SchemaDdl.Profile

open Sql Text

/-! ## Literals that are handed on -/

/-- A dialect hands a literal on as it stands: it begins and ends with an apostrophe or looks
like a function call, and the MySQL family does not take it for a truth value. -/
def PassesUnread (d : Dialect) (s : String) : Prop :=
  (isQuoted (trim s).toList = true ∨ isFunctionCall (trim s).toList = true) ∧
    ¬ (d.isMysqlFamily = true ∧ (bareLiteral s).toLower ∈ ["true", "false"])

instance (d : Dialect) : DecidablePred (PassesUnread d) := fun s =>
  inferInstanceAs (Decidable ((isQuoted (trim s).toList = true ∨
    isFunctionCall (trim s).toList = true) ∧
    ¬ (d.isMysqlFamily = true ∧ (bareLiteral s).toLower ∈ ["true", "false"])))

/-- A literal that begins and ends with an apostrophe or looks like a function call is no word
of letters. -/
theorem not_mem_of_mark {s : String} {words : List String}
    (hwords : ∀ word ∈ words, '\'' ∉ word.toList ∧ '(' ∉ word.toList)
    (h : isQuoted s.toList = true ∨ isFunctionCall s.toList = true) : s.toLower ∉ words := by
  intro hword
  rcases h with hquoted | hcall
  · exact not_mem_of_toLower_mem hword (by decide) (fun word hmem => (hwords word hmem).1)
      (mem_of_isQuoted hquoted)
  · exact not_mem_of_toLower_mem hword (by decide) (fun word hmem => (hwords word hmem).2)
      (mem_of_isFunctionCall hcall)

/-- A literal without the apostrophes at its ends keeps its parentheses. -/
theorem bareLiteral_ne_null_of_isFunctionCall {s : String}
    (h : isFunctionCall (trim s).toList = true) : (bareLiteral s).toLower ≠ "null" := by
  intro hnull
  have hkept : '(' ∈ withoutApostrophes (stripApostrophes (trim s).toList) := by
    rw [withoutApostrophes_stripApostrophes]
    exact List.mem_filter.mpr ⟨mem_of_isFunctionCall h, by decide⟩
  have hmem : '(' ∈ (bareLiteral s).toList := by
    rw [withoutApostrophes, List.mem_filter] at hkept
    rw [bareLiteral, String.toList_ofList]
    exact hkept.1
  have hword : (bareLiteral s).toLower ∈ ["null"] := List.mem_singleton.mpr hnull
  exact not_mem_of_toLower_mem hword (c := '(') (by decide) (by decide) hmem

/-- Such a literal is written as it stands. -/
theorem defaultText_of_passesUnread {d : Dialect} {s : String} (h : PassesUnread d s) :
    d.profile.defaultText (.literal s) = trim s := by
  obtain ⟨hmark, htruth⟩ := h
  rw [defaultText_literal]
  by_cases hd : d.isMysqlFamily = true
  · have hword : (bareLiteral s).toLower ∉ ["true", "false"] := fun hword => htruth ⟨hd, hword⟩
    have hnull : ¬ ((bareLiteral s).toLower = "null" ∧ isQuoted (trim s).toList = false) := by
      rintro ⟨hnull, hquoted⟩
      rcases hmark with hquoted' | hcall
      · rw [hquoted] at hquoted'
        exact Bool.noConfusion hquoted'
      · exact bareLiteral_ne_null_of_isFunctionCall hcall hnull
    rw [if_pos hd, mysqlLiteral_eq, if_neg hword, if_neg hnull, if_pos hmark]
  · have hconstant : (trim s).toLower ∉ constantWords := not_mem_of_mark (by decide) hmark
    rw [if_neg hd, literalText_eq, if_neg hconstant, if_pos]
    rcases hmark with hquoted | hcall
    · exact .inr (.inl hquoted)
    · exact .inr (.inr (.inr hcall))

/-! ## All other literals -/

/-- A word of letters in upper case opens no quotes. -/
theorem quotesClosed_toUpper {s : String} {words : List String} (h : s.toLower ∈ words)
    (hwords : ∀ word ∈ words, '\'' ∉ word.toList) : QuotesClosed s.toUpper.toList := by
  apply quotesClosed_of_not_mem
  rw [← mem_map_toLower_iff (by decide), ← toList_toLower, toLower_toUpper]
  exact hwords _ h

/-- A literal that is not handed on is closed: it becomes a keyword or a string literal, or it
is a word or a number. -/
theorem quotesClosed_defaultText_of_not {d : Dialect} {s : String} (h : ¬ PassesUnread d s) :
    QuotesClosed (d.profile.defaultText (.literal s)).toList := by
  rw [defaultText_literal]
  by_cases hd : d.isMysqlFamily = true
  · rw [if_pos hd, mysqlLiteral_eq]
    by_cases hword : (bareLiteral s).toLower ∈ ["true", "false"]
    · rw [if_pos hword]
      exact quotesClosed_toUpper hword (by decide)
    · have hmark : ¬ (isQuoted (trim s).toList = true ∨ isFunctionCall (trim s).toList = true) :=
        fun hmark => h ⟨hmark, fun htruth => hword htruth.2⟩
      rw [if_neg hword, if_neg hmark]
      split
      · decide
      · exact quotesClosed_quoteLiteral (trim s)
  · have hmark : ¬ (isQuoted (trim s).toList = true ∨ isFunctionCall (trim s).toList = true) :=
      fun hmark => h ⟨hmark, fun htruth => hd htruth.1⟩
    rw [not_or] at hmark
    rw [if_neg hd, literalText_eq]
    simp only [hmark.1, hmark.2, Bool.false_eq_true, false_or, or_false]
    by_cases hconstant : (trim s).toLower ∈ constantWords
    · rw [if_pos hconstant]
      exact quotesClosed_toUpper hconstant (by decide)
    · rw [if_neg hconstant]
      split
      · rename_i hstands
        apply quotesClosed_of_not_mem
        rcases hstands with htime | hnumeral
        · exact not_mem_of_toLower_mem htime (by decide) (by decide)
        · exact ((isNumeral_iff _).mp hnumeral).not_mem_apostrophe
      · exact quotesClosed_quoteLiteral (trim s)

/-- A default is closed unless it is handed on and not closed itself. -/
theorem quotesClosed_defaultText (d : Dialect) (s : String) :
    QuotesClosed (d.profile.defaultText (.literal s)).toList ↔
      ¬ PassesUnread d s ∨ QuotesClosed (trim s).toList := by
  by_cases h : PassesUnread d s
  · rw [defaultText_of_passesUnread h]
    exact (or_iff_right (not_not_intro h)).symm
  · exact iff_of_true (quotesClosed_defaultText_of_not h) (.inl h)

/-! ## Columns -/

/-- The default of a column stands between clauses that do not depend on it. -/
theorem exists_columnText_eq_default (d : Dialect) (known : KnownEnums) (c : Column) :
    ∃ before after : String, ∀ default,
      d.profile.columnText known { c with default := default } =
        before ++ d.profile.defaultClause { c with default := default } ++ after := by
  refine ⟨c.name ++ " " ++ d.profile.typeText known c ++ d.profile.nullClause c ++
    uniqueClause c ++ d.profile.autoIncrementClause c,
    checkClause c ++ d.profile.columnComment c, fun default => ?_⟩
  have hclauses : d.profile.columnText known { c with default := default } =
      c.name ++ " " ++ d.profile.typeText known c ++ d.profile.nullClause c ++
        uniqueClause c ++ d.profile.autoIncrementClause c ++
        d.profile.defaultClause { c with default := default } ++ checkClause c ++
        d.profile.columnComment c := by
    cases d <;> rfl
  rw [hclauses, String.append_assoc]

/-- The quotes of a column definition with a default are closed exactly if both those of the
definition without it and those of the default are, or neither. -/
theorem quotesClosed_columnText_iff (d : Dialect) (known : KnownEnums) (c : Column)
    (v : DefaultValue) :
    QuotesClosed (d.profile.columnText known { c with default := some v }).toList ↔
      (QuotesClosed (d.profile.columnText known { c with default := none }).toList ↔
        QuotesClosed (d.profile.defaultText v).toList) := by
  obtain ⟨before, after, hcolumn⟩ := exists_columnText_eq_default d known c
  have hsome : d.profile.defaultClause { c with default := some v } =
      " DEFAULT " ++ d.profile.defaultText v := rfl
  have hnone : d.profile.defaultClause { c with default := none } = "" := rfl
  have hwords : QuotesClosed " DEFAULT ".toList := by decide
  have hempty : QuotesClosed "".toList := by decide
  rw [hcolumn, hcolumn, hsome, hnone]
  simp only [String.toList_append, quotesClosed_append_iff, hwords, hempty, true_iff, iff_true]
  tauto

/-- **Closed defaults.**  The quotes of a literal default as a dialect writes it are closed
exactly if the dialect does not hand the literal on as it stands, or the quotes of the literal
are closed themselves.  With such a default the quotes of a column definition are closed
exactly if they are without it; with any other they are closed exactly if they are not. -/
theorem quotesClosed_defaultText_iff (d : Dialect) (s : String) :
    (QuotesClosed (d.profile.defaultText (.literal s)).toList ↔
      ¬ PassesUnread d s ∨ QuotesClosed (trim s).toList) ∧
    ∀ (known : KnownEnums) (c : Column),
      (QuotesClosed (d.profile.columnText known { c with default := some (.literal s) }).toList ↔
        (QuotesClosed (d.profile.columnText known { c with default := none }).toList ↔
          (¬ PassesUnread d s ∨ QuotesClosed (trim s).toList))) := by
  have hdefault := quotesClosed_defaultText d s
  refine ⟨hdefault, fun known c => ?_⟩
  rw [← hdefault]
  exact quotesClosed_columnText_iff d known c (.literal s)

/-- The word it's between apostrophes passes for a string literal in PostgreSQL and in MySQL, and
so does a call with half a literal.  What follows such a default stands within quotes. -/
theorem not_quotesClosed_its :
    Dialect.postgres.profile.defaultText (.literal "'it's'") = "'it's'" ∧
      ¬ QuotesClosed (Dialect.postgres.profile.defaultText (.literal "'it's'")).toList ∧
      ¬ QuotesClosed (Dialect.mysql.profile.defaultText (.literal "'it's'")).toList ∧
      ¬ QuotesClosed (Dialect.mariadb.profile.defaultText (.literal "lower('x)")).toList ∧
      ¬ QuotesClosed (Dialect.postgres.profile.columnText []
        { Column.new "body" "TEXT" with default := some (.literal "'it's'") }).toList := by
  decide +kernel

end SchemaDdl.Profile
