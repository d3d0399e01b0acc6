/-
# How literal defaults are told apart

A literal default is written as a keyword, as it stands or as a string literal, according to
what its text looks like.  A word for infinity looks like a number, and the MySQL family does
not know the words for the current time:

* `literalText_eq`, `mysqlLiteral_eq` : the two ways to tell literals apart;
* `literalText_plainText` : a plain text becomes a string literal unless it is a word for
  infinity or for no number;
* `defaultText_literal_alike` : all dialects write a literal alike that is no number and has no
  apostrophe at its ends, unless it is a word for the current time.
-/
import SchemaDdl.Proofs.Ddl.DefaultText
import SchemaDdl.Proofs.Text.Numeral

namespace SchemaDdl.Profile

open Text

/-! ## Words -/

/-- The words for truth values and for no value. -/
def constantWords : List String := ["true", "false", "null"]

/-- The words for the current time. -/
def timeWords : List String := ["current_timestamp", "current_date", "current_time"]

/-- A text that is one of some words but for its case has no character that is in none of
them and is no letter. -/
theorem not_mem_of_toLower_mem {s : String} {words : List String} (h : s.toLower ∈ words)
    {c : Char} (hc : c.isAlpha = false) (hwords : ∀ word ∈ words, c ∉ word.toList) :
    c ∉ s.toList := by
  have hlower := hwords _ h
  rwa [toList_toLower, mem_map_toLower_iff hc] at hlower

/-- A text between apostrophes has an apostrophe. -/
theorem mem_of_isQuoted {cs : List Char} (h : Sql.isQuoted cs = true) : '\'' ∈ cs := by
  simp only [Sql.isQuoted, Bool.and_eq_true, beq_iff_eq] at h
  exact List.mem_of_mem_head? h.1.2

/-- A function call has a parenthesis. -/
theorem mem_of_isFunctionCall {cs : List Char} (h : Sql.isFunctionCall cs = true) :
    '(' ∈ cs := by
  unfold Sql.isFunctionCall at h
  split at h
  · cases h
  · rename_i hcut
    rw [eq_append_of_cutAt hcut]
    simp

/-! ## The two ways to tell literals apart -/

/-- How literals are told apart in general. -/
theorem literalText_eq (s : String) :
    Sql.literalText s =
      if (trim s).toLower ∈ constantWords then (trim s).toUpper
      else if (trim s).toLower ∈ timeWords ∨ Sql.isQuoted (trim s).toList = true ∨
          isNumeral (trim s).toList = true ∨ Sql.isFunctionCall (trim s).toList = true then trim s
      else Sql.quoteLiteral (trim s) := by
  have hupper : ∀ {word : String}, (trim s).toLower = word → (trim s).toUpper = word.toUpper :=
    fun h => h ▸ (toUpper_toLower (trim s)).symm
  unfold Sql.literalText
  dsimp only
  split
  · rename_i h
    rw [hupper h, h, if_pos (by decide)]
    exact (toUpper_eq_of_toList (by decide)).symm
  · rename_i h
    rw [hupper h, h, if_pos (by decide)]
    exact (toUpper_eq_of_toList (by decide)).symm
  · rename_i h
    rw [hupper h, h, if_pos (by decide)]
    exact (toUpper_eq_of_toList (by decide)).symm
  · rename_i h
    rw [h, if_neg (by decide), if_pos (.inl (by decide))]
  · rename_i h
    rw [h, if_neg (by decide), if_pos (.inl (by decide))]
  · rename_i h
    rw [h, if_neg (by decide), if_pos (.inl (by decide))]
  · rename_i htrue hfalse hnull htimestamp hdate htime
    have hconstant : (trim s).toLower ∉ constantWords := by
      simp only [constantWords, List.mem_cons, List.not_mem_nil, or_false, not_or]
      exact ⟨htrue, hfalse, hnull⟩
    have htimes : (trim s).toLower ∉ timeWords := by
      simp only [timeWords, List.mem_cons, List.not_mem_nil, or_false, not_or]
      exact ⟨htimestamp, hdate, htime⟩
    simp only [if_neg hconstant, htimes, false_or, Bool.or_eq_true, or_assoc]

/-- A literal without the apostrophes at its ends. -/
def bareLiteral (s : String) : String :=
  String.ofList (stripApostrophes (trim s).toList)

/-- How literals are told apart in the MySQL family. -/
theorem mysqlLiteral_eq (s : String) :
    mysqlLiteral s =
      if (bareLiteral s).toLower ∈ ["true", "false"] then (bareLiteral s).toUpper
      else if (bareLiteral s).toLower = "null" ∧ Sql.isQuoted (trim s).toList = false then "NULL"
      else if Sql.isQuoted (trim s).toList = true ∨ Sql.isFunctionCall (trim s).toList = true then
        trim s
      else Sql.quoteLiteral (trim s) := by
  have hupper : ∀ {word : String}, (bareLiteral s).toLower = word →
      (bareLiteral s).toUpper = word.toUpper :=
    fun h => h ▸ (toUpper_toLower (bareLiteral s)).symm
  have hbare : String.ofList (stripApostrophes (trim s).toList) = bareLiteral s := rfl
  unfold mysqlLiteral
  dsimp only
  rw [hbare]
  split
  · rename_i h
    rw [hupper h, h, if_pos (by decide)]
    exact (toUpper_eq_of_toList (by decide)).symm
  · rename_i h
    rw [hupper h, h, if_pos (by decide)]
    exact (toUpper_eq_of_toList (by decide)).symm
  · rename_i htrue hfalse
    have hword : (bareLiteral s).toLower ∉ ["true", "false"] := by
      simp only [List.mem_cons, List.not_mem_nil, or_false, not_or]
      exact ⟨htrue, hfalse⟩
    simp only [if_neg hword, Bool.not_eq_true', Bool.or_eq_true]

/-- A string literal is longer than its text. -/
theorem quoteLiteral_ne (s : String) : Sql.quoteLiteral s ≠ s := by
  intro hsame
  have hlength := congrArg (fun text => text.toList.length) hsame
  have hdoubled := length_le_doubleQuotes s.toList
  simp only [Sql.quoteLiteral, String.toList_ofList, List.length_append, List.length_cons,
    List.length_nil] at hlength
  omega

/-! ## Plain texts -/

/-- A plain text has no digits and is no string literal, no function call and no keyword. -/
structure IsPlainText (s : String) : Prop where
  digit : s.toList.any Char.isDigit = false
  quoted : Sql.isQuoted s.toList = false
  call : Sql.isFunctionCall s.toList = false
  constant : s.toLower ∉ constantWords
  time : s.toLower ∉ timeWords

/-- **Plain texts.**  A plain text as literal default becomes a string literal exactly if it is
no numeral.  Among plain texts the numerals are the words for infinity and for no number, with
a sign or without, and these are written as they stand. -/
theorem literalText_plainText {s : String} (h : IsPlainText (trim s)) :
    (Sql.literalText s = Sql.quoteLiteral (trim s) ↔ ¬ IsNumeral (trim s).toList) ∧
      (IsNumeral (trim s).toList ↔ IsNumberWord (trim s)) ∧
      (IsNumberWord (trim s) → Sql.literalText s = trim s) := by
  have hdigits : ∀ c ∈ (trim s).toList, c.isDigit = false := by
    simpa only [List.any_eq_false, Bool.not_eq_true] using h.digit
  have hword := isNumeral_iff_isNumberWord hdigits
  have hwritten : Sql.literalText s =
      if IsNumberWord (trim s) then trim s else Sql.quoteLiteral (trim s) := by
    rw [literalText_eq, if_neg h.constant]
    simp only [h.time, h.quoted, h.call, hword, Bool.false_eq_true, false_or, or_false]
  rw [← isNumeral_iff, hword, hwritten]
  refine ⟨?_, Iff.rfl, fun hnumber => if_pos hnumber⟩
  constructor
  · intro hquoted hnumber
    rw [if_pos hnumber] at hquoted
    exact quoteLiteral_ne _ hquoted.symm
  · intro hnumber
    exact if_neg hnumber

/-- A word is quoted with its blanks taken off, and a word for infinity is not quoted. -/
theorem literalText_plainText_infinity :
    IsPlainText (trim " it's ") ∧ IsPlainText (trim "-Infinity ") ∧
      Sql.literalText " it's " = "'it''s'" ∧ Sql.literalText "-Infinity " = "-Infinity" := by
  have hits : IsPlainText (trim " it's ") := by
    constructor <;> decide +kernel
  have hinfinity : IsPlainText (trim "-Infinity ") := by
    constructor <;> decide +kernel
  have hno : ¬ IsNumeral (trim " it's ").toList := by
    rw [(literalText_plainText hits).2.1]
    decide +kernel
  refine ⟨hits, hinfinity, ?_, ?_⟩
  · rw [(literalText_plainText hits).1.mpr hno]
    decide +kernel
  · rw [(literalText_plainText hinfinity).2.2 (by decide +kernel)]
    decide +kernel

/-- A name is taken for no number and written as it stands. -/
theorem literalText_nan_ne :
    IsPlainText (trim "Nan") ∧ Sql.literalText "Nan" ≠ Sql.quoteLiteral (trim "Nan") := by
  refine ⟨?_, by decide +kernel⟩
  constructor <;> decide +kernel

/-! ## All dialects -/

/-- The MySQL family tells literals apart in its own way. -/
theorem defaultText_literal (d : Dialect) (s : String) :
    d.profile.defaultText (.literal s) =
      if d.isMysqlFamily = true then mysqlLiteral s else Sql.literalText s := by
  cases d <;> rfl

/-- A text without apostrophes at its ends stays as it is. -/
theorem stripApostrophes_eq_self {cs : List Char} (hstart : cs.head? ≠ some '\'')
    (hend : cs.getLast? ≠ some '\'') : stripApostrophes cs = cs := by
  have hdrop : ∀ {xs : List Char}, xs.head? ≠ some '\'' → xs.dropWhile (· == '\'') = xs := by
    intro xs hxs
    cases xs with
    | nil => rfl
    | cons c rest =>
      rw [List.head?_cons, ne_eq, Option.some.injEq] at hxs
      rw [List.dropWhile_cons_of_neg (by simpa using hxs)]
  rw [stripApostrophes, hdrop hstart, hdrop (by rwa [List.head?_reverse]), List.reverse_reverse]

/-- A text that does not begin with an apostrophe is not taken for a string literal. -/
theorem isQuoted_eq_false {cs : List Char} (h : cs.head? ≠ some '\'') :
    Sql.isQuoted cs = false := by
  simp [Sql.isQuoted, h]

section Alike

variable {s : String} (hnumeral : ¬ IsNumeral (trim s).toList)
  (hstart : (trim s).toList.head? ≠ some '\'') (hend : (trim s).toList.getLast? ≠ some '\'')

include hstart

include hnumeral in
/-- How such a literal is written in general. -/
theorem literalText_eq_of_bare :
    Sql.literalText s =
      if (trim s).toLower ∈ constantWords then (trim s).toUpper
      else if (trim s).toLower ∈ timeWords ∨ Sql.isFunctionCall (trim s).toList = true then trim s
      else Sql.quoteLiteral (trim s) := by
  rw [← isNumeral_iff, Bool.not_eq_true] at hnumeral
  simp only [literalText_eq, isQuoted_eq_false hstart, hnumeral, Bool.false_eq_true, false_or]

include hend in
/-- How it is written in the MySQL family. -/
theorem mysqlLiteral_eq_of_bare :
    mysqlLiteral s =
      if (trim s).toLower ∈ constantWords then (trim s).toUpper
      else if Sql.isFunctionCall (trim s).toList = true then trim s
      else Sql.quoteLiteral (trim s) := by
  have hbare : bareLiteral s = trim s := by
    rw [bareLiteral, stripApostrophes_eq_self hstart hend, String.ofList_toList]
  have hnull : (trim s).toLower = "null" → (trim s).toUpper = "NULL" := by
    intro h
    rw [← toUpper_toLower, h]
    exact toUpper_eq_of_toList (by decide)
  rw [mysqlLiteral_eq, hbare, isQuoted_eq_false hstart]
  by_cases h : (trim s).toLower = "null"
  · rw [h, hnull h]
    rfl
  · simp [constantWords, h]

end Alike

/-- A word for the current time is no other word and no function call. -/
theorem not_mem_of_timeWord {s : String} (h : s.toLower ∈ timeWords) :
    s.toLower ∉ constantWords ∧ Sql.isFunctionCall s.toList = false := by
  have hother : ∀ word ∈ timeWords, word ∉ constantWords := by decide
  have hparenthesis := not_mem_of_toLower_mem h (c := '(') (by decide) (by decide)
  refine ⟨hother _ h, ?_⟩
  rw [← Bool.not_eq_true]
  exact mt mem_of_isFunctionCall hparenthesis

/-- **Literals in all dialects.**  A literal that is no numeral and neither begins nor ends with
an apostrophe is written in every dialect as it is in general, exactly if it is not a word for
the current time in the MySQL family.  Such a word is written as it stands in general, and
becomes a string literal in the MySQL family. -/
theorem defaultText_literal_alike (d : Dialect) {s : String}
    (hnumeral : ¬ IsNumeral (trim s).toList) (hstart : (trim s).toList.head? ≠ some '\'')
    (hend : (trim s).toList.getLast? ≠ some '\'') :
    (d.profile.defaultText (.literal s) = Sql.literalText s ↔
      ¬ (d.isMysqlFamily = true ∧ (trim s).toLower ∈ timeWords)) ∧
    ((trim s).toLower ∈ timeWords →
      Sql.literalText s = trim s ∧
        (d.isMysqlFamily = true →
          d.profile.defaultText (.literal s) = Sql.quoteLiteral (trim s))) := by
  have hcommon := literalText_eq_of_bare hnumeral hstart
  have hmysql := mysqlLiteral_eq_of_bare hstart hend
  have htime : (trim s).toLower ∈ timeWords →
      Sql.literalText s = trim s ∧ mysqlLiteral s = Sql.quoteLiteral (trim s) := by
    intro hword
    obtain ⟨hconstant, hcall⟩ := not_mem_of_timeWord hword
    rw [hcommon, hmysql, if_neg hconstant, if_pos (.inl hword), if_neg hconstant, hcall]
    exact ⟨rfl, rfl⟩
  have hfamily : mysqlLiteral s = Sql.literalText s ↔ (trim s).toLower ∉ timeWords := by
    constructor
    · intro hsame hword
      obtain ⟨hstands, hquoted⟩ := htime hword
      rw [hstands, hquoted] at hsame
      exact quoteLiteral_ne _ hsame
    · intro hword
      simp only [hcommon, hmysql, hword, false_or]
  rw [defaultText_literal]
  by_cases hd : d.isMysqlFamily = true
  · rw [if_pos hd, hfamily]
    exact ⟨by simp [hd], fun hword => ⟨(htime hword).1, fun _ => (htime hword).2⟩⟩
  · rw [if_neg hd]
    exact ⟨by simp [hd], fun hword => ⟨(htime hword).1, fun hfamily => absurd hfamily hd⟩⟩

/-- A call and a keyword are written alike in MariaDB and PostgreSQL, with the blanks taken
off. -/
theorem defaultText_literal_alike_call :
    ¬ IsNumeral (trim " uuid() ").toList ∧ (trim " uuid() ").toList.head? ≠ some '\'' ∧
      (trim " uuid() ").toList.getLast? ≠ some '\'' ∧
      Dialect.mariadb.profile.defaultText (.literal " uuid() ") = Sql.literalText " uuid() " ∧
      Sql.literalText " uuid() " = "uuid()" := by
  have hnumeral : ¬ IsNumeral (trim " uuid() ").toList := by
    rw [← isNumeral_iff]
    decide +kernel
  have hstart : (trim " uuid() ").toList.head? ≠ some '\'' := by decide +kernel
  have hend : (trim " uuid() ").toList.getLast? ≠ some '\'' := by decide +kernel
  refine ⟨hnumeral, hstart, hend, ?_, by decide +kernel⟩
  exact (defaultText_literal_alike .mariadb hnumeral hstart hend).1.mpr (by decide +kernel)

/-- The word for the current time becomes a string literal in MySQL. -/
theorem defaultText_currentTimestamp_ne :
    ¬ IsNumeral (trim "CURRENT_TIMESTAMP").toList ∧
      (trim "CURRENT_TIMESTAMP").toList.head? ≠ some '\'' ∧
      (trim "CURRENT_TIMESTAMP").toList.getLast? ≠ some '\'' ∧
      Dialect.mysql.profile.defaultText (.literal "CURRENT_TIMESTAMP") ≠
        Sql.literalText "CURRENT_TIMESTAMP" := by
  rw [← isNumeral_iff]
  decide +kernel

end SchemaDdl.Profile
