/-
# Literal defaults as they are written

Every dialect writes a literal default in one of three ways: as it stands, as a string
literal, or as a keyword that the literal spells.

* `length_lt_doubleQuotes`, `cutAtLastPair_doubleQuotes` : what doubling does to apostrophes;
* `writtenAs_defaultText` : the three ways.
-/
import SchemaDdl.Ddl.Profile
import SchemaDdl.Proofs.Text.Case

namespace SchemaDdl.Profile

open Text

/-! ## Doubled apostrophes -/

/-- Without apostrophes nothing is doubled. -/
theorem doubleQuotes_of_not_mem {cs : List Char} (h : '\'' ∉ cs) : Sql.doubleQuotes cs = cs := by
  induction cs with
  | nil => rfl
  | cons c rest ih =>
    rw [List.mem_cons, not_or] at h
    rw [Sql.doubleQuotes, if_neg (Ne.symm h.1), ih h.2]

/-- Doubling makes no text shorter. -/
theorem length_le_doubleQuotes (cs : List Char) : cs.length ≤ (Sql.doubleQuotes cs).length := by
  induction cs with
  | nil => exact le_rfl
  | cons c rest ih =>
    rw [Sql.doubleQuotes]
    split <;> simp only [List.length_cons] <;> omega

/-- A text with an apostrophe gets longer. -/
theorem length_lt_doubleQuotes {cs : List Char} (h : '\'' ∈ cs) :
    cs.length < (Sql.doubleQuotes cs).length := by
  induction cs with
  | nil => simp at h
  | cons c rest ih =>
    rw [Sql.doubleQuotes]
    by_cases hc : c = '\''
    · have hrest := length_le_doubleQuotes rest
      rw [if_pos hc, List.length_cons, List.length_cons, List.length_cons]
      omega
    · have hrest := ih ((List.mem_cons.mp h).resolve_left (Ne.symm hc))
      rw [if_neg hc, List.length_cons, List.length_cons]
      omega

/-- A doubled apostrophe stands twice in a row. -/
theorem cutAtLastPair_doubleQuotes {cs : List Char} (h : '\'' ∈ cs) :
    cutAtLastPair '\'' (Sql.doubleQuotes cs) ≠ none := by
  rw [ne_eq, cutAtLastPair_eq_none_iff, not_not]
  induction cs with
  | nil => simp at h
  | cons c rest ih =>
    rw [Sql.doubleQuotes]
    by_cases hc : c = '\''
    · rw [if_pos hc]
      exact ⟨[], _, rfl⟩
    · rw [if_neg hc]
      exact List.infix_cons (ih ((List.mem_cons.mp h).resolve_left (Ne.symm hc)))

/-! ## Keywords -/

/-- The words that dialects write in upper case. -/
def keywords : List String := ["TRUE", "FALSE", "NULL"]

/-- The characters other than apostrophes. -/
def withoutApostrophes (cs : List Char) : List Char :=
  cs.filter (· != '\'')

/-- The text spells the keyword, in any case and but for apostrophes. -/
def Spells (cs : List Char) (keyword : String) : Prop :=
  keyword ∈ keywords ∧ withoutApostrophes (cs.map Char.toLower) = keyword.toLower.toList

/-- Apostrophes do not matter for the lower case of the other characters. -/
theorem withoutApostrophes_map_toLower (cs : List Char) :
    withoutApostrophes (cs.map Char.toLower) = (withoutApostrophes cs).map Char.toLower := by
  have hletter : ∀ c : Char, (c.toLower != '\'') = (c != '\'') := by
    intro c
    rw [Bool.eq_iff_iff, bne_iff_ne, bne_iff_ne, ne_eq, toLower_eq_iff (by decide)]
  rw [withoutApostrophes, withoutApostrophes, List.filter_map]
  congr 1
  exact List.filter_congr fun c _ => hletter c

/-- Apostrophes at the ends are among those that are left out. -/
theorem withoutApostrophes_stripApostrophes (cs : List Char) :
    withoutApostrophes (stripApostrophes cs) = withoutApostrophes cs := by
  have hdrop : ∀ xs : List Char,
      withoutApostrophes (xs.dropWhile (· == '\'')) = withoutApostrophes xs := by
    intro xs
    induction xs with
    | nil => rfl
    | cons c rest ih =>
      by_cases hc : c = '\''
      · rw [List.dropWhile_cons_of_pos (by simp [hc]), ih]
        simp [withoutApostrophes, hc]
      · rw [List.dropWhile_cons_of_neg (by simp [hc])]
  have hreverse : ∀ xs : List Char,
      withoutApostrophes xs.reverse = (withoutApostrophes xs).reverse :=
    fun _ => List.filter_reverse
  rw [stripApostrophes, hreverse, hdrop, hreverse, hdrop, List.reverse_reverse]

/-- A text that is a keyword but for its case spells it. -/
theorem spells_of_toLower {s keyword : String} (hkeyword : keyword ∈ keywords)
    (h : s.toLower = keyword.toLower) : Spells s.toList keyword := by
  have hnone : ∀ keyword ∈ keywords,
      withoutApostrophes keyword.toLower.toList = keyword.toLower.toList := by
    simp only [toList_toLower]
    decide
  refine ⟨hkeyword, ?_⟩
  rw [← toList_toLower, h, hnone keyword hkeyword]

/-- A text that is a keyword but for its case and apostrophes at its ends spells it. -/
theorem spells_of_stripApostrophes {s keyword : String} (hkeyword : keyword ∈ keywords)
    (h : (String.ofList (stripApostrophes s.toList)).toLower = keyword.toLower) :
    Spells s.toList keyword := by
  obtain ⟨_, hspells⟩ := spells_of_toLower hkeyword h
  refine ⟨hkeyword, ?_⟩
  rw [← hspells, String.toList_ofList, withoutApostrophes_map_toLower,
    withoutApostrophes_map_toLower, withoutApostrophes_stripApostrophes]

/-- A text that spells a keyword has no cast and no double quotes. -/
theorem Spells.not_mem {cs : List Char} {keyword : String} (h : Spells cs keyword) :
    ':' ∉ cs ∧ '"' ∉ cs := by
  obtain ⟨hkeyword, hspells⟩ := h
  have hletters : ∀ keyword ∈ keywords,
      ':' ∉ keyword.toLower.toList ∧ '"' ∉ keyword.toLower.toList := by
    simp only [toList_toLower]
    decide
  obtain ⟨hcolon, hdouble⟩ := hletters keyword hkeyword
  rw [← hspells, withoutApostrophes, List.mem_filter, mem_map_toLower_iff (by decide)]
    at hcolon hdouble
  exact ⟨fun hmem => hcolon ⟨hmem, by decide⟩, fun hmem => hdouble ⟨hmem, by decide⟩⟩

/-! ## Literals -/

/-- A literal is written as it stands, as a string literal or as a keyword. -/
def WrittenAs (literal written : String) : Prop :=
  written = literal ∨ written = Sql.quoteLiteral literal ∨ Spells literal.toList written

/-- The keywords in lower case. -/
theorem toLower_keywords :
    "TRUE".toLower = "true" ∧ "FALSE".toLower = "false" ∧ "NULL".toLower = "null" :=
  ⟨toLower_eq_of_toList (by decide), toLower_eq_of_toList (by decide),
    toLower_eq_of_toList (by decide)⟩

/-- How literals are written in general. -/
theorem writtenAs_literalText (text : String) :
    WrittenAs (trim text) (Sql.literalText text) := by
  obtain ⟨htrue, hfalse, hnull⟩ := toLower_keywords
  unfold Sql.literalText
  dsimp only
  split
  · rename_i h
    exact .inr (.inr (spells_of_toLower (by simp [keywords]) (h.trans htrue.symm)))
  · rename_i h
    exact .inr (.inr (spells_of_toLower (by simp [keywords]) (h.trans hfalse.symm)))
  · rename_i h
    exact .inr (.inr (spells_of_toLower (by simp [keywords]) (h.trans hnull.symm)))
  · exact .inl rfl
  · exact .inl rfl
  · exact .inl rfl
  · split
    · exact .inl rfl
    · exact .inr (.inl rfl)

/-- How literals are written in the MySQL family. -/
theorem writtenAs_mysqlLiteral (text : String) :
    WrittenAs (trim text) (mysqlLiteral text) := by
  obtain ⟨htrue, hfalse, hnull⟩ := toLower_keywords
  unfold mysqlLiteral
  dsimp only
  split
  · rename_i h
    exact .inr (.inr (spells_of_stripApostrophes (by simp [keywords]) (h.trans htrue.symm)))
  · rename_i h
    exact .inr (.inr (spells_of_stripApostrophes (by simp [keywords]) (h.trans hfalse.symm)))
  · split
    · rename_i h
      exact .inr (.inr (spells_of_stripApostrophes (by simp [keywords]) (h.1.trans hnull.symm)))
    · split
      · exact .inl rfl
      · exact .inr (.inl rfl)

/-- How literals are written in a dialect. -/
theorem writtenAs_defaultText (d : Dialect) (text : String) :
    WrittenAs (trim text) (d.profile.defaultText (.literal text)) := by
  cases d with
  | postgres => exact writtenAs_literalText text
  | mysql => exact writtenAs_mysqlLiteral text
  | mariadb => exact writtenAs_mysqlLiteral text

end SchemaDdl.Profile
