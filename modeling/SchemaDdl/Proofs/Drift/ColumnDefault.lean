/-
# Defaults of columns on both sides

The default of a column is written in the way of a dialect and compared by its form.
These agree for function calls, and for literals of which quotes and casts take nothing:

* `wordForm_doubleQuotes_iff` : string literals;
* `wordForm_keyword_iff` : truth values and `NULL`;
* `defaultForm_function` : function calls;
* `defaultAgrees_iff` : all defaults.
-/
import SchemaDdl.Drift.Comparison
import SchemaDdl.Proofs.Ddl.DefaultText
import SchemaDdl.Proofs.Drift.DefaultForm

namespace SchemaDdl.Drift

open Profile Text

/-! ## Texts that are not words -/

/-- A text with two apostrophes or two colons in a row, or with a double quote in front. -/
def HasMark (cs : List Char) : Prop :=
  cutAtLastPair '\'' cs ≠ none ∨ cutAtLastPair ':' cs ≠ none ∨ cs.head? = some '"'

instance : DecidablePred HasMark := fun cs =>
  inferInstanceAs (Decidable (cutAtLastPair '\'' cs ≠ none ∨ cutAtLastPair ':' cs ≠ none ∨
    cs.head? = some '"'))

/-- Lower case does not change the marks. -/
theorem hasMark_map_toLower (cs : List Char) : HasMark (cs.map Char.toLower) ↔ HasMark cs := by
  rw [HasMark, HasMark, ne_eq, ne_eq, cutAtLastPair_map_toLower (by decide),
    cutAtLastPair_map_toLower (by decide), head?_map_toLower_iff (by decide)]

/-- A text with a mark is its own form. -/
theorem wordForm_of_hasMark {cs : List Char} (hmark : HasMark cs) (bucket : String) :
    wordForm bucket cs = String.ofList cs := by
  have hwords : ∀ word ∈ formWords, ¬ HasMark word.toList := by decide
  apply wordForm_of_not_mem
  intro hmem
  apply hwords _ hmem
  rw [toList_toLower, String.toList_ofList, hasMark_map_toLower]
  exact hmark

/-- No shorter text has the form of a text with a mark. -/
theorem wordForm_ne_of_hasMark {cs bare : List Char} (hmark : HasMark cs)
    (hshort : bare.length < cs.length) (bucket : String) :
    wordForm bucket cs ≠ wordForm bucket bare := by
  have hforms : ∀ form ∈ wordForms, ¬ HasMark form.toList := by decide
  rw [wordForm_of_hasMark hmark]
  intro hsame
  rcases wordForm_eq_or_mem bucket bare with hbare | hform
  · rw [hbare, String.ofList_inj] at hsame
    rw [hsame] at hshort
    exact lt_irrefl _ hshort
  · apply hforms _ hform
    rw [← hsame, String.toList_ofList]
    exact hmark

/-! ## String literals -/

/-- A text that loses nothing in a comparison: it has no apostrophe and no cast, and it is
not quoted. -/
def IsPlain (cs : List Char) : Prop :=
  '\'' ∉ cs ∧ cutAtLastPair ':' cs = none ∧ isQuotedBy '"' cs = false

/-- A string literal has the form of its text exactly if the text is plain. -/
theorem wordForm_doubleQuotes_iff (bucket : String) (cs : List Char) :
    wordForm bucket (Sql.doubleQuotes cs) = wordForm bucket (stripQuotes (stripCast cs)) ↔
      IsPlain cs := by
  have hbare : (stripQuotes (stripCast cs)).length ≤ (stripCast cs).length :=
    length_stripQuotes_le _
  have hcast : (stripCast cs).length ≤ cs.length := (isPrefix_stripCast cs).length_le
  by_cases hquote : '\'' ∈ cs
  · have hlonger := length_lt_doubleQuotes hquote
    have hpair := cutAtLastPair_doubleQuotes hquote
    exact iff_of_false (wordForm_ne_of_hasMark (.inl hpair) (by omega) bucket)
      fun hplain => hplain.1 hquote
  · rw [doubleQuotes_of_not_mem hquote]
    by_cases hcut : cutAtLastPair ':' cs = none
    · rw [stripCast_of_none hcut]
      cases hdouble : isQuotedBy '"' cs with
      | false =>
        rw [stripQuotes_of_not (isQuotedBy_eq_false hquote) hdouble]
        exact iff_of_true rfl ⟨hquote, hcut, hdouble⟩
      | true =>
        have hhead : cs.head? = some '"' := by
          rw [exists_of_isQuotedBy hdouble]
          rfl
        exact iff_of_false
          (wordForm_ne_of_hasMark (.inr (.inr hhead)) (length_stripQuotes_lt hdouble) bucket)
          fun hplain => Bool.noConfusion (hdouble.symm.trans hplain.2.2)
    · have hshort := length_stripCast_lt hquote hcut
      exact iff_of_false (wordForm_ne_of_hasMark (.inr (.inl hcut)) (by omega) bucket)
        fun hplain => hcut hplain.2.1

/-! ## Keywords -/

/-- The form of a keyword in a column of the given bucket. -/
theorem wordForm?_keyword {word : String} (h : word ∈ keywords) (bucket : String) :
    wordForm? bucket word.toLower =
      if word = "NULL" then some ""
      else if bucket = booleanBucket then some word.toLower else none := by
  simp only [keywords, List.mem_cons, List.not_mem_nil, or_false] at h
  obtain ⟨htrue, hfalse, hnull⟩ := toLower_keywords
  unfold wordForm? booleanForm?
  by_cases hbucket : bucket = booleanBucket
  · simp only [hbucket, if_true]
    rcases h with rfl | rfl | rfl <;> simp only [htrue, hfalse, hnull] <;> decide
  · simp only [hbucket, if_false, Option.or_none]
    rcases h with rfl | rfl | rfl <;> simp only [htrue, hfalse, hnull] <;> decide

/-- A word that has a form is a keyword only without further apostrophes. -/
theorem eq_of_withoutApostrophes {word written : String} (hform : word ∈ formWords)
    (hwritten : written ∈ keywords)
    (hsame : withoutApostrophes word.toList = written.toLower.toList) :
    word = written.toLower := by
  have hall : ∀ written ∈ keywords, ∀ word ∈ formWords,
      withoutApostrophes word.toList = written.toLower.toList → word = written.toLower := by
    simp only [toList_toLower, ← String.toList_inj]
    decide
  exact hall written hwritten word hform hsame

/-- A keyword has the form of a text that spells it, but for apostrophes, exactly if the
text is the keyword in any case and either its spelling does not matter or it is the same. -/
theorem wordForm_keyword_iff {written : String} (hwritten : written ∈ keywords) {cs : List Char}
    (hspelled : withoutApostrophes (cs.map Char.toLower) = written.toLower.toList)
    (bucket : String) :
    wordForm bucket written.toList = wordForm bucket cs ↔
      (String.ofList cs).toLower = written.toLower ∧
        (written = "NULL" ∨ bucket = booleanBucket ∨ String.ofList cs = written) := by
  have hform := wordForm?_keyword hwritten bucket
  have hletters : ∀ word ∈ keywords, word.toLower.toList ≠ [] := by
    simp only [toList_toLower]
    decide
  have hwords : (String.ofList cs).toLower.toList = cs.map Char.toLower := by
    rw [toList_toLower, String.toList_ofList]
  rw [wordForm, wordForm, String.ofList_toList]
  constructor
  · intro hsame
    -- A text that spells the keyword either is a word with a form, which then can only be
    -- the keyword itself, or it is its own form.
    cases hword : wordForm? bucket (String.ofList cs).toLower with
    | some form =>
      have hlower : (String.ofList cs).toLower = written.toLower :=
        eq_of_withoutApostrophes (mem_of_wordForm? hword).1 hwritten (hwords ▸ hspelled)
      refine ⟨hlower, ?_⟩
      rw [hlower, hform] at hword
      by_contra hnone
      rw [not_or, not_or] at hnone
      simp [hnone.1, hnone.2.1] at hword
    | none =>
      rw [hform, hword, Option.getD_none] at hsame
      by_cases hnull : written = "NULL"
      · -- The form of `NULL` is empty, and no empty text spells it.
        rw [if_pos hnull, Option.getD_some] at hsame
        have hempty : cs = [] := by simpa using hsame.symm
        rw [hempty] at hspelled
        exact absurd hspelled.symm (hletters written hwritten)
      · rw [if_neg hnull] at hsame
        by_cases hbucket : bucket = booleanBucket
        · rw [if_pos hbucket, Option.getD_some] at hsame
          exact ⟨by rw [← hsame, toLower_toLower], .inr (.inl hbucket)⟩
        · rw [if_neg hbucket, Option.getD_none] at hsame
          exact ⟨by rw [hsame], .inr (.inr hsame.symm)⟩
  · rintro ⟨hlower, hspelling⟩
    rw [hlower, hform]
    rcases hspelling with hnull | hbucket | hsame
    · simp [hnull]
    · simp only [hbucket, if_true]
      split <;> rfl
    · rw [hsame]

/-! ## Function calls -/

/-- A text that is the word for a function but for its case has the form of the word. -/
theorem defaultForm_of_functionWord {s word form : String} (hword : (trim s).toLower = word)
    (hform : functionForms.lookup word = some form) (bucket : String) :
    defaultForm (some s) bucket = form := by
  have hbare : ∀ word ∈ functionForms.map Prod.fst, word ≠ "null" ∧
      cutAtLastPair ':' word.toList = none ∧ '\'' ∉ word.toList ∧ '"' ∉ word.toList := by
    decide
  obtain ⟨hnull, hcut, hsingle, hdouble⟩ := hbare word (mem_of_lookup hform).1
  rw [← hword, toList_toLower] at hcut hsingle hdouble
  rw [cutAtLastPair_map_toLower (by decide)] at hcut
  rw [mem_map_toLower_iff (by decide)] at hsingle hdouble
  rw [defaultForm_some, bareText, ← toList_trim, stripCast_of_none hcut,
    stripQuotes_of_not (isQuotedBy_eq_false hsingle) (isQuotedBy_eq_false hdouble), wordForm,
    String.ofList_toList, hword, wordForm?, if_neg hnull, hform]
  rfl

/-- A function call has the same form as it is written. -/
theorem defaultForm_function (d : Dialect) (text bucket : String) :
    defaultForm (some (d.profile.defaultText (.function text))) bucket =
      defaultForm (some text) bucket := by
  have htrim : defaultForm (some (trim text)) bucket = defaultForm (some text) bucket := by
    rw [defaultForm_some, defaultForm_some, bareText_trim]
  have hmysql : defaultForm (some (mysqlFunction text)) bucket =
      defaultForm (some text) bucket := by
    have htime : ∀ {s word : String}, (trim s).toLower = word →
        functionForms.lookup word = some "current_timestamp" →
          defaultForm (some s) bucket = "current_timestamp" :=
      fun hword hform => defaultForm_of_functionWord hword hform bucket
    have hupper : (trim "CURRENT_TIMESTAMP").toLower = "current_timestamp" := by
      apply toLower_eq_of_toList
      rw [toList_trim]
      rfl
    have hwritten : defaultForm (some "CURRENT_TIMESTAMP") bucket = "current_timestamp" :=
      htime hupper (by decide)
    unfold mysqlFunction
    dsimp only
    split
    · rename_i hnow
      rw [hwritten, htime hnow (by decide)]
    · rename_i hword
      rw [hwritten, htime hword (by decide)]
    · rename_i hcall
      rw [hwritten, htime hcall (by decide)]
    · exact htrim
  cases d with
  | postgres => exact htrim
  | mysql => exact hmysql
  | mariadb => exact hmysql

/-! ## Literals as they are written -/

/-- A literal keeps its form: it is written as it stands, as a string literal of a plain
text, or as a keyword whose spelling does not matter. -/
def KeepsForm (bucket literal written : String) : Prop :=
  written = literal ∨ (written = Sql.quoteLiteral literal ∧ IsPlain literal.toList) ∨
    (written ∈ keywords ∧
      (String.ofList (stripQuotes literal.toList)).toLower = written.toLower ∧
      (written = "NULL" ∨ bucket = booleanBucket ∨
        String.ofList (stripQuotes literal.toList) = written))

/-- The bare text of a string literal. -/
theorem bareText_quoteLiteral (s : String) :
    bareText (Sql.quoteLiteral s) = Sql.doubleQuotes s.toList :=
  bareText_quoted String.toList_ofList

/-- A keyword is its own bare text. -/
theorem bareText_keyword : ∀ keyword ∈ keywords, bareText keyword = keyword.toList := by
  decide

/-- What is between the apostrophes of a text spells the same. -/
theorem spells_stripQuotes {cs : List Char} {keyword : String} (h : Spells cs keyword) :
    Spells (stripQuotes cs) keyword := by
  rcases stripQuotes_cases cs with hsame | ⟨quote, hquote, _, hquoted⟩
  · rwa [hsame]
  · rcases hquote with rfl | rfl
    · have hnone : withoutApostrophes (stripQuotes cs) = withoutApostrophes cs := by
        conv_rhs => rw [hquoted]
        simp [withoutApostrophes]
      refine ⟨h.1, ?_⟩
      rw [← h.2, withoutApostrophes_map_toLower, withoutApostrophes_map_toLower, hnone]
    · exact absurd (by rw [hquoted]; simp) h.not_mem.2

/-- A text that is a keyword between its quotes has no cast. -/
theorem not_mem_of_stripQuotes {cs : List Char} {keyword : String} (hkeyword : keyword ∈ keywords)
    (h : (String.ofList (stripQuotes cs)).toLower = keyword.toLower) : ':' ∉ cs := by
  have hspells := spells_of_toLower hkeyword h
  rw [String.toList_ofList] at hspells
  exact fun hmem => hspells.not_mem.1 (mem_stripQuotes hmem (by decide) (by decide))

section Literal

variable {literal written : String} (htrimmed : trimmed literal.toList = literal.toList)

include htrimmed

/-- A literal with the form of what is written keeps its form. -/
theorem keepsForm_of_wordForm_eq (hwritten : WrittenAs literal written) {bucket : String}
    (hsame : wordForm bucket (bareText written) = wordForm bucket (bareText literal)) :
    KeepsForm bucket literal written := by
  have hbare : bareText literal = stripQuotes (stripCast literal.toList) := by
    rw [bareText, htrimmed]
  rw [hbare] at hsame
  rcases hwritten with hstands | hquoted | hspells
  · exact .inl hstands
  · rw [hquoted, bareText_quoteLiteral, wordForm_doubleQuotes_iff] at hsame
    exact .inr (.inl ⟨hquoted, hsame⟩)
  · rw [bareText_keyword written hspells.1,
      stripCast_of_none (cutAtLastPair_eq_none hspells.not_mem.1),
      wordForm_keyword_iff hspells.1 (spells_stripQuotes hspells).2] at hsame
    exact .inr (.inr ⟨hspells.1, hsame⟩)

/-- A literal that keeps its form has the form of what is written. -/
theorem wordForm_eq_of_keepsForm {bucket : String} (hkeeps : KeepsForm bucket literal written) :
    wordForm bucket (bareText written) = wordForm bucket (bareText literal) := by
  have hbare : bareText literal = stripQuotes (stripCast literal.toList) := by
    rw [bareText, htrimmed]
  rcases hkeeps with rfl | ⟨rfl, hplain⟩ | ⟨hkeyword, hlower, hspelling⟩
  · rfl
  · rw [bareText_quoteLiteral, hbare, wordForm_doubleQuotes_iff]
    exact hplain
  · have hspells := spells_of_toLower hkeyword hlower
    rw [String.toList_ofList] at hspells
    have hcut := cutAtLastPair_eq_none (not_mem_of_stripQuotes hkeyword hlower)
    rw [bareText_keyword written hkeyword, hbare, stripCast_of_none hcut,
      wordForm_keyword_iff hkeyword hspells.2]
    exact ⟨hlower, hspelling⟩

end Literal

/-! ## All defaults -/

/-- A default has the same form as it is written: it is a function call or a literal that
keeps its form. -/
def DefaultAgrees (d : Dialect) (bucket : String) : DefaultValue → Prop
  | .function _ => True
  | .literal text => KeepsForm bucket (trim text) (d.profile.defaultText (.literal text))

/-- A default has the same form as it is written exactly if it agrees. -/
theorem defaultForm_defaultText_iff (d : Dialect) (v : DefaultValue) (bucket : String) :
    defaultForm (some (d.profile.defaultText v)) bucket = defaultForm (some v.text) bucket ↔
      DefaultAgrees d bucket v := by
  cases v with
  | function text => exact iff_of_true (defaultForm_function d text bucket) trivial
  | literal text =>
    have htrimmed : trimmed (trim text).toList = (trim text).toList := by
      rw [toList_trim, trimmed_trimmed]
    rw [defaultForm_some, defaultForm_some, DefaultValue.text, ← bareText_trim text, DefaultAgrees]
    exact ⟨keepsForm_of_wordForm_eq htrimmed (writtenAs_defaultText d text),
      wordForm_eq_of_keepsForm htrimmed⟩

/-- **Defaults on both sides.**  In every column a default has the same form as a dialect
writes it exactly if it agrees, and a column that is reported with the default that was
written counts as unchanged in its default exactly if it does or if the default comes from
a sequence. -/
theorem defaultAgrees_iff (d : Dialect) (v : DefaultValue) (bucket : String) :
    (defaultForm (some (d.profile.defaultText v)) bucket = defaultForm (some v.text) bucket ↔
      DefaultAgrees d bucket v) ∧
    ∀ (s : DesiredSchema) (f : Field) (c : LiveColumn), f.default = some v →
      c.default = some (d.profile.defaultText v) → desiredBucket s d f = bucket →
      liveBucket d c = bucket →
      (defaultChange s d f c = [] ↔ sequenceBacked d f c = true ∨ DefaultAgrees d bucket v) := by
  have hform := defaultForm_defaultText_iff d v bucket
  refine ⟨hform, ?_⟩
  intro s f c hdeclared hreported hdesired hlive
  rw [← hform, defaultChange, hdeclared, hreported, hdesired, hlive, Option.map_some, changeOf]
  by_cases hsequence : sequenceBacked d f c = true
  · simp [hsequence]
  · simp [hsequence, eq_comm]

/-- An apostrophe is written twice, and both are compared with the one that was declared. -/
theorem defaultForm_ne_apostrophe :
    defaultForm (some (Dialect.postgres.profile.defaultText (.literal "it's"))) "text" ≠
      defaultForm (some "it's") "text" := by
  have hwritten : defaultForm (some (Dialect.postgres.profile.defaultText (.literal "it's")))
      "text" = "it''s" := by decide +kernel
  have hdeclared : defaultForm (some "it's") "text" = "it's" := by decide +kernel
  rw [hwritten, hdeclared]
  decide

end SchemaDdl.Drift
