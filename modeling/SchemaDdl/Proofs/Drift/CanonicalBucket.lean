/-
# Buckets as canonical forms

The bucket of a type stands for all spellings of the type:

* `typeBucket_congr` : neither the case of letters nor blanks around a type count;
* `typeBucket_append` : nor do parameters and further words behind a word that has a bucket;
* `typeBucket_canonical` : all of this, and the bucket of a bucket is the bucket itself.
-/
import SchemaDdl.Proofs.Drift.TypeBucket
import SchemaDdl.Proofs.Text.Part

namespace SchemaDdl.Drift

open Text

/-! ## Case and blanks -/

/-- Types that are the same in lower case and without blanks around them have one bucket. -/
theorem typeBucket_congr {a b : String} (h : (trim a).toLower = (trim b).toLower) (d : Dialect) :
    typeBucket d a = typeBucket d b := by
  have hword : Sql.typeWord a = Sql.typeWord b := by
    rw [Sql.typeWord, Sql.typeWord, ← toUpper_toLower, h, toUpper_toLower]
  rw [typeBucket, typeBucket, hword, h]

/-- A text is trimmed in lower case as it is in any case. -/
theorem toLower_trim (s : String) : (trim s).toLower = trim s.toLower := by
  apply String.toList_inj.mp
  rw [toList_toLower, toList_trim, toList_trim, toList_toLower, trimmed_map_toLower]

/-- The case of letters does not count. -/
theorem typeBucket_of_toLower {a b : String} (h : a.toLower = b.toLower) (d : Dialect) :
    typeBucket d a = typeBucket d b := by
  apply typeBucket_congr
  rw [toLower_trim, toLower_trim, h]

/-- Blanks around a type do not count. -/
theorem typeBucket_append_blanks {before after : String}
    (hbefore : ∀ c ∈ before.toList, isBlank c = true)
    (hafter : ∀ c ∈ after.toList, isBlank c = true) (d : Dialect) (dataType : String) :
    typeBucket d (before ++ dataType ++ after) = typeBucket d dataType := by
  apply typeBucket_congr
  rw [trim, String.toList_append, String.toList_append, trimmed_append_blanks hbefore hafter, trim]

/-! ## Buckets of buckets -/

/-- The bucket of a rule is in itself. -/
theorem typeBucket_bucket (d : Dialect) : ∀ rule ∈ typeRules,
    typeBucket d rule.bucket = rule.bucket := by
  cases d <;> decide +kernel

/-- A bucket is in itself. -/
theorem typeBucket_typeBucket (d : Dialect) (dataType : String) :
    typeBucket d (typeBucket d dataType) = typeBucket d dataType := by
  cases hrule : typeRules.find? (·.applies d (Sql.typeWord dataType)) with
  | some rule =>
    have hbucket : typeBucket d dataType = rule.bucket := by rw [typeBucket, hrule]
    rw [hbucket, typeBucket_bucket d rule (List.mem_of_find?_eq_some hrule)]
  | none =>
    -- A type that no rule matches is its own bucket but for case and blanks, which do not count.
    have hbucket : typeBucket d dataType = (trim dataType).toLower := by rw [typeBucket, hrule]
    have htrim : trim (trim dataType) = trim dataType := by
      rw [trim, toList_trim, trimmed_trimmed, trim]
    apply typeBucket_congr
    rw [hbucket, ← toLower_trim, htrim, toLower_toLower]

/-! ## Words that have a bucket -/

/-- The words that a pattern looks for. -/
def TypePattern.words : TypePattern → List String
  | .start _ => []
  | .word words => words

/-- The starts that a pattern looks for. -/
def TypePattern.starts : TypePattern → List String
  | .start text => [text]
  | .word _ => []

/-- A word has a bucket: it is one of the words of a rule that counts in the dialect, or the
word for texts of some length. -/
def HasBucket (d : Dialect) (word bucket : String) : Prop :=
  (word = "VARCHAR" ∧ bucket = "varchar") ∨
    ∃ rule ∈ typeRules, word ∈ rule.pattern.words ∧ rule.bucket = bucket ∧
      (!rule.mysqlOnly || d.isMysqlFamily) = true

/-- What may stand behind the first word of a type: nothing, a parenthesis or a blank. -/
def EndsWord (rest : List Char) : Prop :=
  ∀ c, rest.head? = some c → c = '(' ∨ isBlank c = true

/-- Nothing may stand behind a word. -/
theorem endsWord_nil : EndsWord [] := by
  intro c hc
  cases hc

/-- The words of the rules are in upper case and have neither parentheses nor blanks. -/
theorem words_inUpperCase : ∀ rule ∈ typeRules, ∀ word ∈ "VARCHAR" :: rule.pattern.words,
    word.toUpper = word ∧ word.toList ≠ [] ∧
      (word.toList.all fun c => c != '(' && !isBlank c) = true := by
  have hwords : ∀ rule ∈ typeRules, ∀ word ∈ "VARCHAR" :: rule.pattern.words,
      word.toList.map Char.toUpper = word.toList ∧ word.toList ≠ [] ∧
        (word.toList.all fun c => c != '(' && !isBlank c) = true := by
    decide
  intro rule hrule word hword
  obtain ⟨hupper, hchars⟩ := hwords rule hrule word hword
  exact ⟨toUpper_eq_of_toList hupper, hchars⟩

/-- What stands behind a word still does so when it is trimmed and in upper case. -/
theorem EndsWord.map_toUpper {rest : List Char} (h : EndsWord rest) :
    EndsWord ((dropBlanksRight rest).map Char.toUpper) := by
  intro c hc
  obtain ⟨d, hd, rfl⟩ := by rwa [List.head?_map, Option.map_eq_some_iff] at hc
  obtain ⟨later, hlater⟩ := isPrefix_dropBlanksRight rest
  have hhead : rest.head? = some d := by
    rw [← hlater, List.head?_append, hd]
    rfl
  rcases h d hhead with rfl | hblank
  · exact .inl rfl
  · exact .inr (by rwa [isBlank_toUpper])

/-- The first word of a type is the one that something stands behind. -/
theorem leadingWord_append {word later : List Char}
    (hword : (word.all fun c => c != '(' && !isBlank c) = true) (hlater : EndsWord later) :
    leadingWord (word ++ later) = word := by
  have hnone : leadingWord later = [] := by
    cases later with
    | nil => rfl
    | cons c rest =>
      apply List.takeWhile_cons_of_neg
      rcases hlater c rfl with rfl | hblank
      · simp
      · simp [hblank]
  rw [leadingWord, List.takeWhile_append_of_pos (List.all_eq_true.mp hword), ← leadingWord, hnone,
    List.append_nil]

/-- No word of a rule begins as a start that a rule looks for, nor the other way round. -/
theorem words_toldApart : ∀ rule ∈ typeRules, ∀ word ∈ rule.pattern.words,
    ∀ other ∈ typeRules, ∀ start ∈ other.pattern.starts,
      beginsWith word start = false ∧ beginsWith start word = false := by
  decide

/-- Behind a word of a rule nothing counts for any rule. -/
theorem accepts_append {rule : TypeRule} (hrule : rule ∈ typeRules) {word : String}
    (hword : word ∈ rule.pattern.words) {later : String} (hlater : EndsWord later.toList)
    {other : TypeRule} (hother : other ∈ typeRules) :
    other.pattern.accepts (word ++ later) = other.pattern.accepts word := by
  have hchars := (words_inUpperCase rule hrule word (List.mem_cons_of_mem _ hword)).2.2
  have hapart := words_toldApart rule hrule word hword other hother
  cases hpattern : other.pattern with
  | start text =>
    rw [hpattern] at hapart
    obtain ⟨hstart, hshort⟩ := hapart text (List.mem_singleton_self text)
    rw [TypePattern.accepts, TypePattern.accepts, beginsWith_append_eq_false hstart hshort, hstart]
  | word words =>
    have halone : leadingWord word.toList = word.toList := by
      simpa using leadingWord_append hchars endsWord_nil
    rw [TypePattern.accepts, TypePattern.accepts, String.toList_append,
      leadingWord_append hchars hlater, halone]

/-- The first rule that matches a word of a rule is this rule. -/
theorem find?_word (d : Dialect) : ∀ rule ∈ typeRules, ∀ word ∈ rule.pattern.words,
    (!rule.mysqlOnly || d.isMysqlFamily) = true →
      typeRules.find? (·.applies d word) = some rule := by
  cases d <;> decide

/-- The word of a type that begins with a word of a rule begins so too. -/
theorem typeWord_append {word : String} (hupper : word.toUpper = word) (hne : word.toList ≠ [])
    (hchars : (word.toList.all fun c => c != '(' && !isBlank c) = true) (rest : String) :
    Sql.typeWord (word ++ rest) =
      word ++ String.ofList ((dropBlanksRight rest.toList).map Char.toUpper) := by
  have hnonblank : ∀ c ∈ word.toList, isBlank c = false := by
    intro c hc
    have hchar := List.all_eq_true.mp hchars c hc
    rw [Bool.and_eq_true, Bool.not_eq_true'] at hchar
    exact hchar.2
  apply String.toList_inj.mp
  rw [Sql.toList_typeWord, String.toList_append, trimmed_append_of_nonblank hne hnonblank,
    List.map_append, ← toList_toUpper, hupper, String.toList_append, String.toList_ofList]

/-- A type whose first word has a bucket is in this bucket, whatever stands behind the word. -/
theorem typeBucket_append {d : Dialect} {word bucket : String} (h : HasBucket d word bucket)
    {rest : String} (hrest : EndsWord rest.toList) : typeBucket d (word ++ rest) = bucket := by
  rcases h with ⟨rfl, rfl⟩ | ⟨rule, hrule, hword, rfl, hcounts⟩
  · -- The first of all rules looks for this word at the start of a type.
    have hvarchar : (⟨.start "VARCHAR", "varchar", false⟩ : TypeRule) ∈ typeRules :=
      List.mem_cons_self
    obtain ⟨hupper, hne, hchars⟩ := words_inUpperCase _ hvarchar "VARCHAR" List.mem_cons_self
    have hbegins : beginsWith "VARCHAR" "VARCHAR" = true := by decide
    rw [typeBucket, typeWord_append hupper hne hchars, typeRules, List.find?_cons_of_pos]
    rw [TypeRule.applies, TypePattern.accepts, beginsWith_append hbegins]
    rfl
  · obtain ⟨hupper, hne, hchars⟩ :=
      words_inUpperCase rule hrule word (List.mem_cons_of_mem _ hword)
    have hlater := hrest.map_toUpper
    rw [← String.toList_ofList (l := (dropBlanksRight rest.toList).map Char.toUpper)] at hlater
    have hfirst : typeRules.find? (·.applies d (Sql.typeWord (word ++ rest))) = some rule := by
      rw [typeWord_append hupper hne hchars, ← find?_word d rule hrule word hword hcounts]
      apply List.find?_congr
      intro other hother
      rw [TypeRule.applies, TypeRule.applies, accepts_append hrule hword hlater hother]
    rw [typeBucket, hfirst]

/-- **Buckets as canonical forms.**  The bucket of a bucket is the bucket itself.  Neither blanks
around a type nor the case of its letters count.  A word of a rule, and the word for texts of some
length, is in the bucket of the rule in any case, and so is a type that has parameters or further
words behind it. -/
theorem typeBucket_canonical (d : Dialect) :
    (∀ dataType, typeBucket d (typeBucket d dataType) = typeBucket d dataType) ∧
    (∀ before dataType after : String, (∀ c ∈ before.toList, isBlank c = true) →
      (∀ c ∈ after.toList, isBlank c = true) →
      typeBucket d (before ++ dataType ++ after) = typeBucket d dataType) ∧
    (∀ a b, sameIgnoringCase a b = true → typeBucket d a = typeBucket d b) ∧
    ∀ word bucket, HasBucket d word.toUpper bucket → ∀ parameters further,
      typeBucket d word = bucket ∧
      typeBucket d (word ++ "(" ++ parameters ++ ")") = bucket ∧
      typeBucket d (word ++ "(" ++ parameters ++ ") " ++ further) = bucket ∧
      typeBucket d (word ++ " " ++ further) = bucket := by
  refine ⟨typeBucket_typeBucket d, ?_, ?_, ?_⟩
  · intro before dataType after hbefore hafter
    exact typeBucket_append_blanks hbefore hafter d dataType
  · intro a b hsame
    exact typeBucket_of_toLower (beq_iff_eq.mp hsame) d
  · intro word bucket h parameters further
    -- The word in upper case is the one in the table.
    have hrest : ∀ rest : String, EndsWord rest.toList → typeBucket d (word ++ rest) = bucket := by
      intro rest hends
      rw [← typeBucket_append h hends]
      apply typeBucket_of_toLower
      apply String.toList_inj.mp
      simp only [toList_toLower, String.toList_append, List.map_append]
      rw [← toList_toLower word.toUpper, toLower_toUpper, toList_toLower]
    have hopened : "(".toList = ['('] := by decide
    have hopen : ∀ text : String, EndsWord ("(" ++ text).toList := by
      intro text c hc
      rw [String.toList_append, hopened] at hc
      exact .inl (Option.some.inj hc).symm
    have hspaced : " ".toList = [' '] := by decide
    have hblank : ∀ text : String, EndsWord (" " ++ text).toList := by
      intro text c hc
      rw [String.toList_append, hspaced] at hc
      obtain rfl : ' ' = c := Option.some.inj hc
      exact .inr (by decide)
    refine ⟨?_, ?_, ?_, ?_⟩
    · simpa using hrest "" endsWord_nil
    · simpa only [String.append_assoc] using hrest _ (hopen (parameters ++ ")"))
    · simpa only [String.append_assoc] using hrest _ (hopen (parameters ++ (") " ++ further)))
    · simpa only [String.append_assoc] using hrest _ (hblank further)

/-- A signed number of MySQL with a width, and a type with blanks around it. -/
theorem typeBucket_canonical_bigint :
    HasBucket .mysql "BigInt".toUpper "integer" ∧
      typeBucket .mysql ("BigInt" ++ "(" ++ "20" ++ ") " ++ "unsigned zerofill") = "integer" ∧
      (∀ c ∈ "\t ".toList, isBlank c = true) ∧ (∀ c ∈ "\n".toList, isBlank c = true) ∧
      typeBucket .mysql ("\t " ++ "Point" ++ "\n") = typeBucket .mysql "Point" ∧
      sameIgnoringCase "Point" "POINT" = true ∧
      typeBucket .mysql "Point" = typeBucket .mysql "POINT" := by
  have hword : HasBucket .mysql "BigInt".toUpper "integer" := by
    refine .inr ⟨⟨.word integerWords, "integer", false⟩, by simp [typeRules], ?_, rfl, rfl⟩
    decide +kernel
  have hbefore : ∀ c ∈ "\t ".toList, isBlank c = true := List.all_eq_true.mp (by decide)
  have hafter : ∀ c ∈ "\n".toList, isBlank c = true := List.all_eq_true.mp (by decide)
  have hcase : sameIgnoringCase "Point" "POINT" = true := by
    rw [sameIgnoringCase, beq_iff_eq, ← String.toList_inj, toList_toLower, toList_toLower]
    decide
  obtain ⟨_, hblanks, hsame, hbucket⟩ := typeBucket_canonical .mysql
  exact ⟨hword, (hbucket "BigInt" "integer" hword "20" "unsigned zerofill").2.2.1, hbefore, hafter,
    hblanks "\t " "Point" "\n" hbefore hafter, hcase, hsame "Point" "POINT" hcase⟩

end SchemaDdl.Drift
