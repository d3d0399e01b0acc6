/-
# Comparison forms of string literals

A comparison reads a string literal as the text between its apostrophes and does not note that
it was quoted.  So a text that spells `NULL` or a function is taken for what it spells:

* `doubleQuotes_injective` : nothing of a text is lost when it is written as a literal;
* `defaultForm_quoteLiteral` : the form of a literal is the written text, but for these words;
* `defaultForm_quoteLiteral_eq_iff` : the literals with one form, and those that count as no
  default.
-/
import SchemaDdl.Proofs.Drift.ColumnDefault
import SchemaDdl.Proofs.Drift.InlineEnum

namespace SchemaDdl.Drift

open Profile Text

/-- Different texts stay different when their apostrophes are doubled, as they are read back. -/
theorem doubleQuotes_injective : Function.Injective Sql.doubleQuotes := by
  have hread : ∀ cs, quotedValues (some []) (Sql.doubleQuotes cs ++ ['\'']) = [cs] := by
    intro cs
    rw [quotedValues_doubleQuotes (by simp)]
    rfl
  intro cs ds hsame
  have hlists := hread cs
  rw [hsame, hread ds] at hlists
  exact (List.singleton_inj.mp hlists).symm

/-! ## Texts that are taken for what they spell -/

/-- A text that is taken for `NULL`: an empty one, or the word in any case. -/
def IsNullText (s : String) : Prop :=
  s = "" ∨ s.toLower = "null"

instance : DecidablePred IsNullText := fun s =>
  inferInstanceAs (Decidable (s = "" ∨ s.toLower = "null"))

/-- Two texts spell the same function, each in any of its ways. -/
def SpellSameFunction (s t : String) : Prop :=
  ∃ form, functionForms.lookup s.toLower = some form ∧
    functionForms.lookup t.toLower = some form

/-- The form that a text has in common with others: that of `NULL` or of a function. -/
def sharedForm? (s : String) : Option String :=
  if IsNullText s then some "" else functionForms.lookup s.toLower

/-- No text that is taken for `NULL` spells a function. -/
theorem IsNullText.lookup_eq_none {s : String} (h : IsNullText s) :
    functionForms.lookup s.toLower = none := by
  have hempty : functionForms.lookup "".toLower = none := by decide +kernel
  rcases h with rfl | hnull
  · exact hempty
  · rw [hnull]
    decide

/-- What it means for a text to have a shared form. -/
theorem sharedForm?_eq_some_iff {s form : String} :
    sharedForm? s = some form ↔
      (IsNullText s ∧ form = "") ∨ functionForms.lookup s.toLower = some form := by
  rw [sharedForm?]
  by_cases hnull : IsNullText s
  · simp [hnull, hnull.lookup_eq_none, eq_comm]
  · simp [hnull]

/-- The form of a function spells the function, and is not empty. -/
theorem lookup_form {word form : String} (h : functionForms.lookup word = some form) :
    functionForms.lookup form.toLower = some form ∧ form ≠ "" := by
  have hall : ∀ form ∈ functionForms.map Prod.snd,
      functionForms.lookup form.toLower = some form ∧ form ≠ "" := by decide +kernel
  exact hall form (mem_of_lookup h).2

/-- A shared form is its own shared form. -/
theorem sharedForm?_form {s form : String} (h : sharedForm? s = some form) :
    sharedForm? form = some form := by
  rw [sharedForm?_eq_some_iff] at h ⊢
  rcases h with ⟨_, rfl⟩ | hform
  · exact .inl ⟨.inl rfl, rfl⟩
  · exact .inr (lookup_form hform).1

/-- A text with a shared form has no apostrophe. -/
theorem not_mem_of_sharedForm? {s form : String} (h : sharedForm? s = some form) :
    '\'' ∉ s.toList := by
  have hwords : ∀ word ∈ "null" :: functionForms.map Prod.fst, '\'' ∉ word.toList := by decide
  have hlower : s.toLower ∈ "null" :: functionForms.map Prod.fst → '\'' ∉ s.toList := by
    intro hmem
    rw [← mem_map_toLower_iff (by decide), ← toList_toLower]
    exact hwords _ hmem
  rcases sharedForm?_eq_some_iff.mp h with ⟨rfl | hnull, _⟩ | hform
  · simp
  · exact hlower (hnull ▸ List.mem_cons_self)
  · exact hlower (List.mem_cons_of_mem _ (mem_of_lookup hform).1)

/-- Two texts have a shared form in common. -/
theorem exists_sharedForm?_iff (s t : String) :
    (∃ form, sharedForm? s = some form ∧ sharedForm? t = some form) ↔
      (IsNullText s ∧ IsNullText t) ∨ SpellSameFunction s t := by
  constructor
  · rintro ⟨form, hs, ht⟩
    rw [sharedForm?_eq_some_iff] at hs ht
    rcases hs with ⟨hnull, rfl⟩ | hs
    · rcases ht with ⟨hnull', _⟩ | ht
      · exact .inl ⟨hnull, hnull'⟩
      · exact absurd rfl (lookup_form ht).2
    · rcases ht with ⟨_, rfl⟩ | ht
      · exact absurd rfl (lookup_form hs).2
      · exact .inr ⟨form, hs, ht⟩
  · rintro (⟨hs, ht⟩ | ⟨form, hs, ht⟩)
    · exact ⟨"", sharedForm?_eq_some_iff.mpr (.inl ⟨hs, rfl⟩),
        sharedForm?_eq_some_iff.mpr (.inl ⟨ht, rfl⟩)⟩
    · exact ⟨form, sharedForm?_eq_some_iff.mpr (.inr hs), sharedForm?_eq_some_iff.mpr (.inr ht)⟩

/-! ## Forms of literals -/

section Bucket

variable {bucket : String} (hbucket : bucket ≠ booleanBucket)

include hbucket

/-- A text without apostrophes has its shared form or is its own form. -/
theorem wordForm_toList (s : String) : wordForm bucket s.toList = (sharedForm? s).getD s := by
  have hword : wordForm? bucket s.toLower =
      if s.toLower = "null" then some "" else functionForms.lookup s.toLower := by
    rw [wordForm?, booleanForm?, if_neg hbucket, Option.or_none]
  rw [wordForm, String.ofList_toList, hword, sharedForm?]
  by_cases hempty : s = ""
  · -- An empty text is no word, and is itself the form that it shares with `NULL`.
    have hnull : IsNullText s := .inl hempty
    rw [if_pos hnull, hnull.lookup_eq_none, hempty]
    split <;> rfl
  · by_cases hnull : s.toLower = "null"
    · rw [if_pos hnull, if_pos (.inr hnull)]
    · have hother : ¬ IsNullText s := not_or.mpr ⟨hempty, hnull⟩
      rw [if_neg hnull, if_neg hother]

/-- A literal has the shared form of its text, or the text as it is written is its form. -/
theorem defaultForm_quoteLiteral (s : String) :
    defaultForm (some (Sql.quoteLiteral s)) bucket =
      (sharedForm? s).getD (String.ofList (Sql.doubleQuotes s.toList)) := by
  rw [defaultForm_some, bareText_quoteLiteral]
  by_cases hquote : '\'' ∈ s.toList
  · have hnone : sharedForm? s = none := by
      apply Option.eq_none_iff_forall_ne_some.mpr
      intro form hform
      exact not_mem_of_sharedForm? hform hquote
    rw [wordForm_of_hasMark (.inl (cutAtLastPair_doubleQuotes hquote)), hnone, Option.getD_none]
  · rw [doubleQuotes_of_not_mem hquote, wordForm_toList hbucket, String.ofList_toList]

/-- A literal whose text has no shared form shares its form with no other literal. -/
theorem eq_of_sharedForm?_eq_none {s t : String} (hs : sharedForm? s = none)
    (hsame : defaultForm (some (Sql.quoteLiteral s)) bucket =
      defaultForm (some (Sql.quoteLiteral t)) bucket) : s = t := by
  rw [defaultForm_quoteLiteral hbucket, defaultForm_quoteLiteral hbucket, hs,
    Option.getD_none] at hsame
  cases ht : sharedForm? t with
  | none =>
    rw [ht, Option.getD_none, String.ofList_inj] at hsame
    exact String.toList_inj.mp (doubleQuotes_injective hsame)
  | some form =>
    -- The written text would be a shared form, which has no apostrophes, and so the text itself.
    rw [ht, Option.getD_some, ← String.toList_inj, String.toList_ofList] at hsame
    have hform := sharedForm?_form ht
    rw [← doubleQuotes_of_not_mem (not_mem_of_sharedForm? hform)] at hsame
    obtain rfl : s = form := String.toList_inj.mp (doubleQuotes_injective hsame)
    rw [hs] at hform
    contradiction

/-- Two literals have one form exactly if they are the same or their texts share a form. -/
theorem defaultForm_quoteLiteral_eq_iff_shared (s t : String) :
    defaultForm (some (Sql.quoteLiteral s)) bucket =
        defaultForm (some (Sql.quoteLiteral t)) bucket ↔
      s = t ∨ ∃ form, sharedForm? s = some form ∧ sharedForm? t = some form := by
  constructor
  · intro hsame
    cases hs : sharedForm? s with
    | none => exact .inl (eq_of_sharedForm?_eq_none hbucket hs hsame)
    | some form =>
      cases ht : sharedForm? t with
      | none => exact .inl (eq_of_sharedForm?_eq_none hbucket ht hsame.symm).symm
      | some form' =>
        rw [defaultForm_quoteLiteral hbucket, defaultForm_quoteLiteral hbucket, hs, ht,
          Option.getD_some, Option.getD_some] at hsame
        exact .inr ⟨form, rfl, hsame ▸ rfl⟩
  · rintro (rfl | ⟨form, hs, ht⟩)
    · rfl
    · rw [defaultForm_quoteLiteral hbucket, defaultForm_quoteLiteral hbucket, hs, ht]
      rfl

end Bucket

/-- **Literals in a comparison.**  In every column but one of truth values, two different string
literals have the same form exactly if the texts of both are taken for `NULL` or spell the same
function, and a string literal has the form of an absent default exactly if its text is taken
for `NULL`. -/
theorem defaultForm_quoteLiteral_eq_iff {bucket : String} (hbucket : bucket ≠ booleanBucket)
    (s t : String) :
    (defaultForm (some (Sql.quoteLiteral s)) bucket =
        defaultForm (some (Sql.quoteLiteral t)) bucket ↔
      s = t ∨ (IsNullText s ∧ IsNullText t) ∨ SpellSameFunction s t) ∧
    (defaultForm (some (Sql.quoteLiteral s)) bucket = defaultForm none bucket ↔
      IsNullText s) := by
  have hforms := defaultForm_quoteLiteral_eq_iff_shared hbucket
  simp only [exists_sharedForm?_iff] at hforms
  refine ⟨hforms s t, ?_⟩
  -- No default has the form of the empty literal.
  have hempty : IsNullText "" := .inl rfl
  have habsent : defaultForm none bucket = defaultForm (some (Sql.quoteLiteral "")) bucket := by
    rw [defaultForm_quoteLiteral hbucket, sharedForm?_eq_some_iff.mpr (.inl ⟨hempty, rfl⟩)]
    rfl
  rw [habsent, hforms]
  constructor
  · rintro (rfl | ⟨hnull, _⟩ | ⟨form, _, hform⟩)
    · exact hempty
    · exact hnull
    · rw [hempty.lookup_eq_none] at hform
      contradiction
  · intro hnull
    exact .inr (.inl ⟨hnull, hempty⟩)

/-- Two texts that differ only in case have literals with different forms, and the first does not
count as no default.  The word for no value does, in any case. -/
theorem defaultForm_quoteLiteral_its :
    "varchar" ≠ booleanBucket ∧
      defaultForm (some (Sql.quoteLiteral "it's")) "varchar" ≠
        defaultForm (some (Sql.quoteLiteral "It's")) "varchar" ∧
      defaultForm (some (Sql.quoteLiteral "it's")) "varchar" ≠ defaultForm none "varchar" ∧
      defaultForm (some (Sql.quoteLiteral "Null")) "varchar" = defaultForm none "varchar" := by
  have hbucket : "varchar" ≠ booleanBucket := by decide
  have hnull : ¬ IsNullText "it's" := by decide +kernel
  have hnone : functionForms.lookup "it's".toLower = none := by decide +kernel
  obtain ⟨hsame, habsent⟩ := defaultForm_quoteLiteral_eq_iff hbucket "it's" "It's"
  refine ⟨hbucket, ?_, mt habsent.mp hnull, ?_⟩
  · rw [ne_eq, hsame]
    rintro (heq | ⟨hnull', _⟩ | ⟨form, hform, _⟩)
    · revert heq
      decide
    · exact hnull hnull'
    · rw [hnone] at hform
      contradiction
  · exact (defaultForm_quoteLiteral_eq_iff hbucket "Null" "").2.mpr (by decide +kernel)

/-- The literals of two spellings of one function have the same form, and the literal of the
word for no value counts as no default. -/
theorem defaultForm_quoteLiteral_words :
    "varchar" ≠ booleanBucket ∧ "now()" ≠ "CURRENT_TIMESTAMP" ∧
      defaultForm (some (Sql.quoteLiteral "now()")) "varchar" =
        defaultForm (some (Sql.quoteLiteral "CURRENT_TIMESTAMP")) "varchar" ∧
      defaultForm (some (Sql.quoteLiteral "null")) "varchar" = defaultForm none "varchar" := by
  decide +kernel

end SchemaDdl.Drift
