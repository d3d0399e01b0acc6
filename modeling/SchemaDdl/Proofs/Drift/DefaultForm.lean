/-
# Comparison forms of defaults

The comparison form of a default depends on its bare text only, which is what is left of
it without its cast and the quotes around it:

* `defaultForm_some` : the form of a default is that of its bare text;
* `wordForm_eq_or_mem` : a bare text is its own form unless it is one of a few words;
* `exists_append_stripCast` : nothing is taken away but a cast and the blanks in front of it;
* `bareText_quoted` : the bare text of a string literal is what stands between its quotes.
-/
import SchemaDdl.Drift.DefaultForm
import SchemaDdl.Proofs.Text.Case
import SchemaDdl.Proofs.Text.Ending

namespace SchemaDdl.Drift

open Text

/-! ## Words -/

/-- The form of a word in lower case, if it is one that has a form. -/
def wordForm? (bucket word : String) : Option String :=
  if word = "null" then some ""
  else (functionForms.lookup word).or (booleanForm? bucket word)

/-- The form of a text without cast and quotes. -/
def wordForm (bucket : String) (cs : List Char) : String :=
  (wordForm? bucket (String.ofList cs).toLower).getD (String.ofList cs)

/-- The words that have a form. -/
def formWords : List String :=
  "null" :: functionForms.map Prod.fst ++ booleanForms.map Prod.fst

/-- The forms of words. -/
def wordForms : List String :=
  "" :: functionForms.map Prod.snd ++ booleanForms.map Prod.snd

/-- What is found under a key is a value of the list. -/
theorem mem_of_lookup {α β : Type} [BEq α] [LawfulBEq α] {xs : List (α × β)} {k : α} {v : β}
    (h : xs.lookup k = some v) : k ∈ xs.map Prod.fst ∧ v ∈ xs.map Prod.snd := by
  obtain ⟨before, after, rfl, _⟩ := List.lookup_eq_some_iff.mp h
  simp

/-- A word that has a form is in the list, and so is its form. -/
theorem mem_of_wordForm? {bucket word form : String} (h : wordForm? bucket word = some form) :
    word ∈ formWords ∧ form ∈ wordForms := by
  unfold wordForm? at h
  split at h
  · rename_i hnull
    rw [← Option.some.inj h, hnull]
    exact ⟨by simp [formWords], by simp [wordForms]⟩
  · rw [Option.or_eq_some_iff] at h
    rcases h with hfunction | ⟨_, hboolean⟩
    · obtain ⟨hword, hform⟩ := mem_of_lookup hfunction
      exact ⟨by simp [formWords, hword], by simp [wordForms, hform]⟩
    · simp only [booleanForm?, Option.ite_none_right_eq_some] at hboolean
      obtain ⟨hword, hform⟩ := mem_of_lookup hboolean.2
      exact ⟨by simp [formWords, hword], by simp [wordForms, hform]⟩

/-- A text is its own form unless it is a word that has one. -/
theorem wordForm_of_not_mem {cs : List Char} (h : (String.ofList cs).toLower ∉ formWords)
    (bucket : String) : wordForm bucket cs = String.ofList cs := by
  have hnone : wordForm? bucket (String.ofList cs).toLower = none :=
    Option.eq_none_iff_forall_ne_some.mpr fun form hform => h (mem_of_wordForm? hform).1
  rw [wordForm, hnone, Option.getD_none]

/-- The form of a text is the text itself or that of a word. -/
theorem wordForm_eq_or_mem (bucket : String) (cs : List Char) :
    wordForm bucket cs = String.ofList cs ∨ wordForm bucket cs ∈ wordForms := by
  rw [wordForm]
  cases hform : wordForm? bucket (String.ofList cs).toLower with
  | none => exact .inl rfl
  | some form => exact .inr (mem_of_wordForm? hform).2

/-! ## Casts and quotes -/

/-- The text of a default without its cast and the quotes around it. -/
def bareText (default : String) : List Char :=
  stripQuotes (stripCast (trimmed default.toList))

/-- Without two colons in a row there is no cast. -/
theorem stripCast_of_none {cs : List Char} (h : cutAtLastPair ':' cs = none) :
    stripCast cs = cs := by
  rw [stripCast, h]

/-- What may stand behind the last two colons of a default for these to begin a cast: it has
no apostrophe, and no two colons of its own. -/
def IsCast (cs : List Char) : Prop :=
  '\'' ∉ cs ∧ cutAtLastPair ':' (':' :: cs) = none

instance : DecidablePred IsCast := fun cs =>
  inferInstanceAs (Decidable ('\'' ∉ cs ∧ cutAtLastPair ':' (':' :: cs) = none))

/-- A cast is taken away together with the blanks in front of it. -/
theorem stripCast_append_cast {cast : List Char} (h : IsCast cast) (cs : List Char) :
    stripCast (cs ++ ':' :: ':' :: cast) = dropBlanksRight cs := by
  have hcut : cutAtLastPair ':' (cs ++ ':' :: ':' :: cast) = some (cs, cast) :=
    cutAtLastPair_eq_some_iff.mpr ⟨rfl, h.2⟩
  rw [stripCast, hcut]
  simp [h.1]

/-- Nothing but a cast and the blanks in front of it is taken away. -/
theorem exists_append_stripCast (cs : List Char) :
    ∃ removed, cs = stripCast cs ++ removed ∧
      (removed = [] ∨ ∃ blanks cast, removed = blanks ++ ':' :: ':' :: cast ∧
        (∀ c ∈ blanks, isBlank c = true) ∧ IsCast cast) := by
  cases hcut : cutAtLastPair ':' cs with
  | none => exact ⟨[], by rw [stripCast_of_none hcut, List.append_nil], .inl rfl⟩
  | some parts =>
    obtain ⟨before, cast⟩ := parts
    obtain ⟨happend, hlast⟩ := cutAtLastPair_eq_some_iff.mp hcut
    by_cases hquote : '\'' ∈ cast
    · refine ⟨[], ?_, .inl rfl⟩
      rw [stripCast, hcut]
      simp [hquote]
    · have hcast : IsCast cast := ⟨hquote, hlast⟩
      have hblanks : dropBlanksRight before ++ before.rtakeWhile isBlank = before :=
        List.rdropWhile_append_rtakeWhile
      refine ⟨before.rtakeWhile isBlank ++ ':' :: ':' :: cast, ?_,
        .inr ⟨_, cast, rfl, fun c hc => List.mem_rtakeWhile_imp hc, hcast⟩⟩
      rw [happend, stripCast_append_cast hcast, ← List.append_assoc, hblanks]

/-- There are no apostrophes in what is taken away. -/
theorem IsCast.not_mem_suffix {blanks cast : List Char} (h : IsCast cast)
    (hblanks : ∀ c ∈ blanks, isBlank c = true) : '\'' ∉ blanks ++ ':' :: ':' :: cast := by
  have hblank : '\'' ∉ blanks := fun hmem => absurd (hblanks _ hmem) (by decide)
  simp [hblank, h.1]

/-- A text that ends in an apostrophe has no cast. -/
theorem stripCast_append_apostrophe (cs : List Char) : stripCast (cs ++ ['\'']) = cs ++ ['\''] := by
  obtain ⟨removed, happend, hremoved⟩ := exists_append_stripCast (cs ++ ['\''])
  rcases hremoved with rfl | ⟨blanks, cast, rfl, hblanks, hcast⟩
  · exact (happend.trans (List.append_nil _)).symm
  · -- The apostrophe at the end would be taken away.
    have hlast := congrArg List.getLast? happend
    rw [List.getLast?_concat, List.getLast?_append_of_ne_nil _ (by simp)] at hlast
    exact absurd (List.mem_of_getLast? hlast.symm) (hcast.not_mem_suffix hblanks)

/-- A cast stands at the end. -/
theorem isPrefix_stripCast (cs : List Char) : stripCast cs <+: cs := by
  obtain ⟨removed, happend, _⟩ := exists_append_stripCast cs
  exact ⟨removed, happend.symm⟩

/-- A text without apostrophes loses what follows two colons in a row. -/
theorem length_stripCast_lt {cs : List Char} (hquote : '\'' ∉ cs)
    (hcut : cutAtLastPair ':' cs ≠ none) : (stripCast cs).length < cs.length := by
  obtain ⟨⟨before, cast⟩, hparts⟩ := Option.ne_none_iff_exists'.mp hcut
  obtain ⟨rfl, hlast⟩ := cutAtLastPair_eq_some_iff.mp hparts
  have hcast : IsCast cast := ⟨fun hmem => hquote (by simp [hmem]), hlast⟩
  have hlength := (isPrefix_dropBlanksRight before).length_le
  rw [stripCast_append_cast hcast, List.length_append, List.length_cons, List.length_cons]
  omega

/-- A quoted text is one between two quotes. -/
theorem exists_of_isQuotedBy {quote : Char} {cs : List Char} (h : isQuotedBy quote cs = true) :
    cs = quote :: cs.tail.dropLast ++ [quote] := by
  simp only [isQuotedBy, Bool.and_eq_true, decide_eq_true_eq, beq_iff_eq] at h
  obtain ⟨⟨hlength, hhead⟩, hlast⟩ := h
  obtain ⟨rest, rfl⟩ := List.head?_eq_some_iff.mp hhead
  have hrest : rest ≠ [] := by
    rintro rfl
    simp at hlength
  rw [List.getLast?_cons_of_ne_nil hrest] at hlast
  rw [List.tail_cons, List.cons_append, List.dropLast_append_getLast? quote hlast]

/-- Only quotes are taken away, either two or none. -/
theorem stripQuotes_cases (cs : List Char) :
    stripQuotes cs = cs ∨ ∃ quote, (quote = '\'' ∨ quote = '"') ∧
      isQuotedBy quote cs = true ∧ cs = quote :: stripQuotes cs ++ [quote] := by
  rw [stripQuotes]
  split
  · rename_i hquoted
    rw [Bool.or_eq_true] at hquoted
    rcases hquoted with hsingle | hdouble
    · exact .inr ⟨'\'', .inl rfl, hsingle, exists_of_isQuotedBy hsingle⟩
    · exact .inr ⟨'"', .inr rfl, hdouble, exists_of_isQuotedBy hdouble⟩
  · exact .inl rfl

/-- A text between quotes is no longer than with them. -/
theorem length_stripQuotes_le (cs : List Char) : (stripQuotes cs).length ≤ cs.length := by
  rcases stripQuotes_cases cs with hsame | ⟨quote, _, _, hquoted⟩
  · rw [hsame]
  · have hall := congrArg List.length hquoted
    simp only [List.length_append, List.length_cons, List.length_nil] at hall
    omega

/-- A text without quotes at its ends stands as it is. -/
theorem stripQuotes_of_not {cs : List Char} (hsingle : isQuotedBy '\'' cs = false)
    (hdouble : isQuotedBy '"' cs = false) : stripQuotes cs = cs := by
  rw [stripQuotes, hsingle, hdouble]
  rfl

/-- A text between quotes is shorter than with them. -/
theorem length_stripQuotes_lt {cs : List Char} (h : isQuotedBy '"' cs = true) :
    (stripQuotes cs).length < cs.length := by
  have hall := congrArg List.length (exists_of_isQuotedBy h)
  simp only [List.length_append, List.length_cons, List.length_nil] at hall
  rw [stripQuotes, h, Bool.or_true, if_pos rfl]
  omega

/-- What is no quote stands between the quotes. -/
theorem mem_stripQuotes {c : Char} {cs : List Char} (h : c ∈ cs) (hsingle : c ≠ '\'')
    (hdouble : c ≠ '"') : c ∈ stripQuotes cs := by
  rcases stripQuotes_cases cs with hsame | ⟨quote, hquote, _, hquoted⟩
  · rwa [hsame]
  · rw [hquoted, List.mem_append, List.mem_cons, List.mem_singleton] at h
    rcases hquote with rfl | rfl
    · simpa [hsingle] using h
    · simpa [hdouble] using h

/-- Apostrophes around a text are taken away. -/
theorem stripQuotes_apostrophes (cs : List Char) :
    stripQuotes ('\'' :: cs ++ ['\'']) = cs := by
  have hquoted : isQuotedBy '\'' ('\'' :: cs ++ ['\'']) = true := by
    rw [isQuotedBy, List.getLast?_concat]
    simp
  rw [stripQuotes, hquoted]
  simp

/-- A text that does not contain a quote is not quoted by it. -/
theorem isQuotedBy_eq_false {quote : Char} {cs : List Char} (h : quote ∉ cs) :
    isQuotedBy quote cs = false := by
  cases hquoted : isQuotedBy quote cs with
  | false => rfl
  | true =>
    simp only [isQuotedBy, Bool.and_eq_true, beq_iff_eq] at hquoted
    exact absurd (List.mem_of_mem_head? hquoted.1.2) h

/-- There are no blanks around apostrophes to trim. -/
theorem trimmed_apostrophes (cs : List Char) :
    trimmed ('\'' :: cs ++ ['\'']) = '\'' :: cs ++ ['\''] := by
  have hblank : isBlank '\'' = false := by decide
  apply trimmed_eq_self
  · intro c hc
    rw [List.cons_append, List.head?_cons, Option.some.injEq] at hc
    rw [← hc, hblank]
  · intro c hc
    rw [List.getLast?_concat, Option.some.injEq] at hc
    rw [← hc, hblank]

/-- The bare text of a string literal is what stands between its apostrophes. -/
theorem bareText_quoted {default : String} {cs : List Char}
    (h : default.toList = '\'' :: cs ++ ['\'']) : bareText default = cs := by
  rw [bareText, h, trimmed_apostrophes, stripCast_append_apostrophe, stripQuotes_apostrophes]

/-- A text that is trimmed before has the same bare text. -/
theorem bareText_trim (default : String) : bareText (trim default) = bareText default := by
  rw [bareText, toList_trim, trimmed_trimmed, bareText]

/-! ## Forms -/

/-- A word for a truth value starts with no quote. -/
theorem stripQuotes_of_booleanForm? {bucket form : String} {cs : List Char}
    (h : booleanForm? bucket (String.ofList cs).toLower = some form) : stripQuotes cs = cs := by
  simp only [booleanForm?, Option.ite_none_right_eq_some] at h
  have hword := (mem_of_lookup h.2).1
  have hstart : ∀ word ∈ booleanForms.map Prod.fst,
      word.toList.head? ≠ some '\'' ∧ word.toList.head? ≠ some '"' := by decide
  obtain ⟨hsingle, hdouble⟩ := hstart _ hword
  rw [toList_toLower, String.toList_ofList, ne_eq, head?_map_toLower_iff (by decide)]
    at hsingle hdouble
  apply stripQuotes_of_not
  · simp [isQuotedBy, hsingle]
  · simp [isQuotedBy, hdouble]

/-- The words for truth values are no other words. -/
theorem wordForm?_of_booleanForm? {bucket word form : String}
    (h : booleanForm? bucket word = some form) : wordForm? bucket word = some form := by
  have hword : word ∈ booleanForms.map Prod.fst := by
    simp only [booleanForm?, Option.ite_none_right_eq_some] at h
    exact (mem_of_lookup h.2).1
  have hother : ∀ word ∈ booleanForms.map Prod.fst,
      word ≠ "null" ∧ functionForms.lookup word = none := by decide
  obtain ⟨hnull, hfunction⟩ := hother word hword
  rw [wordForm?, if_neg hnull, hfunction, Option.none_or, h]

/-- The form of a default without its cast is that of the text between its quotes. -/
theorem plainForm_eq (value : List Char) (bucket : String) :
    plainForm value bucket = wordForm bucket (stripQuotes value) := by
  unfold plainForm
  cases hboolean : booleanForm? bucket (String.ofList value).toLower with
  | some form =>
    rw [stripQuotes_of_booleanForm? hboolean, wordForm, wordForm?_of_booleanForm? hboolean]
    rfl
  | none =>
    dsimp only
    rw [wordForm, wordForm?]
    split
    · rfl
    · cases functionForms.lookup (String.ofList (stripQuotes value)).toLower with
      | none => rfl
      | some form => rfl

/-- The form of a default is that of its bare text. -/
theorem defaultForm_some (default bucket : String) :
    defaultForm (some default) bucket = wordForm bucket (bareText default) :=
  plainForm_eq _ bucket

end SchemaDdl.Drift
