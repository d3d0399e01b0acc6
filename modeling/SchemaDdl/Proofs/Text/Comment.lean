/-
# Comments

A text is a comment if each of its lines starts with two hyphens.  Where other texts are
put into a comment, it stays one exactly if in each of them every newline is followed by
two hyphens: a newline is the only way out.

* `isComment_append` : a text at the end of the opening words of a comment;
* `isComment_append_word_append` : a text after further words;
* `keepsComment_intercalate` : texts with commas between them.
-/
import Mathlib

namespace SchemaDdl.Text

/-! ## Comments and what can stand in them -/

/-- The two hyphens that start a line of a comment. -/
def commentMark : List Char := ['-', '-']

/-- A text is a comment: each of its lines starts with two hyphens. -/
def IsComment (s : String) : Prop :=
  ∀ line ∈ s.toList.splitOn '\n', commentMark <+: line

/-- A text can stand in a comment: each of its lines after the first starts with two
hyphens. -/
def KeepsComment (s : String) : Prop :=
  ∀ line ∈ (s.toList.splitOn '\n').tail, commentMark <+: line

instance : DecidablePred IsComment :=
  fun s => inferInstanceAs (Decidable (∀ line ∈ s.toList.splitOn '\n', commentMark <+: line))

instance : DecidablePred KeepsComment :=
  fun s =>
    inferInstanceAs (Decidable (∀ line ∈ (s.toList.splitOn '\n').tail, commentMark <+: line))

/-! ## Newlines one by one -/

/-- A start without the character `c` ends before the first `c`. -/
theorem prefix_append_cons_iff {α : Type} {start before after : List α} {c : α}
    (h : c ∉ start) : start <+: before ++ c :: after ↔ start <+: before := by
  induction start generalizing before with
  | nil => simp
  | cons x start ih =>
    rw [List.mem_cons, not_or] at h
    cases before with
    | nil => simp [List.cons_prefix_cons, Ne.symm h.1]
    | cons y before => rw [List.cons_append, List.cons_prefix_cons, List.cons_prefix_cons, ih h.2]

/-- The first line starts with two hyphens if all of the text does. -/
theorem commentMark_prefix_line_iff {cs line : List Char} {others : List (List Char)}
    (h : cs.splitOn '\n' = line :: others) : commentMark <+: line ↔ commentMark <+: cs := by
  have hmark : '\n' ∉ commentMark := by decide
  -- The line is what precedes the first newline, or all there is.
  by_cases hnewline : '\n' ∈ cs
  · obtain ⟨before, after, rfl, hbefore⟩ := List.eq_append_cons_of_mem hnewline
    rw [List.splitOn_append_cons_self_of_not_mem hbefore, List.cons.injEq] at h
    rw [prefix_append_cons_iff hmark, h.1]
  · rw [List.splitOn_eq_singleton hnewline, List.cons.injEq] at h
    rw [h.1]

/-- Every newline is followed by two hyphens. -/
def NewlinesMarked : List Char → Prop
  | [] => True
  | c :: rest => (c = '\n' → commentMark <+: rest) ∧ NewlinesMarked rest

/-- The lines after the first start with two hyphens exactly if these follow every
newline. -/
theorem keepsComment_iff (s : String) : KeepsComment s ↔ NewlinesMarked s.toList := by
  rw [KeepsComment]
  induction s.toList with
  | nil => simp [NewlinesMarked]
  | cons c rest ih =>
    obtain ⟨line, others, hlines⟩ := List.exists_cons_of_ne_nil (List.splitOn_ne_nil '\n' rest)
    rw [NewlinesMarked, ← ih, List.splitOn_cons_eq_if_modifyHead, hlines]
    by_cases hc : c = '\n'
    · simp [hc, commentMark_prefix_line_iff hlines]
    · simp [hc]

/-- A comment starts with two hyphens, and these follow each of its newlines. -/
theorem isComment_iff (s : String) :
    IsComment s ↔ commentMark <+: s.toList ∧ NewlinesMarked s.toList := by
  obtain ⟨line, others, hlines⟩ :=
    List.exists_cons_of_ne_nil (List.splitOn_ne_nil '\n' s.toList)
  rw [IsComment, ← keepsComment_iff, KeepsComment, hlines, List.forall_mem_cons,
    commentMark_prefix_line_iff hlines, List.tail_cons]

example : IsComment "-- a\n-- b" ∧ ¬ IsComment "-- a\nb" := by decide

/-- Newlines on both sides of a character that is no hyphen do not affect each other. -/
theorem newlinesMarked_append_cons {c : Char} (hc : c ≠ '-') (before after : List Char) :
    NewlinesMarked (before ++ c :: after) ↔
      NewlinesMarked before ∧ NewlinesMarked (c :: after) := by
  have hmark : c ∉ commentMark := by simp [commentMark, hc]
  -- Two hyphens after a newline in front of this character cannot reach beyond it.
  induction before with
  | nil => simp [NewlinesMarked]
  | cons x before ih =>
    rw [List.cons_append, NewlinesMarked, NewlinesMarked, prefix_append_cons_iff hmark,
      and_assoc]
    exact and_congr_right fun _ => ih

/-- A start without newlines does not matter. -/
theorem newlinesMarked_append {before : List Char} (h : '\n' ∉ before) (after : List Char) :
    NewlinesMarked (before ++ after) ↔ NewlinesMarked after := by
  induction before with
  | nil => rfl
  | cons x before ih =>
    rw [List.mem_cons, not_or] at h
    rw [List.cons_append, NewlinesMarked, ih h.2]
    simp [Ne.symm h.1]

/-! ## Words between texts -/

/-- A word of a message: it is not empty, has no newline and does not start with a
hyphen. -/
def IsWord (w : String) : Prop :=
  '\n' ∉ w.toList ∧ w.toList ≠ [] ∧ w.toList.head? ≠ some '-'

/-- The characters of a word. -/
theorem IsWord.exists_toList {w : String} (h : IsWord w) :
    ∃ c rest, w.toList = c :: rest ∧ c ≠ '-' ∧ '\n' ∉ c :: rest := by
  obtain ⟨hnewline, hnil, hhead⟩ := h
  obtain ⟨c, rest, hw⟩ := List.exists_cons_of_ne_nil hnil
  rw [hw] at hnewline hhead
  exact ⟨c, rest, hw, fun hc => hhead (congrArg some hc), hnewline⟩

variable {w : String}

/-- Texts on both sides of a word do not affect each other. -/
theorem keepsComment_append_word_append (hw : IsWord w) (s t : String) :
    KeepsComment (s ++ w ++ t) ↔ KeepsComment s ∧ KeepsComment t := by
  obtain ⟨c, rest, hchars, hc, hnewline⟩ := hw.exists_toList
  rw [keepsComment_iff, keepsComment_iff, keepsComment_iff, String.toList_append,
    String.toList_append, hchars, List.append_assoc, List.cons_append,
    newlinesMarked_append_cons hc, ← List.cons_append, newlinesMarked_append hnewline]

/-- A word at the end does not matter. -/
theorem keepsComment_append_word (hw : IsWord w) (s : String) :
    KeepsComment (s ++ w) ↔ KeepsComment s := by
  have hempty : KeepsComment "" := by decide
  simpa [hempty] using keepsComment_append_word_append hw s ""

/-- A start without newlines does not matter. -/
theorem keepsComment_append {opening : String} (h : '\n' ∉ opening.toList) (t : String) :
    KeepsComment (opening ++ t) ↔ KeepsComment t := by
  rw [keepsComment_iff, keepsComment_iff, String.toList_append, newlinesMarked_append h]

/-- Texts with commas between them. -/
theorem keepsComment_intercalate (texts : List String) :
    KeepsComment (", ".intercalate texts) ↔ ∀ text ∈ texts, KeepsComment text := by
  have hcomma : IsWord ", " := by simp [IsWord]
  induction texts with
  | nil => simp [keepsComment_iff, NewlinesMarked]
  | cons text rest ih =>
    cases rest with
    | nil => simp
    | cons next rest =>
      rw [String.intercalate_cons_cons, keepsComment_append_word_append hcomma,
        List.forall_mem_cons]
      exact and_congr_right fun _ => ih

/-! ## Comments from words and texts -/

/-- A text after the opening words of a comment. -/
theorem isComment_append {opening : String}
    (h : commentMark <+: opening.toList ∧ '\n' ∉ opening.toList) (t : String) :
    IsComment (opening ++ t) ↔ KeepsComment t := by
  rw [isComment_iff, keepsComment_iff, String.toList_append, newlinesMarked_append h.2]
  exact and_iff_right (h.1.trans (List.prefix_append _ _))

/-- A text after a word in a comment. -/
theorem isComment_append_word_append (hw : IsWord w) (s t : String) :
    IsComment (s ++ w ++ t) ↔ IsComment s ∧ KeepsComment t := by
  obtain ⟨c, rest, hchars, hc, _⟩ := hw.exists_toList
  have hmark : c ∉ commentMark := by simp [commentMark, hc]
  have hstart : commentMark <+: (s ++ w ++ t).toList ↔ commentMark <+: s.toList := by
    rw [String.toList_append, String.toList_append, hchars, List.append_assoc,
      List.cons_append, prefix_append_cons_iff hmark]
  rw [isComment_iff, hstart, ← keepsComment_iff, keepsComment_append_word_append hw,
    isComment_iff, ← keepsComment_iff, and_assoc]

/-- A word at the end of a comment. -/
theorem isComment_append_word (hw : IsWord w) (s : String) :
    IsComment (s ++ w) ↔ IsComment s := by
  have hempty : KeepsComment "" := by decide
  simpa [hempty] using isComment_append_word_append hw s ""

end SchemaDdl.Text
