/-
# Lines of code

A line that starts with two hyphens is a comment, and all others are code.  What stands
above some code in lines of its own is lost with the comments exactly if it is a comment:

* `codeLines_eq_nil_iff` : the texts without code;
* `hasCode_append_newline` : the code of a line that is over, whatever comes after it;
* `IsCommentBlock.hasCode` : comments with their newlines have no code;
* `withoutComments_append_newline_append_eq_iff` : a text above some code.
-/
import SchemaDdl.Proofs.Text.Comment
import SchemaDdl.Proofs.Text.Ending
import SchemaDdl.Proofs.Text.Lines

namespace SchemaDdl.Text

variable {s t block block' : String} {code code' : List (List Char)}

/-! ## Code -/

/-- The lines of a text that do not start with two hyphens. -/
def codeLines (s : String) : List (List Char) :=
  (s.toList.splitOn '\n').filter (!commentMark.isPrefixOf ·)

/-- A text without its lines that start with two hyphens. -/
def withoutComments (s : String) : String :=
  String.ofList (['\n'].intercalate (codeLines s))

/-- A text has no code if it is a comment. -/
theorem codeLines_eq_nil_iff : codeLines s = [] ↔ IsComment s := by
  rw [codeLines, List.filter_eq_nil_iff, IsComment]
  refine forall₂_congr fun line _ => ?_
  rw [Bool.not_eq_true, Bool.not_eq_false', List.isPrefixOf_iff_prefix]

/-- The code of a text that is cut after a newline. -/
theorem codeLines_append_newline_append (s t : String) :
    codeLines (s ++ "\n" ++ t) = codeLines s ++ codeLines t := by
  rw [codeLines, splitOn_append_newline_append, List.filter_append]
  rfl

/-- Nothing is left of a comment. -/
theorem IsComment.withoutComments_eq (h : IsComment s) : withoutComments s = "" := by
  rw [withoutComments, codeLines_eq_nil_iff.mpr h]
  rfl

/-- Code is known by what is left without comments. -/
theorem withoutComments_eq_iff (hs : codeLines s ≠ []) (ht : codeLines t ≠ []) :
    withoutComments s = withoutComments t ↔ codeLines s = codeLines t := by
  have hline : ∀ u : String, ∀ line ∈ codeLines u, '\n' ∉ line := fun u line hline =>
    newline_not_mem_of_mem_splitOn (List.mem_of_mem_filter hline)
  refine ⟨fun h => ?_, fun h => by rw [withoutComments, withoutComments, h]⟩
  have hlines := congrArg (List.splitOn '\n') (String.ofList_injective h)
  rwa [List.splitOn_intercalate '\n' (hline s) hs, List.splitOn_intercalate '\n' (hline t) ht]
    at hlines

/-- What stands above some code is lost with the comments exactly if it is one. -/
theorem withoutComments_append_newline_append_eq_iff (ht : codeLines t ≠ []) :
    withoutComments (s ++ "\n" ++ t) = withoutComments t ↔ IsComment s := by
  have hboth : codeLines (s ++ "\n" ++ t) ≠ [] := by
    rw [codeLines_append_newline_append]
    exact List.append_ne_nil_of_right_ne_nil _ ht
  rw [withoutComments_eq_iff hboth ht, codeLines_append_newline_append, List.append_left_eq_self,
    codeLines_eq_nil_iff]

/-! ## Texts that end with a line -/

/-- A text has the given code, and what comes after it has lines of its own. -/
def HasCode (block : String) (code : List (List Char)) : Prop :=
  ∀ rest, codeLines (block ++ rest) = code ++ codeLines rest

/-- An empty text has no code. -/
theorem hasCode_empty : HasCode "" [] :=
  fun rest => by rw [String.empty_append, List.nil_append]

/-- A newline ends the code in front of it. -/
theorem hasCode_append_newline (s : String) : HasCode (s ++ "\n") (codeLines s) :=
  fun rest => codeLines_append_newline_append s rest

/-- Texts in a row have their code in a row. -/
theorem HasCode.append (h : HasCode block code) (h' : HasCode block' code') :
    HasCode (block ++ block') (code ++ code') := by
  intro rest
  rw [String.append_assoc, h, h', List.append_assoc]

/-- Two texts end with a line and have the same code. -/
def SameCode (block block' : String) : Prop :=
  ∃ code, HasCode block code ∧ HasCode block' code

/-- A text that ends with a newline has the same code as itself. -/
theorem sameCode_append_newline (s : String) : SameCode (s ++ "\n") (s ++ "\n") :=
  ⟨codeLines s, hasCode_append_newline s, hasCode_append_newline s⟩

/-- Texts in a row have the same code if they have it one by one. -/
theorem SameCode.append {next next' : String} (h : SameCode block block')
    (hnext : SameCode next next') : SameCode (block ++ next) (block' ++ next') := by
  obtain ⟨code, hblock, hblock'⟩ := h
  obtain ⟨code', hcode, hcode'⟩ := hnext
  exact ⟨code ++ code', hblock.append hcode, hblock'.append hcode'⟩

/-- Texts with the same code are the same without comments. -/
theorem SameCode.withoutComments_eq (h : SameCode block block') :
    withoutComments block = withoutComments block' := by
  obtain ⟨code, hfirst, hsecond⟩ := h
  have hcode := (hfirst "").trans (hsecond "").symm
  rw [String.append_empty, String.append_empty] at hcode
  rw [withoutComments, withoutComments, hcode]

/-! ## Comments above code -/

/-- A text is made of comments, the last of them ended by a newline as well. -/
def IsCommentBlock (block : String) : Prop :=
  block = "" ∨ ∃ comment, IsComment comment ∧ block = comment ++ "\n"

/-- An empty text is a block without comments. -/
theorem isCommentBlock_empty : IsCommentBlock "" :=
  .inl rfl

/-- A text is a block together with a newline exactly if it is a comment. -/
theorem isCommentBlock_append_newline_iff : IsCommentBlock (s ++ "\n") ↔ IsComment s := by
  constructor
  · rintro (hempty | ⟨comment, hcomment, heq⟩)
    · simp at hempty
    · exact (String.append_left_inj "\n").mp heq ▸ hcomment
  · exact fun h => .inr ⟨s, h, rfl⟩

/-- A block of comments has no code. -/
theorem IsCommentBlock.hasCode (h : IsCommentBlock block) : HasCode block [] := by
  rcases h with rfl | ⟨comment, hcomment, rfl⟩
  · exact hasCode_empty
  · rw [← codeLines_eq_nil_iff.mpr hcomment]
    exact hasCode_append_newline comment

/-- Blocks of comments have the same code. -/
theorem IsCommentBlock.sameCode (h : IsCommentBlock block) (h' : IsCommentBlock block') :
    SameCode block block' :=
  ⟨[], h.hasCode, h'.hasCode⟩

/-- Two comments in lines of their own are a comment. -/
theorem IsComment.append_newline_append (h : IsComment s) (h' : IsComment t) :
    IsComment (s ++ "\n" ++ t) := by
  rw [← codeLines_eq_nil_iff] at h h' ⊢
  rw [codeLines_append_newline_append, h, h', List.append_nil]

/-- Blocks in a row are a block. -/
theorem IsCommentBlock.append (h : IsCommentBlock block) (h' : IsCommentBlock block') :
    IsCommentBlock (block ++ block') := by
  rcases h' with rfl | ⟨comment', hcomment', rfl⟩
  · rwa [String.append_empty]
  · rcases h with rfl | ⟨comment, hcomment, rfl⟩
    · rw [String.empty_append]
      exact .inr ⟨comment', hcomment', rfl⟩
    · exact .inr ⟨comment ++ "\n" ++ comment', hcomment.append_newline_append hcomment',
        String.append_assoc.symm⟩

/-! ## Comments without the blanks at their end -/

/-- Two hyphens at the start of a text do not reach into the blanks at its end. -/
theorem commentMark_prefix_of_append_blanks {cs blanks : List Char}
    (hblanks : ∀ c ∈ blanks, isBlank c = true) (h : commentMark <+: cs ++ blanks) :
    commentMark <+: cs := by
  cases blanks with
  | nil => rwa [List.append_nil] at h
  | cons c rest =>
    have hmark : c ∉ commentMark := by
      intro hmem
      have hhyphen : c = '-' := by simpa [commentMark] using hmem
      have hblank : isBlank c = true := hblanks c List.mem_cons_self
      rw [hhyphen] at hblank
      exact absurd hblank (by decide)
    exact (prefix_append_cons_iff hmark).mp h

/-- Newlines are followed by two hyphens also without the blanks at the end. -/
theorem newlinesMarked_of_append_blanks {cs blanks : List Char}
    (hblanks : ∀ c ∈ blanks, isBlank c = true) (h : NewlinesMarked (cs ++ blanks)) :
    NewlinesMarked cs := by
  induction cs with
  | nil => trivial
  | cons c rest ih =>
    exact ⟨fun hc => commentMark_prefix_of_append_blanks hblanks (h.1 hc), ih h.2⟩

/-- A comment without the blanks at its end is a comment. -/
theorem IsComment.trimRight (h : IsComment s) : IsComment (trimRight s) := by
  have hblanks : ∀ c ∈ s.toList.rtakeWhile isBlank, isBlank c = true :=
    fun c hc => List.mem_rtakeWhile_imp hc
  have hparts : dropBlanksRight s.toList ++ s.toList.rtakeWhile isBlank = s.toList :=
    List.rdropWhile_append_rtakeWhile
  rw [isComment_iff, ← hparts] at h
  rw [isComment_iff, Text.trimRight, String.toList_ofList]
  exact ⟨commentMark_prefix_of_append_blanks hblanks h.1,
    newlinesMarked_of_append_blanks hblanks h.2⟩

end SchemaDdl.Text
