/-
# Comment texts in lines of their own

A comment text stands above the code of its statement.  That of a table, and one on its own,
is written line by line, with two hyphens in front of each; that of an index has them in
front of its first line only:

* `isCommentBlock_commentPart_iff` : which comment texts stay in their comments;
* `exists_addition_eq_map` : where the comment text of a statement stands;
* `SameButComments.write`, `SameButComments.writeNumbered` : one statement, and statements in a
  row, that differ from others in such comment texts only;
* `render_alikeButComments` : what they render to is the same without comments.

An index of which the comment text has a second line lets it out
(`not_withoutComments_mailIndex`).
-/
import SchemaDdl.Proofs.Ddl.LabelLine
import SchemaDdl.Proofs.Ddl.SchemaOrder
import SchemaDdl.Proofs.Ddl.WellFormed
import SchemaDdl.Proofs.Text.CodeLines

namespace SchemaDdl

open Text (IsComment KeepsComment IsCommentBlock HasCode SameCode codeLines withoutComments)

/-! ## Texts in lines of comments -/

/-- Comments with a newline after each are a block. -/
theorem isCommentBlock_terminated {comments : List String}
    (h : ∀ comment ∈ comments, IsComment comment) :
    IsCommentBlock (Renderer.terminated comments) := by
  induction comments with
  | nil => exact Text.isCommentBlock_empty
  | cons comment rest ih =>
    have hfirst : IsCommentBlock (comment ++ "\n") :=
      Text.isCommentBlock_append_newline_iff.mpr (h comment List.mem_cons_self)
    have hrest : IsCommentBlock (Renderer.terminated rest) :=
      ih fun comment' hmem => h comment' (List.mem_cons_of_mem comment hmem)
    rw [Renderer.terminated_cons]
    exact hfirst.append hrest

/-- A text after two hyphens and a blank is a comment if no newline leads out of it. -/
theorem isComment_hyphens_append_iff (text : String) :
    IsComment ("-- " ++ text) ↔ KeepsComment text :=
  Text.isComment_append (by decide) text

/-- The lines of a text are a block of comments, with two hyphens in front of each. -/
theorem isCommentBlock_lines (text : String) :
    IsCommentBlock (Renderer.terminated ((Text.lines text).map ("-- " ++ ·))) := by
  refine isCommentBlock_terminated fun comment hcomment => ?_
  obtain ⟨line, hline, rfl⟩ := List.mem_map.mp hcomment
  have hnewline : '\n' ∉ line.toList := Text.newline_not_mem_of_mem_lines hline
  rw [isComment_hyphens_append_iff, KeepsComment, List.splitOn_eq_singleton hnewline]
  simp

/-- A comment on its own is one unless it has no text. -/
theorem isComment_commentText_iff (text : String) : IsComment (commentText text) ↔ text ≠ "" := by
  constructor
  · rintro h rfl
    exact absurd h (by decide)
  · intro htext
    have hlines : (Text.lines text).map ("-- " ++ ·) ≠ [] := by
      rw [ne_eq, List.map_eq_nil_iff, Text.lines_eq_nil_iff]
      exact htext
    have hblock := isCommentBlock_lines text
    rw [Renderer.terminated_eq_intercalate hlines] at hblock
    exact Text.isCommentBlock_append_newline_iff.mp hblock

/-- The comment of a table is a block, whatever its text. -/
theorem isCommentBlock_commentLines (t : Table) : IsCommentBlock t.commentLines := by
  unfold Table.commentLines
  cases t.comment with
  | none => exact Text.isCommentBlock_empty
  | some text =>
    have hlines := isCommentBlock_lines text
    rwa [Renderer.terminated, List.map_map] at hlines

/-- The comment of an index is a block if no newline leads out of its text. -/
theorem isCommentBlock_indexHeader_iff (i : Index) :
    IsCommentBlock (Profile.indexHeader i) ↔ ∀ text ∈ i.comment, KeepsComment text := by
  unfold Profile.indexHeader
  cases i.comment with
  | none => simpa using Text.isCommentBlock_empty
  | some text =>
    dsimp only
    rw [Text.isCommentBlock_append_newline_iff, isComment_hyphens_append_iff]
    simp

/-! ## Where comment texts stand -/

namespace Statement

/-- What a statement has for its comment text, in lines of its own. -/
def commentPart : Statement → String
  | .createTable t => t.commentLines
  | .createIndex i => Profile.indexHeader i
  | .comment text => commentText text ++ "\n"
  | _ => ""

/-- The comment text of a statement stays in its comment. -/
def StaysCommented : Statement → Prop
  | .createIndex i => ∀ text ∈ i.comment, KeepsComment text
  | .comment text => text ≠ ""
  | _ => True

/-- What a statement has for its comment text is a block of comments exactly if this text
stays in its comment, which for a table is always so. -/
theorem isCommentBlock_commentPart_iff (s : Statement) :
    IsCommentBlock s.commentPart ↔ s.StaysCommented := by
  cases s with
  | createTable t => exact iff_of_true (isCommentBlock_commentLines t) trivial
  | createIndex i => exact isCommentBlock_indexHeader_iff i
  | comment text =>
    exact Text.isCommentBlock_append_newline_iff.trans (isComment_commentText_iff text)
  | column _ | constraint _ | enumType _ | alterTable _ =>
    exact iff_of_true Text.isCommentBlock_empty trivial

end Statement

open Statement (isCommentBlock_commentPart_iff)

/-! ## Comment texts above code -/

namespace Profile

variable {p : Profile} {i : Index}

/-- What a table has after its label line are the lines of its comment, and then its code. -/
theorem exists_tableBody_eq_map (p : Profile) (known : KnownEnums) (t : Table) :
    ∃ code : Except Failure String,
      p.tableBody known t = code.map (t.commentLines ++ ·) := by
  unfold tableBody
  cases p.tableLines known t with
  | error cause => exact ⟨.error cause, rfl⟩
  | ok lines => exact ⟨.ok _, rfl⟩

/-- An index is its comment text in lines of its own, and then the index without it. -/
theorem createIndex_eq (p : Profile) (i : Index) :
    p.createIndex i = indexHeader i ++ p.createIndex { i with comment := none } := by
  have hnone : indexHeader { i with comment := none } = "" := rfl
  unfold createIndex
  rw [hnone, String.empty_append]
  simp only [String.append_assoc]
  rfl

/-- An index without comment text is code from its first line on. -/
theorem codeLines_createIndex_ne_nil (h : i.comment = none) :
    codeLines (p.createIndex i) ≠ [] := by
  obtain ⟨rest, hrest⟩ : ∃ rest, p.createIndex i = "CREATE " ++ rest := by
    unfold createIndex indexHeader
    rw [h]
    simp only [String.append_assoc, String.empty_append]
    exact ⟨_, rfl⟩
  rw [ne_eq, Text.codeLines_eq_nil_iff, Text.isComment_iff, hrest]
  simp [Text.commentMark]

/-- The comment text of an index is lost with the comments exactly if it stays in its
comment. -/
theorem withoutComments_createIndex_eq_iff (p : Profile) (i : Index) (text : String) :
    withoutComments (p.createIndex { i with comment := some text }) =
      withoutComments (p.createIndex { i with comment := none }) ↔ KeepsComment text := by
  rw [p.createIndex_eq, ← isComment_hyphens_append_iff]
  exact Text.withoutComments_append_newline_append_eq_iff (codeLines_createIndex_ne_nil rfl)

end Profile

namespace Renderer

/-- A comment adds its text in lines of its own and nothing else. -/
theorem addition_comment (r : Renderer) (text : String) :
    r.addition (.comment text) = .ok (Statement.comment text).commentPart := by
  have htexts : r.addition (.comment text) = .ok (terminated [commentText text]) :=
    addition_eq r (.comment text)
  rw [htexts, terminated_cons, terminated_nil, String.append_empty]
  rfl

/-- An index adds its comment text in lines of its own, and then the index without it. -/
theorem addition_createIndex (r : Renderer) (i : Index) :
    r.addition (.createIndex i) = .ok ((Statement.createIndex i).commentPart ++
      (r.profile.createIndex { i with comment := none } ++ "\n")) := by
  have htexts : r.addition (.createIndex i) = .ok (terminated [r.profile.createIndex i]) :=
    addition_eq r (.createIndex i)
  rw [htexts, terminated_cons, terminated_nil, String.append_empty, r.profile.createIndex_eq,
    String.append_assoc]
  rfl

/-- A statement adds its label line, what it has for its comment text, and then its code. -/
theorem exists_addition_eq_map (r : Renderer) (s : Statement) :
    ∃ code : Except Failure String, r.addition s =
      code.map (labelLine r.profile.tableLabel s ++ s.commentPart ++ ·) := by
  cases s with
  | createTable t =>
    obtain ⟨code, hcode⟩ := r.profile.exists_tableBody_eq_map r.known t
    refine ⟨code.map (· ++ "\n"), ?_⟩
    rw [addition_eq_map_bodyText, Profile.bodyText, hcode]
    cases code with
    | error cause => rfl
    | ok text => simp [Except.map, Statement.commentPart, String.append_assoc]
  | createIndex i =>
    rw [addition_createIndex]
    exact ⟨.ok _, congrArg (fun part => Except.ok (part ++ _)) String.empty_append.symm⟩
  | comment text =>
    rw [addition_comment]
    exact ⟨.ok "", congrArg Except.ok (by simp [labelLine])⟩
  | column _ | constraint _ | enumType _ | alterTable _ =>
    exact ⟨_, (map_empty_append _).symm⟩

/-- A comment on its own is rendered as a comment if it has a text. -/
theorem map_renderStatement_comment (r : Renderer) {text : String} (h : text ≠ "") :
    (r.renderStatement (.comment text)).2.map withoutComments = .ok "" := by
  have hrendered : (r.renderStatement (.comment text)).2 =
      .ok (Text.trimRight (commentText text)) := by
    rw [snd_renderStatement_eq, addition_comment, Statement.commentPart, Except.map,
      Text.trimRight_append_newline]
  have hcomment : IsComment (Text.trimRight (commentText text)) :=
    ((isComment_commentText_iff text).mpr h).trimRight
  rw [hrendered, Except.map, hcomment.withoutComments_eq]

/-- An index on its own is rendered as the index without comment text, but for comments, if
its text stays in its comment. -/
theorem map_renderStatement_createIndex (r : Renderer) {i : Index}
    (h : (Statement.createIndex i).StaysCommented) :
    (r.renderStatement (.createIndex i)).2.map withoutComments =
      .ok (withoutComments (r.profile.createIndex { i with comment := none })) := by
  have hrendered : (r.renderStatement (.createIndex i)).2 = .ok (r.profile.createIndex i) :=
    renderStatement_eq_ok rfl (r.profile.endsNonblank_createIndex i)
  have hblock : IsCommentBlock (Profile.indexHeader i) :=
    (isCommentBlock_commentPart_iff (.createIndex i)).mpr h
  have hcode : codeLines (r.profile.createIndex i) =
      codeLines (r.profile.createIndex { i with comment := none }) := by
    rw [r.profile.createIndex_eq, hblock.hasCode, List.nil_append]
  rw [hrendered, Except.map, withoutComments, hcode, withoutComments]

end Renderer

/-! ## Statements that differ in comment texts only -/

/-- Two statements are the same, or two comments with a text each, or two indexes that differ in
their comment texts only, and these stay in their comments. -/
inductive Statement.AlikeButComments : Statement → Statement → Prop
  | same (s : Statement) : AlikeButComments s s
  | comment {text text' : String} (h : text ≠ "") (h' : text' ≠ "") :
      AlikeButComments (.comment text) (.comment text')
  | index (i : Index) {comment comment' : Option String} (h : ∀ text ∈ comment, KeepsComment text)
      (h' : ∀ text ∈ comment', KeepsComment text) :
      AlikeButComments (.createIndex { i with comment := comment })
        (.createIndex { i with comment := comment' })

open Statement (AlikeButComments)

/-- Such statements declare the same enum type, if any. -/
theorem Statement.AlikeButComments.enum?_eq {s s' : Statement} (h : AlikeButComments s s') :
    s.enum? = s'.enum? := by
  cases h <;> rfl

/-- One of such statements declares an enum type if the other does. -/
theorem Statement.AlikeButComments.isEnum_eq {s s' : Statement} (h : AlikeButComments s s') :
    s.isEnum = s'.isEnum := by
  rw [isEnum, isEnum, h.enum?_eq]

namespace Renderer

variable {r r' : Renderer} {s s' : Statement}

/-- Texts with a newline after each have the same code as themselves. -/
theorem sameCode_terminated (texts : List String) :
    SameCode (terminated texts) (terminated texts) := by
  induction texts with
  | nil => exact ⟨[], Text.hasCode_empty, Text.hasCode_empty⟩
  | cons text rest ih =>
    rw [terminated_cons]
    exact (Text.sameCode_append_newline text).append ih

/-- A blank line that may be missing ends with a line. -/
theorem sameCode_gap (missing : Bool) :
    SameCode (if missing then "" else "\n") (if missing then "" else "\n") := by
  cases missing with
  | true => exact sameCode_terminated []
  | false => exact sameCode_terminated [""]

/-- Such statements fail alike or add the same code. -/
theorem addition_alike (r : Renderer) (h : AlikeButComments s s') :
    (∃ cause, r.addition s = .error cause ∧ r.addition s' = .error cause) ∨
      ∃ text text', r.addition s = .ok text ∧ r.addition s' = .ok text' ∧
        SameCode text text' := by
  cases h with
  | same s =>
    rw [addition_eq]
    cases r.profile.statementTexts r.known s with
    | error cause => exact .inl ⟨cause, rfl, rfl⟩
    | ok texts => exact .inr ⟨_, _, rfl, rfl, sameCode_terminated texts⟩
  | @comment text text' h h' =>
    have hblock : IsCommentBlock (Statement.comment text).commentPart :=
      (isCommentBlock_commentPart_iff _).mpr h
    have hblock' : IsCommentBlock (Statement.comment text').commentPart :=
      (isCommentBlock_commentPart_iff _).mpr h'
    exact .inr ⟨_, _, r.addition_comment text, r.addition_comment text',
      hblock.sameCode hblock'⟩
  | @index i comment comment' h h' =>
    have hblock : IsCommentBlock
        (Statement.createIndex { i with comment := comment }).commentPart :=
      (isCommentBlock_commentPart_iff _).mpr h
    have hblock' : IsCommentBlock
        (Statement.createIndex { i with comment := comment' }).commentPart :=
      (isCommentBlock_commentPart_iff _).mpr h'
    exact .inr ⟨_, _, r.addition_createIndex _, r.addition_createIndex _,
      (hblock.sameCode hblock').append (Text.sameCode_append_newline _)⟩

/-- Such statements on their own are rendered to the same but for comments. -/
theorem renderStatement_alike (r : Renderer) (h : AlikeButComments s s') :
    (r.renderStatement s).2.map withoutComments =
      (r.renderStatement s').2.map withoutComments := by
  cases h with
  | same s => rfl
  | comment h h' => rw [map_renderStatement_comment r h, map_renderStatement_comment r h']
  | @index i comment comment' h h' =>
    have hsame : ∀ comment : Option String, (∀ text ∈ comment, KeepsComment text) →
        (r.renderStatement (.createIndex { i with comment := comment })).2.map withoutComments =
          .ok (withoutComments (r.profile.createIndex { i with comment := none })) :=
      fun comment h => map_renderStatement_createIndex r h
    rw [hsame comment h, hsame comment' h']

/-! ## Statements in a row -/

/-- Two renderers have the same profile, know the same enum types and have written the same
code. -/
structure SameButComments (r r' : Renderer) : Prop where
  profile : r.profile = r'.profile
  known : r.known = r'.known
  output : SameCode r.output r'.output

/-- Renderers stay the same but for comments where the same code is added. -/
theorem SameButComments.append_output (hr : SameButComments r r') {text text' : String}
    (h : SameCode text text') :
    SameButComments { r with output := r.output ++ text }
      { r' with output := r'.output ++ text' } :=
  ⟨hr.profile, hr.known, hr.output.append h⟩

/-- Writing a statement keeps renderers the same but for comments. -/
theorem SameButComments.write (hr : SameButComments r r') (hs : AlikeButComments s s') :
    (∃ cause, r.write s = .error cause ∧ r'.write s' = .error cause) ∨
      ∃ next next', r.write s = .ok next ∧ r'.write s' = .ok next' ∧
        SameButComments next next' := by
  have hadds : r'.addition s' = r.addition s' := by
    rw [addition_eq, addition_eq, hr.profile, hr.known]
  rw [write_eq_map_addition, write_eq_map_addition, hadds]
  rcases r.addition_alike hs with ⟨cause, hfails, hfails'⟩ | ⟨text, text', htext, htext', hcode⟩
  · rw [hfails, hfails']
    exact .inl ⟨cause, rfl, rfl⟩
  · rw [htext, htext']
    exact .inr ⟨_, _, rfl, rfl, hr.append_output hcode⟩

/-- Numbered statements that are alike but for comments, with the same numbers. -/
def NumberedAlike (numbered numbered' : List (Statement × Nat)) : Prop :=
  List.Forall₂ (fun s s' => AlikeButComments s.1 s'.1 ∧ s.2 = s'.2) numbered numbered'

/-- What is picked from such statements alike is alike. -/
theorem NumberedAlike.filter {numbered numbered' : List (Statement × Nat)}
    (h : NumberedAlike numbered numbered') (keep : Statement → Bool)
    (hkeep : ∀ {s s'}, AlikeButComments s s' → keep s = keep s') :
    NumberedAlike (numbered.filter fun s => keep s.1) (numbered'.filter fun s => keep s.1) :=
  List.rel_filter (fun _ _ hs => iff_of_eq (congrArg (· = true) (hkeep hs.1))) h

/-- There are such statements in one list if there are some in the other. -/
theorem NumberedAlike.isEmpty_eq {numbered numbered' : List (Statement × Nat)}
    (h : NumberedAlike numbered numbered') : numbered.isEmpty = numbered'.isEmpty := by
  cases h <;> rfl

/-- Writing statements in a row keeps renderers the same but for comments, and fails alike. -/
theorem SameButComments.writeNumbered (hr : SameButComments r r')
    {numbered numbered' : List (Statement × Nat)} (h : NumberedAlike numbered numbered') :
    SameButComments (r.writeNumbered numbered).1 (r'.writeNumbered numbered').1 ∧
      (r.writeNumbered numbered).2 = (r'.writeNumbered numbered').2 := by
  unfold Renderer.writeNumbered
  -- The rest is written by the renderers that the first statement leaves.
  induction h generalizing r r' with
  | nil => exact ⟨hr, rfl⟩
  | cons hfirst _ ih =>
    obtain ⟨hs, hindex⟩ := hfirst
    rw [walk, walk, hindex]
    rcases hr.write hs with ⟨cause, hfails, hfails'⟩ | ⟨next, next', hnext, hnext', hsame⟩
    · rw [hfails, hfails']
      exact ⟨hr, rfl⟩
    · rw [hnext, hnext']
      exact ih hsame

/-- Renderers that are the same but for comments, and fail alike, have texts that are the same
without comments. -/
theorem SameButComments.map_withOutput {result result' : Renderer × Except Failure Unit}
    (hr : SameButComments result.1 result'.1) (houtcome : result.2 = result'.2) :
    (withOutput result).2.map withoutComments = (withOutput result').2.map withoutComments := by
  rw [withOutput, withOutput, houtcome]
  cases result'.2 with
  | error failure => rfl
  | ok _ => exact congrArg Except.ok hr.output.withoutComments_eq

/-! ## Lists of statements -/

section Lists

variable {statements statements' : List Statement}
  (h : List.Forall₂ AlikeButComments statements statements')

include h

/-- Lists of such statements are numbered alike. -/
theorem numberedAlike_zipIdx (k : Nat) :
    NumberedAlike (statements.zipIdx k) (statements'.zipIdx k) := by
  induction h generalizing k with
  | nil => exact .nil
  | cons hs _ ih => exact .cons ⟨hs, rfl⟩ (ih (k + 1))

/-- Lists of such statements declare the same enum types. -/
theorem declaredEnums_eq_of_alike : declaredEnums statements = declaredEnums statements' := by
  unfold declaredEnums
  induction h with
  | nil => rfl
  | cons hs _ ih => rw [List.filterMap_cons, List.filterMap_cons, hs.enum?_eq, ih]

/-- Renderers that go through lists of such statements know the same. -/
theorem sameButComments_start (r : Renderer) :
    SameButComments (r.reset.withEnums (declaredEnums statements))
      (r.reset.withEnums (declaredEnums statements')) := by
  rw [declaredEnums_eq_of_alike h]
  exact ⟨rfl, rfl, [], Text.hasCode_empty, Text.hasCode_empty⟩

/-- In order, lists of such statements are rendered to the same but for comments. -/
theorem render_alike (r : Renderer) :
    (r.render statements).2.map withoutComments =
      (r.render statements').2.map withoutComments := by
  obtain ⟨hsame, houtcome⟩ :=
    (sameButComments_start h r).writeNumbered (numberedAlike_zipIdx h 0)
  exact hsame.map_withOutput houtcome

/-- With the enum types first, lists of such statements are rendered to the same but for
comments. -/
theorem renderEnumsFirst_alike (r : Renderer) :
    (r.renderEnumsFirst statements).2.map withoutComments =
      (r.renderEnumsFirst statements').2.map withoutComments := by
  have hnumbered := numberedAlike_zipIdx h 0
  have henums := hnumbered.filter (·.isEnum) fun hs => hs.isEnum_eq
  have hothers := hnumbered.filter (!·.isEnum) fun hs => congrArg Bool.not hs.isEnum_eq
  obtain ⟨hsame, houtcome⟩ := (sameButComments_start h r).writeNumbered henums
  unfold renderEnumsFirst
  dsimp only
  rw [henums.isEmpty_eq, hothers.isEmpty_eq]
  generalize (r.reset.withEnums (declaredEnums statements)).writeNumbered _ = result at *
  generalize (r.reset.withEnums (declaredEnums statements')).writeNumbered _ = result' at *
  obtain ⟨next, outcome⟩ := result
  obtain ⟨next', outcome'⟩ := result'
  subst houtcome
  cases outcome with
  | error failure => rfl
  | ok _ =>
    have hgap := sameCode_gap ((statements'.zipIdx.filter (·.1.isEnum)).isEmpty ||
      (statements'.zipIdx.filter (!·.1.isEnum)).isEmpty)
    obtain ⟨hwritten, hboth⟩ := (hsame.append_output hgap).writeNumbered hothers
    exact hwritten.map_withOutput hboth

/-- As a schema, lists of such statements are rendered to the same but for comments. -/
theorem renderSchema_alike (r : Renderer) :
    (r.renderSchema statements).2.map withoutComments =
      (r.renderSchema statements').2.map withoutComments := by
  unfold renderSchema
  split
  · exact renderEnumsFirst_alike h r
  · exact render_alike h r

end Lists

/-- **Comment texts.**  A statement adds its label line, then what it has for its comment text,
and then its code.  That is a block of comment lines for every comment text of a table, for
every comment on its own that is not empty, and for an index exactly if each newline of its
comment text is followed by two hyphens; exactly then the index without comment lines is the
one that has no comment text.  Statements that differ in such comment texts only are the same
without comment lines, on their own, in order and as a schema, and they fail alike. -/
theorem render_alikeButComments (r : Renderer) :
    (∀ s : Statement,
      (∃ code : Except Failure String, r.addition s =
        code.map (labelLine r.profile.tableLabel s ++ s.commentPart ++ ·)) ∧
      (IsCommentBlock s.commentPart ↔ s.StaysCommented)) ∧
    (∀ (i : Index) (text : String),
      withoutComments (r.profile.createIndex { i with comment := some text }) =
        withoutComments (r.profile.createIndex { i with comment := none }) ↔
          KeepsComment text) ∧
    (∀ s s' : Statement, AlikeButComments s s' →
      (r.renderStatement s).2.map withoutComments =
        (r.renderStatement s').2.map withoutComments) ∧
    ∀ statements statements' : List Statement,
      List.Forall₂ AlikeButComments statements statements' →
        ∀ render ∈ [Renderer.render, Renderer.renderSchema],
          (render r statements).2.map withoutComments =
            (render r statements').2.map withoutComments := by
  refine ⟨fun s => ⟨exists_addition_eq_map r s, isCommentBlock_commentPart_iff s⟩,
    r.profile.withoutComments_createIndex_eq_iff, fun s s' => r.renderStatement_alike,
    fun statements statements' h render hrender => ?_⟩
  rcases List.mem_pair.mp hrender with rfl | rfl
  · exact render_alike h r
  · exact renderSchema_alike h r

/-- An index of users by their mail address. -/
def mailIndex : Index :=
  Index.new "by_mail" "users" ["mail"]

/-- Other comment texts for users and for their index show in comment lines only. -/
theorem render_alikeButComments_mailIndex :
    List.Forall₂ AlikeButComments
        [.comment "Users,\nwith one address each", .createIndex { mailIndex with comment := none }]
        [.comment "Users", .createIndex { mailIndex with comment := some "by\n-- mail" }] ∧
      ((ofDialect .postgres).renderSchema [.comment "Users,\nwith one address each",
          .createIndex { mailIndex with comment := none }]).2.map withoutComments =
        ((ofDialect .postgres).renderSchema [.comment "Users",
          .createIndex { mailIndex with comment := some "by\n-- mail" }]).2.map withoutComments ∧
      ((ofDialect .postgres).renderSchema [.comment "Users",
          .createIndex { mailIndex with comment := some "by\n-- mail" }]).2 =
        .ok "-- Users\n-- by\n-- mail\nCREATE INDEX by_mail ON users (mail);\n" := by
  have hcomment : AlikeButComments (.comment "Users,\nwith one address each")
      (.comment "Users") := .comment (by decide) (by decide)
  have hindex : AlikeButComments (.createIndex { mailIndex with comment := none })
      (.createIndex { mailIndex with comment := some "by\n-- mail" }) :=
    .index mailIndex (by simp) (by decide)
  have halike := List.Forall₂.cons hcomment (.cons hindex .nil)
  exact ⟨halike, (render_alikeButComments (ofDialect .postgres)).2.2.2 _ _ halike
    Renderer.renderSchema (by simp), by decide +kernel⟩

/-- The second line of the comment text of an index is no comment, but a statement. -/
theorem not_withoutComments_mailIndex :
    ((ofDialect .postgres).renderSchema
        [.createIndex { mailIndex with comment := some "by mail\nDROP TABLE users;" }]).2 =
      .ok "-- by mail\nDROP TABLE users;\nCREATE INDEX by_mail ON users (mail);\n" ∧
    ¬ IsCommentBlock (Statement.createIndex
      { mailIndex with comment := some "by mail\nDROP TABLE users;" }).commentPart ∧
    withoutComments (Profile.postgres.createIndex
        { mailIndex with comment := some "by mail\nDROP TABLE users;" }) ≠
      withoutComments (Profile.postgres.createIndex { mailIndex with comment := none }) := by
  refine ⟨by decide +kernel, ?_, by decide +kernel⟩
  rw [isCommentBlock_commentPart_iff]
  exact fun hstays => absurd (hstays _ rfl) (by decide)

end Renderer

end SchemaDdl
