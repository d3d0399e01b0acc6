/-
# Up to the first failure

Each statement adds its own text, whatever was written before it, or nothing at all.  So a
list of statements adds the texts that these add on their own, in order, up to the first
that cannot be written:

* `write_eq_map_addition` : what a single statement adds;
* `writeNumbered_eq_join`, `writeNumbered_eq_error` : what numbered statements add;
* `snd_withOutput_writeNumbered_eq_ok_iff` : when they are rendered;
* `snd_render_eq_ok_iff`, `snd_render_eq_error` : what a list renders to;
* `writeAll_upToFirstFailure` : what a list adds, and how it fails.
-/
import SchemaDdl.Proofs.Ddl.Writing
import SchemaDdl.Proofs.Traversal

namespace SchemaDdl

namespace Renderer

/-! ## Single statements -/

/-- The text that a statement adds when it is written on its own, to an empty text, by a
renderer that knows the same enum types. -/
def addition (r : Renderer) (s : Statement) : Except Failure String :=
  (r.reset.write s).map Renderer.output

/-- What is added are the texts of the statement, each with a newline after it. -/
theorem addition_eq (r : Renderer) (s : Statement) :
    r.addition s = (r.profile.statementTexts r.known s).map terminated := by
  have hprofile : r.reset.profile = r.profile := rfl
  have hknown : r.reset.known = r.known := rfl
  have hempty : r.reset.output = "" := rfl
  rw [addition, write, hprofile, hknown, hempty]
  cases r.profile.statementTexts r.known s with
  | error cause => rfl
  | ok texts => exact congrArg Except.ok (String.empty_append)

/-- A statement adds something if it has texts. -/
theorem addition_eq_ok_iff {r : Renderer} {s : Statement} {text : String} :
    r.addition s = .ok text ↔
      ∃ texts, r.profile.statementTexts r.known s = .ok texts ∧ terminated texts = text := by
  rw [addition_eq]
  cases r.profile.statementTexts r.known s <;> simp [Except.map]

/-- A statement adds nothing if it has no texts, and for the same cause. -/
theorem addition_eq_error_iff {r : Renderer} {s : Statement} {cause : Failure} :
    r.addition s = .error cause ↔ r.profile.statementTexts r.known s = .error cause := by
  rw [addition_eq]
  cases r.profile.statementTexts r.known s <;> simp [Except.map]

/-- A statement adds the same to any text, and changes nothing else. -/
theorem write_eq_map_addition (r : Renderer) (s : Statement) :
    r.write s = (r.addition s).map fun text => { r with output := r.output ++ text } := by
  rw [addition_eq, write]
  cases r.profile.statementTexts r.known s <;> rfl

/-- Statements that can be written, with the text that each adds on its own. -/
def Adds (r : Renderer) (statements : List Statement) (texts : List String) : Prop :=
  List.Forall₂ (fun s text => r.addition s = .ok text) statements texts

variable {r : Renderer}

/-- An alteration adds nothing if one of its operations fails, whichever come before it. -/
theorem addition_alterTable_eq_error {table : String} {first : List AlterOperation}
    {operation : AlterOperation} {cause : Failure}
    (hfirst : ∀ o ∈ first, ∃ texts, r.profile.alterOperation r.known table o = .ok texts)
    (hoperation : r.profile.alterOperation r.known table operation = .error cause)
    (last : List AlterOperation) :
    r.addition (.alterTable ⟨table, first ++ operation :: last⟩) = .error cause := by
  rw [addition_eq, Profile.statementTexts, Profile.alterTable,
    mapM_append_cons_eq_error hfirst hoperation]
  rfl

/-! ## Numbered statements -/

/-- Statements that can be written add what each of them adds. -/
theorem writeNumbered_eq_join {numbered : List (Statement × Nat)} {texts : List String}
    (h : r.Adds (numbered.map Prod.fst) texts) (output : String) :
    { r with output := output }.writeNumbered numbered =
      ({ r with output := output ++ String.join texts }, .ok ()) := by
  unfold writeNumbered
  -- The rest is written by a renderer that holds the texts so far.
  induction numbered generalizing texts output with
  | nil =>
    obtain rfl : texts = [] := List.forall₂_nil_left_iff.mp h
    simp [walk]
  | cons s rest ih =>
    obtain ⟨text, texts', hs, hrest, rfl⟩ := List.forall₂_cons_left_iff.mp h
    have hwrite : { r with output := output }.write s.1 =
        .ok { r with output := output ++ text } := by
      have haddition : { r with output := output }.addition s.1 = .ok text := hs
      rw [write_eq_map_addition, haddition]
      rfl
    rw [walk, hwrite]
    dsimp only
    rw [ih hrest, String.join_cons, String.append_assoc]

/-- The first statement that cannot be written ends the writing.  It adds nothing itself, and
what comes after it does not matter. -/
theorem writeNumbered_eq_error {before : List (Statement × Nat)} {texts : List String}
    (h : r.Adds (before.map Prod.fst) texts) {s : Statement} {cause : Failure}
    (hs : r.addition s = .error cause) (index : Nat) (after : List (Statement × Nat))
    (output : String) :
    { r with output := output }.writeNumbered (before ++ (s, index) :: after) =
      ({ r with output := output ++ String.join texts }, .error (.atStatement index cause)) := by
  have hbefore := writeNumbered_eq_join h output
  rw [writeNumbered] at hbefore
  have hwrite : { r with output := output ++ String.join texts }.write s = .error cause := by
    have haddition : { r with output := output ++ String.join texts }.addition s =
      .error cause := hs
    rw [write_eq_map_addition, haddition]
    rfl
  rw [writeNumbered, walk_append_of_ok hbefore, walk, hwrite]

/-- Rendering fails for the first statement that cannot be written, which is reported with
its number. -/
theorem snd_withOutput_writeNumbered_eq_error {before : List (Statement × Nat)}
    (h : ∀ s' ∈ before.map Prod.fst, ∃ text, r.addition s' = .ok text) {s : Statement}
    {cause : Failure} (hs : r.addition s = .error cause) (index : Nat)
    (after : List (Statement × Nat)) (output : String) :
    (withOutput ({ r with output := output }.writeNumbered
      (before ++ (s, index) :: after))).2 = .error (.atStatement index cause) := by
  obtain ⟨texts, _, htexts⟩ := exists_mapM_eq_ok_forall₂ h
  rw [writeNumbered_eq_error htexts hs]
  rfl

/-- Rendering succeeds exactly if each of the statements can be written. -/
theorem snd_withOutput_writeNumbered_eq_ok_iff {numbered : List (Statement × Nat)}
    {output text : String} :
    (withOutput ({ r with output := output }.writeNumbered numbered)).2 = .ok text ↔
      ∃ texts, r.Adds (numbered.map Prod.fst) texts ∧ text = output ++ String.join texts := by
  constructor
  · intro hrendered
    rcases forall₂_or_exists_first_error r.addition (numbered.map Prod.fst) with
      ⟨texts, htexts⟩ | ⟨before, s, after, texts, cause, hnumbered, htexts, hs⟩
    · rw [writeNumbered_eq_join htexts] at hrendered
      exact ⟨texts, htexts, (Except.ok.inj hrendered).symm⟩
    · obtain ⟨first, second, rfl, rfl, hsecond⟩ := List.map_eq_append_iff.mp hnumbered
      obtain ⟨⟨_, index⟩, last, rfl, rfl, _⟩ := List.map_eq_cons_iff.mp hsecond
      rw [snd_withOutput_writeNumbered_eq_error (fun _ hs' => exists_eq_ok_of_forall₂ htexts hs')
        hs] at hrendered
      cases hrendered
  · rintro ⟨texts, htexts, rfl⟩
    rw [writeNumbered_eq_join htexts]
    rfl

/-! ## Lists of statements -/

/-- A list renders to what its statements add by a renderer that knows their enum types. -/
theorem snd_render_eq_ok_iff {statements : List Statement} {text : String} :
    (r.render statements).2 = .ok text ↔
      ∃ texts, (r.withEnums (declaredEnums statements)).Adds statements texts ∧
        text = String.join texts := by
  have hrendered := @snd_withOutput_writeNumbered_eq_ok_iff
    (r.withEnums (declaredEnums statements)) statements.zipIdx "" text
  simp only [List.zipIdx_map_fst, String.empty_append] at hrendered
  exact hrendered

/-- The first statement of a list that fails is met after those before it. -/
theorem snd_render_eq_error {before after : List Statement} {s : Statement} {cause : Failure}
    (hbefore : ∀ s' ∈ before, ∃ text,
      (r.withEnums (declaredEnums (before ++ s :: after))).addition s' = .ok text)
    (hs : (r.withEnums (declaredEnums (before ++ s :: after))).addition s = .error cause) :
    (r.render (before ++ s :: after)).2 = .error (.atStatement before.length cause) := by
  have hnumbered : ∀ s' ∈ before.zipIdx.map Prod.fst, ∃ text,
      (r.withEnums (declaredEnums (before ++ s :: after))).addition s' = .ok text := by
    rwa [List.zipIdx_map_fst]
  rw [render, writeAll, List.zipIdx_append, List.zipIdx_cons, Nat.zero_add]
  exact snd_withOutput_writeNumbered_eq_error hnumbered hs before.length _ ""

/-- **Up to the first failure.**  A list of statements adds the texts that each of them adds
on its own, in order.  If one of them cannot be written, these are the texts of the
statements before the first such, whatever comes after it, and the failure has the place of
this statement and its own cause.  An alteration adds nothing also where only a later one of
its operations fails. -/
theorem writeAll_upToFirstFailure (r : Renderer) (statements : List Statement) :
    ((∃ texts, r.Adds statements texts ∧
        r.writeAll statements = ({ r with output := r.output ++ String.join texts }, .ok ())) ∨
      ∃ before s after texts cause, statements = before ++ s :: after ∧
        r.Adds before texts ∧ r.addition s = .error cause ∧
        ∀ rest, r.writeAll (before ++ s :: rest) =
          ({ r with output := r.output ++ String.join texts },
            .error (.atStatement before.length cause))) ∧
      ∀ table first operation last cause,
        (∀ o ∈ first, ∃ texts, r.profile.alterOperation r.known table o = .ok texts) →
        r.profile.alterOperation r.known table operation = .error cause →
        r.writeAll [.alterTable ⟨table, first ++ operation :: last⟩] =
          (r, .error (.atStatement 0 cause)) := by
  have hnumbered : ∀ {statements texts}, r.Adds statements texts →
      r.Adds (statements.zipIdx.map Prod.fst) texts := by
    intro statements texts h
    rwa [List.zipIdx_map_fst]
  refine ⟨?_, ?_⟩
  · rcases forall₂_or_exists_first_error r.addition statements with
      ⟨texts, htexts⟩ | ⟨before, s, after, texts, cause, rfl, htexts, hs⟩
    · exact .inl ⟨texts, htexts, writeNumbered_eq_join (hnumbered htexts) r.output⟩
    · refine .inr ⟨before, s, after, texts, cause, rfl, htexts, hs, fun rest => ?_⟩
      rw [writeAll, List.zipIdx_append, List.zipIdx_cons, Nat.zero_add]
      exact writeNumbered_eq_error (hnumbered htexts) hs before.length _ r.output
  · intro table first operation last cause hfirst hoperation
    have halter := addition_alterTable_eq_error hfirst hoperation last
    have hnothing : r.Adds (([] : List (Statement × Nat)).map Prod.fst) [] := .nil
    have hwritten := writeNumbered_eq_error hnothing halter 0 [] r.output
    rw [String.join_nil, String.append_empty] at hwritten
    exact hwritten

/-! ## An alteration that fails late -/

/-- An alteration of which a profile without redefinitions can do the first operation only. -/
def lateFailure : Alteration :=
  ⟨"people", [.addColumn (Column.new "age" "INTEGER"), .modifyColumn (Column.new "name" "TEXT"),
    .dropColumn "nick"]⟩

/-- Nothing is written of an alteration that fails late, and what was written before is
kept. -/
theorem writeAll_lateFailure :
    { ofProfile .common with output := "-- people\n" }.writeAll [.alterTable lateFailure] =
      ({ ofProfile .common with output := "-- people\n" },
        .error (.atStatement 0 (.unsupportedAlteration .postgres "modify column name"))) := by
  refine (writeAll_upToFirstFailure _ []).2 "people" [.addColumn (Column.new "age" "INTEGER")]
    (.modifyColumn (Column.new "name" "TEXT")) [.dropColumn "nick"] _ ?_ rfl
  intro o ho
  rw [List.mem_singleton.mp ho]
  exact ⟨_, rfl⟩

end Renderer

end SchemaDdl
