/-
# The pending reference of a column

A column under construction keeps the reference that it is to get apart from the column itself
until it is finished.  A text that cannot be read as a reference takes the place of an earlier
target like any other text:

* `ColumnDraft.reference_steps` : the reference that is pending after some steps;
* `ColumnDraft.isSome_reference_steps_iff` : when one is pending, if all texts can be read;
* `ColumnDraft.finish_steps_readable_iff` : when texts that cannot be read might as well not have
  been given.

A text that cannot be read loses the target before it (`ColumnDraft.finish_authorSteps_ne`).
-/
import SchemaDdl.Ddl.Draft
import SchemaDdl.Proofs.History

namespace SchemaDdl

/-! ## Steps that name a target -/

namespace ColumnStep

/-- A step names a target that can be read. -/
def SetsTarget : ColumnStep → Prop
  | .foreignKey text _ => Reference.parse? text ≠ none
  | .references _ => True
  | _ => False

/-- Whether a step gives a text that cannot be read as a reference. -/
def isUnreadable : ColumnStep → Bool
  | .foreignKey text _ => (Reference.parse? text).isNone
  | _ => false

/-- The steps without those whose text cannot be read. -/
def readable (taken : List ColumnStep) : List ColumnStep :=
  taken.filter (!·.isUnreadable)

/-- A text that cannot be read has been given, and no target named since. -/
def Clears (taken : List ColumnStep) : Prop :=
  HappenedSince (·.isUnreadable = true) SetsTarget taken

/-- A target has been named, and the last that was given is a text that cannot be read. -/
def LosesTarget (taken : List ColumnStep) : Prop :=
  (∃ s ∈ taken, s.SetsTarget) ∧ Clears taken

/-- A step that cannot be read names no target. -/
theorem not_setsTarget_of_isUnreadable {s : ColumnStep} (h : s.isUnreadable = true) :
    ¬ s.SetsTarget := by
  cases s with
  | foreignKey text name => simpa [SetsTarget, isUnreadable] using h
  | _ => exact Bool.noConfusion h

/-- A text that cannot be read clears the reference, and only a target that is named makes up for
it. -/
theorem clears_concat_iff {taken : List ColumnStep} {s : ColumnStep} :
    Clears (taken ++ [s]) ↔ s.isUnreadable = true ∨ ¬ s.SetsTarget ∧ Clears taken :=
  happenedSince_concat_iff

/-- Leaving out steps that cannot be read leaves out or keeps the last one. -/
theorem readable_concat (taken : List ColumnStep) (s : ColumnStep) :
    readable (taken ++ [s]) = if s.isUnreadable then readable taken else readable taken ++ [s] := by
  unfold readable
  rw [List.filter_append]
  cases hs : s.isUnreadable <;> simp [hs]

end ColumnStep

namespace ColumnDraft

open ColumnStep

/-! ## One step -/

/-- A text that cannot be read leaves no reference. -/
theorem reference_step_of_isUnreadable {s : ColumnStep} (h : s.isUnreadable = true)
    (d : ColumnDraft) : (d.step s).reference = none := by
  cases s with
  | foreignKey text name =>
    have hnone : Reference.parse? text = none := Option.isNone_iff_eq_none.mp h
    simp [step, namedReference?, hnone]
  | _ => exact Bool.noConfusion h

/-- A target that is named is the reference from then on, whatever it was before. -/
theorem exists_reference_step_of_setsTarget {s : ColumnStep} (h : s.SetsTarget) :
    ∃ target, ∀ d : ColumnDraft, (d.step s).reference = some target := by
  cases s with
  | foreignKey text name =>
    obtain ⟨r, hr⟩ := Option.ne_none_iff_exists'.mp h
    refine ⟨if name.isEmpty then r else { r with name := some name }, fun d => ?_⟩
    simp [step, namedReference?, hr]
  | references target => exact ⟨target, fun d => rfl⟩
  | _ => exact h.elim

/-- Any other step changes the actions of the reference at most. -/
theorem exists_reference_step_eq_map {s : ColumnStep} (hunreadable : s.isUnreadable = false)
    (htarget : ¬ s.SetsTarget) :
    ∃ f : Reference → Reference, ∀ d : ColumnDraft, (d.step s).reference = d.reference.map f := by
  cases s with
  | foreignKey text name => simp_all [SetsTarget, isUnreadable]
  | references target => exact absurd trivial htarget
  | edit change => exact ⟨id, fun d => by simp [step]⟩
  | onDelete action => exact ⟨_, fun d => rfl⟩
  | onUpdate action => exact ⟨_, fun d => rfl⟩

/-- A text that cannot be read leaves the column itself as it is. -/
theorem column_step_of_isUnreadable {s : ColumnStep} (h : s.isUnreadable = true)
    (d : ColumnDraft) : (d.step s).column = d.column := by
  cases s with
  | foreignKey text name => rfl
  | _ => exact Bool.noConfusion h

/-- The column itself depends on itself and on the step only. -/
theorem column_step_congr {d d' : ColumnDraft} (h : d.column = d'.column) (s : ColumnStep) :
    (d.step s).column = (d'.step s).column := by
  cases s <;> simp [step, h]

/-! ## All steps -/

section New

variable (name dataType : String) (taken : List ColumnStep)

/-- The column itself does not notice texts that cannot be read. -/
theorem column_steps_readable :
    ((new name dataType).steps taken).column =
      ((new name dataType).steps (readable taken)).column := by
  induction taken using List.reverseRecOn with
  | nil => rfl
  | append_singleton taken s ih =>
    rw [steps_concat, readable_concat]
    split
    · rename_i hs
      rw [column_step_of_isUnreadable hs, ih]
    · rw [steps_concat]
      exact column_step_congr ih s

/-- No reference is pending after a text that cannot be read, until a target is named; otherwise
it is the same as without such texts. -/
theorem reference_steps :
    Clears taken ∧ ((new name dataType).steps taken).reference = none ∨
      ¬ Clears taken ∧ ((new name dataType).steps taken).reference =
        ((new name dataType).steps (readable taken)).reference := by
  induction taken using List.reverseRecOn with
  | nil => exact .inr ⟨not_happenedSince_nil _ _, rfl⟩
  | append_singleton taken s ih =>
    rw [clears_concat_iff, readable_concat, steps_concat]
    cases hs : s.isUnreadable with
    | true => exact .inl ⟨.inl rfl, reference_step_of_isUnreadable hs _⟩
    | false =>
      rw [if_neg Bool.false_ne_true, steps_concat]
      by_cases htarget : s.SetsTarget
      · obtain ⟨target, hstep⟩ := exists_reference_step_of_setsTarget htarget
        rw [hstep, hstep]
        exact .inr ⟨by simp [htarget], rfl⟩
      · obtain ⟨f, hstep⟩ := exists_reference_step_eq_map hs htarget
        rw [hstep, hstep]
        rcases ih with ⟨hclears, hnone⟩ | ⟨hclears, hsame⟩
        · exact .inl ⟨.inr ⟨htarget, hclears⟩, by rw [hnone, Option.map_none]⟩
        · exact .inr ⟨by simp [hclears], by rw [hsame]⟩

/-- Without texts that cannot be read a reference is pending exactly if a target was named. -/
theorem isSome_reference_steps_iff :
    ((new name dataType).steps (readable taken)).reference.isSome = true ↔
      ∃ s ∈ taken, s.SetsTarget := by
  induction taken using List.reverseRecOn with
  | nil => simp [readable, steps, new]
  | append_singleton taken s ih =>
    rw [readable_concat]
    cases hs : s.isUnreadable with
    | true =>
      have htarget := not_setsTarget_of_isUnreadable hs
      simp [ih, htarget, or_and_right, exists_or]
    | false =>
      by_cases htarget : s.SetsTarget
      · obtain ⟨target, hstep⟩ := exists_reference_step_of_setsTarget htarget
        refine iff_of_true ?_ ⟨s, by simp, htarget⟩
        simp [steps_concat, hstep]
      · obtain ⟨f, hstep⟩ := exists_reference_step_eq_map hs htarget
        simp [steps_concat, hstep, ih, htarget, or_and_right, exists_or]

/-- A column that does not set its reference itself has none. -/
theorem reference_column_steps (hown : ∀ target, .edit (.reference target) ∉ taken) :
    ((new name dataType).steps taken).column.reference = none := by
  induction taken using List.reverseRecOn with
  | nil => rfl
  | append_singleton taken s ih =>
    rw [steps_concat]
    have hrest := ih fun target hmem => hown target (by simp [hmem])
    cases s with
    | edit change =>
      cases change with
      | reference target => exact absurd (by simp) (hown target)
      | nullable =>
        by_cases hprimary : ((new name dataType).steps taken).column.primary = true <;>
          simp [step, Column.edit, Column.asNullable, hprimary, hrest]
      | _ => exact hrest
    | _ => exact hrest

end New

/-- A finished column has the reference that is pending, if there is one. -/
theorem finish_eq {d : ColumnDraft} (h : d.column.reference = none) :
    d.finish = { d.column with reference := d.reference } := by
  unfold finish
  cases hpending : d.reference with
  | none => simp [← h]
  | some target => rfl

/-- **References that cannot be read.**  A column whose reference is only set by its builder is
finished as if the texts that cannot be read had not been given, exactly if none of them loses a
target: no target was named, or one was named after the last of them.  Otherwise it is finished
without the reference that it would have, and all else is the same. -/
theorem finish_steps_readable_iff (name dataType : String) {taken : List ColumnStep}
    (hown : ∀ target, .edit (.reference target) ∉ taken) :
    (((new name dataType).steps taken).finish =
        ((new name dataType).steps (readable taken)).finish ↔ ¬ LosesTarget taken) ∧
      (LosesTarget taken →
        ((new name dataType).steps (readable taken)).finish.reference.isSome = true ∧
        ((new name dataType).steps taken).finish =
          { ((new name dataType).steps (readable taken)).finish with reference := none }) := by
  have hcolumn := column_steps_readable name dataType taken
  have hnone := reference_column_steps name dataType taken hown
  have hsome := isSome_reference_steps_iff name dataType taken
  rw [finish_eq hnone, finish_eq (hcolumn ▸ hnone), hcolumn, Column.mk.injEq]
  simp only [true_and, LosesTarget, ← hsome]
  rcases reference_steps name dataType taken with ⟨hclears, hlost⟩ | ⟨hclears, hsame⟩
  · rw [hlost]
    cases ((new name dataType).steps (readable taken)).reference <;> simp [hclears]
  · rw [hsame]
    simp [hclears]

/-- A column for the author of a post, which gets a text without a table after its reference. -/
def authorSteps : List ColumnStep :=
  [.foreignKey "users(id)" "fk_posts_author", .onDelete .cascade, .foreignKey "" ""]

/-- The same column, which gets a further target in the end. -/
def accountSteps : List ColumnStep :=
  authorSteps ++ [.references (.toColumn "accounts" "id")]

/-- With a further target in the end it does not matter that the first one was lost. -/
theorem finish_steps_readable_accounts :
    (∀ target, .edit (.reference target) ∉ accountSteps) ∧
      ((new "author_id" "INTEGER").steps accountSteps).finish =
        ((new "author_id" "INTEGER").steps (readable accountSteps)).finish := by
  have hown : ∀ target, .edit (.reference target) ∉ accountSteps := by
    simp [accountSteps, authorSteps]
  refine ⟨hown, (finish_steps_readable_iff _ _ hown).1.mpr ?_⟩
  rintro ⟨_, hclears⟩
  rcases clears_concat_iff.mp hclears with hunreadable | ⟨hother, _⟩
  · exact Bool.noConfusion hunreadable
  · exact hother trivial

/-- Without it the column has lost its target, with the name and the action. -/
theorem finish_authorSteps_ne :
    (¬ ∀ name dataType taken, (∀ target, .edit (.reference target) ∉ taken) →
        ((new name dataType).steps taken).finish =
          ((new name dataType).steps (readable taken)).finish) ∧
      ((new "author_id" "INTEGER").steps authorSteps).finish.reference = none ∧
      ((new "author_id" "INTEGER").steps (readable authorSteps)).finish.reference =
        some ⟨"users", "id", some "fk_posts_author", some .cascade, none⟩ := by
  have hlost : ((new "author_id" "INTEGER").steps authorSteps).finish.reference = none ∧
      ((new "author_id" "INTEGER").steps (readable authorSteps)).finish.reference =
        some ⟨"users", "id", some "fk_posts_author", some .cascade, none⟩ := by
    decide +kernel
  refine ⟨fun halike => ?_, hlost⟩
  have hsame := halike "author_id" "INTEGER" authorSteps (by simp [authorSteps])
  have hreference := congrArg Column.reference hsame
  rw [hlost.1, hlost.2] at hreference
  cases hreference

end ColumnDraft

end SchemaDdl
