/-
# Casts at the end of defaults

A catalog reports a default with a cast to the type of its column, which a comparison takes
away.  It does so from the last two colons on, wherever these stand:

* `defaultForm_append_cast` : what follows the last two colons does not count;
* `defaultForm_castSuffix` : a default has the same form with a cast behind it;
* `balanced_withoutCast_iff` : the cast that is taken away is a whole one exactly if it does not
  stand within parentheses.
-/
import SchemaDdl.Proofs.Drift.ColumnDefault
import SchemaDdl.Proofs.Text.Parentheses
import SchemaDdl.Proofs.Text.Part

namespace SchemaDdl.Drift

open Text

/-! ## Forms without a cast -/

/-- A default without the cast at its end. -/
def withoutCast (default : String) : List Char :=
  stripCast (trimmed default.toList)

/-- Trimming leaves the colons of a cast. -/
theorem trimmed_append_cast (cs cast : List Char) :
    trimmed (cs ++ ':' :: ':' :: cast) =
      dropBlanks cs ++ ':' :: ':' :: dropBlanksRight cast := by
  have hcolon : isBlank ':' = false := by decide
  rw [trimmed, dropBlanks_append_cons hcolon, List.append_cons, dropBlanksRight_append_cons hcolon,
    List.append_assoc]
  rfl

/-- A cast stays one without the blanks at its end. -/
theorem IsCast.dropBlanksRight {cast : List Char} (h : IsCast cast) :
    IsCast (dropBlanksRight cast) := by
  have hshorter := isPrefix_dropBlanksRight cast
  refine ⟨fun hquote => h.1 (hshorter.subset hquote), ?_⟩
  rw [cutAtLastPair_eq_none_iff]
  intro hpair
  have hlonger : ':' :: Text.dropBlanksRight cast <+: ':' :: cast :=
    List.cons_prefix_cons.mpr ⟨rfl, hshorter⟩
  exact (cutAtLastPair_eq_none_iff _ _).mp h.2 (hpair.trans hlonger.isInfix)

/-- What is left of a default with a cast is what stands in front of the cast. -/
theorem withoutCast_append_cast {cast : String} (h : IsCast cast.toList) (value : String) :
    withoutCast (value ++ "::" ++ cast) = trimmed value.toList := by
  have htext : (value ++ "::" ++ cast).toList = value.toList ++ ':' :: ':' :: cast.toList := by
    rw [String.toList_append, String.toList_append, List.append_assoc]
    rfl
  rw [withoutCast, htext, trimmed_append_cast, stripCast_append_cast h.dropBlanksRight, trimmed]

/-- The form of a default is that of the text between its quotes, without its cast. -/
theorem defaultForm_eq (default bucket : String) :
    defaultForm (some default) bucket = wordForm bucket (stripQuotes (withoutCast default)) :=
  defaultForm_some default bucket

/-- What is cast to does not count in a form. -/
theorem defaultForm_append_cast {cast : String} (h : IsCast cast.toList) (value bucket : String) :
    defaultForm (some (value ++ "::" ++ cast)) bucket =
      wordForm bucket (stripQuotes (trimmed value.toList)) := by
  rw [defaultForm_eq, withoutCast_append_cast h]

/-! ## Casts by a catalog -/

/-- A text without apostrophes and colons can be cast to. -/
theorem isCast_of_not_mem {cs : List Char} (hquote : '\'' ∉ cs) (hcolon : ':' ∉ cs) :
    IsCast cs := by
  refine ⟨hquote, ?_⟩
  have hhead : cs.head? ≠ some ':' := fun h => hcolon (List.mem_of_mem_head? h)
  rw [cutAtLastPair, cutAtLastPair_eq_none hcolon]
  simp [hhead]

/-- A string literal, and a text without two colons in a row, has no cast to lose. -/
theorem withoutCast_eq_trimmed {value : String}
    (h : (∃ s, value = Sql.quoteLiteral s) ∨ Text.contains value "::" = false) :
    withoutCast value = trimmed value.toList := by
  rcases h with ⟨s, rfl⟩ | hnone
  · have hquoted : (Sql.quoteLiteral s).toList = '\'' :: Sql.doubleQuotes s.toList ++ ['\''] :=
      String.toList_ofList
    rw [withoutCast, hquoted, trimmed_apostrophes, stripCast_append_apostrophe]
  · apply stripCast_of_none
    rw [Text.contains, ← Bool.not_eq_true, occursIn_iff_infix] at hnone
    have hcolon : ∀ c ∈ [':', ':'], isBlank c = false := by simp [isBlank]
    rw [cutAtLastPair_eq_none_iff, infix_trimmed_iff (by simp) hcolon]
    exact hnone

/-- **Casts by a catalog.**  A string literal, or a default without two colons in a row, has the
same form with a cast behind it, in every column. -/
theorem defaultForm_castSuffix {cast : String} (hquote : '\'' ∉ cast.toList)
    (hcolon : ':' ∉ cast.toList) {value : String}
    (hvalue : (∃ s, value = Sql.quoteLiteral s) ∨ Text.contains value "::" = false)
    (bucket : String) :
    defaultForm (some (value ++ "::" ++ cast)) bucket = defaultForm (some value) bucket := by
  rw [defaultForm_append_cast (isCast_of_not_mem hquote hcolon), defaultForm_eq,
    withoutCast_eq_trimmed hvalue]

/-- A literal with two colons in it and a function, both with a cast behind them, have the forms
that they have by themselves. -/
theorem defaultForm_castSuffix_literal :
    '\'' ∉ "character varying".toList ∧ ':' ∉ "character varying".toList ∧
      defaultForm (some (Sql.quoteLiteral "it's a::b" ++ "::" ++ "character varying")) "varchar" =
        defaultForm (some (Sql.quoteLiteral "it's a::b")) "varchar" ∧
      Text.contains " Now():" "::" = false ∧
      defaultForm (some (" Now():" ++ "::" ++ "character varying")) "varchar" =
        defaultForm (some " Now():") "varchar" := by
  have hquote : '\'' ∉ "character varying".toList := by decide
  have hcolon : ':' ∉ "character varying".toList := by decide
  have hplain : Text.contains " Now():" "::" = false := by decide
  exact ⟨hquote, hcolon, defaultForm_castSuffix hquote hcolon (.inl ⟨"it's a::b", rfl⟩) "varchar",
    hplain, defaultForm_castSuffix hquote hcolon (.inr hplain) "varchar"⟩

/-! ## Casts within parentheses -/

/-- What follows a cast within parentheses can be cast to as well. -/
theorem isCast_arguments {x : String} (hquote : '\'' ∉ x.toList)
    (hcolons : Text.contains x "::" = false) : IsCast ("int, " ++ x ++ ")").toList := by
  have htext : ("int, " ++ x ++ ")").toList = "int, ".toList ++ (x.toList ++ [')']) := by
    rw [String.toList_append, String.toList_append, List.append_assoc]
    rfl
  have hnone : cutAtLastPair ':' (x.toList ++ [')']) = none := by
    rw [cutAtLastPair_concat_eq_none_iff (by decide), cutAtLastPair_eq_none_iff,
      ← occursIn_iff_infix, Bool.not_eq_true]
    exact hcolons
  rw [htext]
  constructor
  · simp [hquote]
  · simp [cutAtLastPair, hnone]

/-- A function call whose first argument has the last cast is compared by its name and this
argument only. -/
theorem defaultForm_coalesce {x : String} (hquote : '\'' ∉ x.toList)
    (hcolons : Text.contains x "::" = false) (bucket : String) :
    defaultForm (some ("coalesce(a::int, " ++ x ++ ")")) bucket = "coalesce(a" := by
  have htext : "coalesce(a::int, " ++ x ++ ")" = "coalesce(a" ++ "::" ++ ("int, " ++ x ++ ")") := by
    simp only [← String.append_assoc]
    rfl
  have hbare : stripQuotes (trimmed "coalesce(a".toList) = "coalesce(a".toList := rfl
  have hlower : (String.ofList "coalesce(a".toList).toLower = "coalesce(a" :=
    toLower_eq_of_toList rfl
  have hword : (String.ofList "coalesce(a".toList).toLower ∉ formWords := by
    rw [hlower]
    decide
  rw [htext, defaultForm_append_cast (isCast_arguments hquote hcolons), hbare,
    wordForm_of_not_mem hword, String.ofList_toList]

/-- **Casts within parentheses.**  What is taken away from a default whose parentheses are
balanced has balanced parentheses, and so has what is left, exactly if the cast does not stand
within parentheses.  Otherwise all that follows the cast is lost, and defaults that differ only
there have the same form. -/
theorem balanced_withoutCast_iff {default : String} {quoted : Bool}
    (h : Reading.start.after default.toList = some ⟨quoted, 0⟩) :
    (∃ removed, trimmed default.toList = withoutCast default ++ removed ∧
      (removed = [] ∨ ∃ blanks cast, removed = blanks ++ ':' :: ':' :: cast ∧
        (∀ c ∈ blanks, isBlank c = true) ∧ IsCast cast) ∧
      (BalancedFrom quoted removed ↔ ¬ LeavesOpen (withoutCast default))) ∧
    (Balanced (withoutCast default) ↔ ¬ LeavesOpen (withoutCast default)) ∧
    (∀ value cast cast' bucket : String, IsCast cast.toList → IsCast cast'.toList →
      defaultForm (some (value ++ "::" ++ cast)) bucket =
        defaultForm (some (value ++ "::" ++ cast')) bucket) ∧
    ∀ x bucket : String, '\'' ∉ x.toList → Text.contains x "::" = false →
      defaultForm (some ("coalesce(a::int, " ++ x ++ ")")) bucket = "coalesce(a" := by
  obtain ⟨removed, happend, hremoved⟩ := exists_append_stripCast (trimmed default.toList)
  have hquote : '\'' ∉ removed := by
    rcases hremoved with rfl | ⟨blanks, cast, rfl, hblanks, hcast⟩
    · exact List.not_mem_nil
    · exact hcast.not_mem_suffix hblanks
  have htrimmed := Reading.after_trimmed h
  rw [happend] at htrimmed
  obtain ⟨hleft, hright⟩ := balanced_parts_iff htrimmed hquote
  refine ⟨⟨removed, happend, hremoved, hright⟩, hleft, ?_, ?_⟩
  · intro value cast cast' bucket hcast hcast'
    rw [defaultForm_append_cast hcast, defaultForm_append_cast hcast']
  · intro x bucket hx hcolons
    exact defaultForm_coalesce hx hcolons bucket

/-- A cast behind the parentheses is a whole one, and a cast within them is not. -/
theorem balanced_withoutCast_coalesce :
    Reading.start.after "coalesce(a::int, 1) :: text".toList = some ⟨false, 0⟩ ∧
      Balanced (withoutCast "coalesce(a::int, 1) :: text") ∧
      ¬ LeavesOpen (withoutCast "coalesce(a::int, 1) :: text") ∧
      Reading.start.after "coalesce(a::int, 1)".toList = some ⟨false, 0⟩ ∧
      LeavesOpen (withoutCast "coalesce(a::int, 1)") := by
  have hbehind : Reading.start.after "coalesce(a::int, 1) :: text".toList = some ⟨false, 0⟩ := by
    decide +kernel
  have hwithin : Reading.start.after "coalesce(a::int, 1)".toList = some ⟨false, 0⟩ := by
    decide +kernel
  have hbalanced : Balanced (withoutCast "coalesce(a::int, 1) :: text") := by decide +kernel
  have hcut : ¬ Balanced (withoutCast "coalesce(a::int, 1)") := by decide +kernel
  refine ⟨hbehind, hbalanced, ?_, hwithin, ?_⟩
  · exact (balanced_withoutCast_iff hbehind).2.1.mp hbalanced
  · exact not_not.mp (mt (balanced_withoutCast_iff hwithin).2.1.mpr hcut)

/-- A table of parts with a computed default. -/
def partsSchema : DesiredSchema where
  tables := [⟨⟨"Part", "parts", none, none, []⟩, [{ Field.new "Part" "size" "INTEGER" with
    default := some (.function "coalesce(a::int, 1)") }]⟩]
  indexes := []
  enums := []

/-- The table of parts in a database, with another default. -/
def partsCatalog : LiveSchema where
  tables := [⟨"parts", [⟨"size", "integer", none, true, false, false,
    some "coalesce(a::int, 2)", false⟩]⟩]
  indexes := []
  enums := []

/-- A cast within the parentheses of a function call takes the parenthesis and the other argument
along, and a change of this argument is not reported. -/
theorem not_balanced_withoutCast_coalesce :
    Balanced "coalesce(a::int, 1)".toList ∧
      withoutCast "coalesce(a::int, 1)" = "coalesce(a".toList ∧
      ¬ Balanced "coalesce(a".toList ∧ ¬ Balanced "::int, 1)".toList ∧
      defaultForm (some "coalesce(a::int, 1)") "integer" =
        defaultForm (some "coalesce(a::int, 2)") "integer" ∧
      (compare partsSchema partsCatalog .postgres).hasChanges = false := by
  decide +kernel

end SchemaDdl.Drift
