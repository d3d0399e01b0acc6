/-
# The options of a table

Options are set one after another, between changes of other kinds, under keys whose case does not
matter.  They form a map that remembers in which order and spelling its keys came:

* `StoresLatest` : the options that are stored of those that were set;
* `StoresLatest.insertOption` : one more option is set;
* `Table.storesLatest_edits` : the options of a table after any changes;
* `Profile.mysqlOptionParts_eq` : what the MySQL family writes of a map of options;
* `Table.options_edits_new` : all of this, from the changes to the text.
-/
import SchemaDdl.Ddl.Profile
import SchemaDdl.Proofs.History
import SchemaDdl.Proofs.Text.Case

namespace SchemaDdl

/-! ## Setting an option -/

/-- A key has the value that it was set to, and every other key keeps its value. -/
theorem find?_insertOption (key value k : String) (options : List (String × String)) :
    ((insertOption key value options).find? fun o => Text.sameIgnoringCase o.1 k).map Prod.snd =
      if Text.sameIgnoringCase key k then some value
      else (options.find? fun o => Text.sameIgnoringCase o.1 k).map Prod.snd := by
  induction options with
  | nil => cases hk : Text.sameIgnoringCase key k <;> simp [insertOption, hk]
  | cons o rest ih =>
    unfold insertOption
    cases hkey : Text.sameIgnoringCase o.1 key with
    | true =>
      have hsame := Text.sameIgnoringCase_congr hkey k
      cases hk : Text.sameIgnoringCase key k <;> simp [hsame, hk]
    | false =>
      cases hk : Text.sameIgnoringCase o.1 k with
      | false => simpa [hkey, hk] using ih
      | true =>
        have hne : Text.sameIgnoringCase key k = false := by
          rw [Text.sameIgnoringCase_comm, ← Text.sameIgnoringCase_congr hk, hkey]
        simp [hk, hne]

/-- A key that is new goes to the end, and one that is there already stays as it is. -/
theorem map_fst_insertOption (key value : String) (options : List (String × String)) :
    (insertOption key value options).map Prod.fst =
      if (options.map Prod.fst).any (Text.sameIgnoringCase key) then options.map Prod.fst
      else options.map Prod.fst ++ [key] := by
  induction options with
  | nil => rfl
  | cons o rest ih =>
    unfold insertOption
    rw [List.map_cons, List.any_cons, Text.sameIgnoringCase_comm key]
    cases hkey : Text.sameIgnoringCase o.1 key with
    | true => simp
    | false =>
      rw [Bool.false_or]
      simp only [Bool.false_eq_true, ↓reduceIte, List.map_cons, ih]
      split <;> rfl

/-! ## The options that are stored -/

/-- Of options that were set, one is stored for each key.  Its key is spelled as it was at first
and stands at the place that it was given then, and its value is the last that was set under the
key, in whatever case. -/
structure StoresLatest (settings options : List (String × String)) : Prop where
  distinct : (options.map Prod.fst).Pairwise fun k k' => Text.sameIgnoringCase k k' = false
  keys : options.map Prod.fst = (settings.map Prod.fst).eraseDupsBy Text.sameIgnoringCase
  values : ∀ key, (options.find? fun o => Text.sameIgnoringCase o.1 key).map Prod.snd =
    (settings.filter fun s => Text.sameIgnoringCase s.1 key).getLast?.map Prod.snd

/-- Before anything is set nothing is stored. -/
theorem StoresLatest.nil : StoresLatest [] [] :=
  ⟨.nil, rfl, fun _ => rfl⟩

/-- A key is stored exactly if it was set. -/
theorem StoresLatest.any_eq {settings options : List (String × String)}
    (h : StoresLatest settings options) (key : String) :
    (options.map Prod.fst).any (Text.sameIgnoringCase key) =
      (settings.map Prod.fst).any (Text.sameIgnoringCase key) := by
  have hvalues := congrArg Option.isSome (h.values key)
  rw [Option.isSome_map, Option.isSome_map, Bool.eq_iff_iff, List.find?_isSome,
    List.getLast?_isSome, Ne, List.filter_eq_nil_iff, not_forall] at hvalues
  rw [Bool.eq_iff_iff, List.any_map, List.any_map, List.any_eq_true, List.any_eq_true]
  simpa [Text.sameIgnoringCase_comm key] using hvalues

/-- Setting one more option stores it as it has to be. -/
theorem StoresLatest.insertOption {settings options : List (String × String)}
    (h : StoresLatest settings options) (key value : String) :
    StoresLatest (settings ++ [(key, value)]) (insertOption key value options) := by
  constructor
  case distinct =>
    rw [map_fst_insertOption]
    split
    · exact h.distinct
    · rename_i hnew
      refine List.pairwise_append.mpr ⟨h.distinct, List.pairwise_singleton _ _, ?_⟩
      intro k hk k' hk'
      rw [List.mem_singleton.mp hk', Text.sameIgnoringCase_comm]
      simpa using fun hsame => hnew (List.any_eq_true.mpr ⟨k, hk, hsame⟩)
  case keys =>
    have hconcat := eraseDupsBy_concat (r := Text.sameIgnoringCase)
      (fun _ _ _ => Text.sameIgnoringCase_trans) (settings.map Prod.fst) key
    rw [map_fst_insertOption, List.map_append, List.map_singleton, hconcat, ← h.any_eq, ← h.keys]
  case values =>
    intro k
    rw [find?_insertOption, List.filter_append]
    cases hk : Text.sameIgnoringCase key k with
    | true => simp [hk]
    | false => simpa [hk] using h.values k

/-! ## Tables -/

/-- The key and value that a change sets. -/
def TableEdit.setting? : TableEdit → Option (String × String)
  | .option key value => some (key, value)
  | _ => none

/-- The comment that a change sets. -/
def TableEdit.comment? : TableEdit → Option String
  | .comment text => some text
  | _ => none

namespace Table

/-- The options of a table are made by the changes that set one. -/
theorem options_edits (t : Table) (changes : List TableEdit) :
    (t.edits changes).options = (changes.filterMap TableEdit.setting?).foldl
      (fun options s => insertOption s.1 s.2 options) t.options :=
  t.part_edits Table.options TableEdit.setting? (fun options s => insertOption s.1 s.2 options)
    (fun _ change => by cases change <;> rfl) changes

/-- The comment of a table is made by the changes that set it. -/
theorem comment_edits (t : Table) (changes : List TableEdit) :
    (t.edits changes).comment =
      (changes.filterMap TableEdit.comment?).foldl (fun _ text => some text) t.comment :=
  t.part_edits Table.comment TableEdit.comment? (fun _ text => some text)
    (fun _ change => by cases change <;> rfl) changes

section New

variable (name : String) (changes : List TableEdit)

/-- After changes to a new table it stores what it has to of the options that were set. -/
theorem storesLatest_edits :
    StoresLatest (changes.filterMap TableEdit.setting?)
      ((Table.new name).edits changes).options := by
  rw [options_edits]
  exact holds_foldl .nil (fun _ _ s h => h.insertOption s.1 s.2) _

/-- The comment of a table is the last that was set. -/
theorem comment_edits_new :
    ((Table.new name).edits changes).comment =
      (changes.filterMap TableEdit.comment?).getLast? := by
  have hlast : ∀ texts : List String,
      texts.foldl (fun _ text => some text) none = texts.getLast? := by
    intro texts
    induction texts using List.reverseRecOn with
    | nil => rfl
    | append_singleton texts text _ => simp
  rw [comment_edits]
  exact hlast _

end New

end Table

/-! ## The text of the options -/

namespace Profile

/-- An option is written as its key in upper case and its value, which is a string literal if it
is a comment. -/
def optionPart (o : String × String) : String :=
  o.1.toUpper ++ "=" ++
    if Text.sameIgnoringCase o.1 "COMMENT" then Sql.quoteLiteral o.2 else o.2

/-- The MySQL family writes an option as its part. -/
theorem mysqlOption_eq_optionPart (o : String × String) : mysqlOption o.1 o.2 = optionPart o := by
  unfold mysqlOption optionPart
  cases hcomment : Text.sameIgnoringCase o.1 "COMMENT" with
  | false => simp
  | true =>
    have hupper : "COMMENT".toUpper = "COMMENT" := Text.toUpper_eq_of_toList (by decide)
    have hkey : o.1.toUpper = "COMMENT" :=
      (Text.toUpper_eq_of_sameIgnoringCase hcomment).trans hupper
    simp [hkey]

/-- The engine is written as any other option. -/
theorem engine_eq_optionPart {o : String × String}
    (h : Text.sameIgnoringCase o.1 "ENGINE" = true) : "ENGINE=" ++ o.2 = optionPart o := by
  have hupper : "ENGINE".toUpper = "ENGINE" := Text.toUpper_eq_of_toList (by decide)
  have hkey : o.1.toUpper = "ENGINE" :=
    (Text.toUpper_eq_of_sameIgnoringCase h).trans hupper
  have hcomment : Text.sameIgnoringCase o.1 "COMMENT" = false := by
    rw [Text.sameIgnoringCase_congr h, ← Bool.not_eq_true, Text.sameIgnoringCase_iff,
      ← String.toList_inj, Text.toList_toLower, Text.toList_toLower]
    decide
  simp [optionPart, hkey, hcomment]

/-- Of options with different keys those with one key are what is found under it. -/
theorem filter_eq_toList_find? {options : List (String × String)}
    (h : (options.map Prod.fst).Pairwise fun k k' => Text.sameIgnoringCase k k' = false)
    (key : String) :
    (options.filter fun o => Text.sameIgnoringCase o.1 key) =
      (options.find? fun o => Text.sameIgnoringCase o.1 key).toList := by
  induction options with
  | nil => rfl
  | cons o rest ih =>
    rw [List.map_cons, List.pairwise_cons] at h
    cases hkey : Text.sameIgnoringCase o.1 key with
    | false => simpa [hkey] using ih h.2
    | true =>
      have hrest : (rest.filter fun o => Text.sameIgnoringCase o.1 key) = [] := by
        refine List.filter_eq_nil_iff.mpr fun o' ho' hkey' => ?_
        rw [Text.sameIgnoringCase_comm] at hkey'
        have hsame := Text.sameIgnoringCase_trans hkey hkey'
        rw [h.1 o'.1 (List.mem_map_of_mem ho')] at hsame
        cases hsame
      simp [hkey, hrest]

/-- The parts that are written for the options of a table: one for each of them, that of the
engine first and the others in order, and last one for the comment of the table, if it has one
and no option sets it. -/
def optionParts (t : Table) : List String :=
  ((t.options.filter fun o => Text.sameIgnoringCase o.1 "ENGINE") ++
      t.options.filter fun o => !Text.sameIgnoringCase o.1 "ENGINE").map optionPart ++
    if ∃ o ∈ t.options, Text.sameIgnoringCase o.1 "COMMENT" = true then []
    else (t.comment.map fun text => "COMMENT=" ++ Sql.quoteLiteral text).toList

/-- The MySQL family writes these parts of options with different keys. -/
theorem mysqlOptionParts_eq {t : Table}
    (h : (t.options.map Prod.fst).Pairwise fun k k' => Text.sameIgnoringCase k k' = false) :
    mysqlOptionParts t = optionParts t := by
  have hengine : ((t.option? "ENGINE").map fun engine => "ENGINE=" ++ engine).toList =
      (t.options.filter fun o => Text.sameIgnoringCase o.1 "ENGINE").map optionPart := by
    rw [filter_eq_toList_find? h, Table.option?]
    cases hfind : t.options.find? fun o => Text.sameIgnoringCase o.1 "ENGINE" with
    | none => rfl
    | some o =>
      have hkey := List.find?_some hfind
      simp [engine_eq_optionPart hkey]
  have hothers : ∀ options : List (String × String),
      (options.map fun o => mysqlOption o.1 o.2) = options.map optionPart :=
    fun _ => List.map_congr_left fun o _ => mysqlOption_eq_optionPart o
  have hcomment : (t.option? "COMMENT").isSome = true ↔
      ∃ o ∈ t.options, Text.sameIgnoringCase o.1 "COMMENT" = true := by
    rw [Table.option?, Option.isSome_map, List.find?_isSome]
  unfold mysqlOptionParts optionParts
  simp only [hengine, hothers, hcomment, List.map_append]

end Profile

/-- **The options of a table.**  After any changes to a new table its options have different keys,
ignoring case; a key, in whatever case, has the value that was set last; the keys are those that
were set, each in the spelling and at the place of its first setting; and the comment is the last
that was set.  MySQL writes one part for each option, that of the engine first and the others in
order, and last one for the comment of the table exactly if it has one and no option sets it. -/
theorem Table.options_edits_new (name : String) (changes : List TableEdit) :
    StoresLatest (changes.filterMap TableEdit.setting?)
        ((Table.new name).edits changes).options ∧
      (∀ key, ((Table.new name).edits changes).option? key =
        ((changes.filterMap TableEdit.setting?).filter fun s =>
          Text.sameIgnoringCase s.1 key).getLast?.map Prod.snd) ∧
      ((Table.new name).edits changes).comment =
        (changes.filterMap TableEdit.comment?).getLast? ∧
      Profile.mysql.tableOptions ((Table.new name).edits changes) =
        " ".intercalate (Profile.optionParts ((Table.new name).edits changes)) := by
  have hstores := storesLatest_edits name changes
  refine ⟨hstores, hstores.values, comment_edits_new name changes, ?_⟩
  rw [← Profile.mysqlOptionParts_eq hstores.distinct]
  rfl

end SchemaDdl
