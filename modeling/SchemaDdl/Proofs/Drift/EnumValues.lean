/-
# Values of enum types as sets

A database can hold several lists of values for one enum type: the MySQL family has one in each
column that writes the type out, and they need not agree.  The declared values are compared
with all of these lists, one after the other, and what differs is gathered:

* `nodup_valuesAdded`, `nodup_valuesRemoved` : no value is gathered twice;
* `SameSets.exists_iff` : what can be said of some list as a set does not depend on the order
  of the lists or on how often they and their values are repeated;
* `enumDiff?_setwise` : a comparison is one of sets, with each list by itself.
-/
import SchemaDdl.Proofs.Drift.Comparison

namespace SchemaDdl.Drift

/-! ## No value twice -/

/-- Adding names to distinct names gives distinct names. -/
theorem nodup_addNew {known : List String} (h : known.Nodup) (names : List String) :
    (addNew known names).Nodup := by
  induction names generalizing known with
  | nil => exact h
  | cons name rest ih =>
    rw [addNew]
    by_cases hknown : name ∈ known
    · rw [if_pos (List.contains_iff_mem.mpr hknown)]
      exact ih h
    · rw [if_neg (by simpa using hknown)]
      refine ih (List.Nodup.append h (List.nodup_singleton name) ?_)
      simpa using hknown

/-- What is gathered from several lists on top of distinct names is distinct. -/
theorem nodup_foldl_addNew (pick : List String → List String) (lists : List (List String))
    {known : List String} (h : known.Nodup) :
    (lists.foldl (fun known list => addNew known (pick list)) known).Nodup := by
  induction lists generalizing known with
  | nil => exact h
  | cons list rest ih => exact ih (nodup_addNew h (pick list))

/-- No value is to be added twice. -/
theorem nodup_valuesAdded (declared : List String) (lists : List (List String)) :
    (valuesAdded declared lists).Nodup :=
  nodup_foldl_addNew _ lists List.nodup_nil

/-- No value is to be removed twice. -/
theorem nodup_valuesRemoved (declared : List String) (lists : List (List String)) :
    (valuesRemoved declared lists).Nodup :=
  nodup_foldl_addNew _ lists List.nodup_nil

/-! ## Lists of lists as sets of sets -/

/-- The same sets of values, whatever the order and repetition of the lists and of the values
in each of them. -/
def SameSets (lists lists' : List (List String)) : Prop :=
  (lists.map List.toFinset).toFinset = (lists'.map List.toFinset).toFinset

/-- What holds of some list as a set holds of some list of the same sets. -/
theorem SameSets.exists_iff {lists lists' : List (List String)} (h : SameSets lists lists')
    (P : Finset String → Prop) :
    (∃ list ∈ lists, P list.toFinset) ↔ ∃ list ∈ lists', P list.toFinset := by
  have hsets : ∀ lists : List (List String),
      (∃ list ∈ lists, P list.toFinset) ↔ ∃ set ∈ (lists.map List.toFinset).toFinset, P set := by
    intro lists
    simp only [List.mem_toFinset, List.mem_map]
    constructor
    · rintro ⟨list, hlist, hP⟩
      exact ⟨_, ⟨list, hlist, rfl⟩, hP⟩
    · rintro ⟨_, ⟨list, hlist, rfl⟩, hP⟩
      exact ⟨list, hlist, hP⟩
  rw [hsets lists, hsets lists', h]

section Sets

variable {lists lists' : List (List String)} (h : SameSets lists lists') (declared : List String)

include h

/-- From the same sets the same values are to be added. -/
theorem SameSets.valuesAdded_perm :
    (valuesAdded declared lists).Perm (valuesAdded declared lists') := by
  apply (List.perm_ext_iff_of_nodup (nodup_valuesAdded declared lists)
    (nodup_valuesAdded declared lists')).mpr
  intro v
  rw [mem_valuesAdded_iff, mem_valuesAdded_iff]
  have hsome := h.exists_iff (v ∉ ·)
  simp only [List.mem_toFinset] at hsome
  rw [hsome]

/-- From the same sets the same values are to be removed. -/
theorem SameSets.valuesRemoved_perm :
    (valuesRemoved declared lists).Perm (valuesRemoved declared lists') := by
  apply (List.perm_ext_iff_of_nodup (nodup_valuesRemoved declared lists)
    (nodup_valuesRemoved declared lists')).mpr
  intro v
  rw [mem_valuesRemoved_iff, mem_valuesRemoved_iff]
  have hsome := h.exists_iff (v ∈ ·)
  simp only [List.mem_toFinset] at hsome
  rw [hsome]

end Sets

/-! ## Differences -/

/-- A difference has something to report, and this is what is gathered. -/
theorem enumDiff?_eq_some_iff {e : EnumType} {lists : List (List String)} {diff : EnumDiff} :
    enumDiff? e lists = some diff ↔
      (valuesAdded e.values lists ≠ [] ∨ valuesRemoved e.values lists ≠ []) ∧
        diff = ⟨e.name, valuesAdded e.values lists, valuesRemoved e.values lists⟩ := by
  unfold enumDiff?
  dsimp only
  split
  · rename_i hnone
    rw [Bool.and_eq_true, List.isEmpty_iff, List.isEmpty_iff] at hnone
    simp [hnone]
  · rename_i hsome
    rw [Bool.and_eq_true, not_and_or, List.isEmpty_iff, List.isEmpty_iff] at hsome
    rw [Option.some.injEq, and_iff_right hsome, eq_comm]

/-- A difference of the declared values from some live lists reports, each once, the declared
values that some list lacks and the values of some list that are not declared. -/
structure EnumDiff.Separates (diff : EnumDiff) (e : EnumType) (lists : List (List String)) :
    Prop where
  name : diff.name = e.name
  nodup_added : diff.added.Nodup
  mem_added_iff : ∀ v, v ∈ diff.added ↔ v ∈ e.values ∧ ∃ list ∈ lists, v ∉ list
  nodup_removed : diff.removed.Nodup
  mem_removed_iff : ∀ v, v ∈ diff.removed ↔ v ∉ e.values ∧ ∃ list ∈ lists, v ∈ list

/-- Differences that report the same values, in any order. -/
structure EnumDiff.SameUpToOrder (d d' : EnumDiff) : Prop where
  name : d.name = d'.name
  added : d.added.Perm d'.added
  removed : d.removed.Perm d'.removed

/-- Whatever is reported separates the declared values from the live lists. -/
theorem EnumDiff.separates_of_enumDiff? {e : EnumType} {lists : List (List String)}
    {diff : EnumDiff} (h : enumDiff? e lists = some diff) : diff.Separates e lists := by
  obtain ⟨_, rfl⟩ := enumDiff?_eq_some_iff.mp h
  exact {
    name := rfl
    nodup_added := nodup_valuesAdded e.values lists
    mem_added_iff := mem_valuesAdded_iff e.values lists
    nodup_removed := nodup_valuesRemoved e.values lists
    mem_removed_iff := mem_valuesRemoved_iff e.values lists }

/-- The same sets have the same difference from an enum type, or none. -/
theorem SameSets.enumDiff?_rel {lists lists' : List (List String)} (h : SameSets lists lists')
    (e : EnumType) :
    Option.Rel EnumDiff.SameUpToOrder (enumDiff? e lists) (enumDiff? e lists') := by
  have hadded := h.valuesAdded_perm e.values
  have hremoved := h.valuesRemoved_perm e.values
  unfold enumDiff?
  dsimp only
  rw [hadded.isEmpty_eq, hremoved.isEmpty_eq]
  split
  · exact .none
  · exact .some ⟨rfl, hadded, hremoved⟩

/-- **Enum types as sets.**  A declared enum type has no difference from the lists that a
database holds for it exactly if each of them is the same set of values.  Otherwise the values
that some list lacks and those that some list has too many are reported, each once, and what
is reported depends on the sets alone. -/
theorem enumDiff?_setwise (e : EnumType) (lists : List (List String)) :
    (enumDiff? e lists = none ↔ ∀ list ∈ lists, list.toFinset = e.values.toFinset) ∧
      (∀ diff, enumDiff? e lists = some diff → diff.Separates e lists) ∧
      ∀ lists', SameSets lists lists' →
        Option.Rel EnumDiff.SameUpToOrder (enumDiff? e lists) (enumDiff? e lists') := by
  refine ⟨?_, fun _ hdiff => EnumDiff.separates_of_enumDiff? hdiff,
    fun _ hsame => hsame.enumDiff?_rel e⟩
  rw [enumDiff?_eq_none_iff]
  refine forall₂_congr fun list _ => ?_
  rw [Finset.ext_iff]
  simp only [List.mem_toFinset]
  exact forall_congr' fun v => Iff.comm

/-- Of three columns that write out a mood, one lacks a value and another has one too many.
Reported in another order and with repetitions they have the same difference. -/
theorem enumDiff?_setwise_mood :
    SameSets [["sad", "happy"], ["happy"], ["happy", "angry", "sad"]]
        [["sad", "angry", "happy", "sad"], ["happy", "happy"], ["happy", "sad"], ["happy"]] ∧
      Option.Rel EnumDiff.SameUpToOrder
        (enumDiff? ⟨"mood", ["happy", "sad"]⟩
          [["sad", "happy"], ["happy"], ["happy", "angry", "sad"]])
        (enumDiff? ⟨"mood", ["happy", "sad"]⟩
          [["sad", "angry", "happy", "sad"], ["happy", "happy"], ["happy", "sad"], ["happy"]]) ∧
      enumDiff? ⟨"mood", ["happy", "sad"]⟩
        [["sad", "happy"], ["happy"], ["happy", "angry", "sad"]] =
          some ⟨"mood", ["sad"], ["angry"]⟩ ∧
      EnumDiff.Separates ⟨"mood", ["sad"], ["angry"]⟩ ⟨"mood", ["happy", "sad"]⟩
        [["sad", "happy"], ["happy"], ["happy", "angry", "sad"]] := by
  have hsame : SameSets [["sad", "happy"], ["happy"], ["happy", "angry", "sad"]]
      [["sad", "angry", "happy", "sad"], ["happy", "happy"], ["happy", "sad"], ["happy"]] := by
    unfold SameSets
    decide
  obtain ⟨_, hseparates, hrel⟩ := enumDiff?_setwise ⟨"mood", ["happy", "sad"]⟩
    [["sad", "happy"], ["happy"], ["happy", "angry", "sad"]]
  have hdiff : enumDiff? ⟨"mood", ["happy", "sad"]⟩
      [["sad", "happy"], ["happy"], ["happy", "angry", "sad"]] =
        some ⟨"mood", ["sad"], ["angry"]⟩ := by decide
  exact ⟨hsame, hrel _ hsame, hdiff, hseparates _ hdiff⟩

end SchemaDdl.Drift
