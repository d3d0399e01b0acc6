/-
# How texts end

A statement ends in a character that is not blank, so that trimming the end of a text
takes back the newline that was written after it and nothing else.  A text that also starts
with such a character loses nothing, as one that was trimmed before.
-/
import Mathlib
import SchemaDdl.Text.Blank

namespace SchemaDdl.Text

/-- The last character of a text is not blank. -/
def EndsNonblank (s : String) : Prop :=
  ∃ cs c, s.toList = cs ++ [c] ∧ isBlank c = false

/-- What precedes a text does not change how it ends. -/
theorem EndsNonblank.append_left {s : String} (h : EndsNonblank s) (before : String) :
    EndsNonblank (before ++ s) := by
  obtain ⟨cs, c, hs, hc⟩ := h
  refine ⟨before.toList ++ cs, c, ?_, hc⟩
  rw [String.toList_append, hs, List.append_assoc]

/-- A text that is followed by texts with such an end has such an end. -/
theorem EndsNonblank.append_join {s : String} (h : EndsNonblank s) {texts : List String}
    (htexts : ∀ text ∈ texts, EndsNonblank text) : EndsNonblank (s ++ String.join texts) := by
  induction texts generalizing s with
  | nil => simpa using h
  | cons text rest ih =>
    rw [String.join_cons, ← String.append_assoc]
    have htext : EndsNonblank (s ++ text) := (htexts text (by simp)).append_left s
    exact ih htext fun text' hrest => htexts text' (by simp [hrest])

/-- Texts with such an end still have it when they are put together. -/
theorem endsNonblank_intercalate (separator : String) {texts : List String} (hne : texts ≠ [])
    (htexts : ∀ text ∈ texts, EndsNonblank text) :
    EndsNonblank (separator.intercalate texts) := by
  induction texts with
  | nil => exact absurd rfl hne
  | cons text rest ih =>
    cases rest with
    | nil => exact String.intercalate_singleton ▸ htexts text (List.mem_singleton_self text)
    | cons next rest =>
      rw [String.intercalate_cons_cons]
      have hrest := ih (List.cons_ne_nil next rest) fun text' htext' => htexts text' (by simp [htext'])
      exact hrest.append_left _

/-- A semicolon is not blank. -/
theorem endsNonblank_semicolon : EndsNonblank ";" :=
  ⟨[], ';', rfl, by decide⟩

/-- Trimming takes back a newline after the end. -/
theorem EndsNonblank.trimRight_append_newline {s : String} (h : EndsNonblank s) :
    trimRight (s ++ "\n") = s := by
  obtain ⟨cs, c, hs, hc⟩ := h
  have hnewline : isBlank '\n' = true := by decide
  have hdrop : dropBlanksRight (s ++ "\n").toList = s.toList := by
    rw [String.toList_append, hs, dropBlanksRight]
    simp [hnewline, hc]
  rw [trimRight, hdrop, String.ofList_toList]

/-- A newline at the end is one of the blanks that are taken away. -/
theorem trimRight_append_newline (s : String) : trimRight (s ++ "\n") = trimRight s := by
  have hdrop : dropBlanksRight (s.toList ++ ['\n']) = dropBlanksRight s.toList :=
    List.rdropWhile_concat_pos isBlank s.toList '\n' (by decide)
  rw [trimRight, String.toList_append]
  exact congrArg String.ofList hdrop

/-- Trimming the end of characters takes away nothing else. -/
theorem isPrefix_dropBlanksRight (cs : List Char) : dropBlanksRight cs <+: cs :=
  List.rdropWhile_prefix isBlank cs

/-- Trimming the end of characters keeps one that is not blank and what precedes it. -/
theorem dropBlanksRight_append_cons {c : Char} (hc : isBlank c = false)
    (before after : List Char) :
    dropBlanksRight (before ++ c :: after) = before ++ c :: dropBlanksRight after := by
  have hreverse : (before ++ c :: after).reverse = after.reverse ++ (c :: before.reverse) := by
    simp
  unfold dropBlanksRight
  rw [hreverse, List.dropWhile_append]
  by_cases hblank : (after.reverse.dropWhile isBlank).isEmpty
  · rw [if_pos hblank, List.isEmpty_iff.mp hblank, List.dropWhile_cons_of_neg (by simp [hc])]
    simp
  · rw [if_neg hblank]
    simp

/-- Trimming the start keeps a character that is not blank and what follows it. -/
theorem dropBlanks_append_cons {c : Char} (hc : isBlank c = false) (before after : List Char) :
    dropBlanks (before ++ c :: after) = dropBlanks before ++ c :: after := by
  unfold dropBlanks
  rw [List.dropWhile_append]
  by_cases hblank : (before.dropWhile isBlank).isEmpty
  · rw [if_pos hblank, List.isEmpty_iff.mp hblank, List.dropWhile_cons_of_neg (by simp [hc])]
    rfl
  · rw [if_neg hblank]

/-! ## Both ends -/

/-- Trimming takes away blanks only. -/
theorem exists_blanks_trimmed (cs : List Char) :
    ∃ before after, cs = before ++ trimmed cs ++ after ∧
      (∀ c ∈ before, isBlank c = true) ∧ ∀ c ∈ after, isBlank c = true := by
  refine ⟨cs.takeWhile isBlank, (dropBlanks cs).rtakeWhile isBlank, ?_,
    fun c hc => List.mem_takeWhile_imp hc, fun c hc => List.mem_rtakeWhile_imp hc⟩
  have hright : trimmed cs ++ (dropBlanks cs).rtakeWhile isBlank = dropBlanks cs :=
    List.rdropWhile_append_rtakeWhile
  rw [List.append_assoc, hright]
  exact List.takeWhile_append_dropWhile.symm

/-- Blanks around a text are taken away with those of its own. -/
theorem trimmed_append_blanks {before after : List Char}
    (hbefore : ∀ c ∈ before, isBlank c = true) (hafter : ∀ c ∈ after, isBlank c = true)
    (cs : List Char) : trimmed (before ++ cs ++ after) = trimmed cs := by
  have hright : ∀ ds, dropBlanksRight (ds ++ after) = dropBlanksRight ds := by
    intro ds
    have hreverse : ∀ c ∈ after.reverse, isBlank c = true :=
      fun c hc => hafter c (List.mem_reverse.mp hc)
    rw [dropBlanksRight, List.reverse_append, List.dropWhile_append_of_pos hreverse,
      dropBlanksRight]
  rw [trimmed, dropBlanks, List.append_assoc, List.dropWhile_append_of_pos hbefore,
    List.dropWhile_append]
  by_cases hblank : (cs.dropWhile isBlank).isEmpty
  · rw [if_pos hblank, List.dropWhile_eq_nil_iff.mpr hafter, trimmed, dropBlanks,
      List.isEmpty_iff.mp hblank]
  · rw [if_neg hblank, hright, trimmed, dropBlanks]

/-- No other character is among blanks. -/
theorem not_mem_of_forall_isBlank {blanks : List Char} (h : ∀ c ∈ blanks, isBlank c = true)
    {c : Char} (hc : isBlank c = false) : c ∉ blanks := by
  intro hmem
  rw [h c hmem] at hc
  exact Bool.noConfusion hc

/-- Nothing is left of a text exactly if all of it is blank. -/
theorem trimmed_eq_nil_iff (cs : List Char) : trimmed cs = [] ↔ ∀ c ∈ cs, isBlank c = true := by
  constructor
  · intro hnil
    obtain ⟨before, after, hcs, hbefore, hafter⟩ := exists_blanks_trimmed cs
    rw [hcs, hnil, List.append_nil]
    exact fun c hc => (List.mem_append.mp hc).elim (hbefore c) (hafter c)
  · intro hblank
    have hleft : dropBlanks cs = [] := List.dropWhile_eq_nil_iff.mpr hblank
    rw [trimmed, hleft]
    rfl

/-- A word without blanks in front of a text is kept, with what follows it up to the end. -/
theorem trimmed_append_of_nonblank {word : List Char} (hne : word ≠ [])
    (hword : ∀ c ∈ word, isBlank c = false) (rest : List Char) :
    trimmed (word ++ rest) = word ++ dropBlanksRight rest := by
  have hleft : dropBlanks (word ++ rest) = word ++ rest := by
    obtain ⟨c, cs, rfl⟩ := List.exists_cons_of_ne_nil hne
    exact List.dropWhile_cons_of_neg (by simp [hword c List.mem_cons_self])
  rcases List.eq_nil_or_concat word with hnil | ⟨cs, c, hlast⟩
  · exact absurd hnil hne
  · have hc : isBlank c = false := hword c (by simp [hlast])
    rw [trimmed, hleft, hlast, List.concat_eq_append, List.append_assoc, List.singleton_append,
      dropBlanksRight_append_cons hc, List.append_assoc, List.singleton_append]

/-- A text that is not blank at its ends loses nothing. -/
theorem trimmed_eq_self {cs : List Char} (hhead : ∀ c, cs.head? = some c → isBlank c = false)
    (hlast : ∀ c, cs.getLast? = some c → isBlank c = false) : trimmed cs = cs := by
  have hleft : dropBlanks cs = cs := by
    cases cs with
    | nil => rfl
    | cons c rest => exact List.dropWhile_cons_of_neg (by simp [hhead c rfl])
  have hright : dropBlanksRight cs = cs := by
    have hnonblank : ∀ hne : cs ≠ [], ¬ isBlank (cs.getLast hne) = true := fun hne => by
      simp [hlast _ (List.getLast?_eq_getLast_of_ne_nil hne)]
    exact List.rdropWhile_eq_self_iff.mpr hnonblank
  rw [trimmed, hleft, hright]

/-- Trimming twice is trimming once. -/
theorem trimmed_trimmed (cs : List Char) : trimmed (trimmed cs) = trimmed cs := by
  apply trimmed_eq_self
  · intro c hc
    have hhead : (dropBlanks cs).head? = some c := by
      obtain ⟨rest, hrest⟩ := isPrefix_dropBlanksRight (dropBlanks cs)
      rw [trimmed] at hc
      rw [← hrest, List.head?_append, hc]
      rfl
    have hnonblank := List.head?_dropWhile_not isBlank cs
    rw [dropBlanks] at hhead
    rw [hhead] at hnonblank
    exact hnonblank
  · intro c hc
    have hne : trimmed cs ≠ [] := by
      intro hnil
      simp [hnil] at hc
    have hnonblank := List.rdropWhile_last_not isBlank (dropBlanks cs) hne
    rw [List.getLast?_eq_getLast_of_ne_nil hne, Option.some.injEq] at hc
    rw [← hc]
    exact (Bool.not_eq_true _).mp hnonblank

end SchemaDdl.Text
