/-
# Lines of texts in a row

A newline ends a line for good: what follows it has lines of its own.

* `lines_eq` : the lines of a text by the pieces between its newlines;
* `lines_append_newline_append` : the lines of a text that is cut after a newline;
* `newline_not_mem_of_mem_lines`, `lines_eq_nil_iff` : what is on a line, and whether there is
  one;
* `nonemptyLines_append_newline_append` : the lines that are not empty.
-/
import Mathlib
import SchemaDdl.Text.Cut

namespace SchemaDdl.Text

/-! ## Pieces -/

/-- A newline parts the pieces in front of it from those behind it. -/
theorem splitOn_append_newline_append (s t : String) :
    (s ++ "\n" ++ t).toList.splitOn '\n' = s.toList.splitOn '\n' ++ t.toList.splitOn '\n' := by
  rw [String.toList_append, String.toList_append, List.append_assoc]
  exact List.splitOn_append_cons_self s.toList t.toList

/-- A piece has no newline in it. -/
theorem newline_not_mem_of_mem_splitOn {cs line : List Char} (h : line ∈ cs.splitOn '\n') :
    '\n' ∉ line := by
  induction cs generalizing line with
  | nil =>
    rw [List.splitOn_nil, List.mem_singleton] at h
    simp [h]
  | cons c rest ih =>
    obtain ⟨first, others, hlines⟩ := List.exists_cons_of_ne_nil (List.splitOn_ne_nil '\n' rest)
    rw [hlines] at ih
    rw [List.splitOn_cons_eq_if_modifyHead, hlines] at h
    by_cases hc : c = '\n'
    · have hline : line = [] ∨ line ∈ first :: others := by simpa [hc] using h
      rcases hline with rfl | hrest
      · simp
      · exact ih hrest
    · -- The first line of the rest has become longer by this character.
      have hline : line = c :: first ∨ line ∈ others := by simpa [hc] using h
      rcases hline with rfl | hrest
      · simp [Ne.symm hc, ih List.mem_cons_self]
      · exact ih (List.mem_cons_of_mem first hrest)

/-- A text is cut into the pieces that a newline ends and a last one. -/
theorem exists_splitOn_eq (cs : List Char) :
    ∃ ended last, cs.splitOn '\n' = ended ++ [last] := by
  rcases List.eq_nil_or_concat (cs.splitOn '\n') with hnil | ⟨ended, last, hpieces⟩
  · exact absurd hnil (List.splitOn_ne_nil '\n' cs)
  · exact ⟨ended, last, hpieces.trans List.concat_eq_append⟩

/-! ## Lines -/

/-- The lines of a text come from the pieces that a newline ends, and from the last one unless
it is empty. -/
theorem lines_eq {s : String} {ended : List (List Char)} {last : List Char}
    (h : s.toList.splitOn '\n' = ended ++ [last]) :
    lines s = (ended.map dropReturn ++ if last.isEmpty then [] else [last]).map String.ofList := by
  unfold lines
  dsimp only
  rw [h, List.dropLast_concat, List.getLast?_concat, Option.getD_some]
  split <;> simp

/-- An empty text has no lines. -/
@[simp]
theorem lines_empty : lines "" = [] := by
  decide

/-- The lines of a text with a newline in it are those up to the newline and those after
it. -/
theorem lines_append_newline_append (s t : String) :
    lines (s ++ "\n" ++ t) = lines (s ++ "\n") ++ lines t := by
  obtain ⟨ended, last, hpieces⟩ := exists_splitOn_eq t.toList
  have hfirst : (s ++ "\n").toList.splitOn '\n' = s.toList.splitOn '\n' ++ [[]] := by
    have hempty := splitOn_append_newline_append s ""
    rwa [String.append_empty] at hempty
  have hboth : (s ++ "\n" ++ t).toList.splitOn '\n' =
      (s.toList.splitOn '\n' ++ ended) ++ [last] := by
    rw [splitOn_append_newline_append, hpieces, List.append_assoc]
  rw [lines_eq hboth, lines_eq hfirst, lines_eq hpieces]
  simp

/-- A line has no newline in it. -/
theorem newline_not_mem_of_mem_lines {s line : String} (h : line ∈ lines s) :
    '\n' ∉ line.toList := by
  obtain ⟨ended, last, hpieces⟩ := exists_splitOn_eq s.toList
  have hended : ∀ piece ∈ ended, '\n' ∉ piece := fun piece hmem =>
    newline_not_mem_of_mem_splitOn (hpieces ▸ List.mem_append_left [last] hmem)
  have hlast : '\n' ∉ last :=
    newline_not_mem_of_mem_splitOn (hpieces ▸ List.mem_append_right ended List.mem_cons_self)
  rw [lines_eq hpieces] at h
  obtain ⟨cs, hcs, rfl⟩ := List.mem_map.mp h
  rw [String.toList_ofList]
  rcases List.mem_append.mp hcs with hmem | hmem
  · obtain ⟨piece, hpiece, rfl⟩ := List.mem_map.mp hmem
    -- At most the last character of the piece is missing.
    unfold dropReturn
    split
    · exact fun hnewline => hended piece hpiece (List.mem_of_mem_dropLast hnewline)
    · exact hended piece hpiece
  · split at hmem
    · simp at hmem
    · rwa [List.mem_singleton.mp hmem]

/-- Only an empty text has no lines. -/
theorem lines_eq_nil_iff {s : String} : lines s = [] ↔ s = "" := by
  refine ⟨fun h => ?_, fun h => h ▸ lines_empty⟩
  obtain ⟨ended, last, hpieces⟩ := exists_splitOn_eq s.toList
  rw [lines_eq hpieces, List.map_eq_nil_iff, List.append_eq_nil_iff, List.map_eq_nil_iff] at h
  have hlast : last = [] := by
    by_contra hne
    simp [hne] at h
  have hwhole : ['\n'].intercalate (s.toList.splitOn '\n') = s.toList :=
    List.intercalate_splitOn '\n'
  rw [hpieces, h.1, hlast] at hwhole
  exact String.toList_eq_nil_iff.mp hwhole.symm

/-! ## Lines with something on them -/

/-- The lines of a text that are not empty. -/
def nonemptyLines (s : String) : List String :=
  (lines s).filter (· ≠ "")

/-- An empty text has no lines with something on them. -/
theorem nonemptyLines_empty : nonemptyLines "" = [] := by
  rw [nonemptyLines, lines_empty, List.filter_nil]

/-- The lines of a text that is cut after a newline. -/
theorem nonemptyLines_append_newline_append (s t : String) :
    nonemptyLines (s ++ "\n" ++ t) = nonemptyLines (s ++ "\n") ++ nonemptyLines t := by
  rw [nonemptyLines, lines_append_newline_append, List.filter_append]
  rfl

/-- A newline alone has nothing on its line. -/
theorem nonemptyLines_newline : nonemptyLines ("" ++ "\n") = [] := by
  decide

end SchemaDdl.Text
