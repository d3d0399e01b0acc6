/-
# Case of letters

Putting a text into lower or upper case changes letters only.  Blanks, apostrophes, double
quotes and colons stay where they are, and so do two of them in a row.  Texts that are the same
but for case are the same to everything that does not see case.
-/
import SchemaDdl.Proofs.Text.Part

namespace SchemaDdl.Text

/-- The characters of a text in lower case. -/
theorem toList_toLower (s : String) : s.toLower.toList = s.toList.map Char.toLower :=
  String.toList_map

/-- The characters of a text in upper case. -/
theorem toList_toUpper (s : String) : s.toUpper.toList = s.toList.map Char.toUpper :=
  String.toList_map

/-- A text in lower case is known by its characters. -/
theorem toLower_eq_of_toList {s t : String} (h : s.toList.map Char.toLower = t.toList) :
    s.toLower = t :=
  String.toList_inj.mp ((toList_toLower s).trans h)

/-- A text in upper case is known by its characters. -/
theorem toUpper_eq_of_toList {s t : String} (h : s.toList.map Char.toUpper = t.toList) :
    s.toUpper = t :=
  String.toList_inj.mp ((toList_toUpper s).trans h)

/-- Lower case stays lower case. -/
theorem toLower_toLower (s : String) : s.toLower.toLower = s.toLower := by
  apply String.toList_inj.mp
  rw [toList_toLower, toList_toLower, List.map_map]
  exact List.map_congr_left fun c _ => c.toLower_toLower_eq_toLower

/-- Upper case does not see lower case. -/
theorem toUpper_toLower (s : String) : s.toLower.toUpper = s.toUpper := by
  apply String.toList_inj.mp
  rw [toList_toUpper, toList_toLower, toList_toUpper, List.map_map]
  exact List.map_congr_left fun c _ => c.toUpper_toLower_eq_toUpper

/-- Lower case does not see upper case. -/
theorem toLower_toUpper (s : String) : s.toUpper.toLower = s.toLower := by
  apply String.toList_inj.mp
  rw [toList_toLower, toList_toUpper, toList_toLower, List.map_map]
  exact List.map_congr_left fun c _ => c.toLower_toUpper_eq_toLower

/-! ## Texts that are the same but for case -/

section Same

variable {a b c : String}

/-- Texts are the same but for case exactly if they are the same in lower case. -/
theorem sameIgnoringCase_iff : sameIgnoringCase a b = true ↔ a.toLower = b.toLower :=
  beq_iff_eq

/-- Being the same but for case does not depend on the order. -/
theorem sameIgnoringCase_comm (a b : String) : sameIgnoringCase a b = sameIgnoringCase b a := by
  rw [Bool.eq_iff_iff, sameIgnoringCase_iff, sameIgnoringCase_iff, eq_comm]

/-- Texts that are the same but for case are compared alike. -/
theorem sameIgnoringCase_congr (h : sameIgnoringCase a b = true) (c : String) :
    sameIgnoringCase a c = sameIgnoringCase b c := by
  rw [Bool.eq_iff_iff, sameIgnoringCase_iff, sameIgnoringCase_iff, sameIgnoringCase_iff.mp h]

/-- Texts that are the same as one other but for case are the same but for case. -/
theorem sameIgnoringCase_trans (hab : sameIgnoringCase a b = true)
    (hbc : sameIgnoringCase b c = true) : sameIgnoringCase a c = true := by
  rw [sameIgnoringCase_congr hab, hbc]

/-- Texts that are the same but for case are the same in upper case. -/
theorem toUpper_eq_of_sameIgnoringCase (h : sameIgnoringCase a b = true) :
    a.toUpper = b.toUpper := by
  rw [← toUpper_toLower a, sameIgnoringCase_iff.mp h, toUpper_toLower]

end Same

/-! ## Blanks -/

/-- No letter is blank. -/
theorem isBlank_of_isAlpha {c : Char} (h : c.isAlpha = true) : isBlank c = false := by
  simp only [Char.isAlpha, Char.isUpper, Char.isLower, Bool.or_eq_true, Bool.and_eq_true,
    decide_eq_true_eq, UInt32.le_iff_toNat_le] at h
  simp only [isBlank, Bool.or_eq_false_iff, Bool.and_eq_false_iff, decide_eq_false_iff_not,
    beq_eq_false_iff_ne]
  simp at h
  omega

/-- A character is blank exactly if it is in lower case. -/
theorem isBlank_toLower (c : Char) : isBlank c.toLower = isBlank c := by
  by_cases hletter : c.isAlpha = true
  · rw [isBlank_of_isAlpha hletter, isBlank_of_isAlpha (by rwa [c.isAlpha_toLower_eq_isAlpha])]
  · have hupper : ¬ c.isUpper = true := fun h => hletter (by rw [Char.isAlpha, h, Bool.true_or])
    rw [Char.toLower_eq_of_not_isUpper hupper]

/-- A character is blank exactly if it is in upper case. -/
theorem isBlank_toUpper (c : Char) : isBlank c.toUpper = isBlank c := by
  rw [← isBlank_toLower c.toUpper, c.toLower_toUpper_eq_toLower, isBlank_toLower]

/-- Trimming and lower case do not get into each other's way. -/
theorem trimmed_map_toLower (cs : List Char) :
    trimmed (cs.map Char.toLower) = (trimmed cs).map Char.toLower := by
  have hblank : isBlank ∘ Char.toLower = isBlank := funext isBlank_toLower
  rw [trimmed, trimmed, dropBlanks, dropBlanksRight, List.dropWhile_map, hblank, ← List.map_reverse,
    List.dropWhile_map, hblank, ← List.map_reverse]
  rfl

/-! ## Characters that are no letters -/

section NoLetter

variable {c : Char} (hc : c.isAlpha = false)

include hc

/-- Only a character itself becomes one that is no letter. -/
theorem toLower_eq_iff (x : Char) : x.toLower = c ↔ x = c := by
  unfold Char.toLower
  split
  · rename_i hupper
    simp only [Char.isAlpha, Char.isUpper, Char.isLower, Bool.or_eq_false_iff] at hc
    constructor
    · rintro rfl
      simp [UInt32.le_iff_toNat_le] at hc hupper
      omega
    · rintro rfl
      simp [UInt32.le_iff_toNat_le] at hc hupper
      omega
  · rfl

/-- It occurs in a text exactly if it does in lower case. -/
theorem mem_map_toLower_iff (cs : List Char) : c ∈ cs.map Char.toLower ↔ c ∈ cs := by
  simp [toLower_eq_iff hc]

/-- It starts a text exactly if it does in lower case. -/
theorem head?_map_toLower_iff (cs : List Char) :
    (cs.map Char.toLower).head? = some c ↔ cs.head? = some c := by
  rw [List.head?_map, Option.map_eq_some_iff]
  simp [toLower_eq_iff hc]

/-- It stands twice in a row in a text exactly if it does in lower case. -/
theorem cutAtLastPair_map_toLower (cs : List Char) :
    cutAtLastPair c (cs.map Char.toLower) = none ↔ cutAtLastPair c cs = none := by
  have hpair : ∀ part, [c, c] = part.map Char.toLower ↔ part = [c, c] := by
    intro part
    rw [eq_comm, List.map_eq_cons_iff]
    simp [toLower_eq_iff hc]
  rw [cutAtLastPair_eq_none_iff, cutAtLastPair_eq_none_iff, List.infix_map_iff]
  simp only [hpair, exists_eq_right]

end NoLetter

end SchemaDdl.Text
