/-
# Cutting texts

Where a text is cut in two: at the first occurrence of a character, at the last
occurrence of a pair, or at the ends of its lines.
-/

namespace SchemaDdl.Text

/-! ## At a character -/

/-- The parts before and after the first `c`, or nothing when there is no `c`. -/
def cutAt (c : Char) : List Char → Option (List Char × List Char)
  | [] => none
  | x :: rest =>
    if x = c then some ([], rest)
    else (cutAt c rest).map fun (before, after) => (x :: before, after)

/-- The part before the first `c`, the whole when there is no `c`. -/
def upTo (c : Char) (cs : List Char) : List Char :=
  cs.takeWhile (· != c)

/-- A cut puts the separator back between its two parts. -/
theorem eq_append_of_cutAt {c : Char} {cs before after : List Char}
    (h : cutAt c cs = some (before, after)) : cs = before ++ c :: after := by
  induction cs generalizing before with
  | nil => simp [cutAt] at h
  | cons x rest ih =>
    by_cases hx : x = c
    · simp only [cutAt, hx, ↓reduceIte, Option.some.injEq, Prod.mk.injEq] at h
      obtain ⟨rfl, rfl⟩ := h
      simp [hx]
    · simp only [cutAt, hx, ↓reduceIte, Option.map_eq_some_iff, Prod.mk.injEq,
        Prod.exists] at h
      obtain ⟨b, a, hcut, rfl, rfl⟩ := h
      simp [ih hcut]

/-! ## At the last of two equal neighbours -/

/-- The parts before and after the last place where `c` stands twice in a row. -/
def cutAtLastPair (c : Char) : List Char → Option (List Char × List Char)
  | [] => none
  | x :: rest =>
    match cutAtLastPair c rest with
    | some (before, after) => some (x :: before, after)
    | none => if x = c ∧ rest.head? = some c then some ([], rest.tail) else none

/-! ## Occurrences -/

/-- Whether `part` occurs somewhere in the text. -/
def occursIn (part : List Char) : List Char → Bool
  | [] => part.isEmpty
  | c :: rest => part.isPrefixOf (c :: rest) || occursIn part rest

/-- Whether `part` occurs somewhere in the text. -/
def contains (s part : String) : Bool :=
  occursIn part.toList s.toList

/-- Whether a text begins with another. -/
def beginsWith (s start : String) : Bool :=
  start.toList.isPrefixOf s.toList

/-- What follows a text does not change how it begins. -/
theorem beginsWith_append {s start : String} (h : beginsWith s start = true) (rest : String) :
    beginsWith (s ++ rest) start = true := by
  rw [beginsWith, List.isPrefixOf_iff_prefix] at h ⊢
  rw [String.toList_append]
  exact h.trans (List.prefix_append s.toList rest.toList)

/-- After a common start texts begin as their rests do. -/
theorem beginsWith_append_append (common s start : String) :
    beginsWith (common ++ s) (common ++ start) = beginsWith s start := by
  rw [Bool.eq_iff_iff, beginsWith, beginsWith, List.isPrefixOf_iff_prefix,
    List.isPrefixOf_iff_prefix, String.toList_append, String.toList_append,
    List.prefix_append_right_inj]

/-! ## Lines -/

/-- A line without the carriage return in front of its newline. -/
def dropReturn (line : List Char) : List Char :=
  if line.getLast? = some '\r' then line.dropLast else line

/-- The lines of a text: each newline ends one, together with a carriage return
right before it, and what follows the last newline is a line unless it is empty. -/
def lines (s : String) : List String :=
  let pieces := s.toList.splitOn '\n'
  let ended := pieces.dropLast.map dropReturn
  let rest := pieces.getLast?.getD []
  (if rest.isEmpty then ended else ended ++ [rest]).map String.ofList

/-! ## Case -/

/-- Whether two texts are equal but for the case of ASCII letters. -/
def sameIgnoringCase (a b : String) : Bool :=
  a.toLower == b.toLower

end SchemaDdl.Text
