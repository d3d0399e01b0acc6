/-
# Parts of texts

What occurs in a text, and where a text is cut, at a character or at the last of two equal
neighbours:

* `occursIn_iff_infix` : a part occurs in a text exactly if it stands between two others;
* `contains_intercalate` : each of some texts occurs in them when they are put together;
* `infix_trimmed_iff` : trimming does not take away a part without blanks;
* `infix_append_cons_iff` : a part without a character stands on one side of it;
* `cutAt_append_cons` : a text is cut at the first of its characters of a kind;
* `cutAtLastPair_eq_some_iff` : two neighbours are the last if none follow.
-/
import SchemaDdl.Text.Cut
import SchemaDdl.Proofs.Text.Ending

namespace SchemaDdl.Text

/-! ## Occurrences -/

/-- A part occurs in a text exactly if it stands between two others. -/
theorem occursIn_iff_infix (part cs : List Char) : occursIn part cs = true ↔ part <:+: cs := by
  induction cs with
  | nil =>
    rw [occursIn, List.isEmpty_iff]
    exact List.infix_nil.symm
  | cons c rest ih =>
    rw [occursIn, Bool.or_eq_true, List.isPrefixOf_iff_prefix, ih, List.infix_cons_iff]

/-- What occurs in a text still does behind another one. -/
theorem contains_append_left {s part : String} (h : contains s part = true) (before : String) :
    contains (before ++ s) part = true := by
  rw [contains, occursIn_iff_infix] at h ⊢
  rw [String.toList_append]
  exact h.trans (List.suffix_append before.toList s.toList).isInfix

/-- What occurs in a text still does before another one. -/
theorem contains_append_right {s part : String} (h : contains s part = true) (after : String) :
    contains (s ++ after) part = true := by
  rw [contains, occursIn_iff_infix] at h ⊢
  rw [String.toList_append]
  exact h.trans (List.prefix_append s.toList after.toList).isInfix

/-- Each of some texts occurs in them when they are put together. -/
theorem contains_intercalate (separator : String) {texts : List String} {text : String}
    (h : text ∈ texts) : contains (separator.intercalate texts) text = true := by
  have hself : contains text text = true := by
    rw [contains, occursIn_iff_infix]
  induction texts with
  | nil => cases h
  | cons first rest ih =>
    cases rest with
    | nil =>
      rw [String.intercalate_singleton, ← List.mem_singleton.mp h]
      exact hself
    | cons next rest =>
      rw [String.intercalate_cons_cons]
      rcases List.mem_cons.mp h with rfl | hrest
      · rw [String.append_assoc]
        exact contains_append_right hself _
      · exact contains_append_left (ih hrest) _

/-- Two texts of which neither begins the other are told apart however the first goes on. -/
theorem beginsWith_append_eq_false {s start : String} (hstart : beginsWith s start = false)
    (hshort : beginsWith start s = false) (later : String) :
    beginsWith (s ++ later) start = false := by
  rw [beginsWith, ← Bool.not_eq_true, List.isPrefixOf_iff_prefix] at hstart hshort ⊢
  intro hlonger
  have hbegins : s.toList <+: (s ++ later).toList := by
    rw [String.toList_append]
    exact List.prefix_append s.toList later.toList
  -- Both begin the same text, so one of them begins the other.
  rcases List.prefix_or_prefix_of_prefix hlonger hbegins with h | h
  · exact hstart h
  · exact hshort h

/-! ## Parts without blanks -/

section Nonblank

variable {part : List Char} (hne : part ≠ []) (hpart : ∀ c ∈ part, isBlank c = false)

include hne hpart

/-- Blanks in front have no share in a part without blanks. -/
theorem infix_dropBlanks_iff (cs : List Char) : part <:+: dropBlanks cs ↔ part <:+: cs := by
  induction cs with
  | nil => rfl
  | cons c rest ih =>
    rw [dropBlanks, List.dropWhile_cons]
    by_cases hblank : isBlank c = true
    · rw [if_pos hblank, ← dropBlanks, ih, List.infix_cons_iff]
      -- The part does not begin with a blank, so it stands behind it.
      have hstart : ¬ part <+: c :: rest := by
        obtain ⟨d, ds, rfl⟩ := List.exists_cons_of_ne_nil hne
        rw [List.cons_prefix_cons]
        rintro ⟨rfl, _⟩
        rw [hpart d List.mem_cons_self] at hblank
        exact Bool.false_ne_true hblank
      exact (or_iff_right hstart).symm
    · rw [if_neg hblank]

/-- Blanks behind have no share in it either. -/
theorem infix_dropBlanksRight_iff (cs : List Char) :
    part <:+: dropBlanksRight cs ↔ part <:+: cs := by
  have hreverse : part.reverse <:+: dropBlanks cs.reverse ↔ part.reverse <:+: cs.reverse := by
    apply infix_dropBlanks_iff
    · exact mt List.reverse_eq_nil_iff.mp hne
    · intro c hc
      exact hpart c (List.mem_reverse.mp hc)
  rw [← List.reverse_infix, dropBlanksRight, List.reverse_reverse, ← dropBlanks, hreverse,
    List.reverse_infix]

/-- Trimming does not take away a part without blanks. -/
theorem infix_trimmed_iff (cs : List Char) : part <:+: trimmed cs ↔ part <:+: cs := by
  rw [trimmed, infix_dropBlanksRight_iff hne hpart, infix_dropBlanks_iff hne hpart]

end Nonblank

/-! ## At a character -/

section Character

variable {c : Char}

/-- A part without a character stands on one side of it. -/
theorem infix_append_cons_iff {part : List Char} (hc : c ∉ part) (before after : List Char) :
    part <:+: before ++ c :: after ↔ part <:+: before ∨ part <:+: after := by
  -- Of a part that reaches beyond `before` only nothing at all could begin with the character.
  have hnil : ∀ rest, rest <:+: part → rest <+: c :: after → rest = [] := by
    intro rest hrest hstart
    cases rest with
    | nil => rfl
    | cons x rest =>
      rw [List.cons_prefix_cons] at hstart
      exact absurd (hrest.subset (hstart.1 ▸ List.mem_cons_self)) hc
  rw [List.infix_append_iff_ne_nil, List.infix_cons_iff]
  constructor
  · rintro (hleft | (hstart | hright) | ⟨first, rest, _, hne, rfl, _, hstart⟩)
    · exact .inl hleft
    · rw [hnil part List.infix_rfl hstart]
      exact .inl List.nil_infix
    · exact .inr hright
    · exact absurd (hnil rest (List.suffix_append first rest).isInfix hstart) hne
  · rintro (hleft | hright)
    · exact .inl hleft
    · exact .inr (.inl (.inr hright))

/-- A text is cut at the first of its characters of a kind. -/
theorem cutAt_append_cons {before : List Char} (h : c ∉ before) (after : List Char) :
    cutAt c (before ++ c :: after) = some (before, after) := by
  induction before with
  | nil => simp [cutAt]
  | cons x rest ih =>
    rw [List.mem_cons, not_or] at h
    rw [List.cons_append, cutAt, if_neg (Ne.symm h.1), ih h.2]
    rfl

/-- A text is not cut at a character that it does not have. -/
theorem cutAt_eq_none {cs : List Char} (h : c ∉ cs) : cutAt c cs = none := by
  cases hcut : cutAt c cs with
  | none => rfl
  | some parts =>
    rw [eq_append_of_cutAt hcut] at h
    exact absurd (List.mem_append_right _ List.mem_cons_self) h

/-- The part before the first of its characters of a kind. -/
theorem upTo_append_cons {before : List Char} (h : c ∉ before) (after : List Char) :
    upTo c (before ++ c :: after) = before := by
  have hother : ∀ x ∈ before, (x != c) = true := fun x hx => bne_iff_ne.mpr fun heq => h (heq ▸ hx)
  rw [upTo, List.takeWhile_append_of_pos hother, List.takeWhile_cons_of_neg (by simp),
    List.append_nil]

/-- All of a text stands before a character that it does not have. -/
theorem upTo_eq_self {cs : List Char} (h : c ∉ cs) : upTo c cs = cs :=
  List.takeWhile_eq_self_iff.mpr fun _ hx => bne_iff_ne.mpr fun heq => h (heq ▸ hx)

end Character

/-! ## Neighbours -/

/-- A text has a last pair of equal neighbours exactly if they occur in it. -/
theorem cutAtLastPair_eq_none_iff (c : Char) (cs : List Char) :
    cutAtLastPair c cs = none ↔ ¬ [c, c] <:+: cs := by
  induction cs with
  | nil => simp [cutAtLastPair]
  | cons x rest ih =>
    have hpair : [c, c] <+: x :: rest ↔ x = c ∧ rest.head? = some c := by
      rw [List.cons_prefix_cons, eq_comm]
      cases rest with
      | nil => simp
      | cons y ys => simp [List.cons_prefix_cons, eq_comm]
    rw [List.infix_cons_iff, hpair, not_or, ← ih, cutAtLastPair]
    cases cutAtLastPair c rest with
    | some parts => simp
    | none => simp

/-- A character that does not occur does not stand twice in a row. -/
theorem cutAtLastPair_eq_none {c : Char} {cs : List Char} (h : c ∉ cs) :
    cutAtLastPair c cs = none := by
  rw [cutAtLastPair_eq_none_iff]
  exact fun hpair => h (hpair.subset List.mem_cons_self)

/-- A cut puts the two neighbours back between its parts.  They are the last if none follow, not
even together with the second of them. -/
theorem cutAtLastPair_eq_some_iff {c : Char} {cs before after : List Char} :
    cutAtLastPair c cs = some (before, after) ↔
      cs = before ++ c :: c :: after ∧ cutAtLastPair c (c :: after) = none := by
  constructor
  · intro h
    induction cs generalizing before with
    | nil => cases h
    | cons x rest ih =>
      rw [cutAtLastPair] at h
      cases hrest : cutAtLastPair c rest with
      | some parts =>
        rw [hrest] at h
        -- The pair is the one found further on, with `x` in front of what precedes it.
        obtain ⟨rfl, rfl⟩ := Prod.mk.inj (Option.some.inj h)
        obtain ⟨happend, hlast⟩ := ih hrest
        exact ⟨congrArg (x :: ·) happend, hlast⟩
      | none =>
        rw [hrest] at h
        simp only [Option.ite_none_right_eq_some, Option.some.injEq, Prod.mk.injEq] at h
        obtain ⟨⟨rfl, hhead⟩, rfl, rfl⟩ := h
        obtain ⟨tail, rfl⟩ := List.head?_eq_some_iff.mp hhead
        exact ⟨rfl, hrest⟩
  · rintro ⟨rfl, hlast⟩
    induction before with
    | nil =>
      show cutAtLastPair c (c :: c :: after) = some ([], after)
      rw [cutAtLastPair, hlast]
      simp
    | cons x rest ih =>
      show cutAtLastPair c (x :: (rest ++ c :: c :: after)) = some (x :: rest, after)
      rw [cutAtLastPair, ih]

/-- Another character at the end makes no neighbours. -/
theorem cutAtLastPair_concat_eq_none_iff {c d : Char} (hd : d ≠ c) (cs : List Char) :
    cutAtLastPair c (cs ++ [d]) = none ↔ cutAtLastPair c cs = none := by
  have hend : ¬ [c, c] <:+ cs ++ [d] := by
    rintro ⟨before, hbefore⟩
    have hlast := congrArg List.getLast? hbefore
    simp at hlast
    exact hd hlast.symm
  rw [cutAtLastPair_eq_none_iff, cutAtLastPair_eq_none_iff, List.infix_concat_iff, or_iff_right hend]

end SchemaDdl.Text
