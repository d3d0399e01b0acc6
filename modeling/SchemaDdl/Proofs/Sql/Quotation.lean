/-
# Apostrophes in statements

In a statement an apostrophe opens a string literal, which ends at the next apostrophe that is
not followed by another; two in a row stand for one.  The quotes of a text are closed if it
can be read to its end in this way:

* `quotesClosed_iff_even` : a text can exactly if the number of its apostrophes is even;
* `quotesClosed_append_iff` : a text whose quotes are not closed turns what follows inside out.
-/
import Mathlib
import SchemaDdl.Sql.Literal

namespace SchemaDdl.Sql

/-- Every apostrophe of a text belongs to a complete string literal: other characters and
string literals follow one another, and no literal is followed by an apostrophe, which would
be one of its own characters. -/
inductive QuotesClosed : List Char → Prop where
  | nil : QuotesClosed []
  | other {c : Char} {rest : List Char} (hc : c ≠ '\'') (hrest : QuotesClosed rest) :
      QuotesClosed (c :: rest)
  | literal (value : List Char) {rest : List Char} (hnext : rest.head? ≠ some '\'')
      (hrest : QuotesClosed rest) : QuotesClosed ('\'' :: (doubleQuotes value ++ '\'' :: rest))

/-- A text goes on within a string literal that was opened before, up to the end of the
literal, and all quotes after that are closed. -/
def ClosesLiteral (cs : List Char) : Prop :=
  ∃ value rest, cs = doubleQuotes value ++ '\'' :: rest ∧ rest.head? ≠ some '\'' ∧
    QuotesClosed rest

/-- Doubling makes the number of apostrophes even. -/
theorem even_count_doubleQuotes (cs : List Char) : Even ((doubleQuotes cs).count '\'') := by
  induction cs with
  | nil => exact Even.zero
  | cons c rest ih =>
    rw [doubleQuotes]
    by_cases hc : c = '\''
    · rw [if_pos hc, List.count_cons_self, List.count_cons_self, Nat.add_assoc]
      exact ih.add even_two
    · rwa [if_neg hc, List.count_cons_of_ne hc]

/-- Closed quotes come in pairs. -/
theorem QuotesClosed.even_count {cs : List Char} (h : QuotesClosed cs) :
    Even (cs.count '\'') := by
  induction h with
  | nil => exact Even.zero
  | other hc _ ih => rwa [List.count_cons_of_ne hc]
  | @literal value rest _ _ ih =>
    rw [List.count_cons_self, List.count_append, List.count_cons_self, ← Nat.add_assoc,
      Nat.add_assoc]
    exact ((even_count_doubleQuotes value).add ih).add even_two

/-- A text of which the quotes are closed and that begins with an apostrophe begins with a
string literal. -/
theorem QuotesClosed.closesLiteral {cs : List Char} (h : QuotesClosed ('\'' :: cs)) :
    ClosesLiteral cs := by
  cases h with
  | other hc _ => exact absurd rfl hc
  | literal value hnext hrest => exact ⟨value, _, rfl, hnext, hrest⟩

/-- Paired apostrophes are closed quotes, and an apostrophe without its pair closes a literal
that was opened before. -/
theorem quotesClosed_and_closesLiteral (cs : List Char) :
    (Even (cs.count '\'') → QuotesClosed cs) ∧ (Odd (cs.count '\'') → ClosesLiteral cs) := by
  induction cs with
  | nil => exact ⟨fun _ => .nil, fun hodd => by simp at hodd⟩
  | cons c rest ih =>
    obtain ⟨hclosed, hcloses⟩ := ih
    by_cases hc : c = '\''
    · rw [hc, List.count_cons_self, Nat.even_add_one, Nat.odd_add_one, Nat.not_even_iff_odd,
        Nat.not_odd_iff_even]
      constructor
      · intro hodd
        obtain ⟨value, rest, rfl, hnext, hrest⟩ := hcloses hodd
        exact .literal value hnext hrest
      · intro heven
        by_cases hnext : rest.head? = some '\''
        · -- Two apostrophes in a row stand for one in the literal.
          obtain ⟨rest, rfl⟩ := List.head?_eq_some_iff.mp hnext
          obtain ⟨value, rest, rfl, hend⟩ := (hclosed heven).closesLiteral
          exact ⟨'\'' :: value, rest, rfl, hend⟩
        · exact ⟨[], rest, rfl, hnext, hclosed heven⟩
    · rw [List.count_cons_of_ne hc]
      refine ⟨fun heven => .other hc (hclosed heven), fun hodd => ?_⟩
      obtain ⟨value, rest, rfl, hend⟩ := hcloses hodd
      exact ⟨c :: value, rest, by simp [doubleQuotes, hc], hend⟩

/-- **Closed quotes.**  The quotes of a text are closed exactly if the number of its
apostrophes is even. -/
theorem quotesClosed_iff_even (cs : List Char) : QuotesClosed cs ↔ Even (cs.count '\'') :=
  ⟨QuotesClosed.even_count, (quotesClosed_and_closesLiteral cs).1⟩

instance : DecidablePred QuotesClosed :=
  fun cs => decidable_of_iff _ (quotesClosed_iff_even cs).symm

/-- Of two texts in a row the quotes are closed if they are so in both, or in neither: what
follows a text whose quotes are not closed is turned inside out. -/
theorem quotesClosed_append_iff (cs ds : List Char) :
    QuotesClosed (cs ++ ds) ↔ (QuotesClosed cs ↔ QuotesClosed ds) := by
  simp only [quotesClosed_iff_even, List.count_append, Nat.even_add]

/-- A text without apostrophes opens no quotes. -/
theorem quotesClosed_of_not_mem {cs : List Char} (h : '\'' ∉ cs) : QuotesClosed cs := by
  rw [quotesClosed_iff_even, List.count_eq_zero.mpr h]
  exact Even.zero

/-- The quotes of a string literal are closed, whatever it holds. -/
theorem quotesClosed_quoteLiteral (s : String) : QuotesClosed (quoteLiteral s).toList := by
  rw [quoteLiteral, String.toList_ofList]
  exact .literal s.toList (by simp) .nil

example : QuotesClosed "'it''s'".toList ∧ ¬ QuotesClosed "'it's'".toList := by decide

end SchemaDdl.Sql
