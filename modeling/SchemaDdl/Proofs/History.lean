/-
# Histories

Columns and tables are made by changes one after another, and the latest of them count.  What
happened in such a history, and what has happened since:

* `holds_foldl` : what each step keeps holds of every history;
* `append_singleton_eq_append_cons_iff` : where something stands in a history that goes on;
* `HappenedSince` : something has happened, and nothing of another kind since;
* `happenedSince_concat_iff` : this when the history goes on;
* `eraseDupsBy_concat` : the first of each kind when the history goes on.
-/
import Mathlib

namespace SchemaDdl

variable {α : Type}

/-- What holds at first and is kept by each step holds of every history and what it leads to. -/
theorem holds_foldl {σ : Type} {P : List α → σ → Prop} {step : σ → α → σ} {first : σ}
    (hfirst : P [] first)
    (hstep : ∀ history s x, P history s → P (history ++ [x]) (step s x)) (history : List α) :
    P history (history.foldl step first) := by
  induction history using List.reverseRecOn with
  | nil => exact hfirst
  | append_singleton history x ih =>
    rw [List.foldl_concat]
    exact hstep history _ x ih

/-- In a list with one more element something stands at its end, or where it stood before. -/
theorem append_singleton_eq_append_cons_iff {xs before after : List α} {x y : α} :
    xs ++ [x] = before ++ y :: after ↔
      xs = before ∧ x = y ∧ after = [] ∨
        ∃ rest, after = rest ++ [x] ∧ xs = before ++ y :: rest := by
  constructor
  · intro hsplit
    rcases List.eq_nil_or_concat after with rfl | ⟨rest, last, rfl⟩
    · obtain ⟨rfl, rfl⟩ := List.append_singleton_inj.mp hsplit
      exact .inl ⟨rfl, rfl, rfl⟩
    · rw [List.concat_eq_append, ← List.cons_append, ← List.append_assoc] at hsplit
      obtain ⟨rfl, rfl⟩ := List.append_singleton_inj.mp hsplit
      exact .inr ⟨rest, List.concat_eq_append, rfl⟩
  · rintro (⟨rfl, rfl, rfl⟩ | ⟨rest, rfl, rfl⟩)
    · rfl
    · simp

/-- Something of one kind has happened, and nothing of another kind since. -/
def HappenedSince (p q : α → Prop) (history : List α) : Prop :=
  ∃ before x after, history = before ++ x :: after ∧ p x ∧ ∀ y ∈ after, ¬ q y

/-- At the start of a history nothing has happened. -/
theorem not_happenedSince_nil (p q : α → Prop) : ¬ HappenedSince p q [] := by
  rintro ⟨before, x, after, hsplit, _⟩
  simp at hsplit

/-- As a history goes on, something happens, or it has happened and what comes next is not of the
other kind. -/
theorem happenedSince_concat_iff {p q : α → Prop} {history : List α} {x : α} :
    HappenedSince p q (history ++ [x]) ↔ p x ∨ ¬ q x ∧ HappenedSince p q history := by
  constructor
  · rintro ⟨before, y, after, hsplit, hy, hafter⟩
    rcases append_singleton_eq_append_cons_iff.mp hsplit with
      ⟨-, rfl, -⟩ | ⟨rest, rfl, rfl⟩
    · exact .inl hy
    · exact .inr ⟨hafter x (by simp),
        before, y, rest, rfl, hy, fun z hz => hafter z (by simp [hz])⟩
  · rintro (hx | ⟨hx, before, y, after, rfl, hy, hafter⟩)
    · exact ⟨history, x, [], rfl, hx, by simp⟩
    · refine ⟨before, y, after ++ [x], by simp, hy, fun z hz => ?_⟩
      rcases List.mem_append.mp hz with hz | hz
      · exact hafter z hz
      · rwa [List.mem_singleton.mp hz]

/-- As a history goes on, what comes next is like something before, or the first of its kind. -/
theorem eraseDupsBy_concat {r : α → α → Bool}
    (htrans : ∀ a b c, r a b = true → r b c = true → r a c = true) (xs : List α) (x : α) :
    (xs ++ [x]).eraseDupsBy r =
      if xs.any (r x) then xs.eraseDupsBy r else xs.eraseDupsBy r ++ [x] := by
  match xs with
  | [] => simp [List.eraseDupsBy_cons]
  | y :: rest =>
    rw [List.cons_append, List.eraseDupsBy_cons, List.eraseDupsBy_cons, List.filter_append,
      List.any_cons]
    cases hy : r x y with
    | true => simp [hy]
    | false =>
      -- What is like `x` is not like `y`, so it is still there.
      have hany : (rest.filter fun z => r z y = false).any (r x) = rest.any (r x) := by
        rw [List.any_filter]
        congr 1
        funext z
        cases hz : r x z with
        | false => simp
        | true =>
          have hzy : r z y = false := by
            by_contra hzy
            rw [Bool.not_eq_false] at hzy
            rw [htrans _ _ _ hz hzy] at hy
            cases hy
          simp [hzy]
      have hrest := eraseDupsBy_concat htrans (rest.filter fun z => r z y = false) x
      have hlast : [x].filter (fun z => r z y = false) = [x] := by simp [hy]
      rw [hlast, hrest, hany, Bool.false_or]
      split <;> rfl
termination_by xs.length
decreasing_by exact Nat.lt_succ_of_le (List.length_filter_le _ _)

end SchemaDdl
