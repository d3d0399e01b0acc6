/-
# Parentheses outside of quotes

An expression is read from left to right.  What has been read may have opened a quote, and
within it a parenthesis is a character like any other; outside of quotes parentheses are
counted:

* `Reading.next_eq_some_iff` : what a single character can do;
* `Reading.leavesOpen_iff` : parentheses are open at the end exactly if one is not closed again;
* `balanced_parts_iff` : where a balanced text can be cut into balanced parts.
-/
import SchemaDdl.Proofs.Text.Ending

namespace SchemaDdl.Text

/-! ## Reading an expression -/

/-- What has been read of an expression: whether a quote is open, and how many parentheses
are. -/
structure Reading where
  quoted : Bool
  depth : Nat
  deriving DecidableEq, Repr

namespace Reading

/-- Nothing has been read. -/
def start : Reading :=
  ⟨false, 0⟩

/-- The reading after a further character, unless this closes a parenthesis that was not
opened. -/
def next (r : Reading) (c : Char) : Option Reading :=
  if c = '\'' then some ⟨!r.quoted, r.depth⟩
  else if r.quoted then some r
  else if c = '(' then some ⟨false, r.depth + 1⟩
  else if c = ')' then
    match r.depth with
    | 0 => none
    | depth + 1 => some ⟨false, depth⟩
  else some r

/-- The reading after further characters. -/
def after (r : Reading) (cs : List Char) : Option Reading :=
  cs.foldlM next r

/-- Characters are read one after the other. -/
theorem after_cons (r : Reading) (c : Char) (cs : List Char) :
    r.after (c :: cs) = (r.next c).bind (·.after cs) :=
  List.foldlM_cons

/-- A text is read to any place and from there to its end. -/
theorem after_append_eq_some_iff {r last : Reading} {cs ds : List Char} :
    r.after (cs ++ ds) = some last ↔
      ∃ mid, r.after cs = some mid ∧ mid.after ds = some last := by
  rw [after, List.foldlM_append]
  exact Option.bind_eq_some_iff

/-! ## Steps -/

/-- What a single character does.  An apostrophe opens or closes a quote, parentheses count
outside of quotes, and all else changes nothing. -/
inductive Step : Reading → Char → Reading → Prop where
  | apostrophe (quoted : Bool) (depth : Nat) : Step ⟨quoted, depth⟩ '\'' ⟨!quoted, depth⟩
  | opening (depth : Nat) : Step ⟨false, depth⟩ '(' ⟨false, depth + 1⟩
  | closing (depth : Nat) : Step ⟨false, depth + 1⟩ ')' ⟨false, depth⟩
  | other (r : Reading) (c : Char) (hquote : c ≠ '\'')
      (hcounts : r.quoted = false → c ≠ '(' ∧ c ≠ ')') : Step r c r

/-- A character is read exactly if it makes a step. -/
theorem next_eq_some_iff {r last : Reading} {c : Char} :
    r.next c = some last ↔ Step r c last := by
  constructor
  · intro h
    obtain ⟨quoted, depth⟩ := r
    unfold next at h
    by_cases hquote : c = '\''
    · rw [if_pos hquote] at h
      obtain rfl := Option.some.inj h
      rw [hquote]
      exact .apostrophe quoted depth
    · rw [if_neg hquote] at h
      cases quoted with
      | true =>
        obtain rfl := Option.some.inj h
        exact .other _ c hquote (fun habsurd => nomatch habsurd)
      | false =>
        simp only [Bool.false_eq_true, if_false] at h
        by_cases hopen : c = '('
        · rw [if_pos hopen] at h
          obtain rfl := Option.some.inj h
          rw [hopen]
          exact .opening depth
        · rw [if_neg hopen] at h
          by_cases hclose : c = ')'
          · rw [if_pos hclose] at h
            rw [hclose]
            cases depth with
            | zero => cases h
            | succ depth =>
              obtain rfl := Option.some.inj h
              exact .closing depth
          · rw [if_neg hclose] at h
            obtain rfl := Option.some.inj h
            exact .other _ c hquote (fun _ => ⟨hopen, hclose⟩)
  · intro h
    cases h with
    | apostrophe quoted depth => rfl
    | opening depth => rfl
    | closing depth => rfl
    | other r c hquote hcounts =>
      rw [next, if_neg hquote]
      cases hquoted : r.quoted with
      | true => rfl
      | false =>
        obtain ⟨hopen, hclose⟩ := hcounts hquoted
        simp [hopen, hclose]

/-- A text ends with the step of its last character. -/
theorem after_concat_eq_some_iff {r last : Reading} {cs : List Char} {c : Char} :
    r.after (cs ++ [c]) = some last ↔ ∃ mid, r.after cs = some mid ∧ Step mid c last := by
  have hsingle : ∀ mid : Reading, mid.after [c] = mid.next c := fun mid => by
    rw [after_cons]
    exact Option.bind_fun_some _
  simp only [after_append_eq_some_iff, hsingle, next_eq_some_iff]

/-- A text without apostrophes opens and closes no quotes. -/
theorem quoted_after {r last : Reading} {cs : List Char} (hcs : '\'' ∉ cs)
    (h : r.after cs = some last) : last.quoted = r.quoted := by
  induction cs generalizing r with
  | nil => rw [Option.some.inj h]
  | cons c rest ih =>
    rw [List.mem_cons, not_or] at hcs
    rw [after_cons, Option.bind_eq_some_iff] at h
    obtain ⟨mid, hmid, hlast⟩ := h
    rw [ih hcs.2 hlast]
    cases next_eq_some_iff.mp hmid with
    | apostrophe => exact absurd rfl hcs.1
    | opening => rfl
    | closing => rfl
    | other => rfl

/-- A text of other characters changes nothing. -/
theorem after_eq_self {cs : List Char} (h : ∀ c ∈ cs, c ≠ '\'' ∧ c ≠ '(' ∧ c ≠ ')')
    (r : Reading) : r.after cs = some r := by
  induction cs with
  | nil => rfl
  | cons c rest ih =>
    obtain ⟨hquote, hcounts⟩ := h c List.mem_cons_self
    have hstep : r.next c = some r := next_eq_some_iff.mpr (.other r c hquote fun _ => hcounts)
    rw [after_cons, hstep]
    exact ih fun d hd => h d (List.mem_cons_of_mem c hd)

/-- Blanks around a text change nothing. -/
theorem after_trimmed {r last : Reading} {cs : List Char} (h : r.after cs = some last) :
    r.after (trimmed cs) = some last := by
  have hblank : ∀ c, isBlank c = true → c ≠ '\'' ∧ c ≠ '(' ∧ c ≠ ')' := by
    intro c hc
    refine ⟨?_, ?_, ?_⟩
    all_goals
      rintro rfl
      revert hc
      decide
  obtain ⟨before, after, hcs, hbefore, hafter⟩ := exists_blanks_trimmed cs
  rw [hcs] at h
  obtain ⟨mid, hmid, hlast⟩ := after_append_eq_some_iff.mp h
  obtain ⟨first, hfirst, htrimmed⟩ := after_append_eq_some_iff.mp hmid
  rw [after_eq_self fun c hc => hblank c (hafter c hc)] at hlast
  rw [after_eq_self fun c hc => hblank c (hbefore c hc)] at hfirst
  rw [Option.some.inj hfirst, htrimmed, hlast]

/-! ## Parentheses around a text -/

/-- The same reading within further parentheses. -/
def within (r : Reading) (outer : Nat) : Reading :=
  ⟨r.quoted, r.depth + outer⟩

/-- A character does the same within further parentheses. -/
theorem Step.within {r last : Reading} {c : Char} (h : Step r c last) (outer : Nat) :
    Step (r.within outer) c (last.within outer) := by
  cases h with
  | apostrophe quoted depth => exact .apostrophe quoted (depth + outer)
  | opening depth =>
    show Step ⟨false, depth + outer⟩ '(' ⟨false, depth + 1 + outer⟩
    rw [Nat.add_right_comm]
    exact .opening (depth + outer)
  | closing depth =>
    show Step ⟨false, depth + 1 + outer⟩ ')' ⟨false, depth + outer⟩
    rw [Nat.add_right_comm]
    exact .closing (depth + outer)
  | other r c hquote hcounts => exact .other _ c hquote hcounts

/-- A text is read alike within further parentheses. -/
theorem after_within {r last : Reading} {cs : List Char} (h : r.after cs = some last)
    (outer : Nat) : (r.within outer).after cs = some (last.within outer) := by
  induction cs generalizing r with
  | nil =>
    rw [Option.some.inj h]
    rfl
  | cons c rest ih =>
    rw [after_cons, Option.bind_eq_some_iff] at h
    obtain ⟨mid, hmid, hlast⟩ := h
    have hstep : (r.within outer).next c = some (mid.within outer) :=
      next_eq_some_iff.mpr ((next_eq_some_iff.mp hmid).within outer)
    rw [after_cons, hstep]
    exact ih hlast

/-! ## Parentheses that are left open -/

/-- A text that leaves parentheses open has an outermost one of them, and what follows it is
read on its own. -/
theorem exists_opening {cs : List Char} {last : Reading} {n : Nat}
    (h : start.after cs = some last) (hdepth : last.depth = n + 1) :
    ∃ before inside, cs = before ++ '(' :: inside ∧ start.after before = some start ∧
      start.after inside = some ⟨last.quoted, n⟩ := by
  induction cs using List.reverseRecOn generalizing last n with
  | nil =>
    obtain rfl := Option.some.inj h
    cases hdepth
  | append_singleton cs c ih =>
    obtain ⟨mid, hmid, hstep⟩ := after_concat_eq_some_iff.mp h
    -- The parenthesis was open before the last character, which is then read inside of it.
    have hlater : ∀ {m : Nat}, mid.depth = m + 1 →
        Step ⟨mid.quoted, m⟩ c ⟨last.quoted, n⟩ →
        ∃ before inside, cs ++ [c] = before ++ '(' :: inside ∧ start.after before = some start ∧
          start.after inside = some ⟨last.quoted, n⟩ := by
      intro m hm hinside
      obtain ⟨before, inside, rfl, hbefore, hafter⟩ := ih hmid hm
      refine ⟨before, inside ++ [c], by simp, hbefore, ?_⟩
      exact after_concat_eq_some_iff.mpr ⟨_, hafter, hinside⟩
    cases hstep with
    | apostrophe quoted depth => exact hlater hdepth (.apostrophe quoted n)
    | closing depth =>
      obtain rfl : depth = n + 1 := hdepth
      exact hlater rfl (.closing n)
    | other r c hquote hcounts => exact hlater hdepth (.other _ c hquote hcounts)
    | opening depth =>
      obtain rfl : depth = n := Nat.succ.inj hdepth
      cases depth with
      | zero => exact ⟨cs, [], rfl, hmid, rfl⟩
      | succ depth => exact hlater rfl (.opening depth)

end Reading

/-- A text leaves a parenthesis open: one that is opened outside of quotes, and that nothing
after it closes. -/
def LeavesOpen (cs : List Char) : Prop :=
  ∃ before inside depth last, cs = before ++ '(' :: inside ∧
    Reading.start.after before = some ⟨false, depth⟩ ∧ Reading.start.after inside = some last

/-- A text that can be read leaves a parenthesis open exactly if some are open at its end. -/
theorem Reading.leavesOpen_iff {cs : List Char} {last : Reading}
    (h : Reading.start.after cs = some last) : LeavesOpen cs ↔ last.depth ≠ 0 := by
  constructor
  · rintro ⟨before, inside, depth, inner, rfl, hbefore, hinside⟩
    obtain ⟨mid, hmid, hrest⟩ := after_append_eq_some_iff.mp h
    obtain rfl : mid = ⟨false, depth⟩ := Option.some.inj (hmid.symm.trans hbefore)
    have hopened : after ⟨false, depth + 1⟩ inside = some last := hrest
    have hwithin := after_within hinside (depth + 1)
    have hstart : start.within (depth + 1) = ⟨false, depth + 1⟩ := by
      rw [within, start, Nat.zero_add]
    rw [hstart, hopened] at hwithin
    rw [Option.some.inj hwithin]
    exact Nat.succ_ne_zero (inner.depth + depth)
  · intro hdepth
    obtain ⟨n, hn⟩ := Nat.exists_eq_succ_of_ne_zero hdepth
    obtain ⟨before, inside, hcs, hbefore, hinside⟩ := exists_opening h hn
    exact ⟨before, inside, 0, _, hcs, hbefore, hinside⟩

/-! ## Balanced texts -/

/-- The parentheses of a text that stands within quotes or outside of them are balanced; those
in quotes do not count. -/
def BalancedFrom (quoted : Bool) (cs : List Char) : Prop :=
  (Reading.after ⟨quoted, 0⟩ cs).map Reading.depth = some 0

/-- The parentheses of a text outside of quotes are balanced. -/
def Balanced (cs : List Char) : Prop :=
  BalancedFrom false cs

instance (quoted : Bool) : DecidablePred (BalancedFrom quoted) := fun cs =>
  inferInstanceAs (Decidable ((Reading.after ⟨quoted, 0⟩ cs).map Reading.depth = some 0))

instance : DecidablePred Balanced :=
  inferInstanceAs (DecidablePred (BalancedFrom false))

/-- **Balanced parts.**  Both parts of a balanced text, of which the second has no apostrophes,
are balanced exactly if the first does not leave a parenthesis open. -/
theorem balanced_parts_iff {cs ds : List Char} {quoted : Bool}
    (h : Reading.start.after (cs ++ ds) = some ⟨quoted, 0⟩) (hds : '\'' ∉ ds) :
    (Balanced cs ↔ ¬ LeavesOpen cs) ∧ (BalancedFrom quoted ds ↔ ¬ LeavesOpen cs) := by
  obtain ⟨⟨midQuoted, depth⟩, hmid, hrest⟩ := Reading.after_append_eq_some_iff.mp h
  obtain rfl : quoted = midQuoted := Reading.quoted_after hds hrest
  have hopen : LeavesOpen cs ↔ depth ≠ 0 := Reading.leavesOpen_iff hmid
  rw [hopen, not_not]
  constructor
  · show (Reading.start.after cs).map Reading.depth = some 0 ↔ depth = 0
    rw [hmid, Option.map_some, Option.some.injEq]
  · constructor
    · intro hbalanced
      obtain ⟨last, hlast, hdepth⟩ := Option.map_eq_some_iff.mp hbalanced
      -- Within the open parentheses it leaves as many open as there were.
      have hwithin := Reading.after_within hlast depth
      have hfrom : Reading.within ⟨quoted, 0⟩ depth = ⟨quoted, depth⟩ := by
        rw [Reading.within, Nat.zero_add]
      rw [hfrom, hrest] at hwithin
      have hend : 0 = last.depth + depth :=
        congrArg Reading.depth (Option.some.inj hwithin)
      omega
    · intro hdepth
      rw [hdepth] at hrest
      rw [BalancedFrom, hrest]
      rfl

end SchemaDdl.Text
