/-
# The primary key constraint of a table

Constraints are added to a table one after another, between changes of other kinds.  A primary
key takes the place of an earlier one, and any other constraint goes to the end:

* `HoldsLastKey` : the constraints that are held of those that were added;
* `HoldsLastKey.insertConstraint` : one more constraint, by the cases of its insertion;
* `HoldsLastKey.eq` : what is held is determined by what was added;
* `Table.holdsLastKey_iff_eq_edits` : the constraints of a table after any changes.
-/
import SchemaDdl.Proofs.History
import SchemaDdl.Sql.Table

namespace SchemaDdl

/-- Whether a constraint is a primary key. -/
def Constraint.isKey (c : Constraint) : Bool :=
  c.kind == .primaryKey

/-! ## Inserting a constraint -/

/-- A primary key has no place to take if there is none yet. -/
theorem replacePrimaryKey_eq_none {constraints : List Constraint}
    (h : ∀ c ∈ constraints, c.isKey = false) (key : Constraint) :
    replacePrimaryKey key constraints = none := by
  induction constraints with
  | nil => rfl
  | cons c rest ih =>
    have hc : c.kind ≠ .primaryKey := by simpa [Constraint.isKey] using h c (by simp)
    rw [replacePrimaryKey, if_neg hc, ih fun c' hc' => h c' (by simp [hc'])]
    rfl

/-- A primary key takes the place of the first one. -/
theorem replacePrimaryKey_append_cons {before : List Constraint} {old : Constraint}
    (hbefore : ∀ c ∈ before, c.isKey = false) (hold : old.isKey = true) (key : Constraint)
    (after : List Constraint) :
    replacePrimaryKey key (before ++ old :: after) = some (before ++ key :: after) := by
  induction before with
  | nil =>
    have hkind : old.kind = .primaryKey := by simpa [Constraint.isKey] using hold
    rw [List.nil_append, replacePrimaryKey, if_pos hkind, List.nil_append]
  | cons c rest ih =>
    have hc : c.kind ≠ .primaryKey := by simpa [Constraint.isKey] using hbefore c (by simp)
    rw [List.cons_append, replacePrimaryKey, if_neg hc,
      ih fun c' hc' => hbefore c' (by simp [hc'])]
    rfl

/-- A constraint that is no primary key goes to the end. -/
theorem insertConstraint_of_not_isKey {c : Constraint} (hc : c.isKey = false)
    (constraints : List Constraint) : insertConstraint constraints c = constraints ++ [c] := by
  have hkind : c.kind ≠ .primaryKey := by simpa [Constraint.isKey] using hc
  rw [insertConstraint, if_neg hkind]

/-- So does the first primary key. -/
theorem insertConstraint_first_key {constraints : List Constraint}
    (h : ∀ c ∈ constraints, c.isKey = false) (key : Constraint) :
    insertConstraint constraints key = constraints ++ [key] := by
  rw [insertConstraint, replacePrimaryKey_eq_none h]
  split <;> rfl

/-- A later one takes the place of that which is held. -/
theorem insertConstraint_next_key {before : List Constraint} {old key : Constraint}
    (hbefore : ∀ c ∈ before, c.isKey = false) (hold : old.isKey = true)
    (hkey : key.isKey = true) (after : List Constraint) :
    insertConstraint (before ++ old :: after) key = before ++ key :: after := by
  have hkind : key.kind = .primaryKey := by simpa [Constraint.isKey] using hkey
  rw [insertConstraint, if_pos hkind, replacePrimaryKey_append_cons hbefore hold]
  rfl

/-! ## The constraints that are held -/

/-- Of constraints that were added, all are held in order but for the primary keys.  At most one
of these is held: it is the last that was added, and it stands where the first was put. -/
structure HoldsLastKey (added held : List Constraint) : Prop where
  countP_le_one : held.countP Constraint.isKey ≤ 1
  last : held.find? Constraint.isKey = (added.filter Constraint.isKey).getLast?
  place : held.findIdx? Constraint.isKey = added.findIdx? Constraint.isKey
  others : held.filter (!·.isKey) = added.filter (!·.isKey)

/-- Where there is no primary key all constraints are others. -/
theorem filter_not_isKey_eq_self {constraints : List Constraint}
    (h : ∀ c ∈ constraints, c.isKey = false) : constraints.filter (!·.isKey) = constraints :=
  List.filter_eq_self.mpr fun c hc => by simp [h c hc]

section Held

variable {added held : List Constraint}

/-- Nothing is held of nothing. -/
theorem HoldsLastKey.nil : HoldsLastKey [] [] :=
  ⟨Nat.zero_le 1, rfl, rfl, rfl⟩

/-- Without a primary key exactly what was added is held. -/
theorem holdsLastKey_iff_eq (hheld : ∀ c ∈ held, c.isKey = false) :
    HoldsLastKey added held ↔ held = added := by
  have hkeys : held.filter Constraint.isKey = [] :=
    List.filter_eq_nil_iff.mpr fun c hc => by simp [hheld c hc]
  have hothers := filter_not_isKey_eq_self hheld
  have hfind : held.find? Constraint.isKey = none :=
    List.find?_eq_none.mpr fun c hc => by simp [hheld c hc]
  constructor
  · intro h
    have hadded : added.filter Constraint.isKey = [] :=
      List.getLast?_eq_none_iff.mp (h.last.symm.trans hfind)
    have hall : ∀ c ∈ added, c.isKey = false := by simpa using hadded
    rw [← hothers, h.others, filter_not_isKey_eq_self hall]
  · rintro rfl
    refine ⟨?_, ?_, rfl, rfl⟩
    · rw [List.countP_eq_length_filter, hkeys, List.length_nil]
      exact Nat.zero_le 1
    · rw [hfind, hkeys, List.getLast?_nil]

/-- With a primary key, this is the last that was added, the first was put in its place, and the
others stand around it. -/
theorem holdsLastKey_append_cons_iff {before after : List Constraint} {key : Constraint}
    (hkey : key.isKey = true) (hbefore : ∀ c ∈ before, c.isKey = false) :
    HoldsLastKey added (before ++ key :: after) ↔
      (∀ c ∈ after, c.isKey = false) ∧ (added.filter Constraint.isKey).getLast? = some key ∧
        added.findIdx? Constraint.isKey = some before.length ∧
        added.filter (!·.isKey) = before ++ after := by
  have hnone : before.findIdx? Constraint.isKey = none := List.findIdx?_eq_none_iff.mpr hbefore
  have hcount : (before ++ key :: after).countP Constraint.isKey ≤ 1 ↔
      ∀ c ∈ after, c.isKey = false := by
    have hzero : before.countP Constraint.isKey = 0 :=
      List.countP_eq_zero.mpr fun c hc => by simp [hbefore c hc]
    rw [List.countP_append, hzero, List.countP_cons_of_pos hkey, Nat.zero_add]
    simp [List.countP_eq_zero]
  have hlast : (before ++ key :: after).find? Constraint.isKey = some key :=
    List.find?_eq_some_iff_append.mpr
      ⟨hkey, before, after, rfl, fun c hc => by simp [hbefore c hc]⟩
  have hplace : (before ++ key :: after).findIdx? Constraint.isKey = some before.length := by
    simp [List.findIdx?_append, hnone, List.findIdx?_cons, hkey]
  have hothers (hafter : ∀ c ∈ after, c.isKey = false) :
      (before ++ key :: after).filter (!·.isKey) = before ++ after := by
    rw [List.filter_append, List.filter_cons_of_neg (by simp [hkey]),
      filter_not_isKey_eq_self hbefore, filter_not_isKey_eq_self hafter]
  constructor
  · rintro ⟨hle, hlast', hplace', hothers'⟩
    have hafter := hcount.mp hle
    exact ⟨hafter, hlast'.symm.trans hlast, hplace'.symm.trans hplace,
      hothers'.symm.trans (hothers hafter)⟩
  · rintro ⟨hafter, hlast', hplace', hothers'⟩
    exact ⟨hcount.mpr hafter, hlast.trans hlast'.symm, hplace.trans hplace'.symm,
      (hothers hafter).trans hothers'.symm⟩

/-- Constraints have no primary key, or a first one. -/
theorem forall_not_isKey_or_exists_first (constraints : List Constraint) :
    (∀ c ∈ constraints, c.isKey = false) ∨
      ∃ before key after, constraints = before ++ key :: after ∧
        (∀ c ∈ before, c.isKey = false) ∧ key.isKey = true := by
  cases hfind : constraints.find? Constraint.isKey with
  | none => exact .inl fun c hc => by simpa using List.find?_eq_none.mp hfind c hc
  | some key =>
    obtain ⟨hkey, before, after, rfl, hbefore⟩ := List.find?_eq_some_iff_append.mp hfind
    exact .inr ⟨before, key, after, rfl, fun c hc => by simpa using hbefore c hc, hkey⟩

/-- One more constraint is held as it has to be. -/
theorem HoldsLastKey.insertConstraint (h : HoldsLastKey added held) (c : Constraint) :
    HoldsLastKey (added ++ [c]) (insertConstraint held c) := by
  cases hc : c.isKey with
  | false =>
    rw [insertConstraint_of_not_isKey hc]
    refine ⟨?_, ?_, ?_, ?_⟩
    · simpa [List.countP_append, hc] using h.countP_le_one
    · simp [List.find?_append, hc, h.last]
    · simp [List.findIdx?_append, List.findIdx?_cons, hc, h.place]
    · simp [List.filter_append, h.others]
  | true =>
    rcases forall_not_isKey_or_exists_first held with
      hheld | ⟨before, old, after, rfl, hbefore, hold⟩
    · obtain rfl := (holdsLastKey_iff_eq hheld).mp h
      rw [insertConstraint_first_key hheld]
      have hothers := filter_not_isKey_eq_self hheld
      refine (holdsLastKey_append_cons_iff hc hheld).mpr ⟨by simp, ?_, ?_, ?_⟩
      · simp [List.filter_append, hc]
      · simp [List.findIdx?_append, List.findIdx?_cons, hc, List.findIdx?_eq_none_iff.mpr hheld]
      · simp [List.filter_append, hothers, hc]
    · rw [insertConstraint_next_key hbefore hold hc]
      obtain ⟨hafter, -, hplace, hothers⟩ := (holdsLastKey_append_cons_iff hold hbefore).mp h
      refine (holdsLastKey_append_cons_iff hc hbefore).mpr ⟨hafter, ?_, ?_, ?_⟩
      · simp [List.filter_append, hc]
      · simp [List.findIdx?_append, hplace]
      · simp [List.filter_append, hothers, hc]

/-- What is held is determined by what was added. -/
theorem HoldsLastKey.eq {held' : List Constraint} (h : HoldsLastKey added held)
    (h' : HoldsLastKey added held') : held = held' := by
  rcases forall_not_isKey_or_exists_first held with
    hheld | ⟨before, key, after, rfl, hbefore, hkey⟩
  · obtain rfl := (holdsLastKey_iff_eq hheld).mp h
    have hheld' : ∀ c ∈ held', c.isKey = false := by
      have hnone := h'.place.trans (List.findIdx?_eq_none_iff.mpr hheld)
      exact List.findIdx?_eq_none_iff.mp hnone
    exact ((holdsLastKey_iff_eq hheld').mp h').symm
  · obtain ⟨-, hlast, hplace, hothers⟩ := (holdsLastKey_append_cons_iff hkey hbefore).mp h
    rcases forall_not_isKey_or_exists_first held' with
      hheld' | ⟨before', key', after', rfl, hbefore', hkey'⟩
    · have hnone := h'.place.symm.trans (List.findIdx?_eq_none_iff.mpr hheld')
      rw [hplace] at hnone
      cases hnone
    · obtain ⟨-, hlast', hplace', hothers'⟩ :=
        (holdsLastKey_append_cons_iff hkey' hbefore').mp h'
      -- Both stand at one place among the same others.
      have hlength : before.length = before'.length :=
        Option.some.inj (hplace.symm.trans hplace')
      obtain ⟨rfl, rfl⟩ := List.append_inj (hothers.symm.trans hothers') hlength
      rw [Option.some.inj (hlast.symm.trans hlast')]

end Held

/-! ## Tables -/

/-- The constraint that a change adds. -/
def TableEdit.constraint? : TableEdit → Option Constraint
  | .constraint c => some c
  | _ => none

/-- The constraints of a table are made by the changes that add one. -/
theorem Table.constraints_edits (t : Table) (changes : List TableEdit) :
    (t.edits changes).constraints =
      (changes.filterMap TableEdit.constraint?).foldl insertConstraint t.constraints :=
  t.part_edits Table.constraints TableEdit.constraint? insertConstraint
    (fun _ change => by cases change <;> rfl) changes

/-- After changes to a new table it holds what it has to of the constraints that were added. -/
theorem Table.holdsLastKey_edits (name : String) (changes : List TableEdit) :
    HoldsLastKey (changes.filterMap TableEdit.constraint?)
      ((Table.new name).edits changes).constraints := by
  rw [constraints_edits]
  exact holds_foldl .nil (fun _ _ c h => h.insertConstraint c) _

/-- **One primary key.**  After any changes to a new table its constraints are determined by
those that were added: at most one of them is a primary key, which is the last that was added
and stands where the first was put, and all others are there in the order in which they were
added. -/
theorem Table.holdsLastKey_iff_eq_edits (name : String) (changes : List TableEdit)
    (held : List Constraint) :
    HoldsLastKey (changes.filterMap TableEdit.constraint?) held ↔
      held = ((Table.new name).edits changes).constraints := by
  constructor
  · intro h
    exact h.eq (holdsLastKey_edits name changes)
  · rintro rfl
    exact holdsLastKey_edits name changes

example : ((Table.new "memberships").edits [.constraint (.primaryKey ["user_id"]),
    .constraint (.unique ["slot"]),
    .constraint (.primaryKey ["user_id", "group_id"])]).constraints =
      [.primaryKey ["user_id", "group_id"], .unique ["slot"]] := rfl

end SchemaDdl
