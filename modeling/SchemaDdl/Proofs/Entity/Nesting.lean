/-
# Nested structs with and without a bound

Expansion follows inline embeddings to a bounded depth, which ends it on structs that are
nested in themselves.  The bound does not show where structs are nested less deeply:

* `expands_lentFields`, `expands_lentFields_of_nestsWithin` : expansion with the bound, and
  without it;
* `not_expands_of_isCyclic` : without it, a cycle has no expansion;
* `allFieldsOf_depthFirst` : the fields of a struct as those of its places, depth first.
-/
import SchemaDdl.Proofs.Entity.Occurrence

namespace SchemaDdl

namespace Metadata

/-! ## Chains of inline embeddings -/

/-- A chain of inline embeddings: the first stands in the given struct, and each other in
the struct that the one before it embeds. -/
def InlineChain (m : Metadata) : String → List Embedding → Prop
  | _, [] => True
  | owner, e :: rest =>
    e ∈ m.embeddingsOf owner ∧ e.mode = .inline ∧ m.InlineChain e.embedded rest

/-- The struct that a chain leads to. -/
def chainEnd : String → List Embedding → String
  | owner, [] => owner
  | _, e :: rest => chainEnd e.embedded rest

/-- No chain from a struct has more than the given number of embeddings. -/
def NestsWithin (m : Metadata) (levels : Nat) (owner : String) : Prop :=
  ∀ chain, m.InlineChain owner chain → chain.length ≤ levels

/-- A chain from a struct leads to one that it has passed through. -/
def IsCyclic (m : Metadata) (owner : String) : Prop :=
  ∃ start cycle, cycle ≠ [] ∧ m.InlineChain owner (start ++ cycle) ∧
    chainEnd owner (start ++ cycle) = chainEnd owner start

variable {m : Metadata} {owner : String}

/-- Nothing is nested in a struct without inline embeddings. -/
theorem nestsWithin_zero_iff :
    m.NestsWithin 0 owner ↔ ∀ e ∈ m.embeddingsOf owner, e.mode ≠ .inline := by
  constructor
  · intro h e he hmode
    have hlength := h [e] ⟨he, hmode, trivial⟩
    simp at hlength
  · intro h chain hchain
    cases chain with
    | nil => exact le_rfl
    | cons e rest => exact absurd hchain.2.1 (h e hchain.1)

/-- What is nested in a struct is nested less deeply in those that it embeds. -/
theorem nestsWithin_succ_iff {levels : Nat} :
    m.NestsWithin (levels + 1) owner ↔
      ∀ e ∈ m.embeddingsOf owner, e.mode = .inline → m.NestsWithin levels e.embedded := by
  constructor
  · intro h e he hmode chain hchain
    exact Nat.le_of_succ_le_succ (h (e :: chain) ⟨he, hmode, hchain⟩)
  · intro h chain hchain
    cases chain with
    | nil => exact Nat.zero_le _
    | cons e rest =>
      have hrest := h e hchain.1 hchain.2.1 rest hchain.2.2
      exact Nat.succ_le_succ hrest

/-- Whether structs are nested within a bound is found by going through them. -/
instance decidableNestsWithin (m : Metadata) :
    ∀ levels owner, Decidable (m.NestsWithin levels owner)
  | 0, _ => decidable_of_iff _ nestsWithin_zero_iff.symm
  | levels + 1, _ =>
    have := decidableNestsWithin m levels
    decidable_of_iff _ nestsWithin_succ_iff.symm

/-- A chain goes on from the struct that its first part leads to. -/
theorem inlineChain_append_iff {first second : List Embedding} :
    m.InlineChain owner (first ++ second) ↔
      m.InlineChain owner first ∧ m.InlineChain (chainEnd owner first) second := by
  induction first generalizing owner with
  | nil => simp [InlineChain, chainEnd]
  | cons e rest ih => simp [InlineChain, chainEnd, ih, and_assoc]

/-- Two chains in a row lead to where the second does. -/
theorem chainEnd_append (owner : String) (first second : List Embedding) :
    chainEnd owner (first ++ second) = chainEnd (chainEnd owner first) second := by
  induction first generalizing owner with
  | nil => rfl
  | cons e rest ih => exact ih e.embedded

/-- A chain that comes back can be followed any number of times. -/
theorem inlineChain_replicate {cycle : List Embedding} (hchain : m.InlineChain owner cycle)
    (hback : chainEnd owner cycle = owner) (n : Nat) :
    m.InlineChain owner (List.replicate n cycle).flatten := by
  induction n with
  | zero => trivial
  | succ n ih =>
    rw [List.replicate_succ, List.flatten_cons, inlineChain_append_iff, hback]
    exact ⟨hchain, ih⟩

/-- Where a struct is nested in itself no bound holds. -/
theorem not_nestsWithin_of_isCyclic (h : m.IsCyclic owner) (levels : Nat) :
    ¬ m.NestsWithin levels owner := by
  intro hwithin
  obtain ⟨start, cycle, hne, hchain, hback⟩ := h
  rw [inlineChain_append_iff] at hchain
  rw [chainEnd_append] at hback
  -- Once more around than the bound allows.
  have hrounds := inlineChain_replicate hchain.2 hback (levels + 1)
  have hlength := hwithin _ (inlineChain_append_iff.mpr ⟨hchain.1, hrounds⟩)
  have hpos : 1 ≤ cycle.length := List.length_pos_iff.mpr hne
  have hrounded : levels + 1 ≤ (levels + 1) * cycle.length := Nat.le_mul_of_pos_right _ hpos
  rw [List.length_append, List.length_flatten, List.map_replicate, List.sum_replicate,
    smul_eq_mul] at hlength
  omega

/-! ## The rules of expansion -/

/-- The rules of expansion, from the given depth on.  A struct has its own fields and what
its embeddings contribute.  An inline embedding is followed where expansion goes on, and
lends nothing elsewhere. -/
inductive Expands (m : Metadata) (goesOn : Nat → Prop) : Nat → String → List Field → Prop where
  | struct {depth : Nat} {owner : String} (lent : String → List Field)
      (hfollowed : ∀ e ∈ m.embeddingsOf owner, e.mode = .inline → goesOn depth →
        m.Expands goesOn (depth + 1) e.embedded (lent e.embedded))
      (hstopped : ∀ e ∈ m.embeddingsOf owner, e.mode = .inline → ¬ goesOn depth →
        lent e.embedded = []) :
      m.Expands goesOn depth owner
        (m.fieldsOf owner ++ (m.embeddingsOf owner).flatMap (·.contribution lent))

/-- Only an inline embedding depends on what its struct lends. -/
theorem contribution_congr {lent lent' : String → List Field} {e : Embedding}
    (h : e.mode = .inline → lent e.embedded = lent' e.embedded) :
    e.contribution lent = e.contribution lent' := by
  unfold Embedding.contribution
  cases hmode : e.mode with
  | inline => dsimp only; rw [h hmode]
  | json => rfl
  | relation => rfl
  | skip => rfl

/-- The rules give one result at most. -/
theorem Expands.unique {goesOn : Nat → Prop} {depth : Nat} {fields fields' : List Field}
    (h : m.Expands goesOn depth owner fields) (h' : m.Expands goesOn depth owner fields') :
    fields = fields' := by
  induction h generalizing fields' with
  | @struct depth owner lent hfollowed hstopped ih =>
    cases h' with
    | struct lent' hfollowed' hstopped' =>
      congr 1
      refine List.flatMap_congr fun e he => contribution_congr fun hmode => ?_
      by_cases hgoes : goesOn depth
      · exact ih e he hmode hgoes (hfollowed' e he hmode hgoes)
      · rw [hstopped e he hmode hgoes, hstopped' e he hmode hgoes]

/-- By the rules with a bound a struct has the fields that it lends from within the levels
that are left. -/
theorem expands_lentFields (m : Metadata) (depth levels : Nat) (owner : String) :
    m.Expands (· < depth + levels) depth owner (m.lentFields (levels + 1) owner) := by
  induction levels generalizing depth owner with
  | zero =>
    refine .struct (m.lentFields 0) (fun e _ _ hgoes => ?_) fun e _ _ _ => rfl
    exact absurd hgoes (lt_irrefl depth)
  | succ levels ih =>
    refine .struct (m.lentFields (levels + 1)) (fun e _ _ _ => ?_) fun e _ _ hstops => ?_
    · have hnext := ih (depth + 1) e.embedded
      rwa [Nat.add_right_comm] at hnext
    · exact absurd (Nat.lt_add_of_pos_right (Nat.succ_pos levels)) hstops

/-- By the rules without a bound a struct has the fields that it lends from within the
levels that there are. -/
theorem expands_lentFields_of_nestsWithin {levels : Nat} (h : m.NestsWithin levels owner)
    (depth : Nat) : m.Expands (fun _ => True) depth owner (m.lentFields (levels + 1) owner) := by
  induction levels generalizing depth owner with
  | zero =>
    refine .struct (m.lentFields 0) (fun e he hmode _ => ?_) fun e _ _ _ => rfl
    exact absurd hmode (nestsWithin_zero_iff.mp h e he)
  | succ levels ih =>
    refine .struct (m.lentFields (levels + 1)) (fun e he hmode _ => ?_) fun e _ _ hstops => ?_
    · exact ih (nestsWithin_succ_iff.mp h e he hmode) (depth + 1)
    · exact absurd trivial hstops

/-- What the rules without a bound can expand is nested within some bound. -/
theorem Expands.exists_nestsWithin {depth : Nat} {fields : List Field}
    (h : m.Expands (fun _ => True) depth owner fields) : ∃ levels, m.NestsWithin levels owner := by
  induction h with
  | @struct depth owner lent hfollowed hstopped ih =>
    -- The embedded structs have bounds of their own, and all of them are within the sum.
    have hbound : ∀ e, ∃ levels, e ∈ m.embeddingsOf owner → e.mode = .inline →
        m.NestsWithin levels e.embedded := by
      intro e
      by_cases he : e ∈ m.embeddingsOf owner ∧ e.mode = .inline
      · obtain ⟨levels, hlevels⟩ := ih e he.1 he.2 trivial
        exact ⟨levels, fun _ _ => hlevels⟩
      · exact ⟨0, fun hmem hmode => absurd ⟨hmem, hmode⟩ he⟩
    choose bound hbound using hbound
    refine ⟨((m.embeddingsOf owner).map bound).sum + 1, ?_⟩
    rw [nestsWithin_succ_iff]
    intro e he hmode chain hchain
    have hle : bound e ≤ ((m.embeddingsOf owner).map bound).sum :=
      List.le_sum_of_mem (List.mem_map_of_mem he)
    exact (hbound e he hmode chain hchain).trans hle

/-- Without a bound there is no expansion of a struct that is nested in itself. -/
theorem not_expands_of_isCyclic (h : m.IsCyclic owner) (fields : List Field) :
    ¬ m.Expands (fun _ => True) 0 owner fields := by
  intro hexpands
  obtain ⟨levels, hlevels⟩ := hexpands.exists_nestsWithin
  exact not_nestsWithin_of_isCyclic h levels hlevels

/-! ## The fields of a struct -/

/-- The fields of a struct are those that it would lend from one level more. -/
theorem allFieldsOf_eq_lentFields (m : Metadata) (owner : String) :
    m.allFieldsOf owner = m.lentFields (8 + 1) owner :=
  rfl

/-- **All fields of a struct.**  The fields of a struct come from its places within eight
inline embeddings, depth first, each with the prefixes on its way before its name.  The
rules of expansion that go eight levels deep give these fields for every metadata.  Those
without a bound give the same where no chain has more than eight inline embeddings, and
nothing where structs are nested in a cycle. -/
theorem allFieldsOf_depthFirst (m : Metadata) (owner : String) :
    (∃ places, m.IsListing 8 owner places) ∧
      (∀ places, m.IsListing 8 owner places →
        m.allFieldsOf owner = places.map (·.adopted owner)) ∧
      (∀ fields, m.Expands (· < 8) 0 owner fields ↔ fields = m.allFieldsOf owner) ∧
      (m.NestsWithin 8 owner →
        ∀ fields, m.Expands (fun _ => True) 0 owner fields ↔ fields = m.allFieldsOf owner) ∧
      (m.IsCyclic owner → ∀ fields, ¬ m.Expands (fun _ => True) 0 owner fields) := by
  have hlisting := m.occurrences_isListing 8 owner
  have hbounded := m.expands_lentFields 0 8 owner
  rw [Nat.zero_add] at hbounded
  refine ⟨⟨_, hlisting⟩, ?_, ?_, ?_, not_expands_of_isCyclic⟩
  · intro places hplaces
    rw [allFieldsOf_eq_lentFields, lentFields_eq_map_adopted, hplaces.unique hlisting]
  · intro fields
    refine ⟨fun h => h.unique hbounded, ?_⟩
    rintro rfl
    exact hbounded
  · intro hwithin fields
    have hunbounded := expands_lentFields_of_nestsWithin hwithin 0
    refine ⟨fun h => h.unique hunbounded, ?_⟩
    rintro rfl
    exact hunbounded

/-! ## Eight levels, and a cycle -/

/-- An inline embedding with a prefix for the names. -/
def inlineEmbedding (owner embedded namePrefix : String) : Embedding where
  owner := owner
  embedded := embedded
  mode := .inline
  namePrefix := some namePrefix
  name := none
  dataType := none
  nullable := false
  comment := none
  column := none
  reference := none
  onDelete := none
  overrides := .empty

/-- Nine structs, each but the first embedded in the one before it. -/
def towerMetadata : Metadata where
  fields := ["A", "B", "C", "D", "E", "F", "G", "H", "I"].map (Field.new · "id" "BIGINT")
  tables := []
  indexes := []
  enums := []
  embeddings := [inlineEmbedding "A" "B" "b_", inlineEmbedding "B" "C" "c_",
    inlineEmbedding "C" "D" "d_", inlineEmbedding "D" "E" "e_", inlineEmbedding "E" "F" "f_",
    inlineEmbedding "F" "G" "g_", inlineEmbedding "G" "H" "h_", inlineEmbedding "H" "I" "i_"]

/-- A struct that is embedded in itself. -/
def nodeMetadata : Metadata where
  fields := [Field.new "Node" "id" "BIGINT"]
  tables := []
  indexes := []
  enums := []
  embeddings := [inlineEmbedding "Node" "Node" "next_"]

/-- Nine structs within one another are expanded to the last, also without a bound.  A
struct in itself has eight copies of its field, and none by the rules without a bound. -/
theorem allFieldsOf_towerMetadata_nodeMetadata :
    towerMetadata.NestsWithin 8 "A" ∧
      towerMetadata.Expands (fun _ => True) 0 "A" (towerMetadata.allFieldsOf "A") ∧
      ((towerMetadata.allFieldsOf "A").map Field.name).getLast? =
        some "b_c_d_e_f_g_h_i_id" ∧
      nodeMetadata.IsCyclic "Node" ∧
      (∀ fields, ¬ nodeMetadata.Expands (fun _ => True) 0 "Node" fields) ∧
      (nodeMetadata.allFieldsOf "Node").length = 9 := by
  have hwithin : towerMetadata.NestsWithin 8 "A" := by decide +kernel
  have hcyclic : nodeMetadata.IsCyclic "Node" := by
    refine ⟨[], [inlineEmbedding "Node" "Node" "next_"], by simp, ?_, rfl⟩
    exact ⟨by decide +kernel, rfl, trivial⟩
  obtain ⟨_, _, _, hunbounded, _⟩ := allFieldsOf_depthFirst towerMetadata "A"
  obtain ⟨_, _, _, _, hendless⟩ := allFieldsOf_depthFirst nodeMetadata "Node"
  refine ⟨hwithin, (hunbounded hwithin _).mpr rfl, by decide +kernel, hcyclic,
    hendless hcyclic, by decide +kernel⟩

end Metadata

end SchemaDdl
