/-
# The fields of nested structs

Structs that are embedded inline in one another make up a tree, and a field of the
outermost struct comes from one place in it.  The fields that a struct lends are those at
all places down to some level, depth first:

* `occurrences_isListing` : the places that are gone through, and in which order;
* `IsListing.unique` : no other list has these places in this order;
* `lentFields_eq_map_adopted` : what becomes of the field at a place.
-/
import Mathlib
import SchemaDdl.Entity.Embedding

namespace SchemaDdl

/-! ## Parts of a struct -/

/-- A part of a struct: one of its own fields or one of its embeddings. -/
inductive StructPart where
  | field (f : Field)
  | embedding (e : Embedding)
  deriving DecidableEq, Repr

/-- The parts of a struct: its own fields in order, then its embeddings in order. -/
def Metadata.partsOf (m : Metadata) (owner : String) : List StructPart :=
  (m.fieldsOf owner).map .field ++ (m.embeddingsOf owner).map .embedding

/-- The field that a part is, or that it makes of an embedded struct.  An inline embedding
makes none itself. -/
def StructPart.field? : StructPart → Option Field
  | .field f => some f
  | .embedding e =>
    match e.mode with
    | .inline => none
    | .json => some e.jsonField
    | .relation => e.relationField
    | .skip => none

/-- What a relation makes is a field of its own struct without a check, whose foreign key is
named after the struct and the field. -/
theorem Embedding.relationField_eq_some {e : Embedding} {f : Field}
    (h : e.relationField = some f) :
    f.owner = e.owner ∧ f.check = none ∧
      f.foreignKeyName =
        some ("fk_" ++ Text.snakeCase f.owner ++ "_" ++ Text.snakeCase f.name) := by
  unfold relationField at h
  dsimp only at h
  split at h
  · simp at h
  · obtain rfl := Option.some.inj h
    exact ⟨rfl, rfl, rfl⟩

/-- The fields that a part contributes, given the fields that structs lend. -/
def StructPart.contribution (lent : String → List Field) : StructPart → List Field
  | .field f => [f]
  | .embedding e => e.contribution lent

/-- A struct lends what its parts contribute. -/
theorem Metadata.lentFields_succ (m : Metadata) (levels : Nat) (owner : String) :
    m.lentFields (levels + 1) owner =
      (m.partsOf owner).flatMap (·.contribution (m.lentFields levels)) := by
  rw [lentFields, partsOf, List.flatMap_append, List.flatMap_map, List.flatMap_map]
  have hfields : (m.fieldsOf owner).flatMap
      (fun f => (StructPart.field f).contribution (m.lentFields levels)) = m.fieldsOf owner :=
    List.flatMap_singleton' _
  rw [hfields]
  rfl

/-! ## Places in nested structs -/

/-- A field at a place in nested structs: the positions of the parts that lead to it, from
the outermost, the inline embeddings among them, and the field as it stands there. -/
structure Occurrence where
  position : List Nat
  chain : List Embedding
  field : Field
  deriving DecidableEq, Repr

namespace Occurrence

/-- The same place seen from the owner of an embedding, which is its part at position
`i`. -/
def below (i : Nat) (e : Embedding) (o : Occurrence) : Occurrence :=
  ⟨i :: o.position, e :: o.chain, o.field⟩

/-- The field of the outermost struct that comes from a place: it has the prefixes on the
way before its name and is unchanged otherwise. -/
def adopted (o : Occurrence) (owner : String) : Field :=
  { o.field with
    owner := owner
    name := String.join (o.chain.map fun e => e.namePrefix.getD "") ++ o.field.name }

/-- A field of the struct itself is as it stands there. -/
theorem adopted_of_chain_nil {owner : String} {f : Field} (h : f.owner = owner)
    (position : List Nat) : adopted ⟨position, [], f⟩ owner = f := by
  subst h
  simp [adopted]

/-- A place below an embedding gives the field that the owner adopts. -/
theorem adopted_below {owner : String} {e : Embedding} (h : e.owner = owner) (i : Nat)
    (o : Occurrence) : (o.below i e).adopted owner = e.adopt (o.adopted e.embedded) := by
  subst h
  simp [adopted, below, Embedding.adopt, String.join_cons, String.append_assoc]

end Occurrence

/-- The places in a struct: its own parts that are or make fields, and the places in the
structs that are embedded inline. -/
inductive Metadata.Occurs (m : Metadata) : String → Occurrence → Prop where
  | here {owner : String} {i : Nat} {part : StructPart} {f : Field}
      (hpart : (m.partsOf owner)[i]? = some part) (hfield : part.field? = some f) :
      m.Occurs owner ⟨[i], [], f⟩
  | nested {owner : String} {i : Nat} {e : Embedding} {o : Occurrence}
      (hpart : (m.partsOf owner)[i]? = some (.embedding e)) (hmode : e.mode = .inline)
      (hplace : m.Occurs e.embedded o) : m.Occurs owner (o.below i e)

/-- A list has the places of a struct that are reached by at most the given number of
inline embeddings, and has them depth first: of two places that one with the earlier part
comes first where their ways part. -/
structure Metadata.IsListing (m : Metadata) (levels : Nat) (owner : String)
    (places : List Occurrence) : Prop where
  mem_iff : ∀ o, o ∈ places ↔ m.Occurs owner o ∧ o.chain.length ≤ levels
  ascending : places.Pairwise fun a b => a.position < b.position

/-- There is one such list only. -/
theorem Metadata.IsListing.unique {m : Metadata} {levels : Nat} {owner : String}
    {places places' : List Occurrence} (h : m.IsListing levels owner places)
    (h' : m.IsListing levels owner places') : places = places' := by
  have hnodup : ∀ {l : List Occurrence}, l.Pairwise (fun a b => a.position < b.position) →
      l.Nodup := by
    intro l hl
    refine hl.imp fun {a b} hlt heq => ?_
    subst heq
    exact lt_irrefl _ hlt
  have hperm : places.Perm places' := by
    rw [List.perm_ext_iff_of_nodup (hnodup h.ascending) (hnodup h'.ascending)]
    intro o
    rw [h.mem_iff, h'.mem_iff]
  refine hperm.eq_of_pairwise (fun a b _ _ hab hba => ?_) h.ascending h'.ascending
  exact absurd hba (lt_asymm hab)

/-! ## Going through the places -/

namespace StructPart

/-- The places at a part of a struct, given the places in the structs that are embedded. -/
def occurrences (nested : String → List Occurrence) (i : Nat) : StructPart → List Occurrence
  | .field f => [⟨[i], [], f⟩]
  | .embedding e =>
    if e.mode = .inline then (nested e.embedded).map (.below i e)
    else ((StructPart.embedding e).field?.map fun f => ⟨[i], [], f⟩).toList

variable {nested : String → List Occurrence} {i : Nat}

/-- A place at a part is that of its field or a place below it. -/
theorem mem_occurrences_iff {part : StructPart} {o : Occurrence} :
    o ∈ part.occurrences nested i ↔
      (∃ f, part.field? = some f ∧ o = ⟨[i], [], f⟩) ∨
        ∃ e o', part = .embedding e ∧ e.mode = .inline ∧ o' ∈ nested e.embedded ∧
          o = o'.below i e := by
  cases part with
  | field f => simp [occurrences, field?]
  | embedding e =>
    cases hmode : e.mode <;> simp [occurrences, field?, hmode, eq_comm]

/-- The position of a place starts with that of its part. -/
theorem exists_position_eq_cons {part : StructPart} {o : Occurrence}
    (h : o ∈ part.occurrences nested i) : ∃ rest, o.position = i :: rest := by
  rcases mem_occurrences_iff.mp h with ⟨f, _, rfl⟩ | ⟨e, o', _, _, _, rfl⟩
  · exact ⟨[], rfl⟩
  · exact ⟨o'.position, rfl⟩

/-- The places at a part ascend if those in the embedded structs do. -/
theorem pairwise_occurrences (part : StructPart)
    (h : ∀ owner, (nested owner).Pairwise fun a b => a.position < b.position) :
    (part.occurrences nested i).Pairwise fun a b => a.position < b.position := by
  cases part with
  | field f => exact List.pairwise_singleton _ _
  | embedding e =>
    rw [occurrences]
    split
    · rw [List.pairwise_map]
      exact (h e.embedded).imp fun hlt => List.cons_lt_cons_iff.mpr (.inr ⟨rfl, hlt⟩)
    · cases (StructPart.embedding e).field? <;> simp

/-- The places at a part give the fields that it contributes. -/
theorem map_adopted_occurrences {owner : String} {lent : String → List Field}
    (hnested : ∀ s, (nested s).map (·.adopted s) = lent s) {part : StructPart}
    (hfield : ∀ f, part = .field f → f.owner = owner)
    (hembedding : ∀ e, part = .embedding e → e.owner = owner) :
    (part.occurrences nested i).map (·.adopted owner) = part.contribution lent := by
  cases part with
  | field f => simp [occurrences, contribution, Occurrence.adopted_of_chain_nil (hfield f rfl)]
  | embedding e =>
    have howner : e.owner = owner := hembedding e rfl
    rw [occurrences, contribution, Embedding.contribution]
    cases hmode : e.mode with
    | inline =>
      rw [if_pos rfl, ← hnested, List.map_map, List.map_map]
      refine List.map_congr_left fun o _ => ?_
      exact Occurrence.adopted_below howner i o
    | json =>
      have hjson : e.jsonField.owner = owner := howner
      simp [field?, hmode, Occurrence.adopted_of_chain_nil hjson]
    | relation =>
      cases hrelation : e.relationField with
      | none => simp [field?, hmode, hrelation]
      | some f =>
        have hmade : f.owner = owner :=
          (Embedding.relationField_eq_some hrelation).1.trans howner
        simp [field?, hmode, hrelation, Occurrence.adopted_of_chain_nil hmade]
    | skip => simp [field?, hmode]

end StructPart

namespace Metadata

/-- The places in a struct that are reached by fewer than the given number of inline
embeddings, part after part. -/
def occurrences (m : Metadata) : Nat → String → List Occurrence
  | 0, _ => []
  | levels + 1, owner =>
    (m.partsOf owner).zipIdx.flatMap fun part => part.1.occurrences (m.occurrences levels) part.2

/-- Positions ascend in a numbered list. -/
theorem pairwise_snd_zipIdx {α : Type} (xs : List α) (n : Nat) :
    (xs.zipIdx n).Pairwise fun a b => a.2 < b.2 := by
  induction xs generalizing n with
  | nil => exact .nil
  | cons x rest ih =>
    rw [List.zipIdx_cons, List.pairwise_cons]
    refine ⟨fun b hb => ?_, ih (n + 1)⟩
    have hle := List.le_snd_of_mem_zipIdx hb
    dsimp only
    omega

/-- The places that are gone through are those within the given levels. -/
theorem mem_occurrences_iff {m : Metadata} {levels : Nat} {owner : String} {o : Occurrence} :
    o ∈ m.occurrences levels owner ↔ m.Occurs owner o ∧ o.chain.length < levels := by
  induction levels generalizing owner o with
  | zero => simp [occurrences]
  | succ levels ih =>
    rw [occurrences, List.mem_flatMap]
    constructor
    · rintro ⟨⟨part, i⟩, hpart, ho⟩
      rw [List.mem_zipIdx_iff_getElem?] at hpart
      rcases StructPart.mem_occurrences_iff.mp ho with ⟨f, hf, rfl⟩ | ⟨e, o', rfl, hmode, ho', rfl⟩
      · exact ⟨.here hpart hf, Nat.succ_pos levels⟩
      · obtain ⟨hoccurs, hlength⟩ := ih.mp ho'
        exact ⟨.nested hpart hmode hoccurs, Nat.succ_lt_succ hlength⟩
    · rintro ⟨hoccurs, hlength⟩
      cases hoccurs with
      | @here _ i part f hpart hf =>
        refine ⟨(part, i), List.mem_zipIdx_iff_getElem?.mpr hpart, ?_⟩
        exact StructPart.mem_occurrences_iff.mpr (.inl ⟨f, hf, rfl⟩)
      | @nested _ i e o' hpart hmode hplace =>
        refine ⟨(.embedding e, i), List.mem_zipIdx_iff_getElem?.mpr hpart, ?_⟩
        have ho' : o' ∈ m.occurrences levels e.embedded :=
          ih.mpr ⟨hplace, Nat.lt_of_succ_lt_succ hlength⟩
        exact StructPart.mem_occurrences_iff.mpr (.inr ⟨e, o', rfl, hmode, ho', rfl⟩)

/-- The places are gone through in ascending order. -/
theorem pairwise_occurrences (m : Metadata) (levels : Nat) (owner : String) :
    (m.occurrences levels owner).Pairwise fun a b => a.position < b.position := by
  induction levels generalizing owner with
  | zero => exact .nil
  | succ levels ih =>
    rw [occurrences, List.pairwise_flatMap]
    refine ⟨fun part _ => part.1.pairwise_occurrences ih, ?_⟩
    refine (pairwise_snd_zipIdx (m.partsOf owner) 0).imp fun {a b} hlt x hx y hy => ?_
    obtain ⟨restx, hrestx⟩ := StructPart.exists_position_eq_cons hx
    obtain ⟨resty, hresty⟩ := StructPart.exists_position_eq_cons hy
    rw [hrestx, hresty]
    exact List.cons_lt_cons_iff.mpr (.inl hlt)

/-- **Depth first.**  The places within some levels are gone through depth first. -/
theorem occurrences_isListing (m : Metadata) (levels : Nat) (owner : String) :
    m.IsListing levels owner (m.occurrences (levels + 1) owner) where
  mem_iff := fun _ => mem_occurrences_iff.trans (and_congr_right fun _ => Nat.lt_succ_iff)
  ascending := m.pairwise_occurrences (levels + 1) owner

/-- The parts of a struct are its own. -/
theorem owner_of_mem_partsOf {m : Metadata} {owner : String} {part : StructPart}
    (h : part ∈ m.partsOf owner) :
    (∀ f, part = .field f → f.owner = owner) ∧ ∀ e, part = .embedding e → e.owner = owner := by
  rcases List.mem_append.mp h with hfield | hembedding
  · obtain ⟨f, hf, rfl⟩ := List.mem_map.mp hfield
    have howner : f.owner = owner := beq_iff_eq.mp (List.mem_filter.mp hf).2
    exact ⟨fun f' h' => (StructPart.field.inj h') ▸ howner, fun e h' => by simp at h'⟩
  · obtain ⟨e, he, rfl⟩ := List.mem_map.mp hembedding
    have howner : e.owner = owner := beq_iff_eq.mp (List.mem_filter.mp he).2
    exact ⟨fun f h' => by simp at h', fun e' h' => (StructPart.embedding.inj h') ▸ howner⟩

/-- **The fields of the places.**  A struct lends the fields that come from its places. -/
theorem lentFields_eq_map_adopted (m : Metadata) (levels : Nat) (owner : String) :
    m.lentFields levels owner = (m.occurrences levels owner).map (·.adopted owner) := by
  induction levels generalizing owner with
  | zero => rfl
  | succ levels ih =>
    have hnested : ∀ s, (m.occurrences levels s).map (·.adopted s) = m.lentFields levels s :=
      fun s => (ih s).symm
    rw [lentFields_succ, occurrences, List.map_flatMap]
    -- The positions do not matter to what the parts contribute.
    conv_lhs => rw [← List.zipIdx_map_fst 0 (m.partsOf owner), List.flatMap_map]
    refine List.flatMap_congr fun part hpart => ?_
    have hmem : part.1 ∈ m.partsOf owner := List.fst_mem_of_mem_zipIdx hpart
    obtain ⟨hfield, hembedding⟩ := owner_of_mem_partsOf hmem
    exact (StructPart.map_adopted_occurrences hnested hfield hembedding).symm

end Metadata

end SchemaDdl
