/-
# Reading back what was written

A pair of functions that write things as values and read them is faithful when reading gives
back what was written, and writing makes values that survive as texts:

* `Faithful.list`, `Faithful.optional` : lists and optional things are written faithfully if
  their items are;
* `given?_record`, `Given.get?_cons_self` : a record that gives all of its fields is taken apart
  into them, and each is found under its name;
* `Faithful.parse_compact_bind`, `Faithful.parse_pretty_bind` : what was written as a text is
  read back.
-/
import SchemaDdl.Json.Record
import SchemaDdl.Proofs.Json.Spelling

namespace SchemaDdl.Json

/-! ## Things that are read back -/

/-- What is written can be read as a text, and is read back. -/
structure Faithful {α : Type} (encode : α → Json) (decode : Json → Option α) : Prop where
  plain : ∀ a, (encode a).Plain
  decode_encode : ∀ a, decode (encode a) = some a

section

variable {α : Type} {encode : α → Json} {decode : Json → Option α}

/-- The text that was written is read. -/
@[simp]
theorem text?_text (s : String) : text? (text s) = some s :=
  rfl

/-- The truth value that was written is read. -/
@[simp]
theorem bool?_bool (b : Bool) : bool? (.bool b) = some b :=
  rfl

/-- Texts are written faithfully. -/
theorem faithful_text : Faithful text text? where
  plain := .text
  decode_encode := text?_text

/-- A list is written faithfully if its items are. -/
theorem Faithful.list (h : Faithful encode decode) :
    Faithful (Json.list encode) (list? decode) where
  plain as := .array (List.forall_mem_map.mpr fun a _ => h.plain a)
  decode_encode as := by
    rw [Json.list, list?]
    induction as with
    | nil => rfl
    | cons a as ih => simp [h.decode_encode, ih]

/-- Lists of texts are written faithfully. -/
theorem faithful_texts : Faithful texts (list? text?) :=
  faithful_text.list

/-- Something optional is written faithfully if what may be there is, and is not written as
`null`. -/
theorem Faithful.optional (h : Faithful encode decode) (hnull : ∀ a, encode a ≠ .null) :
    Faithful (Json.optional encode) (optional? decode) where
  plain a := by
    cases a with
    | none => exact .null
    | some a => exact h.plain a
  decode_encode a := by
    cases a with
    | none => rfl
    | some a =>
      rw [Json.optional, optional?, h.decode_encode]
      · rfl
      · exact hnull a

/-- Optional texts are written faithfully. -/
theorem faithful_optionalText : Faithful (Json.optional text) (optional? text?) :=
  faithful_text.optional fun _ => nofun

/-- Written texts are read back, whether there is one or not. -/
@[simp]
theorem optional?_optional_text (s : Option String) :
    optional? text? (Json.optional text s) = some s :=
  faithful_optionalText.decode_encode s

/-- A written list of texts is read back. -/
@[simp]
theorem list?_texts (ss : List String) : list? text? (texts ss) = some ss :=
  faithful_texts.decode_encode ss

/-- An optional text can be read as a text. -/
@[simp]
theorem plain_optional_text (s : Option String) : Plain (Json.optional text s) :=
  faithful_optionalText.plain s

/-- A list of texts can be read as a text. -/
@[simp]
theorem plain_texts (ss : List String) : Plain (texts ss) :=
  faithful_texts.plain ss

/-- What was written faithfully on one line is read back. -/
theorem Faithful.parse_compact_bind (h : Faithful encode decode) (a : α) :
    (parse (compact (encode a))).bind decode = some a := by
  rw [parse_compact (h.plain a), Option.bind_some, h.decode_encode]

/-- What was written faithfully with one item or member a line is read back. -/
theorem Faithful.parse_pretty_bind (h : Faithful encode decode) (a : α) :
    (parse (pretty (encode a))).bind decode = some a := by
  rw [parse_pretty (h.plain a), Option.bind_some, h.decode_encode]

end

/-! ## Records -/

/-- No name stands for two of the fields: names are distinct, and none is also another name of
a field before. -/
def Distinguished (fields : List FieldName) : Prop :=
  (fields.map FieldName.name).Nodup ∧
    ∀ f ∈ fields, (fields.find? (·.accepts f.name)).map FieldName.name = some f.name

/-- Whether the names tell fields apart can be computed. -/
instance (fields : List FieldName) : Decidable (Distinguished fields) :=
  inferInstanceAs (Decidable (_ ∧ _))

/-- Members under distinct names of fields give just these fields. -/
theorem givenByMembers_record {fields : List FieldName} {members : List (String × Json)}
    (hnodup : (members.map Prod.fst).Nodup)
    (hfound : ∀ m ∈ members, (fields.find? (·.accepts m.1)).map FieldName.name = some m.1) :
    givenByMembers fields (members.map fun (key, value) => (some key, value)) =
      some members := by
  induction members with
  | nil => rfl
  | cons m members ih =>
    rw [List.map_cons, List.nodup_cons] at hnodup
    rw [List.forall_mem_cons] at hfound
    obtain ⟨f, hf, hname⟩ := Option.map_eq_some_iff.mp hfound.1
    have hnew : members.any (·.1 == m.1) = false := by
      rw [List.any_eq_false]
      exact fun m' hm' heq => hnodup.1 (beq_iff_eq.mp heq ▸ List.mem_map_of_mem hm')
    simp only [List.map_cons, givenByMembers, ih hnodup.2 hfound.2, hf, hnew, hname,
      Option.bind_eq_bind, Option.bind_some]
    rfl

/-- A record that gives all of the fields in order is taken apart into them. -/
theorem given?_record {fields : List FieldName} (hfields : Distinguished fields)
    {members : List (String × Json)} (hkeys : members.map Prod.fst = fields.map FieldName.name) :
    given? fields (record members) = some members := by
  refine givenByMembers_record (hkeys ▸ hfields.1) fun m hm => ?_
  have hm : m.1 ∈ fields.map FieldName.name := hkeys ▸ List.mem_map_of_mem hm
  obtain ⟨f, hf, hname⟩ := List.mem_map.mp hm
  exact hname ▸ hfields.2 f hf

/-- So reading such a record goes on with its fields. -/
theorem given?_record_bind {α : Type} {fields : List FieldName} (hfields : Distinguished fields)
    {members : List (String × Json)} (hkeys : members.map Prod.fst = fields.map FieldName.name)
    (read : Given → Option α) : (given? fields (record members) >>= read) = read members := by
  rw [given?_record hfields hkeys, Option.bind_eq_bind, Option.bind_some]

namespace Given

variable {α : Type}

/-- The first field is found under its name. -/
@[simp]
theorem get?_cons_self (given : Given) (name : String) (value : Json)
    (decode : Json → Option α) (absent : α) :
    get? ((name, value) :: given) name decode absent = decode value := by
  rw [get?, List.lookup_cons_self]

/-- Another name is looked for behind the first field. -/
@[simp]
theorem get?_cons_of_ne {given : Given} {key name : String} (h : name ≠ key) (value : Json)
    (decode : Json → Option α) (absent : α) :
    get? ((key, value) :: given) name decode absent = given.get? name decode absent := by
  rw [get?, List.lookup_cons, beq_false_of_ne h, get?]

/-! A field of each kind is looked for by its name. -/

attribute [simp] text? bool? optionalText? list?

end Given

end SchemaDdl.Json
