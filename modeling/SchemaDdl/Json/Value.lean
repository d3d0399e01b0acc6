/-
# JSON values

A JSON value keeps its members in the order in which they were written and keeps
members that were written twice, so that a reader of documents can refuse them.
-/

namespace SchemaDdl

/-- A JSON value.  A string whose escapes name half of a surrogate pair denotes no
text; it is `none`, as is a member key of that kind. -/
inductive Json where
  | null
  | bool (value : Bool)
  | number (spelling : String)
  | string (text : Option String)
  | array (items : List Json)
  | object (members : List (Option String × Json))
  deriving Repr, Inhabited

namespace Json

/-! ## Building values -/

/-- A string value. -/
def text (s : String) : Json :=
  .string (some s)

/-- A natural number. -/
def nat (n : Nat) : Json :=
  .number (toString n)

/-- An array of strings. -/
def texts (ss : List String) : Json :=
  .array (ss.map text)

/-- The value of something optional, `null` when it is absent. -/
def optional {α : Type} (encode : α → Json) : Option α → Json
  | none => .null
  | some a => encode a

/-- An array of encoded things. -/
def list {α : Type} (encode : α → Json) (items : List α) : Json :=
  .array (items.map encode)

/-- An object with the given keys and values. -/
def record (members : List (String × Json)) : Json :=
  .object (members.map fun (key, value) => (some key, value))

/-! ## Taking values apart -/

/-- The text of a string value. -/
def text? : Json → Option String
  | .string text => text
  | _ => none

/-- The truth value of a `true` or `false`. -/
def bool? : Json → Option Bool
  | .bool value => some value
  | _ => none

/-- The items of an array, each read by `decode`. -/
def list? {α : Type} (decode : Json → Option α) : Json → Option (List α)
  | .array items => items.mapM decode
  | _ => none

/-- Something optional, which is absent when the value is `null`. -/
def optional? {α : Type} (decode : Json → Option α) : Json → Option (Option α)
  | .null => some none
  | value => (decode value).map some

/-- The value of the first member with the given key. -/
def member? (key : String) : Json → Option Json
  | .object members => (members.find? fun m => m.1 == some key).map (·.2)
  | _ => none

end Json

end SchemaDdl
