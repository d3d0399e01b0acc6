/-
# Records in JSON

A record is written as an object with one member a field, or as an array of its
fields in order.  Fields may be left out, in an array from some point on; members of
other names are passed over; a field that is given twice is refused.
-/
import SchemaDdl.Json.Value

namespace SchemaDdl.Json

/-! ## Field names -/

/-- The name of a field and the other names it goes by. -/
structure FieldName where
  name : String
  aliases : List String
  deriving Repr

/-- A field with one name only. -/
def field (name : String) : FieldName :=
  ⟨name, []⟩

/-- A field with another name besides its own. -/
def fieldOr (name other : String) : FieldName :=
  ⟨name, [other]⟩

/-- Whether a member of the given key is meant for the field. -/
def FieldName.accepts (f : FieldName) (key : String) : Bool :=
  f.name == key || f.aliases.contains key

/-! ## The given fields -/

/-- The fields that a document gives, each under its own name. -/
abbrev Given := List (String × Json)

/-- The fields given by the members of an object.  A key that is no text or a field
given twice makes it fail. -/
def givenByMembers (fields : List FieldName) : List (Option String × Json) → Option Given
  | [] => some []
  | (none, _) :: _ => none
  | (some key, value) :: members => do
    let given ← givenByMembers fields members
    match fields.find? (·.accepts key) with
    | none => return given
    | some f =>
      if given.any (·.1 == f.name) then none else return (f.name, value) :: given

/-- The fields given by the items of an array, which must not outnumber them. -/
def givenByItems (fields : List FieldName) (items : List Json) : Option Given :=
  if items.length ≤ fields.length then some ((fields.map FieldName.name).zip items) else none

/-- The fields given by a value, if it is an object or an array. -/
def given? (fields : List FieldName) : Json → Option Given
  | .object members => givenByMembers fields members
  | .array items => givenByItems fields items
  | _ => none

/-- The field of the given name, or a value of its own when the field is left out. -/
def Given.get? {α : Type} (given : Given) (name : String) (decode : Json → Option α)
    (absent : α) : Option α :=
  match given.lookup name with
  | none => some absent
  | some value => decode value

/-- A text field, empty when left out. -/
def Given.text? (given : Given) (name : String) : Option String :=
  given.get? name Json.text? ""

/-- A field that is true or false, with the value it has when left out. -/
def Given.bool? (given : Given) (name : String) (absent : Bool) : Option Bool :=
  given.get? name Json.bool? absent

/-- A text field that may be `null` or left out. -/
def Given.optionalText? (given : Given) (name : String) : Option (Option String) :=
  given.get? name (Json.optional? Json.text?) none

/-- A list field, empty when left out. -/
def Given.list? {α : Type} (given : Given) (name : String) (decode : Json → Option α) :
    Option (List α) :=
  given.get? name (Json.list? decode) []

end SchemaDdl.Json
