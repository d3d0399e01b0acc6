/-
# Inline enum types

The values of an enum type that is written out where a column uses it.
-/
import SchemaDdl.Sql.Serial

namespace SchemaDdl.Drift

/-! ## Quoted values -/

/-- The quoted values in a list, whatever stands between them.  The first argument holds
the characters of the value that is being read, last first; two quotes in a value are
one.  A value that does not end is left out. -/
def quotedValues : Option (List Char) → List Char → List (List Char)
  | _, [] => []
  | none, c :: rest => quotedValues (if c = '\'' then some [] else none) rest
  | some value, '\'' :: '\'' :: rest => quotedValues (some ('\'' :: value)) rest
  | some value, c :: rest =>
    if c = '\'' then value.reverse :: quotedValues none rest
    else quotedValues (some (c :: value)) rest

/-! ## Enum types -/

/-- The word that opens an inline enum type, in upper case. -/
def enumOpening : String := "ENUM("

/-- The values of an inline enum type, if the type is one. -/
def enumValues? (dataType : String) : Option (List String) :=
  let cs := Text.trimmed dataType.toList
  if Text.beginsWith (Sql.typeWord dataType) enumOpening && cs.getLast? == some ')' then
    some ((quotedValues none (cs.drop enumOpening.length).dropLast).map String.ofList)
  else none

end SchemaDdl.Drift
