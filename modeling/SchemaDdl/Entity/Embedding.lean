/-
# Embedded structs

What an embedding contributes to the struct that it stands in.  An inline embedding
lends the fields of the embedded struct, which may embed further structs itself; the
other modes contribute one field at most.
-/
import SchemaDdl.Entity.Metadata
import SchemaDdl.Text.SnakeCase
import SchemaDdl.Text.Cut

namespace SchemaDdl

/-! ## One embedding -/

namespace Embedding

/-- A field of the embedded struct as a field of the owner: the prefix stands before
its name. -/
def adopt (e : Embedding) (f : Field) : Field :=
  { f with owner := e.owner, name := e.namePrefix.getD "" ++ f.name }

/-- The type of a column that holds a struct in JSON. -/
def jsonType : String := "JSONB"

/-- The type of such a column in the MySQL family. -/
def mysqlJsonType : String := "JSON"

/-- The field that holds the embedded struct in JSON.  Unless a type is declared, the
MySQL family gets a type of its own. -/
def jsonField (e : Embedding) : Field :=
  let overrides :=
    if e.dataType.isSome then e.overrides
    else (e.overrides.setIfAbsent .mysql mysqlJsonType).setIfAbsent .mariadb mysqlJsonType
  { Field.new e.owner (e.name.getD (Text.snakeCase e.embedded ++ "_data"))
      (e.dataType.getD jsonType) with
    nullable := e.nullable, comment := e.comment, overrides := overrides }

/-- The parts of a reference that speak of a key that is no integer. -/
def textKeyHints : List String :=
  ["uuid", "char", "text", "string"]

/-- The type of a column that refers to another table, guessed from the reference. -/
def keyType (reference : String) : String :=
  if textKeyHints.any (Text.contains reference.toLower) then "TEXT" else "INTEGER"

/-- The field that refers to the table of the embedded struct, if both its column and
its reference are declared and not empty. -/
def relationField (e : Embedding) : Option Field :=
  let column := e.column.getD ""
  let reference := e.reference.getD ""
  if column.isEmpty || reference.isEmpty then none
  else
    some { Field.new e.owner column (keyType reference) with
      nullable := e.nullable, comment := e.comment, overrides := e.overrides,
      foreignKey := some reference,
      foreignKeyName :=
        some ("fk_" ++ Text.snakeCase e.owner ++ "_" ++ Text.snakeCase column),
      onDelete := e.onDelete }

/-- The fields that an embedding contributes, given the fields that structs lend. -/
def contribution (lent : String → List Field) (e : Embedding) : List Field :=
  match e.mode with
  | .inline => (lent e.embedded).map e.adopt
  | .json => [e.jsonField]
  | .relation => e.relationField.toList
  | .skip => []

end Embedding

/-! ## Nested embeddings -/

namespace Metadata

/-- The fields that a struct lends to its owner when structs may be nested for the
given number of levels: its own fields and what its embeddings contribute. -/
def lentFields (m : Metadata) : Nat → String → List Field
  | 0, _ => []
  | levels + 1, owner =>
    m.fieldsOf owner ++ (m.embeddingsOf owner).flatMap (·.contribution (m.lentFields levels))

/-- The number of structs that may be nested in a struct; it ends cycles. -/
def maxNesting : Nat := 8

/-- The fields that an embedding contributes to its owner. -/
def expand (m : Metadata) (e : Embedding) : List Field :=
  e.contribution (m.lentFields maxNesting)

/-- The fields of a struct and of all that is embedded in it. -/
def allFieldsOf (m : Metadata) (owner : String) : List Field :=
  m.fieldsOf owner ++ (m.embeddingsOf owner).flatMap m.expand

end Metadata

end SchemaDdl
