/-
# Schema metadata

What entity definitions ask for: fields, tables, indexes, enum types, and structs that
are embedded in others.
-/
import SchemaDdl.Sql.Dialect
import SchemaDdl.Sql.Statement

namespace SchemaDdl

/-! ## Types by dialect -/

/-- A type for each of some dialects. -/
structure Overrides where
  postgres : Option String
  mysql : Option String
  mariadb : Option String
  deriving DecidableEq, Repr

namespace Overrides

/-- No types. -/
def empty : Overrides :=
  ⟨none, none, none⟩

/-- The type for a dialect. -/
def get? (o : Overrides) : Dialect → Option String
  | .postgres => o.postgres
  | .mysql => o.mysql
  | .mariadb => o.mariadb

/-- The same types but for one dialect. -/
def set (o : Overrides) (d : Dialect) (dataType : String) : Overrides :=
  match d with
  | .postgres => { o with postgres := some dataType }
  | .mysql => { o with mysql := some dataType }
  | .mariadb => { o with mariadb := some dataType }

/-- The same types with one more for a dialect that has none yet. -/
def setIfAbsent (o : Overrides) (d : Dialect) (dataType : String) : Overrides :=
  if (o.get? d).isSome then o else o.set d dataType

end Overrides

/-! ## Fields -/

/-- A field of a struct, which becomes a column. -/
structure Field where
  owner : String
  name : String
  dataType : String
  nullable : Bool
  primary : Bool
  unique : Bool
  autoIncrement : Bool
  default : Option DefaultValue
  check : Option String
  comment : Option String
  foreignKey : Option String
  foreignKeyName : Option String
  onDelete : Option ReferentialAction
  onUpdate : Option ReferentialAction
  overrides : Overrides
  deriving DecidableEq, Repr

/-- A single change to a field. -/
inductive FieldEdit where
  | primary
  | notNull
  | unique
  | autoIncrement
  | default (value : DefaultValue)
  | check (expression : String)
  | comment (text : String)
  | foreignKey (reference name : String)
  | onDelete (action : ReferentialAction)
  | overrideType (dialect : Dialect) (dataType : String)
  deriving DecidableEq, Repr

namespace Field

/-- A field that accepts `NULL` and has no further attributes. -/
def new (owner name dataType : String) : Field where
  owner := owner
  name := name
  dataType := dataType
  nullable := true
  primary := false
  unique := false
  autoIncrement := false
  default := none
  check := none
  comment := none
  foreignKey := none
  foreignKeyName := none
  onDelete := none
  onUpdate := none
  overrides := .empty

/-- The field after a change. -/
def edit (f : Field) : FieldEdit → Field
  | .primary => { f with primary := true, nullable := false }
  | .notNull => { f with nullable := false }
  | .unique => { f with unique := true }
  | .autoIncrement => { f with autoIncrement := true }
  | .default value => { f with default := some value }
  | .check expression => { f with check := some expression }
  | .comment text => { f with comment := some text }
  | .foreignKey reference name =>
    { f with foreignKey := some reference, foreignKeyName := some name }
  | .onDelete action => { f with onDelete := some action }
  | .overrideType d dataType => { f with overrides := f.overrides.set d dataType }

/-- The type of a field in a dialect: its override, or else its declared type. -/
def typeFor (f : Field) (d : Dialect) : String :=
  (f.overrides.get? d).getD f.dataType

end Field

/-! ## Tables and indexes -/

/-- The table that a struct is stored in. -/
structure TableDirective where
  owner : String
  name : String
  comment : Option String
  engine : Option String
  primaryKey : List String
  deriving DecidableEq, Repr

/-- An index on the table of a struct. -/
structure IndexDirective where
  owner : String
  name : String
  fields : List String
  unique : Bool
  comment : Option String
  method : Option String
  deriving DecidableEq, Repr

/-! ## Embedded structs -/

/-- How a struct is embedded in another. -/
inductive EmbedMode where
  | inline
  | json
  | relation
  | skip
  deriving DecidableEq, Repr

namespace EmbedMode

/-- The keyword of a mode. -/
def keyword : EmbedMode → String
  | .inline => "inline"
  | .json => "json"
  | .relation => "relation"
  | .skip => "skip"

/-- The mode that people mean; what is not the keyword of another mode is inline. -/
def ofName (s : String) : EmbedMode :=
  match (Text.trim s).toLower with
  | "json" => .json
  | "relation" => .relation
  | "skip" => .skip
  | _ => .inline

end EmbedMode

/-- The embedding of a struct in another. -/
structure Embedding where
  owner : String
  embedded : String
  mode : EmbedMode
  namePrefix : Option String
  name : Option String
  dataType : Option String
  nullable : Bool
  comment : Option String
  column : Option String
  reference : Option String
  onDelete : Option ReferentialAction
  overrides : Overrides
  deriving DecidableEq, Repr

/-! ## Metadata -/

/-- Everything that entity definitions ask for. -/
structure Metadata where
  fields : List Field
  tables : List TableDirective
  indexes : List IndexDirective
  enums : List EnumType
  embeddings : List Embedding
  deriving DecidableEq, Repr

namespace Metadata

/-- The fields of a struct itself, in order. -/
def fieldsOf (m : Metadata) (owner : String) : List Field :=
  m.fields.filter (·.owner == owner)

/-- The embeddings in a struct, in order. -/
def embeddingsOf (m : Metadata) (owner : String) : List Embedding :=
  m.embeddings.filter (·.owner == owner)

end Metadata

end SchemaDdl
