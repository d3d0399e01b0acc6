/-
# The desired schema

The tables, indexes and enum types that metadata asks for, with all embedded structs
expanded.
-/
import SchemaDdl.Entity.Embedding

namespace SchemaDdl

/-! ## Tables -/

/-- Whether a field belongs to the primary key of a table: by its own mark or by the
key list of the table. -/
def TableDirective.isPrimary (t : TableDirective) (f : Field) : Bool :=
  f.primary || t.primaryKey.contains f.name

/-- A table with the fields that become its columns. -/
structure DesiredTable where
  directive : TableDirective
  fields : List Field
  deriving DecidableEq, Repr

namespace DesiredTable

/-- The name of a table. -/
def name (t : DesiredTable) : String :=
  t.directive.name

/-- The first field of the given name. -/
def field? (t : DesiredTable) (name : String) : Option Field :=
  t.fields.find? (·.name == name)

/-- Whether a field belongs to the primary key. -/
def isPrimary (t : DesiredTable) (f : Field) : Bool :=
  t.directive.isPrimary f

/-- The key list of a table, if it has more than one column. -/
def compositeKey? (t : DesiredTable) : Option (List String) :=
  if 1 < t.directive.primaryKey.length then some t.directive.primaryKey else none

/-- The table of a directive.  Its primary key fields come first, and within either
group the fields keep their order. -/
def ofDirective (m : Metadata) (d : TableDirective) : DesiredTable :=
  let fields := m.allFieldsOf d.owner
  ⟨d, fields.filter d.isPrimary ++ fields.filter (!d.isPrimary ·)⟩

end DesiredTable

/-! ## Indexes -/

/-- An index and the table that it belongs to. -/
structure DesiredIndex where
  table : String
  directive : IndexDirective
  deriving DecidableEq, Repr

/-- The index of a directive, if its struct has a table. -/
def DesiredIndex.ofDirective? (m : Metadata) (i : IndexDirective) : Option DesiredIndex :=
  (m.tables.find? (·.owner == i.owner)).map fun t => ⟨t.name, i⟩

/-! ## Schemas -/

/-- The schema that metadata asks for. -/
structure DesiredSchema where
  tables : List DesiredTable
  indexes : List DesiredIndex
  enums : List EnumType
  deriving DecidableEq, Repr

namespace DesiredSchema

/-- The first table of the given name. -/
def table? (s : DesiredSchema) (name : String) : Option DesiredTable :=
  s.tables.find? (·.name == name)

/-- The first enum type of the given name. -/
def enum? (s : DesiredSchema) (name : String) : Option EnumType :=
  findEnum? s.enums name

end DesiredSchema

/-- The schema that metadata asks for. -/
def Metadata.schema (m : Metadata) : DesiredSchema where
  tables := m.tables.map (DesiredTable.ofDirective m)
  indexes := m.indexes.filterMap (DesiredIndex.ofDirective? m)
  enums := m.enums

end SchemaDdl
