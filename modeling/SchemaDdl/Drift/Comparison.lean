/-
# Comparing schemas

The differences between a desired and a live schema.  The comparison never fails, and
what a catalog does not report counts as unchanged.
-/
import SchemaDdl.Catalog.LiveSchema
import SchemaDdl.Drift.Change
import SchemaDdl.Drift.DefaultForm
import SchemaDdl.Drift.InlineEnum
import SchemaDdl.Entity.Statements

namespace SchemaDdl.Drift

/-! ## Attributes of columns -/

/-- The bucket of a desired column.  In the MySQL family a declared enum type is written
out in its columns. -/
def desiredBucket (s : DesiredSchema) (d : Dialect) (f : Field) : String :=
  if d.isMysqlFamily && (s.enum? f.dataType).isSome then enumBucket
  else typeBucket d (f.resolveType d).dataType

/-- The bucket of a live column. -/
def liveBucket (d : Dialect) (c : LiveColumn) : String :=
  typeBucket d c.effectiveType

/-- Whether a live default takes the next value of a sequence. -/
def drawsFromSequence (default : String) : Bool :=
  Text.beginsWith (Text.trimLeft default).toLower "nextval("

/-- Whether the default of a column comes from a sequence on either side, so that there
is nothing to compare. -/
def sequenceBacked (d : Dialect) (f : Field) (c : LiveColumn) : Bool :=
  f.autoIncrement || c.autoIncrement || Sql.mentionsSerial (f.resolveType d).dataType ||
    Sql.mentionsSerial c.effectiveType || c.default.any drawsFromSequence

/-- Whether a desired column accepts `NULL`, which no primary key does. -/
def acceptsNull (t : DesiredTable) (f : Field) : Bool :=
  f.nullable && !t.isPrimary f

/-- A change of an attribute, if its two values differ. -/
def changeOf {α : Type} [DecidableEq α] (change : α → α → ColumnChange) (desired live : α) :
    List ColumnChange :=
  if desired = live then [] else [change desired live]

/-- The change of the default, if there is one to compare. -/
def defaultChange (s : DesiredSchema) (d : Dialect) (f : Field) (c : LiveColumn) :
    List ColumnChange :=
  if sequenceBacked d f c then []
  else
    changeOf .default (defaultForm (f.default.map DefaultValue.text) (desiredBucket s d f))
      (defaultForm c.default (liveBucket d c))

/-- The attributes in which a column differs. -/
def columnChanges (s : DesiredSchema) (d : Dialect) (t : DesiredTable) (f : Field)
    (c : LiveColumn) : List ColumnChange :=
  changeOf .type (desiredBucket s d f) (liveBucket d c) ++
    changeOf .nullable (acceptsNull t f) c.nullable ++
    changeOf .primary (t.isPrimary f) c.primary ++
    changeOf .unique f.unique c.unique ++
    defaultChange s d f c

/-! ## Columns of tables -/

/-- The difference of a column on both sides, if there is one. -/
def columnDiff? (s : DesiredSchema) (d : Dialect) (t : DesiredTable) (live : LiveTable)
    (f : Field) : Option ColumnDiff :=
  match live.column? f.name with
  | none => none
  | some c =>
    let changes := columnChanges s d t f c
    if changes.isEmpty then none else some ⟨f.name, changes⟩

/-- The differences of a table on both sides. -/
def tableDiff (s : DesiredSchema) (d : Dialect) (t : DesiredTable) (live : LiveTable) :
    TableDiff where
  table := t.name
  added := (t.fields.map Field.name).filter fun name => (live.column? name).isNone
  removed := (live.columns.map LiveColumn.name).filter fun name => (t.field? name).isNone
  modified := t.fields.filterMap (columnDiff? s d t live)

/-! ## Tables -/

/-- The names of the desired tables that are not live. -/
def tablesAdded (s : DesiredSchema) (live : LiveSchema) : List String :=
  (s.tables.map DesiredTable.name).filter fun name => (live.table? name).isNone

/-- The names of the live tables that are not desired. -/
def tablesRemoved (s : DesiredSchema) (live : LiveSchema) : List String :=
  (live.tables.map LiveTable.name).filter fun name => (s.table? name).isNone

/-- The difference of a desired table that is live, if there is one. -/
def tableDiff? (s : DesiredSchema) (live : LiveSchema) (d : Dialect) (t : DesiredTable) :
    Option TableDiff :=
  match live.table? t.name with
  | none => none
  | some liveTable =>
    let diff := tableDiff s d t liveTable
    if diff.hasChanges then some diff else none

/-! ## Enum types -/

/-- Names with those of a further list that are not among them yet. -/
def addNew (known : List String) : List String → List String
  | [] => known
  | name :: rest => addNew (if known.contains name then known else known ++ [name]) rest

/-- The declared values that some live list lacks, each once. -/
def valuesAdded (declared : List String) (lists : List (List String)) : List String :=
  lists.foldl (fun known list => addNew known (declared.filter (!list.contains ·))) []

/-- The values of live lists that are not declared, each once. -/
def valuesRemoved (declared : List String) (lists : List (List String)) : List String :=
  lists.foldl (fun known list => addNew known (list.filter (!declared.contains ·))) []

/-- The difference between a declared enum type and the lists of values that the
database holds for it. -/
def enumDiff? (declared : EnumType) (lists : List (List String)) : Option EnumDiff :=
  let added := valuesAdded declared.values lists
  let removed := valuesRemoved declared.values lists
  if added.isEmpty && removed.isEmpty then none else some ⟨declared.name, added, removed⟩

/-- The values written out in the live columns of a table that are declared with an enum
type. -/
def inlineValuesIn (live : LiveSchema) (enumName : String) (t : DesiredTable) :
    List (List String) :=
  match live.table? t.name with
  | none => []
  | some liveTable =>
    ((t.fields.filter (·.dataType == enumName)).filterMap fun f =>
      liveTable.column? f.name).filterMap fun c => enumValues? c.dataType

/-- The values written out in the live columns that are declared with an enum type. -/
def inlineValues (s : DesiredSchema) (live : LiveSchema) (enumName : String) :
    List (List String) :=
  s.tables.flatMap (inlineValuesIn live enumName)

/-- The declared enum types that are to be created.  The MySQL family has no enum types
of their own. -/
def enumsAdded (s : DesiredSchema) (live : LiveSchema) (d : Dialect) : List String :=
  if d.isMysqlFamily then []
  else (s.enums.map EnumType.name).filter fun name => (live.enum? name).isNone

/-- The live enum types that are not declared. -/
def enumsRemoved (s : DesiredSchema) (live : LiveSchema) : List String :=
  (live.enums.map EnumType.name).filter fun name => (s.enum? name).isNone

/-- The difference of a declared enum type that the database holds. -/
def declaredEnumDiff? (s : DesiredSchema) (live : LiveSchema) (d : Dialect) (e : EnumType) :
    Option EnumDiff :=
  match live.enum? e.name with
  | some liveEnum => enumDiff? e [liveEnum.values]
  | none => if d.isMysqlFamily then enumDiff? e (inlineValues s live e.name) else none

/-! ## Indexes -/

/-- Whether a live index merely backs a key of a desired column. -/
def impliedIndex (s : DesiredSchema) (i : LiveIndex) : Bool :=
  i.primary ||
    match i.unique, i.columns, s.table? i.table with
    | true, [column], some t => (t.field? column).any fun f => f.unique || t.isPrimary f
    | _, _, _ => false

/-- The desired indexes whose name no live index has. -/
def indexesAdded (s : DesiredSchema) (live : LiveSchema) : List IndexName :=
  (s.indexes.filter fun i => !live.indexes.any (·.name == i.directive.name)).map fun i =>
    ⟨i.directive.name, i.table⟩

/-- Whether a live index is to be dropped: its name is not declared, it backs no key,
and its table stays. -/
def isStale (s : DesiredSchema) (live : LiveSchema) (i : LiveIndex) : Bool :=
  !s.indexes.any (·.directive.name == i.name) && !impliedIndex s i &&
    !(tablesRemoved s live).contains i.table

/-- The live indexes that are to be dropped. -/
def indexesRemoved (s : DesiredSchema) (live : LiveSchema) : List IndexName :=
  (live.indexes.filter (isStale s live)).map fun i => ⟨i.name, i.table⟩

/-! ## Schemas -/

/-- The differences between a desired and a live schema in a dialect. -/
def compare (s : DesiredSchema) (live : LiveSchema) (d : Dialect) : SchemaDiff where
  tablesAdded := tablesAdded s live
  tablesRemoved := tablesRemoved s live
  tablesModified := s.tables.filterMap (tableDiff? s live d)
  enumsAdded := enumsAdded s live d
  enumsRemoved := enumsRemoved s live
  enumsModified := s.enums.filterMap (declaredEnumDiff? s live d)
  indexesAdded := indexesAdded s live
  indexesRemoved := indexesRemoved s live

end SchemaDdl.Drift
