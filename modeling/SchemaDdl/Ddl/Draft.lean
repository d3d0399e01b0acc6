/-
# Drafts

A draft is a schema under construction, with a cursor: it stands at the schema itself,
at a table, at a column or constraint of that table, or at an index.  Ending a part
puts it in its place and moves the cursor out.
-/
import SchemaDdl.Sql.Statement

namespace SchemaDdl

/-! ## Columns under construction -/

/-- A column under construction and the reference that it is to get. -/
structure ColumnDraft where
  column : Column
  reference : Option Reference
  deriving DecidableEq, Repr

/-- A single step in the construction of a column. -/
inductive ColumnStep where
  | edit (change : ColumnEdit)
  | foreignKey (reference name : String)
  | references (target : Reference)
  | onDelete (action : ReferentialAction)
  | onUpdate (action : ReferentialAction)
  deriving DecidableEq, Repr

namespace ColumnDraft

/-- A new column. -/
def new (name dataType : String) : ColumnDraft :=
  ⟨.new name dataType, none⟩

/-- The reference of the given text and name.  An empty name is no name, and a text that
cannot be read is no reference. -/
def namedReference? (text name : String) : Option Reference :=
  (Reference.parse? text).map fun r => if name.isEmpty then r else { r with name := some name }

/-- The column after a step.  Actions are set on the reference, if there is one. -/
def step (d : ColumnDraft) : ColumnStep → ColumnDraft
  | .edit change => { d with column := d.column.edit change }
  | .foreignKey text name => { d with reference := namedReference? text name }
  | .references target => { d with reference := some target }
  | .onDelete action =>
    { d with reference := d.reference.map fun r => { r with onDelete := some action } }
  | .onUpdate action =>
    { d with reference := d.reference.map fun r => { r with onUpdate := some action } }

/-- The column after steps from first to last. -/
def steps (d : ColumnDraft) (taken : List ColumnStep) : ColumnDraft :=
  taken.foldl step d

/-- The last of some steps is taken from where the others lead. -/
theorem steps_concat (d : ColumnDraft) (taken : List ColumnStep) (s : ColumnStep) :
    d.steps (taken ++ [s]) = (d.steps taken).step s := by
  simp [steps]

/-- The finished column. -/
def finish (d : ColumnDraft) : Column :=
  match d.reference with
  | some target => d.column.edit (.reference target)
  | none => d.column

end ColumnDraft

/-! ## Constraints under construction -/

/-- A single step in the construction of a constraint. -/
inductive ConstraintStep where
  | name (name : String)
  | references (table column : String)
  | onDelete (action : ReferentialAction)
  | onUpdate (action : ReferentialAction)
  deriving DecidableEq, Repr

/-- The constraint after a step.  Actions are set on its reference, if there is one. -/
def Constraint.step (c : Constraint) : ConstraintStep → Constraint
  | .name name => { c with name := some name }
  | .references table column => { c with reference := some (.toColumn table column) }
  | .onDelete action =>
    { c with reference := c.reference.map fun r => { r with onDelete := some action } }
  | .onUpdate action =>
    { c with reference := c.reference.map fun r => { r with onUpdate := some action } }

/-! ## Tables and indexes under construction -/

/-- A single step in the construction of a table that opens no part of it. -/
inductive TableStep where
  | edit (change : TableEdit)
  | engine (name : String)
  deriving DecidableEq, Repr

/-- The table after a step. -/
def Table.step (t : Table) : TableStep → Table
  | .edit change => t.edit change
  | .engine name => t.setOption "ENGINE" name

/-- A single step in the construction of an index. -/
inductive IndexStep where
  | unique
  | method (name : String)
  | comment (text : String)
  deriving DecidableEq, Repr

/-- The index after a step. -/
def Index.step (i : Index) : IndexStep → Index
  | .unique => { i with unique := true }
  | .method name => { i with method := some name }
  | .comment text => { i with comment := some text }

/-! ## Schemas under construction -/

/-- A schema under construction: the finished statements and the part that the cursor
stands at. -/
inductive Draft where
  | schema (statements : List Statement)
  | table (statements : List Statement) (table : Table)
  | column (statements : List Statement) (table : Table) (column : ColumnDraft)
  | constraint (statements : List Statement) (table : Table) (constraint : Constraint)
  | index (statements : List Statement) (index : Index)
  deriving DecidableEq, Repr

namespace Draft

/-- A schema without statements. -/
def new : Draft :=
  .schema []

/-- What the cursor stands at. -/
def place : Draft → String
  | .schema _ => "schema"
  | .table _ _ => "table"
  | .column _ _ _ => "column"
  | .constraint _ _ _ => "constraint"
  | .index _ _ => "index"

/-- Ends the part that the cursor stands at; the schema itself is not ended. -/
def close : Draft → Draft
  | .schema statements => .schema statements
  | .table statements t => .schema (statements ++ [.createTable t])
  | .column statements t c => .table statements (t.addColumn c.finish)
  | .constraint statements t c => .table statements (t.addConstraint c)
  | .index statements i => .schema (statements ++ [.createIndex i])

/-- The statements of the schema when all open parts are ended. -/
def finish (d : Draft) : List Statement :=
  match d.close.close with
  | .schema statements => statements
  | _ => []

/-- Adds a statement, if the cursor stands at the schema. -/
def addStatement (s : Statement) : Draft → Option Draft
  | .schema statements => some (.schema (statements ++ [s]))
  | _ => none

/-- Opens a table, if the cursor stands at the schema. -/
def openTable (name : String) : Draft → Option Draft
  | .schema statements => some (.table statements (.new name))
  | _ => none

/-- Opens an index, if the cursor stands at the schema. -/
def openIndex (name table : String) (columns : List String) : Draft → Option Draft
  | .schema statements => some (.index statements (.new name table columns))
  | _ => none

/-- Opens a column, if the cursor stands at a table. -/
def openColumn (name dataType : String) : Draft → Option Draft
  | .table statements t => some (.column statements t (.new name dataType))
  | _ => none

/-- Opens a constraint, if the cursor stands at a table. -/
def openConstraint (c : Constraint) : Draft → Option Draft
  | .table statements t => some (.constraint statements t c)
  | _ => none

/-- Takes a step at a table, if the cursor stands at one. -/
def stepTable (taken : TableStep) : Draft → Option Draft
  | .table statements t => some (.table statements (t.step taken))
  | _ => none

/-- Takes a step at a column, if the cursor stands at one. -/
def stepColumn (taken : ColumnStep) : Draft → Option Draft
  | .column statements t c => some (.column statements t (c.step taken))
  | _ => none

/-- Takes a step at a constraint, if the cursor stands at one. -/
def stepConstraint (taken : ConstraintStep) : Draft → Option Draft
  | .constraint statements t c => some (.constraint statements t (c.step taken))
  | _ => none

/-- Takes a step at an index, if the cursor stands at one. -/
def stepIndex (taken : IndexStep) : Draft → Option Draft
  | .index statements i => some (.index statements (i.step taken))
  | _ => none

end Draft

end SchemaDdl
