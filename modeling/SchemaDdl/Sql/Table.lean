/-
# Tables

The definition of a table with its columns, constraints and options.  A table never
holds two primary key constraints, and its options form a map whose keys are compared
without regard to the case of letters.
-/
import SchemaDdl.Sql.Constraint

namespace SchemaDdl

/-- The definition of a table. -/
structure Table where
  name : String
  columns : List Column
  constraints : List Constraint
  options : List (String × String)
  comment : Option String
  deriving DecidableEq, Repr

/-- A single change to the definition of a table. -/
inductive TableEdit where
  | column (column : Column)
  | constraint (constraint : Constraint)
  | option (key value : String)
  | comment (text : String)
  deriving DecidableEq, Repr

/-! ## Adding constraints -/

/-- Constraints with a new primary key in the place of the first one, if there is one. -/
def replacePrimaryKey (key : Constraint) : List Constraint → Option (List Constraint)
  | [] => none
  | c :: rest =>
    if c.kind = .primaryKey then some (key :: rest)
    else (replacePrimaryKey key rest).map (c :: ·)

/-- Constraints after one more.  A primary key takes the place of an earlier one. -/
def insertConstraint (constraints : List Constraint) (c : Constraint) : List Constraint :=
  if c.kind = .primaryKey then (replacePrimaryKey c constraints).getD (constraints ++ [c])
  else constraints ++ [c]

/-! ## Setting options -/

/-- Options after one is set.  A key that is set already keeps its place and its
spelling and takes the new value. -/
def insertOption (key value : String) : List (String × String) → List (String × String)
  | [] => [(key, value)]
  | (k, v) :: rest =>
    if Text.sameIgnoringCase k key then (k, value) :: rest
    else (k, v) :: insertOption key value rest

namespace Table

/-! ## Tables -/

/-- A table without columns. -/
def new (name : String) : Table :=
  ⟨name, [], [], [], none⟩

/-- The table with a further column. -/
def addColumn (t : Table) (c : Column) : Table :=
  { t with columns := t.columns ++ [c] }

/-- The table with a further constraint; a primary key takes the place of an earlier
one. -/
def addConstraint (t : Table) (c : Constraint) : Table :=
  { t with constraints := insertConstraint t.constraints c }

/-- The table with an option set. -/
def setOption (t : Table) (key value : String) : Table :=
  { t with options := insertOption key value t.options }

/-- The table with a comment. -/
def setComment (t : Table) (text : String) : Table :=
  { t with comment := some text }

/-- The table after a change. -/
def edit (t : Table) : TableEdit → Table
  | .column c => t.addColumn c
  | .constraint c => t.addConstraint c
  | .option key value => t.setOption key value
  | .comment text => t.setComment text

/-- The table after changes from first to last. -/
def edits (t : Table) (changes : List TableEdit) : Table :=
  changes.foldl edit t

/-- A part of a table that some changes have a share in is made by these, one after another. -/
theorem part_edits {α σ : Type} (part : Table → σ) (share : TableEdit → Option α)
    (add : σ → α → σ)
    (h : ∀ t change, part (t.edit change) = (share change).elim (part t) (add (part t)))
    (t : Table) (changes : List TableEdit) :
    part (t.edits changes) = (changes.filterMap share).foldl add (part t) := by
  induction changes generalizing t with
  | nil => rfl
  | cons change rest ih =>
    have hrest : t.edits (change :: rest) = (t.edit change).edits rest := rfl
    rw [hrest, ih, h, List.filterMap_cons]
    cases share change <;> rfl

/-- The first column of the given name. -/
def column? (t : Table) (name : String) : Option Column :=
  t.columns.find? (·.name == name)

/-- The value of an option, whatever the case of its key. -/
def option? (t : Table) (key : String) : Option String :=
  (t.options.find? fun o => Text.sameIgnoringCase o.1 key).map (·.2)

end Table

end SchemaDdl
