/-
# Label lines

A table starts with a line that has its name and a label of the dialect, and no other
statement has such a line:

* `Profile.createTable_eq` : a table by its label line and what comes after it;
* `Renderer.addition_eq_map_bodyText` : any statement by both.
-/
import SchemaDdl.Proofs.Ddl.FirstFailure

namespace SchemaDdl

/-! ## Statements by their label lines -/

/-- The line with the label of a table, which no other statement has. -/
def labelLine (label : String) : Statement → String
  | .createTable t => "-- " ++ label ++ ": " ++ t.name ++ " --\n"
  | _ => ""

/-- The lines with the comment of a table. -/
def Table.commentLines (t : Table) : String :=
  match t.comment with
  | some text => String.join ((Text.lines text).map fun line => "-- " ++ line ++ "\n")
  | none => ""

namespace Profile

/-- What a table has after its label line. -/
def tableBody (p : Profile) (known : KnownEnums) (t : Table) : Except Failure String := do
  let lines ← p.tableLines known t
  return t.commentLines ++ ("CREATE TABLE " ++ t.name ++ " (\n" ++
    ",\n".intercalate (lines.map ("  " ++ ·)) ++ "\n)" ++ p.optionsClause t ++ ";" ++
    String.join ((p.tableTrailer t).map ("\n" ++ ·)))

/-- What a statement adds after its label line. -/
def bodyText (p : Profile) (known : KnownEnums) : Statement → Except Failure String
  | .createTable t => (p.tableBody known t).map (· ++ "\n")
  | s => (p.statementTexts known s).map Renderer.terminated

/-- The header of a table is its label line and its comment. -/
theorem tableHeader_eq (p : Profile) (t : Table) :
    p.tableHeader t = labelLine p.tableLabel (.createTable t) ++ t.commentLines :=
  rfl

/-- A table is its label line and what comes after it. -/
theorem createTable_eq (p : Profile) (known : KnownEnums) (t : Table) :
    p.createTable known t =
      (p.tableBody known t).map (labelLine p.tableLabel (.createTable t) ++ ·) := by
  rw [createTable, tableBody, tableHeader_eq]
  cases p.tableLines known t with
  | error cause => rfl
  | ok lines => simp [bind, Except.bind, pure, Except.pure, Except.map, String.append_assoc]

end Profile

namespace Renderer

/-- Nothing in front of a text leaves it as it is. -/
theorem map_empty_append (result : Except Failure String) : result.map ("" ++ ·) = result := by
  cases result <;> simp [Except.map]

/-- A statement adds its label line and what comes after it. -/
theorem addition_eq_map_bodyText (r : Renderer) (s : Statement) :
    r.addition s =
      (r.profile.bodyText r.known s).map (labelLine r.profile.tableLabel s ++ ·) := by
  rw [addition_eq]
  cases s with
  | createTable t =>
    rw [Profile.statementTexts, Profile.createTable_eq, Profile.bodyText]
    cases r.profile.tableBody r.known t with
    | error cause => rfl
    | ok body => simp [Except.map, terminated, String.append_assoc]
  | column _ | constraint _ | createIndex _ | enumType _ | comment _ | alterTable _ =>
    exact (map_empty_append _).symm

end Renderer

end SchemaDdl
