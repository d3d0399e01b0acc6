/-
# Renderers

A renderer writes statements one after another into one text, each on a line of its
own.  A statement that cannot be written leaves the text as it was.
-/
import SchemaDdl.Ddl.Clause

namespace SchemaDdl

/-! ## State -/

/-- A profile, the enum types known to it and the text written so far. -/
structure Renderer where
  profile : Profile
  known : KnownEnums
  output : String

namespace Renderer

/-- A renderer that has written nothing. -/
def ofProfile (p : Profile) : Renderer :=
  ⟨p, [], ""⟩

/-- A renderer for a dialect. -/
def ofDialect (d : Dialect) : Renderer :=
  ofProfile d.profile

/-- The renderer with some more enum types known to it. -/
def withEnums (r : Renderer) (enums : List EnumType) : Renderer :=
  { r with known := r.known.add enums }

/-- The renderer with nothing written; it still knows its enum types. -/
def reset (r : Renderer) : Renderer :=
  { r with output := "" }

/-! ## Writing statements -/

/-- Texts with a newline after each. -/
def terminated (texts : List String) : String :=
  String.join (texts.map (· ++ "\n"))

/-- Writes a statement. -/
def write (r : Renderer) (s : Statement) : Except Failure Renderer := do
  let texts ← r.profile.statementTexts r.known s
  return { r with output := r.output ++ terminated texts }

/-- Writes numbered statements up to the first that fails. -/
def writeNumbered (r : Renderer) (statements : List (Statement × Nat)) :
    Renderer × Except Failure Unit :=
  walk write r statements

/-- Writes statements up to the first that fails, which is reported with its place in
the list. -/
def writeAll (r : Renderer) (statements : List Statement) : Renderer × Except Failure Unit :=
  r.writeNumbered statements.zipIdx

/-- A renderer with what it has written, unless something failed. -/
def withOutput (result : Renderer × Except Failure Unit) : Renderer × Except Failure String :=
  (result.1, result.2.map fun _ => result.1.output)

/-! ## Rendering -/

/-- Renders statements in order from an empty text. -/
def render (r : Renderer) (statements : List Statement) : Renderer × Except Failure String :=
  withOutput ((r.reset.withEnums (declaredEnums statements)).writeAll statements)

/-- Renders the enum types from an empty text, then all other statements; a blank line
parts the two if neither is missing.  Failures report places in the given list. -/
def renderEnumsFirst (r : Renderer) (statements : List Statement) :
    Renderer × Except Failure String :=
  let numbered := statements.zipIdx
  let enums := numbered.filter (·.1.isEnum)
  let others := numbered.filter (!·.1.isEnum)
  let gap := if enums.isEmpty || others.isEmpty then "" else "\n"
  match (r.reset.withEnums (declaredEnums statements)).writeNumbered enums with
  | (r, .error failure) => (r, .error failure)
  | (r, .ok ()) => withOutput ({ r with output := r.output ++ gap }.writeNumbered others)

/-- Renders a schema from an empty text, with the enum types first in dialects that have
them as types of their own. -/
def renderSchema (r : Renderer) (statements : List Statement) :
    Renderer × Except Failure String :=
  if r.profile.enumsFirst then r.renderEnumsFirst statements else r.render statements

/-- Renders one statement from an empty text, without the blank end of the text. -/
def renderStatement (r : Renderer) (s : Statement) : Renderer × Except Failure String :=
  match r.reset.write s with
  | .error failure => (r.reset, .error failure)
  | .ok r => (r, .ok (Text.trimRight r.output))

end Renderer

end SchemaDdl
