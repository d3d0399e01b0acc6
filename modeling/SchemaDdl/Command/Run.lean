/-
# Running commands

What the commands do with the files that they are given.  Files are reached through
two operations, so that a command runs on a disk as well as on a directory in memory.
-/
import SchemaDdl.Catalog.Document
import SchemaDdl.Command.Arguments
import SchemaDdl.Ddl.Renderer
import SchemaDdl.Drift.Comparison
import SchemaDdl.Drift.Document
import SchemaDdl.Drift.Migration
import SchemaDdl.Entity.Document
import SchemaDdl.Json.Reader
import SchemaDdl.Json.Writer

namespace SchemaDdl

/-! ## Documents -/

/-- Reads the text of a metadata document. -/
def Metadata.read? (text : String) : Option Metadata :=
  (Json.parse text).bind Metadata.ofJson?

/-- Reads the text of a catalog document. -/
def LiveSchema.read? (text : String) : Option LiveSchema :=
  (Json.parse text).bind LiveSchema.ofJson?

/-- The statements that create what metadata asks for, as one text. -/
def Metadata.render (m : Metadata) (d : Dialect) : Except Failure String :=
  ((Renderer.ofDialect d).renderSchema (m.schema.statements d)).2

namespace Command

/-! ## Failures and outcomes -/

/-- Why a command cannot do its work. -/
inductive CommandFailure where
  | unreadableSchema (path : String)
  | invalidSchema (path : String)
  | unreadableCatalog (path : String)
  | invalidCatalog (path : String)
  | unrenderable (path : String) (dialect : Dialect)
  | noMigration
  | unwritable (path : String)
  deriving DecidableEq, Repr

/-- The words in which a failure is reported. -/
def CommandFailure.message : CommandFailure → String
  | .unreadableSchema path => "failed to read " ++ path
  | .invalidSchema path => "invalid JSON in " ++ path
  | .unreadableCatalog path => "failed to read catalog snapshot " ++ path
  | .invalidCatalog path => "invalid catalog snapshot " ++ path
  | .unrenderable path dialect => "failed to render " ++ path ++ " for " ++ dialect.name
  | .noMigration => "failed to generate migration SQL"
  | .unwritable path => "failed to write " ++ path

/-- What a run of the program comes to. -/
structure Outcome where
  exitCode : Nat
  output : String
  failure : Option String
  deriving DecidableEq, Repr

/-- The outcome of a run that prints a text and succeeds. -/
def Outcome.printed (output : String) : Outcome :=
  ⟨0, output, none⟩

/-! ## Files -/

/-- How files are read and written: reading gives nothing when it fails, and writing
tells whether it succeeded. -/
structure FileAccess (m : Type → Type) where
  read : String → m (Option String)
  write : String → String → m Bool

variable {m : Type → Type} [Monad m]

/-- The value if there is one, and otherwise a failure. -/
def orFail {α : Type} (failure : CommandFailure) : Option α → ExceptT CommandFailure m α
  | some a => pure a
  | none => throw failure

/-- The metadata in a file. -/
def loadMetadata (files : FileAccess m) (path : String) :
    ExceptT CommandFailure m Metadata := do
  let text ← orFail (.unreadableSchema path) (← files.read path)
  orFail (.invalidSchema path) (Metadata.read? text)

/-- The live schema in a file. -/
def loadCatalog (files : FileAccess m) (path : String) :
    ExceptT CommandFailure m LiveSchema := do
  let text ← orFail (.unreadableCatalog path) (← files.read path)
  orFail (.invalidCatalog path) (LiveSchema.read? text)

/-! ## Commands -/

/-- The text of a difference and of the migration that it calls for. -/
def diffText (schema : DesiredSchema) (live : LiveSchema) (d : Dialect)
    (json emitStatements : Bool) : Except Failure String := do
  let diff := Drift.compare schema live d
  let head := if json then diff.toJson.pretty ++ "\n" else diff.summary
  if diff.hasChanges then
    let entries ← Drift.MigrationPlan.entries ⟨schema, d, emitStatements⟩ diff
    return head ++ "\n" ++ Renderer.terminated entries
  else return head

/-- Carries out a task. -/
def perform (files : FileAccess m) (d : Dialect) : Task → ExceptT CommandFailure m Outcome
  | .render schema output => do
    let metadata ← loadMetadata files schema
    let sql ← orFail (.unrenderable schema d) (metadata.render d).toOption
    match output with
    | none => return .printed sql
    | some path =>
      if ← files.write path sql then return .printed ""
      else throw (.unwritable path)
  | .diff schema live json emitStatements => do
    let metadata ← loadMetadata files schema
    let catalog ← loadCatalog files live
    let text ← orFail .noMigration
      (diffText metadata.schema catalog d json emitStatements).toOption
    return .printed text
  | .check schema live => do
    let metadata ← loadMetadata files schema
    let catalog ← loadCatalog files live
    if (Drift.compare metadata.schema catalog d).hasChanges then return ⟨1, "", none⟩
    else return .printed ""

/-- The name and version of the program. -/
def versionLine : String := "ddlforge 0.1.0\n"

/-- Does what the program is asked to do. -/
def run (files : FileAccess m) : Request → m Outcome
  | .version => return .printed versionLine
  | .run d task => do
    match ← (perform files d task).run with
    | .ok outcome => return outcome
    | .error failure => return ⟨1, "", some failure.message⟩

/-- Runs the program on arguments.  Arguments that are not understood end it with a
status of its own. -/
def runArguments (files : FileAccess m) (arguments : List String)
    (environment : Option String) : m Outcome :=
  match Request.ofArguments arguments environment with
  | .ok request => run files request
  | .error _ => return ⟨2, "", none⟩

end Command

end SchemaDdl
