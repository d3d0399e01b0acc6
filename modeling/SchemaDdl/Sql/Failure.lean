/-
# Failures

Why a name is not understood or a statement cannot be written, and in which words.
-/
import SchemaDdl.Sql.Dialect
import SchemaDdl.Sql.Statement

namespace SchemaDdl

/-! ## Causes -/

/-- Why a schema cannot be built or written out. -/
inductive Failure where
  | unknownConstraintKind (text : String)
  | unknownDialect (name : String)
  | unknownAction (text : String)
  | missingReference (constraint : String)
  | missingExpression (constraint : String)
  | noColumns (kind : ConstraintKind)
  | unsupportedAlteration (dialect : Dialect) (operation : String)
  | atStatement (index : Nat) (cause : Failure)
  deriving DecidableEq, Repr

namespace Failure

/-- The words in which a failure is reported. -/
def message : Failure → String
  | .unknownConstraintKind text => "Unknown constraint kind: " ++ text
  | .unknownDialect name => "Unknown dialect: " ++ name
  | .unknownAction text => "unknown referential action: " ++ text
  | .missingReference constraint =>
    "Foreign key constraint '" ++ constraint ++ "' has no reference"
  | .missingExpression constraint =>
    "Check constraint '" ++ constraint ++ "' has no expression"
  | .noColumns kind => kind.sql ++ " constraint has no columns"
  | .unsupportedAlteration dialect operation =>
    dialect.name ++ " cannot render alter operation '" ++ operation ++ "'"
  | .atStatement index cause =>
    "Statement " ++ toString index ++ " failed: " ++ cause.message

/-- The failure without the positions of the statements around it. -/
def rootCause : Failure → Failure
  | .atStatement _ cause => cause.rootCause
  | failure => failure

end Failure

/-! ## Reading names -/

/-- The dialect of a name; an unknown name is reported without blanks around it and in
lower case. -/
def Dialect.parse (s : String) : Except Failure Dialect :=
  match Dialect.ofName? s with
  | some d => .ok d
  | none => .error (.unknownDialect (Dialect.normalizedName s))

/-- The constraint kind of a name; an unknown name is reported as it was given. -/
def ConstraintKind.parse (s : String) : Except Failure ConstraintKind :=
  match ConstraintKind.ofName? s with
  | some kind => .ok kind
  | none => .error (.unknownConstraintKind s)

/-- The referential action of a name; an unknown name is reported as it was given. -/
def ReferentialAction.parse (s : String) : Except Failure ReferentialAction :=
  match ReferentialAction.ofName? s with
  | some action => .ok action
  | none => .error (.unknownAction s)

/-! ## Going through statements -/

/-- Takes a step for each numbered statement in order.  The first step that fails ends
the walk with the number of its statement; what earlier steps made is kept. -/
def walk {σ : Type} (step : σ → Statement → Except Failure σ) :
    σ → List (Statement × Nat) → σ × Except Failure Unit
  | state, [] => (state, .ok ())
  | state, (s, index) :: rest =>
    match step state s with
    | .error cause => (state, .error (.atStatement index cause))
    | .ok state => walk step state rest

end SchemaDdl
