/-
# Command line arguments

The options of the program and its three commands.  Options may be long or short, with
their value attached or in the next argument, and the options that every command
knows may stand before the command as well.
-/
import SchemaDdl.Sql.Failure

namespace SchemaDdl.Command

/-! ## Options -/

/-- The options of the program. -/
inductive Opt where
  | dialect
  | verbose
  | version
  | schema
  | live
  | output
  | json
  | emitStatements
  deriving DecidableEq, Repr

namespace Opt

/-- The long name of an option. -/
def long : Opt → String
  | .dialect => "dialect"
  | .verbose => "verbose"
  | .version => "version"
  | .schema => "schema"
  | .live => "live"
  | .output => "output"
  | .json => "json"
  | .emitStatements => "emit-statements"

/-- The short name of an option, if it has one. -/
def short? : Opt → Option Char
  | .dialect => some 'd'
  | .verbose => some 'v'
  | .version => some 'V'
  | .schema => some 's'
  | .live => some 'l'
  | .output => some 'o'
  | .json => none
  | .emitStatements => none

/-- Whether an option has a value. -/
def takesValue : Opt → Bool
  | .dialect => true
  | .schema => true
  | .live => true
  | .output => true
  | _ => false

end Opt

/-- The commands of the program. -/
inductive Name where
  | render
  | diff
  | check
  deriving DecidableEq, Repr

/-- The command that a word names. -/
def Name.ofWord? : String → Option Name
  | "render" => some .render
  | "diff" => some .diff
  | "check" => some .check
  | _ => none

/-- The options that may stand before the command. -/
def programOptions : List Opt :=
  [.dialect, .verbose, .version]

/-- The options of a command. -/
def Name.options : Name → List Opt
  | .render => [.schema, .output, .dialect, .verbose]
  | .diff => [.schema, .live, .json, .emitStatements, .dialect, .verbose]
  | .check => [.schema, .live, .dialect, .verbose]

/-! ## Errors -/

/-- Why arguments are not understood. -/
inductive UsageError where
  | unexpected (argument : String)
  | missingValue (option : Opt)
  | needlessValue (option : Opt)
  | repeated (option : Opt)
  | emptyValue (option : Opt)
  | unknownDialect (name : String)
  | missingOption (option : Opt)
  | missingCommand
  deriving DecidableEq, Repr

/-- The words in which an error is reported. -/
def UsageError.message : UsageError → String
  | .unexpected argument => "unexpected argument '" ++ argument ++ "' found"
  | .missingValue o => "a value is required for '--" ++ o.long ++ "' but none was supplied"
  | .needlessValue o => "unexpected value for '--" ++ o.long ++ "' found"
  | .repeated o => "the argument '--" ++ o.long ++ "' cannot be used multiple times"
  | .emptyValue o => "a value is required for '--" ++ o.long ++ "' but none was supplied"
  | .unknownDialect name => (Failure.unknownDialect name).message
  | .missingOption o => "the argument '--" ++ o.long ++ "' was not provided"
  | .missingCommand => "a command is required: render, diff or check"

/-! ## Given options -/

/-- The options that were given and their values, the last first. -/
abbrev GivenOptions := List (Opt × String)

/-- Whether an option was given. -/
def GivenOptions.has (given : GivenOptions) (o : Opt) : Bool :=
  (given.lookup o).isSome

/-- The dialect that the value of an option names. -/
def readDialect (value : String) : Except UsageError Dialect :=
  match Dialect.ofName? value with
  | some d => .ok d
  | none => .error (.unknownDialect (Dialect.normalizedName value))

/-- Whether a value is allowed for an option: a dialect must be known, and a path must
not be empty. -/
def checkValue (o : Opt) (value : String) : Except UsageError Unit :=
  match o with
  | .dialect => (readDialect value).map fun _ => ()
  | _ => if o.takesValue && value.isEmpty then .error (.emptyValue o) else .ok ()

/-- The given options after one more, which must not have been given before. -/
def GivenOptions.add (given : GivenOptions) (o : Opt) (value : String) :
    Except UsageError GivenOptions := do
  if given.has o then throw (.repeated o)
  checkValue o value
  return (o, value) :: given

/-! ## Single arguments -/

/-- What an argument is: the end of the options, a long option with the value attached
to it, short options in one, or a word. -/
inductive Argument where
  | endOfOptions
  | long (name : String) (value : Option String)
  | short (letters : List Char)
  | word (text : String)
  deriving DecidableEq, Repr

/-- What an argument is.  A hyphen on its own is a word. -/
def Argument.ofText (s : String) : Argument :=
  match s.toList with
  | ['-', '-'] => .endOfOptions
  | '-' :: '-' :: rest =>
    match Text.cutAt '=' rest with
    | some (name, value) => .long (String.ofList name) (some (String.ofList value))
    | none => .long (String.ofList rest) none
  | '-' :: c :: rest => .short (c :: rest)
  | _ => .word s

/-- Whether an argument can be the value of the option before it. -/
def isValue (s : String) : Bool :=
  match Argument.ofText s with
  | .word _ => true
  | _ => false

/-! ## Reading arguments -/

/-- What arguments up to a command were understood to be. -/
inductive Reading where
  | version
  | complete (given : GivenOptions)
  | command (given : GivenOptions) (name : Name) (rest : List String)
  deriving DecidableEq, Repr

/-- What the first letters of short options in one come to: flags, and at the end maybe
an option whose value is attached or is the next argument. -/
inductive Cluster where
  | flags (given : GivenOptions)
  | awaitsValue (given : GivenOptions) (option : Opt)
  | version
  deriving DecidableEq, Repr

/-- A value attached to a short option; an equals sign before it is no part of it. -/
def attachedValue : List Char → String
  | '=' :: rest => String.ofList rest
  | cs => String.ofList cs

/-- Reads short options in one. -/
def readCluster (scope : List Opt) (given : GivenOptions) :
    List Char → Except UsageError Cluster
  | [] => .ok (.flags given)
  | c :: rest =>
    match scope.find? (·.short? == some c) with
    | none => .error (.unexpected (String.ofList ['-', c]))
    | some o =>
      if o = .version then .ok .version
      else if o.takesValue then
        if rest.isEmpty then .ok (.awaitsValue given o)
        else (given.add o (attachedValue rest)).map .flags
      else do readCluster scope (← given.add o "true") rest

/-- Reads arguments of which only those in `scope` may be options; `commands` tells
whether a word may name a command. -/
def readArguments (scope : List Opt) (commands : Bool) (given : GivenOptions) :
    List String → Except UsageError Reading
  | [] => .ok (.complete given)
  | argument :: rest =>
    match Argument.ofText argument with
    | .endOfOptions =>
      match rest with
      | [] => .ok (.complete given)
      | next :: _ => .error (.unexpected next)
    | .word text =>
      match if commands then Name.ofWord? text else none with
      | some name => .ok (.command given name rest)
      | none => .error (.unexpected text)
    | .long name value =>
      match scope.find? (·.long == name) with
      | none => .error (.unexpected argument)
      | some o =>
        match o.takesValue, value, rest with
        | true, some value, rest => do
          readArguments scope commands (← given.add o value) rest
        | true, none, next :: rest =>
          if isValue next then do readArguments scope commands (← given.add o next) rest
          else .error (.missingValue o)
        | true, none, [] => .error (.missingValue o)
        | false, some _, _ => .error (.needlessValue o)
        | false, none, rest =>
          if o = .version then .ok .version
          else do readArguments scope commands (← given.add o "true") rest
    | .short letters =>
      match readCluster scope given letters, rest with
      | .error e, _ => .error e
      | .ok .version, _ => .ok .version
      | .ok (.flags given), rest => readArguments scope commands given rest
      | .ok (.awaitsValue given o), next :: rest =>
        if isValue next then do readArguments scope commands (← given.add o next) rest
        else .error (.missingValue o)
      | .ok (.awaitsValue _ o), [] => .error (.missingValue o)

/-! ## Requests -/

/-- A command with what it works on. -/
inductive Task where
  | render (schema : String) (output : Option String)
  | diff (schema live : String) (json emitStatements : Bool)
  | check (schema live : String)
  deriving DecidableEq, Repr

/-- What the program is asked to do. -/
inductive Request where
  | version
  | run (dialect : Dialect) (task : Task)
  deriving DecidableEq, Repr

/-- The value of an option that must be given. -/
def GivenOptions.require (given : GivenOptions) (o : Opt) : Except UsageError String :=
  match given.lookup o with
  | some value => .ok value
  | none => .error (.missingOption o)

/-- The task of a command with the given options. -/
def taskOf (given : GivenOptions) : Name → Except UsageError Task
  | .render => return .render (← given.require .schema) (given.lookup .output)
  | .diff =>
    return .diff (← given.require .schema) (← given.require .live) (given.has .json)
      (given.has .emitStatements)
  | .check => return .check (← given.require .schema) (← given.require .live)

/-- The dialect at one place where it can be given: by its option, or else by the
environment. -/
def dialectAt (given : GivenOptions) (environment : Option String) :
    Except UsageError (Option Dialect) :=
  match given.lookup .dialect with
  | some value => (readDialect value).map some
  | none =>
    match environment with
    | some value => (readDialect value).map some
    | none => .ok none

/-- The dialect of a command.  An option after the command counts most, then one before
it, then the environment, and without any of them it is PostgreSQL.  The environment is
read wherever the option is missing, so a wrong value there is always an error unless
the option stands in both places. -/
def dialectOf (before after : GivenOptions) (environment : Option String) :
    Except UsageError Dialect := do
  let inner ← dialectAt after environment
  let outer ← dialectAt before environment
  let chosen := if after.has .dialect || !before.has .dialect then inner else outer
  return chosen.getD .postgres

/-- Understands the arguments of the program.  `environment` is the dialect that the
environment sets. -/
def Request.ofArguments (arguments : List String) (environment : Option String) :
    Except UsageError Request := do
  match ← readArguments programOptions true [] arguments with
  | .version => return .version
  | .complete _ => throw .missingCommand
  | .command before name rest =>
    match ← readArguments name.options false [] rest with
    | .complete after =>
      let dialect ← dialectOf before after environment
      return .run dialect (← taskOf after name)
    | _ => throw .missingCommand

end SchemaDdl.Command
