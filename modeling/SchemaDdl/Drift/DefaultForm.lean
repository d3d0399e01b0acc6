/-
# Comparison forms of defaults

Defaults are compared by forms that leave out what a catalog adds or spells in its own
way: casts, quotes, the names of functions, and the spellings of truth values.
-/
import SchemaDdl.Drift.TypeBucket
import SchemaDdl.Text.Cut

namespace SchemaDdl.Drift

/-! ## Tables -/

/-- The spellings of default functions and the form of each. -/
def functionForms : List (String × String) :=
  [("now()", "current_timestamp"), ("current_timestamp()", "current_timestamp"),
    ("current_timestamp", "current_timestamp"), ("localtimestamp", "current_timestamp"),
    ("current_date", "current_date"), ("curdate()", "current_date")]

/-- The spellings of truth values and the form of each. -/
def booleanForms : List (String × String) :=
  [("1", "true"), ("true", "true"), ("t", "true"), ("b'1'", "true"), ("0", "false"),
    ("false", "false"), ("f", "false"), ("b'0'", "false")]

/-! ## Casts and quotes -/

/-- A default without the cast at its end.  A cast starts at the last pair of colons
unless an apostrophe follows. -/
def stripCast (cs : List Char) : List Char :=
  match Text.cutAtLastPair ':' cs with
  | some (value, cast) => if cast.contains '\'' then cs else Text.dropBlanksRight value
  | none => cs

/-- Whether a text starts and ends with a quote of the given kind. -/
def isQuotedBy (quote : Char) (cs : List Char) : Bool :=
  2 ≤ cs.length && cs.head? == some quote && cs.getLast? == some quote

/-- A text without the quotes around it; quotes are apostrophes or double quotes. -/
def stripQuotes (cs : List Char) : List Char :=
  if isQuotedBy '\'' cs || isQuotedBy '"' cs then cs.tail.dropLast else cs

/-! ## Forms -/

/-- The form of a truth value in a column of truth values. -/
def booleanForm? (bucket word : String) : Option String :=
  if bucket = booleanBucket then booleanForms.lookup word else none

/-- The form of a default without its cast: in a column of truth values that of its
spelling, with or without quotes; nothing for `NULL`; one for all spellings of a
function; and otherwise the text between the quotes. -/
def plainForm (value : List Char) (bucket : String) : String :=
  let unquoted := String.ofList (stripQuotes value)
  let word := unquoted.toLower
  match booleanForm? bucket (String.ofList value).toLower with
  | some form => form
  | none =>
    if word = "null" then ""
    else
      match functionForms.lookup word with
      | some form => form
      | none => (booleanForm? bucket word).getD unquoted

/-- The comparison form of a default in a column of the given bucket; it is empty when
there is no default. -/
def defaultForm (default : Option String) (bucket : String) : String :=
  match default with
  | none => ""
  | some text => plainForm (stripCast (Text.trimmed text.toList)) bucket

end SchemaDdl.Drift
