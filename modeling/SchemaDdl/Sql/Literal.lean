/-
# SQL literals

String literals, in which an apostrophe is written twice, and the rule by which the
text of a default value is written bare or as a string literal.
-/
import SchemaDdl.Text.Blank
import SchemaDdl.Text.Cut
import SchemaDdl.Text.Numeral

namespace SchemaDdl.Sql

/-! ## String literals -/

/-- The characters of a string literal between its quotes: an apostrophe is written
twice. -/
def doubleQuotes : List Char → List Char
  | [] => []
  | c :: rest => if c = '\'' then '\'' :: '\'' :: doubleQuotes rest else c :: doubleQuotes rest

/-- The string literal of a text. -/
def quoteLiteral (s : String) : String :=
  String.ofList ('\'' :: doubleQuotes s.toList ++ ['\''])

/-- The string literals of several texts with commas between them. -/
def quoteLiterals (values : List String) : String :=
  ", ".intercalate (values.map quoteLiteral)

/-- Whether a text starts and ends with an apostrophe of its own. -/
def isQuoted (cs : List Char) : Bool :=
  2 ≤ cs.length && cs.head? == some '\'' && cs.getLast? == some '\''

/-! ## Function calls -/

/-- Whether a character may stand in the name of a called function. -/
def isNameChar (c : Char) : Bool :=
  c.isAlphanum || c == '_' || c == '.'

/-- Whether a text looks like a function call: a name, then something in parentheses
up to the end. -/
def isFunctionCall (cs : List Char) : Bool :=
  match Text.cutAt '(' cs with
  | none => false
  | some (name, _) => !name.isEmpty && name.all isNameChar && cs.getLast? == some ')'

/-! ## Literal defaults -/

/-- The text of a literal default.  Truth values and `NULL` are written in upper case;
numbers, string literals, function calls and the words for the current time stand as
they are; all else becomes a string literal. -/
def literalText (s : String) : String :=
  let literal := Text.trim s
  let cs := literal.toList
  match literal.toLower with
  | "true" => "TRUE"
  | "false" => "FALSE"
  | "null" => "NULL"
  | "current_timestamp" => literal
  | "current_date" => literal
  | "current_time" => literal
  | _ =>
    if isQuoted cs || Text.isNumeral cs || isFunctionCall cs then literal
    else quoteLiteral literal

end SchemaDdl.Sql
