/-
# Snake case

A name in snake case has its words in lower case with an underscore between them.
Words end at characters that are no part of words and where the case of the letters
shows that a new word begins: `orderLine` has two words, and so has `HTTPServer`.
-/
import SchemaDdl.Text.Letter

namespace SchemaDdl.Text

/-! ## Words by case -/

/-- The case of the last letter with a case since the word began. -/
inductive CaseSeen where
  | none
  | lower
  | upper
  deriving DecidableEq, Repr

/-- The case seen after one more character. -/
def CaseSeen.after (seen : CaseSeen) (c : Char) : CaseSeen :=
  if isLowerCase c then .lower else if isUpperCase c then .upper else seen

/-- The words in a run of word characters, of which `word` holds the characters read
so far of the current one, last first.  A word ends before an upper case letter that
follows lower case, and before the last of several upper case letters when lower case
follows it. -/
def wordsByCase (seen : CaseSeen) (word : List Char) : List Char → List (List Char)
  | [] => []
  | [c] => [(c :: word).reverse]
  | c :: next :: rest =>
    if seen.after c = .lower ∧ isUpperCase next then
      (c :: word).reverse :: wordsByCase .none [] (next :: rest)
    else if seen = .upper ∧ isUpperCase c ∧ isLowerCase next then
      word.reverse :: wordsByCase .none [c] (next :: rest)
    else wordsByCase (seen.after c) (c :: word) (next :: rest)

/-! ## Snake case -/

/-- The words of a name. -/
def nameWords (cs : List Char) : List (List Char) :=
  (cs.splitOnP fun c => !isWordChar c).flatMap (wordsByCase .none [])

/-- A name in snake case. -/
def snakeCase (s : String) : String :=
  "_".intercalate ((nameWords s.toList).map fun word => String.ofList (lowerCaseWord word))

end SchemaDdl.Text
