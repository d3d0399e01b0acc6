/-
# Classes of letters

Which characters belong to words, which of them are in upper or in lower case, and
what the lower case of a character is.
-/
import SchemaDdl.Text.LetterTable

namespace SchemaDdl.Text

/-! ## Looking up tables -/

/-- Whether `n` is a member of the run from `first` to `last` by `step`. -/
def inRun (n first last step : Nat) : Bool :=
  first ≤ n && n ≤ last && (n - first) % step == 0

/-! ## Classes -/

/-- Whether a character is alphabetic or numeric, and so part of a word. -/
def isWordChar (c : Char) : Bool :=
  let n := c.toNat
  if n < 0x80 then c.isAlphanum
  else wordRanges.any fun (first, last) => first ≤ n && n ≤ last

/-- Whether a character is a lower case letter. -/
def isLowerCase (c : Char) : Bool :=
  let n := c.toNat
  if n < 0x80 then c.isLower
  else lowerRuns.any fun (first, last, step) => inRun n first last step

/-- Whether a character is an upper case letter. -/
def isUpperCase (c : Char) : Bool :=
  let n := c.toNat
  if n < 0x80 then c.isUpper
  else upperRuns.any fun (first, last, step) => inRun n first last step

/-! ## Lower case -/

/-- The lower case of a character.  It is one character for all but the capital `I`
with a dot above, whose dot becomes a combining mark of its own. -/
def lowerCase (c : Char) : List Char :=
  let n := c.toNat
  if n < 0x80 then [c.toLower]
  else if n = 0x130 then ['i', '\u0307']
  else
    match loweringRuns.find? fun (first, last, step, _) => inRun n first last step with
    | some (_, _, _, distance) => [Char.ofNat (n + distance).toNat]
    | none => [c]

/-- The lower case of a word.  A capital sigma at its end becomes a final sigma. -/
def lowerCaseWord : List Char → List Char
  | [] => []
  | [c] => if c = 'Σ' then ['ς'] else lowerCase c
  | c :: rest => lowerCase c ++ lowerCaseWord rest

end SchemaDdl.Text
