/-
# Numerals

The texts that denote a number: decimal digits with an optional sign, point and
exponent, or a word for infinity or for no number.
-/

namespace SchemaDdl.Text

/-! ## Parts of a numeral -/

/-- The text behind an optional sign. -/
def dropSign : List Char → List Char
  | '+' :: rest => rest
  | '-' :: rest => rest
  | cs => cs

/-- Whether the text is a non-empty run of decimal digits. -/
def isDigits (cs : List Char) : Bool :=
  !cs.isEmpty && cs.all Char.isDigit

/-- Whether the text is empty or an exponent: the letter `e`, an optional sign and
digits. -/
def isExponent : List Char → Bool
  | [] => true
  | c :: rest => c.toLower == 'e' && isDigits (dropSign rest)

/-- Whether the text is digits with at most one point among or around them, and then
an optional exponent. -/
def isDecimal (cs : List Char) : Bool :=
  let whole := cs.takeWhile Char.isDigit
  match cs.dropWhile Char.isDigit with
  | '.' :: rest =>
    let fraction := rest.takeWhile Char.isDigit
    !(whole ++ fraction).isEmpty && isExponent (rest.dropWhile Char.isDigit)
  | rest => !whole.isEmpty && isExponent rest

/-- The words that stand for infinity and for no number. -/
def numberWords : List (List Char) :=
  ["inf".toList, "infinity".toList, "nan".toList]

/-! ## Numerals -/

/-- Whether the text denotes a number; the case of letters does not matter. -/
def isNumeral (cs : List Char) : Bool :=
  let unsigned := dropSign cs
  numberWords.contains (unsigned.map Char.toLower) || isDecimal unsigned

end SchemaDdl.Text
