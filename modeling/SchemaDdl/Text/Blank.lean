/-
# Blank characters and trimming

A character is blank when it has the Unicode property `White_Space`.  Trimming a
text drops its blank characters at either end and keeps those between.
-/

namespace SchemaDdl.Text

/-! ## The blank characters -/

/-- The characters with the Unicode property `White_Space`, twenty-five in all. -/
def isBlank (c : Char) : Bool :=
  let n := c.toNat
  (0x9 ≤ n && n ≤ 0xD) || n == 0x20 || n == 0x85 || n == 0xA0 || n == 0x1680 ||
    (0x2000 ≤ n && n ≤ 0x200A) || n == 0x2028 || n == 0x2029 || n == 0x202F ||
    n == 0x205F || n == 0x3000

/-! ## Trimming lists of characters -/

/-- The characters from the first that is not blank. -/
def dropBlanks (cs : List Char) : List Char :=
  cs.dropWhile isBlank

/-- The characters up to the last that is not blank. -/
def dropBlanksRight (cs : List Char) : List Char :=
  (cs.reverse.dropWhile isBlank).reverse

/-- The characters from the first to the last that is not blank. -/
def trimmed (cs : List Char) : List Char :=
  dropBlanksRight (dropBlanks cs)

/-! ## Trimming texts -/

/-- A text without its blank start. -/
def trimLeft (s : String) : String :=
  String.ofList (dropBlanks s.toList)

/-- A text without its blank end. -/
def trimRight (s : String) : String :=
  String.ofList (dropBlanksRight s.toList)

/-- A text without its blank start and end. -/
def trim (s : String) : String :=
  String.ofList (trimmed s.toList)

/-- Trimming a text trims its characters. -/
@[simp]
theorem toList_trim (s : String) : (trim s).toList = trimmed s.toList :=
  String.toList_ofList

end SchemaDdl.Text
