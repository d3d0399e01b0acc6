/-
# Identifiers in expressions

An identifier of an expression is a longest run of letters, digits and underscores outside of
quotes.  Which characters are quotes differs between dialects, so they are given:

* `join_pieces` : an expression is its identifiers and what stands between them;
* `renameIdentifiers_eq_self_iff` : a renaming by longer names changes every expression that
  has one of the names.
-/
import Mathlib
import SchemaDdl.Text.Letter

namespace SchemaDdl.Text

/-! ## Pieces of an expression -/

/-- Whether a character may stand in an identifier. -/
def isIdentifierChar (c : Char) : Bool :=
  isWordChar c || c == '_'

/-- The characters of an expression, each with whether it is in an identifier.  Within quotes
nothing is; `opened` is the quote that has been opened and not closed yet. -/
def markIdentifiers (quotes : List Char) : Option Char → List Char → List (Char × Bool)
  | _, [] => []
  | some opened, c :: rest =>
    (c, false) :: markIdentifiers quotes (if c = opened then none else some opened) rest
  | none, c :: rest =>
    if c ∈ quotes then (c, false) :: markIdentifiers quotes (some c) rest
    else (c, isIdentifierChar c) :: markIdentifiers quotes none rest

/-- The marks leave the characters as they are. -/
theorem map_fst_markIdentifiers (quotes : List Char) (opened : Option Char) (cs : List Char) :
    (markIdentifiers quotes opened cs).map Prod.fst = cs := by
  induction cs generalizing opened with
  | nil => cases opened <;> rfl
  | cons c rest ih =>
    cases opened with
    | some quote => simp [markIdentifiers, ih]
    | none =>
      rw [markIdentifiers]
      split <;> simp [ih]

/-- A part of an expression that is an identifier or stands between identifiers. -/
abbrev Piece := List (Char × Bool)

namespace Piece

/-- The text of a piece. -/
def text (piece : Piece) : String :=
  String.ofList (piece.map Prod.fst)

/-- Whether a piece is an identifier. -/
def isIdentifier (piece : Piece) : Bool :=
  piece.all Prod.snd

end Piece

/-- The pieces of an expression: its characters are cut wherever an identifier begins or
ends. -/
def pieces (quotes : List Char) (s : String) : List Piece :=
  (markIdentifiers quotes none s.toList).splitBy fun a b => a.2 == b.2

/-- An expression is its pieces in a row. -/
theorem join_pieces (quotes : List Char) (s : String) :
    String.join ((pieces quotes s).map Piece.text) = s := by
  apply String.toList_inj.mp
  rw [String.toList_join, List.flatMap_map]
  have htext : ∀ piece : Piece, piece.text.toList = piece.map Prod.fst :=
    fun piece => String.toList_ofList
  simp only [htext]
  rw [List.flatMap_def, ← List.map_flatten, pieces, List.flatten_splitBy, map_fst_markIdentifiers]

/-! ## Identifiers and their renaming -/

/-- The identifiers of an expression. -/
def identifiers (quotes : List Char) (s : String) : List String :=
  ((pieces quotes s).filter Piece.isIdentifier).map Piece.text

/-- An expression with other names for its identifiers. -/
def renameIdentifiers (quotes : List Char) (rename : String → String) (s : String) : String :=
  String.join ((pieces quotes s).map fun piece =>
    if piece.isIdentifier then rename piece.text else piece.text)

/-- Texts that only become longer are the same in a row exactly if each is the same. -/
theorem join_map_eq_join_map_iff {α : Type} {f g : α → String}
    (hlonger : ∀ x, f x = g x ∨ (g x).length < (f x).length) (xs : List α) :
    String.join (xs.map f) = String.join (xs.map g) ↔ ∀ x ∈ xs, f x = g x := by
  have hle : ∀ ys : List α,
      (String.join (ys.map g)).length ≤ (String.join (ys.map f)).length := by
    intro ys
    rw [String.length_join, String.length_join, List.map_map, List.map_map]
    refine List.sum_le_sum fun y _ => ?_
    show (g y).length ≤ (f y).length
    rcases hlonger y with hsame | hlong
    · rw [hsame]
    · omega
  constructor
  · intro hjoin
    induction xs with
    | nil => simp
    | cons x rest ih =>
      simp only [List.map_cons, String.join_cons] at hjoin
      -- One longer text could not be made up for by the others.
      have hsame : f x = g x := by
        rcases hlonger x with hsame | hlong
        · exact hsame
        · have hlength := congrArg String.length hjoin
          simp only [String.length_append] at hlength
          have hrest := hle rest
          omega
      rw [hsame, String.append_right_inj] at hjoin
      exact List.forall_mem_cons.mpr ⟨hsame, ih hjoin⟩
  · intro hsame
    rw [List.map_congr_left hsame]

/-- **Renaming.**  A renaming by longer names leaves an expression as it is exactly if it
renames none of its identifiers. -/
theorem renameIdentifiers_eq_self_iff {rename : String → String}
    (hlonger : ∀ w, rename w = w ∨ w.length < (rename w).length) (quotes : List Char)
    (s : String) :
    renameIdentifiers quotes rename s = s ↔ ∀ w ∈ identifiers quotes s, rename w = w := by
  have hpieces : ∀ piece : Piece,
      (if piece.isIdentifier then rename piece.text else piece.text) = piece.text ∨
        piece.text.length <
          (if piece.isIdentifier then rename piece.text else piece.text).length := by
    intro piece
    split
    · exact hlonger piece.text
    · exact .inl rfl
  have hjoin := join_map_eq_join_map_iff hpieces (pieces quotes s)
  rw [join_pieces] at hjoin
  rw [renameIdentifiers, hjoin]
  simp only [identifiers, List.mem_map, List.mem_filter]
  constructor
  · rintro hsame _ ⟨piece, ⟨hpiece, hidentifier⟩, rfl⟩
    have hrenamed := hsame piece hpiece
    rwa [if_pos hidentifier] at hrenamed
  · intro hkept piece hpiece
    split
    · rename_i hidentifier
      exact hkept _ ⟨piece, ⟨hpiece, hidentifier⟩, rfl⟩
    · rfl

/-- What stands between quotes is not renamed, nor a longer name that has the name in it. -/
example : renameIdentifiers ['\''] (fun w => if w = "amount" then "price_amount" else w)
    "amount > 0 AND unit <> 'amount' AND min_amount < amount" =
      "price_amount > 0 AND unit <> 'amount' AND min_amount < price_amount" := by
  decide +kernel

end SchemaDdl.Text
