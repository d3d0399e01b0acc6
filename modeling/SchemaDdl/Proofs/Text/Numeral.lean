/-
# The grammar of numerals

A numeral is a sign or none, and then either a word for infinity or for no number, or decimal
digits with at most one point and an exponent or none:

* `isDecimal_iff`, `isNumeral_iff` : a text is taken for a number exactly if it is a numeral;
* `IsNumeral.not_mem_apostrophe` : which has no apostrophes;
* `isNumeral_iff_isNumberWord` : and is one of a few words if it has no digits.
-/
import SchemaDdl.Proofs.Text.Case
import SchemaDdl.Text.Numeral

namespace SchemaDdl.Text

/-! ## The grammar -/

/-- A sign, or none. -/
def IsSign (cs : List Char) : Prop :=
  cs = [] ∨ cs = ['+'] ∨ cs = ['-']

/-- Decimal digits only, or nothing. -/
def AllDigits (cs : List Char) : Prop :=
  ∀ c ∈ cs, c.isDigit = true

/-- An exponent, or none: the letter `e` in either case, a sign or none, and digits. -/
inductive IsExponent : List Char → Prop where
  | none : IsExponent []
  | exponent {letter : Char} {sign digits : List Char} (hletter : letter.toLower = 'e')
      (hsign : IsSign sign) (hne : digits ≠ []) (hdigits : AllDigits digits) :
      IsExponent (letter :: (sign ++ digits))

/-- Digits with at most one point among or around them, and then an exponent or none. -/
inductive IsNumber : List Char → Prop where
  | whole {digits exponent : List Char} (hne : digits ≠ []) (hdigits : AllDigits digits)
      (hexponent : IsExponent exponent) : IsNumber (digits ++ exponent)
  | point {digits fraction exponent : List Char} (hne : digits ++ fraction ≠ [])
      (hdigits : AllDigits digits) (hfraction : AllDigits fraction)
      (hexponent : IsExponent exponent) : IsNumber (digits ++ '.' :: (fraction ++ exponent))

/-- A sign or none, and then a word for infinity or for no number, in any case, or a number. -/
def IsNumeral (cs : List Char) : Prop :=
  ∃ sign unsigned, cs = sign ++ unsigned ∧ IsSign sign ∧
    (unsigned.map Char.toLower ∈ numberWords ∨ IsNumber unsigned)

/-! ## Signs -/

/-- What is dropped is a sign, or nothing. -/
theorem exists_append_dropSign (cs : List Char) :
    ∃ sign, IsSign sign ∧ cs = sign ++ dropSign cs := by
  unfold dropSign
  split
  · exact ⟨['+'], .inr (.inl rfl), rfl⟩
  · exact ⟨['-'], .inr (.inr rfl), rfl⟩
  · exact ⟨[], .inl rfl, rfl⟩

/-- A text that begins with no sign stays as it is. -/
theorem dropSign_eq_self {cs : List Char} (hplus : cs.head? ≠ some '+')
    (hminus : cs.head? ≠ some '-') : dropSign cs = cs := by
  unfold dropSign
  split
  · exact absurd rfl hplus
  · exact absurd rfl hminus
  · rfl

/-- A sign in front of a text that begins with none is dropped. -/
theorem IsSign.dropSign_append {sign cs : List Char} (h : IsSign sign)
    (hplus : cs.head? ≠ some '+') (hminus : cs.head? ≠ some '-') : dropSign (sign ++ cs) = cs := by
  rcases h with rfl | rfl | rfl
  · exact dropSign_eq_self hplus hminus
  · rfl
  · rfl

/-- A sign is one in either case. -/
theorem dropSign_map_toLower (cs : List Char) :
    dropSign (cs.map Char.toLower) = (dropSign cs).map Char.toLower := by
  by_cases hplus : cs.head? = some '+'
  · obtain ⟨rest, rfl⟩ := List.head?_eq_some_iff.mp hplus
    rfl
  · by_cases hminus : cs.head? = some '-'
    · obtain ⟨rest, rfl⟩ := List.head?_eq_some_iff.mp hminus
      rfl
    · rw [dropSign_eq_self hplus hminus, dropSign_eq_self]
      · exact mt (head?_map_toLower_iff (by decide) cs).mp hplus
      · exact mt (head?_map_toLower_iff (by decide) cs).mp hminus

/-! ## Digits -/

/-- A digit is no letter, and has no case. -/
theorem toLower_of_isDigit {c : Char} (h : c.isDigit = true) : c.toLower = c := by
  apply Char.toLower_eq_of_not_isUpper
  rw [Char.isDigit_iff_toNat] at h
  simp only [Char.isUpper, decide_eq_true_eq, UInt32.le_iff_toNat_le]
  simp at h ⊢
  omega

/-- An exponent does not begin with a digit. -/
theorem IsExponent.isDigit_head? {cs : List Char} (h : IsExponent cs) {c : Char}
    (hc : cs.head? = some c) : c.isDigit = false := by
  cases h with
  | none => cases hc
  | exponent hletter _ _ _ =>
    obtain rfl := Option.some.inj hc
    rw [← Bool.not_eq_true]
    intro hdigit
    rw [toLower_of_isDigit hdigit] at hletter
    rw [hletter] at hdigit
    revert hdigit
    decide

/-- Digits are taken from a text up to the first character that is none. -/
theorem takeWhile_dropWhile_isDigit {digits rest : List Char} (hdigits : AllDigits digits)
    (hrest : ∀ c, rest.head? = some c → c.isDigit = false) :
    (digits ++ rest).takeWhile Char.isDigit = digits ∧
      (digits ++ rest).dropWhile Char.isDigit = rest := by
  have hstop : rest.takeWhile Char.isDigit = [] ∧ rest.dropWhile Char.isDigit = rest := by
    cases rest with
    | nil => exact ⟨rfl, rfl⟩
    | cons c rest => simp [hrest c rfl]
  rw [List.takeWhile_append_of_pos hdigits, List.dropWhile_append_of_pos hdigits, hstop.1, hstop.2,
    List.append_nil]
  exact ⟨rfl, rfl⟩

/-- The digits at the start of a text are digits. -/
theorem allDigits_takeWhile (cs : List Char) : AllDigits (cs.takeWhile Char.isDigit) :=
  fun _ hc => List.mem_takeWhile_imp hc

/-- A run of digits that is not empty. -/
theorem isDigits_iff (cs : List Char) : isDigits cs = true ↔ cs ≠ [] ∧ AllDigits cs := by
  simp [isDigits, AllDigits]

/-! ## Parts of a numeral -/

/-- What is taken for an exponent is one. -/
theorem isExponent_iff (cs : List Char) : isExponent cs = true ↔ IsExponent cs := by
  constructor
  · intro h
    cases cs with
    | nil => exact .none
    | cons letter rest =>
      rw [isExponent, Bool.and_eq_true, beq_iff_eq, isDigits_iff] at h
      obtain ⟨hletter, hne, hdigits⟩ := h
      obtain ⟨sign, hsign, hrest⟩ := exists_append_dropSign rest
      rw [hrest]
      exact .exponent hletter hsign hne hdigits
  · intro h
    cases h with
    | none => rfl
    | @exponent letter sign digits hletter hsign hne hdigits =>
      obtain ⟨d, ds, rfl⟩ := List.exists_cons_of_ne_nil hne
      have hd : d.isDigit = true := hdigits d List.mem_cons_self
      have hmark : ∀ mark : Char, mark.isDigit = false → (d :: ds).head? ≠ some mark := by
        rintro mark hmark heq
        obtain rfl := Option.some.inj heq
        rw [hd] at hmark
        exact Bool.noConfusion hmark
      rw [isExponent, Bool.and_eq_true, beq_iff_eq, isDigits_iff,
        hsign.dropSign_append (hmark '+' (by decide)) (hmark '-' (by decide))]
      exact ⟨hletter, hne, hdigits⟩

/-- What is taken for a decimal number is one. -/
theorem isNumber_of_isDecimal {cs : List Char} (h : isDecimal cs = true) : IsNumber cs := by
  have hdigits := allDigits_takeWhile cs
  have hcs : cs.takeWhile Char.isDigit ++ cs.dropWhile Char.isDigit = cs :=
    List.takeWhile_append_dropWhile
  unfold isDecimal at h
  dsimp only at h
  split at h
  · rename_i rest hrest
    rw [Bool.and_eq_true, isExponent_iff] at h
    have hfraction : rest.takeWhile Char.isDigit ++ rest.dropWhile Char.isDigit = rest :=
      List.takeWhile_append_dropWhile
    rw [← hcs, hrest, ← hfraction]
    exact .point (by simpa using h.1) hdigits (allDigits_takeWhile rest) h.2
  · rw [Bool.and_eq_true, isExponent_iff] at h
    rw [← hcs]
    exact .whole (by simpa using h.1) hdigits h.2

/-- A decimal number is taken for one. -/
theorem IsNumber.isDecimal {cs : List Char} (h : IsNumber cs) : isDecimal cs = true := by
  cases h with
  | @whole digits exponent hne hdigits hexponent =>
    obtain ⟨htake, hdrop⟩ := takeWhile_dropWhile_isDigit hdigits fun c => hexponent.isDigit_head?
    unfold Text.isDecimal
    dsimp only
    rw [htake, hdrop]
    split
    · -- An exponent does not begin with a point.
      cases hexponent with
      | exponent hletter _ _ _ => exact absurd hletter (by decide)
    · rw [Bool.and_eq_true, isExponent_iff]
      exact ⟨by simpa using hne, hexponent⟩
  | @point digits fraction exponent hne hdigits hfraction hexponent =>
    obtain ⟨htake, hdrop⟩ :=
      takeWhile_dropWhile_isDigit hfraction fun c => hexponent.isDigit_head?
    have hpoint : ∀ c, ('.' :: (fraction ++ exponent)).head? = some c → c.isDigit = false := by
      rintro c hc
      obtain rfl := Option.some.inj hc
      decide
    obtain ⟨htake', hdrop'⟩ := takeWhile_dropWhile_isDigit hdigits hpoint
    unfold Text.isDecimal
    dsimp only
    rw [htake', hdrop']
    show (!(digits ++ (fraction ++ exponent).takeWhile Char.isDigit).isEmpty &&
      isExponent ((fraction ++ exponent).dropWhile Char.isDigit)) = true
    rw [htake, hdrop, Bool.and_eq_true, isExponent_iff]
    exact ⟨by simpa using hne, hexponent⟩

/-- Exactly the decimal numbers are taken for such. -/
theorem isDecimal_iff (cs : List Char) : isDecimal cs = true ↔ IsNumber cs :=
  ⟨isNumber_of_isDecimal, IsNumber.isDecimal⟩

/-- A number has a digit. -/
theorem IsNumber.exists_isDigit {cs : List Char} (h : IsNumber cs) :
    ∃ c ∈ cs, c.isDigit = true := by
  cases h with
  | @whole digits exponent hne hdigits _ =>
    obtain ⟨d, hd⟩ := List.exists_mem_of_ne_nil digits hne
    exact ⟨d, List.mem_append_left exponent hd, hdigits d hd⟩
  | @point digits fraction exponent hne hdigits hfraction _ =>
    obtain ⟨d, hd⟩ := List.exists_mem_of_ne_nil _ hne
    rcases List.mem_append.mp hd with hwhole | hlater
    · exact ⟨d, by simp [hwhole], hdigits d hwhole⟩
    · exact ⟨d, by simp [hlater], hfraction d hlater⟩

/-- A number begins with a digit or a point. -/
theorem IsNumber.exists_head? {cs : List Char} (h : IsNumber cs) :
    ∃ c, cs.head? = some c ∧ (c.isDigit = true ∨ c = '.') := by
  cases h with
  | @whole digits exponent hne hdigits _ =>
    obtain ⟨d, ds, rfl⟩ := List.exists_cons_of_ne_nil hne
    exact ⟨d, rfl, .inl (hdigits d List.mem_cons_self)⟩
  | @point digits fraction exponent _ hdigits _ _ =>
    cases digits with
    | nil => exact ⟨'.', rfl, .inr rfl⟩
    | cons d ds => exact ⟨d, rfl, .inl (hdigits d List.mem_cons_self)⟩

/-! ## Numerals -/

/-- Without a sign a numeral begins with none. -/
theorem head?_ne_of_unsigned {cs : List Char}
    (h : cs.map Char.toLower ∈ numberWords ∨ IsNumber cs) {sign : Char}
    (hsign : sign = '+' ∨ sign = '-') : cs.head? ≠ some sign := by
  rcases h with hword | hnumber
  · have hwords : ∀ word ∈ numberWords, word.head? ≠ some '+' ∧ word.head? ≠ some '-' := by decide
    obtain ⟨hplus, hminus⟩ := hwords _ hword
    rcases hsign with rfl | rfl
    · exact mt (head?_map_toLower_iff (by decide) cs).mpr hplus
    · exact mt (head?_map_toLower_iff (by decide) cs).mpr hminus
  · obtain ⟨c, hc, hkind⟩ := hnumber.exists_head?
    rw [hc, ne_eq, Option.some.injEq]
    rintro rfl
    rcases hsign with rfl | rfl <;> revert hkind <;> decide

/-- What is taken for a number has a word or a number behind its sign. -/
theorem isNumeral_iff_dropSign (cs : List Char) :
    isNumeral cs = true ↔
      (dropSign cs).map Char.toLower ∈ numberWords ∨ IsNumber (dropSign cs) := by
  rw [isNumeral, Bool.or_eq_true, List.contains_iff_mem, isDecimal_iff]

/-- **Numerals.**  A text is taken for a number exactly if it is a numeral. -/
theorem isNumeral_iff (cs : List Char) : isNumeral cs = true ↔ IsNumeral cs := by
  rw [isNumeral_iff_dropSign]
  constructor
  · intro h
    obtain ⟨sign, hsign, hcs⟩ := exists_append_dropSign cs
    exact ⟨sign, dropSign cs, hcs, hsign, h⟩
  · rintro ⟨sign, unsigned, rfl, hsign, h⟩
    rwa [hsign.dropSign_append (head?_ne_of_unsigned h (.inl rfl))
      (head?_ne_of_unsigned h (.inr rfl))]

/-- A numeral has no apostrophes. -/
theorem IsNumeral.not_mem_apostrophe {cs : List Char} (h : IsNumeral cs) : '\'' ∉ cs := by
  have hdigits : ∀ {ds : List Char}, AllDigits ds → '\'' ∉ ds := by
    intro ds hds hmem
    exact absurd (hds _ hmem) (by decide)
  have hsigns : ∀ {ds : List Char}, IsSign ds → '\'' ∉ ds := by
    rintro ds (rfl | rfl | rfl) <;> simp
  have hexponents : ∀ {ds : List Char}, IsExponent ds → '\'' ∉ ds := by
    intro ds hds hmem
    cases hds with
    | none => simp at hmem
    | exponent hletter hsign _ hds =>
      rw [List.mem_cons, List.mem_append] at hmem
      rcases hmem with rfl | hmem | hmem
      · exact absurd hletter (by decide)
      · exact hsigns hsign hmem
      · exact hdigits hds hmem
  obtain ⟨sign, unsigned, rfl, hsign, hword | hnumber⟩ := h
  · have hwords : ∀ word ∈ numberWords, '\'' ∉ word := by decide
    have hletters := hwords _ hword
    rw [mem_map_toLower_iff (by decide)] at hletters
    rw [List.mem_append, not_or]
    exact ⟨hsigns hsign, hletters⟩
  · rw [List.mem_append, not_or]
    refine ⟨hsigns hsign, ?_⟩
    cases hnumber with
    | whole _ hwhole hexponent =>
      simp [hdigits hwhole, hexponents hexponent]
    | point _ hwhole hfraction hexponent =>
      simp [hdigits hwhole, hdigits hfraction, hexponents hexponent]

/-! ## Numerals without digits -/

/-- The words for infinity and for no number, with a sign or without. -/
def signedNumberWords : List String :=
  ["inf", "infinity", "nan", "+inf", "+infinity", "+nan", "-inf", "-infinity", "-nan"]

/-- A text is a word for infinity or for no number, with a sign or without, in any case. -/
def IsNumberWord (s : String) : Prop :=
  s.toLower ∈ signedNumberWords

instance : DecidablePred IsNumberWord :=
  fun s => inferInstanceAs (Decidable (s.toLower ∈ signedNumberWords))

/-- These are the three words behind a sign or none. -/
theorem isNumberWord_iff (s : String) :
    IsNumberWord s ↔ dropSign s.toLower.toList ∈ numberWords := by
  constructor
  · have hwords : ∀ word ∈ signedNumberWords, dropSign word.toList ∈ numberWords := by decide
    exact hwords s.toLower
  · intro hword
    obtain ⟨sign, hsign, hlower⟩ := exists_append_dropSign s.toLower.toList
    have hsigned : ∀ word ∈ numberWords, ∀ sign ∈ [[], ['+'], ['-']],
        String.ofList (sign ++ word) ∈ signedNumberWords := by decide
    have hmem := hsigned _ hword sign (by simpa [IsSign] using hsign)
    rwa [← hlower, String.ofList_toList] at hmem

/-- Among the texts without digits, the numerals are these words. -/
theorem isNumeral_iff_isNumberWord {s : String} (h : ∀ c ∈ s.toList, c.isDigit = false) :
    isNumeral s.toList = true ↔ IsNumberWord s := by
  have hnumber : ¬ IsNumber (dropSign s.toList) := by
    intro hnumber
    obtain ⟨d, hd, hdigit⟩ := hnumber.exists_isDigit
    obtain ⟨sign, _, hs⟩ := exists_append_dropSign s.toList
    have hmem : d ∈ s.toList := by
      rw [hs]
      exact List.mem_append_right sign hd
    rw [h d hmem] at hdigit
    exact Bool.noConfusion hdigit
  rw [isNumeral_iff_dropSign, or_iff_left hnumber, isNumberWord_iff, toList_toLower,
    dropSign_map_toLower]

end SchemaDdl.Text
