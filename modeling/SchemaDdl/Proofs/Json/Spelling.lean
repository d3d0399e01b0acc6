/-
# Texts that spell JSON values

A value may be written with blanks between its parts.  The texts that the two layouts of the
writer make are among them, and the reader reads all of them:

* `Spells` : what it is for a text to spell a value;
* `readFrom_of_spells`, `parse_of_spells` : the reader reads what is spelled;
* `spells_compact`, `spells_indented` : both layouts spell the value that they write;
* `parse_compact`, `parse_pretty` : so both are read back.
-/
import Mathlib
import SchemaDdl.Json.Reader
import SchemaDdl.Json.Writer

namespace SchemaDdl.Json

/-! ## Strings -/

/-- The digits of an escaped control character name its code. -/
theorem hexUnit_hexDigits : ∀ n < 0x20,
    hexUnit '0' '0' (hexDigit (n / 16)) (hexDigit (n % 16)) = some n := by
  decide

/-- A code unit outside of the halves of surrogate pairs is a character of its own. -/
theorem joinPieces_unit_cons {n : Nat} (h : n < 0xD800) (pieces : List Piece) :
    joinPieces (.unit n :: pieces) = (joinPieces pieces).map (Char.ofNat n :: ·) := by
  have hhigh : isHighHalf n = false := by
    rw [isHighHalf, Bool.and_eq_false_iff]
    exact .inl (decide_eq_false (by omega))
  have hlow : isLowHalf n = false := by
    rw [isLowHalf, Bool.and_eq_false_iff]
    exact .inl (decide_eq_false (by omega))
  cases pieces with
  | nil => simp [joinPieces, hhigh, hlow]
  | cons piece pieces =>
    cases piece with
    | char c => simp [joinPieces, hhigh, hlow]
    | unit m => simp [joinPieces, hhigh, hlow]

/-- The three ways in which a character is written in a string. -/
theorem escapeChar_cases (c : Char) :
    (∃ e, shortEscape e = some c ∧ escapeChar c = ['\\', e]) ∨
    (c.toNat < 0x20 ∧
      escapeChar c = ['\\', 'u', '0', '0', hexDigit (c.toNat / 16), hexDigit (c.toNat % 16)]) ∨
    (c ≠ '"' ∧ c ≠ '\\' ∧ ¬c.toNat < 0x20 ∧ escapeChar c = [c]) := by
  unfold escapeChar
  split_ifs with hquote hback hb hf hn hr ht hcontrol
  · exact .inl ⟨'"', congrArg some hquote.symm, rfl⟩
  · exact .inl ⟨'\\', congrArg some hback.symm, rfl⟩
  · exact .inl ⟨'b', congrArg some hb.symm, rfl⟩
  · exact .inl ⟨'f', congrArg some hf.symm, rfl⟩
  · exact .inl ⟨'n', congrArg some hn.symm, rfl⟩
  · exact .inl ⟨'r', congrArg some hr.symm, rfl⟩
  · exact .inl ⟨'t', congrArg some ht.symm, rfl⟩
  · exact .inr (.inl ⟨hcontrol, rfl⟩)
  · exact .inr (.inr ⟨hquote, hback, hcontrol, rfl⟩)

/-- The escape of a character is read as one piece, which makes up the character again. -/
theorem exists_piece_escapeChar (c : Char) : ∃ piece,
    (∀ cs, readPieces (escapeChar c ++ cs) =
      (readPieces cs).map fun (pieces, rest) => (piece :: pieces, rest)) ∧
    ∀ pieces, joinPieces (piece :: pieces) = (joinPieces pieces).map (c :: ·) := by
  obtain ⟨e, he, hescape⟩ | ⟨hcontrol, hescape⟩ | ⟨hquote, hback, hcontrol, hescape⟩ :=
    escapeChar_cases c
  · refine ⟨.char c, fun cs => ?_, fun _ => rfl⟩
    have hu : e ≠ 'u' := by
      rintro rfl
      cases he
    rw [hescape, List.cons_append, List.cons_append, List.nil_append, readPieces, he]
    · cases readPieces cs <;> rfl
    · rintro a b c d cs rfl
      exact absurd rfl hu
  · refine ⟨.unit c.toNat, fun cs => ?_, fun pieces => ?_⟩
    · rw [hescape]
      simp only [List.cons_append, List.nil_append]
      rw [readPieces, hexUnit_hexDigits _ hcontrol]
      cases readPieces cs <;> rfl
    · rw [joinPieces_unit_cons (by omega), Char.ofNat_toNat]
  · refine ⟨.char c, fun cs => ?_, fun _ => rfl⟩
    rw [hescape, List.cons_append, List.nil_append, readPieces]
    · rw [if_neg (not_or.mpr ⟨hcontrol, hback⟩)]
      cases readPieces cs <;> rfl
    · exact hquote
    · intro a b c d cs h
      exact absurd h hback
    · intro e cs h
      exact absurd h hback

/-- The string that was written is read back, and then what follows it. -/
theorem readString_escaped (s : String) (rest : List Char) :
    readString (s.toList.flatMap escapeChar ++ '"' :: rest) = some (some s, rest) := by
  have hread : ∀ cs : List Char, ∃ pieces, joinPieces pieces = some cs ∧
      readPieces (cs.flatMap escapeChar ++ '"' :: rest) = some (pieces, rest) := by
    intro cs
    induction cs with
    | nil => exact ⟨[], rfl, rfl⟩
    | cons c cs ih =>
      obtain ⟨pieces, hjoin, hpieces⟩ := ih
      obtain ⟨piece, hpiece, hjoinPiece⟩ := exists_piece_escapeChar c
      refine ⟨piece :: pieces, ?_, ?_⟩
      · rw [hjoinPiece, hjoin]
        rfl
      · rw [List.flatMap_cons, List.append_assoc, hpiece, hpieces]
        rfl
  obtain ⟨pieces, hjoin, hpieces⟩ := hread s.toList
  simp [readString, hpieces, hjoin]

/-- A text in quotes, with what follows it. -/
theorem toList_quoted_append (s : String) (rest : List Char) :
    (quoted (some s)).toList ++ rest =
      '"' :: (s.toList.flatMap escapeChar ++ '"' :: rest) := by
  simp [quoted]

/-! ## Blanks -/

/-- A text of blanks only. -/
def Blanks (cs : List Char) : Prop :=
  ∀ c ∈ cs, isBlank c = true

/-- No blanks are blanks. -/
theorem blanks_nil : Blanks [] := by
  simp [Blanks]

/-- Blanks before a text are skipped up to its first character that is none. -/
theorem skipBlanks_append_cons {bs : List Char} (hbs : Blanks bs) {c : Char}
    (hc : isBlank c = false) (cs : List Char) : skipBlanks (bs ++ c :: cs) = c :: cs := by
  rw [skipBlanks, List.dropWhile_append_of_pos hbs, List.dropWhile_cons_of_neg (by simp [hc])]

/-! ## Phrases and their spellings -/

/-- What the reader reads at a time: a value, or the items or members of one from some
point on. -/
inductive Phrase where
  | value (j : Json)
  | items (items : List Json)
  | members (members : List (Option String × Json))

/-- A text spells a phrase.  Items and members are spelled together with the bracket that
closes them. -/
inductive Spells : Phrase → List Char → Prop where
  | nullWord : Spells (.value .null) ['n', 'u', 'l', 'l']
  | trueWord : Spells (.value (.bool true)) ['t', 'r', 'u', 'e']
  | falseWord : Spells (.value (.bool false)) ['f', 'a', 'l', 's', 'e']
  | text (s : String) : Spells (.value (.text s)) (quoted (some s)).toList
  | noItems {bs : List Char} (hbs : Blanks bs) :
      Spells (.value (.array [])) ('[' :: (bs ++ [']']))
  | array {items : List Json} {cs : List Char} (h : Spells (.items items) cs) :
      Spells (.value (.array items)) ('[' :: cs)
  | noMembers {bs : List Char} (hbs : Blanks bs) :
      Spells (.value (.object [])) ('\x7b' :: (bs ++ ['\x7d']))
  | object {members : List (Option String × Json)} {cs : List Char}
      (h : Spells (.members members) cs) : Spells (.value (.object members)) ('\x7b' :: cs)
  | lastItem {j : Json} {bs cs es : List Char} (hbs : Blanks bs) (hj : Spells (.value j) cs)
      (hes : Blanks es) : Spells (.items [j]) (bs ++ (cs ++ (es ++ [']'])))
  | item {j : Json} {items : List Json} {bs cs es rest : List Char} (hbs : Blanks bs)
      (hj : Spells (.value j) cs) (hes : Blanks es) (hitems : Spells (.items items) rest) :
      Spells (.items (j :: items)) (bs ++ (cs ++ (es ++ ',' :: rest)))
  | lastMember (key : String) {j : Json} {bs ks vs cs es : List Char} (hbs : Blanks bs)
      (hks : Blanks ks) (hvs : Blanks vs) (hj : Spells (.value j) cs) (hes : Blanks es) :
      Spells (.members [(some key, j)])
        (bs ++ ((quoted (some key)).toList ++ (ks ++ ':' :: (vs ++ (cs ++ (es ++ ['\x7d']))))))
  | member (key : String) {j : Json} {members : List (Option String × Json)}
      {bs ks vs cs es rest : List Char} (hbs : Blanks bs) (hks : Blanks ks) (hvs : Blanks vs)
      (hj : Spells (.value j) cs) (hes : Blanks es) (hmembers : Spells (.members members) rest) :
      Spells (.members ((some key, j) :: members))
        (bs ++ ((quoted (some key)).toList ++ (ks ++ ':' :: (vs ++ (cs ++ (es ++ ',' :: rest))))))

/-- The spelling of a value starts with neither a blank nor a closing bracket. -/
theorem Spells.exists_cons {j : Json} {cs : List Char} (h : Spells (.value j) cs) :
    ∃ c rest, cs = c :: rest ∧ isBlank c = false ∧ c ≠ ']' := by
  cases h with
  | nullWord => exact ⟨_, _, rfl, by decide, by decide⟩
  | trueWord => exact ⟨_, _, rfl, by decide, by decide⟩
  | falseWord => exact ⟨_, _, rfl, by decide, by decide⟩
  | text s =>
    have hcs := toList_quoted_append s []
    rw [List.append_nil] at hcs
    exact ⟨_, _, hcs, by decide, by decide⟩
  | noItems hbs => exact ⟨_, _, rfl, by decide, by decide⟩
  | array h => exact ⟨_, _, rfl, by decide, by decide⟩
  | noMembers hbs => exact ⟨_, _, rfl, by decide, by decide⟩
  | object h => exact ⟨_, _, rfl, by decide, by decide⟩

/-- Blanks before a value are skipped. -/
theorem Spells.skipBlanks_append {j : Json} {bs cs : List Char} (hbs : Blanks bs)
    (h : Spells (.value j) cs) (rest : List Char) :
    skipBlanks (bs ++ (cs ++ rest)) = cs ++ rest := by
  obtain ⟨c, cs, rfl, hc, -⟩ := h.exists_cons
  exact skipBlanks_append_cons hbs hc (cs ++ rest)

/-! ## Reading what is spelled -/

/-- The reader finds a phrase at the start of a text, and the given rest behind it. -/
def Phrase.ReadFrom (fuel : Nat) (cs rest : List Char) : Phrase → Prop
  | .value j => readValue fuel cs = some (j, rest)
  | .items js => readItems fuel cs = some (js, rest)
  | .members ms => readMembers fuel cs = some (ms, rest)

/-- Skipping blanks twice is skipping them once. -/
theorem skipBlanks_skipBlanks (cs : List Char) : skipBlanks (skipBlanks cs) = skipBlanks cs :=
  List.dropWhile_idempotent _ _

/-- Blanks before items do not matter. -/
theorem readItems_skipBlanks (fuel : Nat) (cs : List Char) :
    readItems fuel (skipBlanks cs) = readItems fuel cs := by
  cases fuel with
  | zero => rfl
  | succ fuel => rw [readItems, readItems, skipBlanks_skipBlanks]

/-- Blanks before members do not matter. -/
theorem readMembers_skipBlanks (fuel : Nat) (cs : List Char) :
    readMembers fuel (skipBlanks cs) = readMembers fuel cs := by
  cases fuel with
  | zero => rfl
  | succ fuel => rw [readMembers, readMembers, skipBlanks_skipBlanks]

/-- Items are read as an array, unless a bracket closes the array at once. -/
theorem readValue_array {fuel : Nat} {cs rest : List Char} {items : List Json}
    (h : readItems fuel cs = some (items, rest)) (hopen : (skipBlanks cs).head? ≠ some ']') :
    readValue (fuel + 1) ('[' :: cs) = some (.array items, rest) := by
  rw [readValue]
  split
  · next hclosed => exact absurd (by rw [hclosed]; rfl) hopen
  · rw [readItems_skipBlanks, h]
    rfl

/-- Members are read as an object, unless a brace closes the object at once. -/
theorem readValue_object {fuel : Nat} {cs rest : List Char}
    {members : List (Option String × Json)}
    (h : readMembers fuel cs = some (members, rest))
    (hopen : (skipBlanks cs).head? ≠ some '\x7d') :
    readValue (fuel + 1) ('\x7b' :: cs) = some (.object members, rest) := by
  rw [readValue]
  split
  · next hclosed => exact absurd (by rw [hclosed]; rfl) hopen
  · rw [readMembers_skipBlanks, h]
    rfl

/-- Items do not start with the bracket that closes an array. -/
theorem Spells.head?_items {items : List Json} {cs : List Char} (h : Spells (.items items) cs)
    (rest : List Char) : (skipBlanks (cs ++ rest)).head? ≠ some ']' := by
  have hvalue : ∀ {j : Json} {bs cs : List Char}, Blanks bs → Spells (.value j) cs →
      ∀ rest, (skipBlanks (bs ++ (cs ++ rest))).head? ≠ some ']' := by
    intro j bs cs hbs hj rest
    rw [hj.skipBlanks_append hbs]
    obtain ⟨c, cs, rfl, -, hc⟩ := hj.exists_cons
    exact fun h => hc (Option.some.inj h)
  cases h with
  | lastItem hbs hj hes =>
    rw [List.append_assoc, List.append_assoc]
    exact hvalue hbs hj _
  | item hbs hj hes hitems =>
    rw [List.append_assoc, List.append_assoc]
    exact hvalue hbs hj _

/-- Members do not start with the brace that closes an object. -/
theorem Spells.head?_members {members : List (Option String × Json)} {cs : List Char}
    (h : Spells (.members members) cs) (rest : List Char) :
    (skipBlanks (cs ++ rest)).head? ≠ some '\x7d' := by
  have hkey : ∀ {key : String} {bs : List Char}, Blanks bs →
      ∀ rest, (skipBlanks (bs ++ ((quoted (some key)).toList ++ rest))).head? ≠ some '\x7d' := by
    intro key bs hbs rest
    rw [toList_quoted_append, skipBlanks_append_cons hbs (by decide), List.head?_cons]
    decide
  cases h with
  | lastMember key hbs hks hvs hj hes =>
    rw [List.append_assoc, List.append_assoc]
    exact hkey hbs _
  | member key hbs hks hvs hj hes hmembers =>
    rw [List.append_assoc, List.append_assoc]
    exact hkey hbs _

/-- The reader finds an item, and goes on with what follows it. -/
theorem readItems_append {fuel : Nat} {j : Json} {bs cs rest : List Char} (hbs : Blanks bs)
    (hj : Spells (.value j) cs) (hread : readValue fuel (cs ++ rest) = some (j, rest)) :
    readItems (fuel + 1) (bs ++ (cs ++ rest)) =
      match skipBlanks rest with
      | ']' :: rest => some ([j], rest)
      | ',' :: rest => do
        let (items, rest) ← readItems fuel rest
        return (j :: items, rest)
      | _ => none := by
  rw [readItems, hj.skipBlanks_append hbs, hread]
  rfl

/-- The reader finds a member, and goes on with what follows it. -/
theorem readMembers_append {fuel : Nat} {key : String} {j : Json} {bs ks vs cs rest : List Char}
    (hbs : Blanks bs) (hks : Blanks ks) (hvs : Blanks vs) (hj : Spells (.value j) cs)
    (hread : readValue fuel (cs ++ rest) = some (j, rest)) :
    readMembers (fuel + 1)
        (bs ++ ((quoted (some key)).toList ++ (ks ++ ':' :: (vs ++ (cs ++ rest))))) =
      match skipBlanks rest with
      | '\x7d' :: rest => some ([(some key, j)], rest)
      | ',' :: rest => do
        let (members, rest) ← readMembers fuel rest
        return ((some key, j) :: members, rest)
      | _ => none := by
  rw [toList_quoted_append, readMembers, skipBlanks_append_cons hbs (by decide)]
  simp only [readString_escaped, Option.bind_eq_bind, Option.bind_some,
    skipBlanks_append_cons hks (by decide : isBlank ':' = false), hj.skipBlanks_append hvs, hread]
  rfl

/-- **Reading.**  The reader finds a spelled phrase, given as much fuel as the spelling is long,
and leaves what stands behind it. -/
theorem readFrom_of_spells {p : Phrase} {cs : List Char} (h : Spells p cs) :
    ∀ (fuel : Nat) (rest : List Char), cs.length ≤ fuel →
      p.ReadFrom (fuel + 1) (cs ++ rest) rest := by
  -- Each part is shorter than the whole by a bracket or a comma, which pays for the step to it.
  induction h with
  | nullWord =>
    intro fuel rest _
    simp [Phrase.ReadFrom, readValue]
  | trueWord =>
    intro fuel rest _
    simp [Phrase.ReadFrom, readValue]
  | falseWord =>
    intro fuel rest _
    simp [Phrase.ReadFrom, readValue]
  | text s =>
    intro fuel rest _
    rw [toList_quoted_append, Phrase.ReadFrom, readValue, readString_escaped]
    rfl
  | noItems hbs =>
    intro fuel rest _
    rw [Phrase.ReadFrom, List.cons_append, List.append_assoc, List.singleton_append, readValue,
      skipBlanks_append_cons hbs (by decide)]
    rfl
  | array h ih =>
    intro fuel rest hfuel
    obtain ⟨fuel, rfl⟩ := Nat.exists_eq_add_one.mpr (Nat.zero_lt_of_lt hfuel)
    exact readValue_array (ih fuel rest (Nat.le_of_succ_le_succ hfuel)) (h.head?_items rest)
  | noMembers hbs =>
    intro fuel rest _
    rw [Phrase.ReadFrom, List.cons_append, List.append_assoc, List.singleton_append, readValue,
      skipBlanks_append_cons hbs (by decide)]
    rfl
  | object h ih =>
    intro fuel rest hfuel
    obtain ⟨fuel, rfl⟩ := Nat.exists_eq_add_one.mpr (Nat.zero_lt_of_lt hfuel)
    exact readValue_object (ih fuel rest (Nat.le_of_succ_le_succ hfuel)) (h.head?_members rest)
  | lastItem hbs hj hes ih =>
    intro fuel rest hfuel
    simp only [List.length_append, List.length_cons, List.length_nil] at hfuel
    obtain ⟨fuel, rfl⟩ : ∃ n, fuel = n + 1 := Nat.exists_eq_add_one.mpr (by omega)
    simp only [Phrase.ReadFrom, List.append_assoc, List.cons_append, List.nil_append] at ih ⊢
    rw [readItems_append hbs hj (ih fuel _ (by omega)), skipBlanks_append_cons hes (by decide)]
    rfl
  | item hbs hj hes hitems ih ihitems =>
    intro fuel rest hfuel
    simp only [List.length_append, List.length_cons] at hfuel
    obtain ⟨fuel, rfl⟩ : ∃ n, fuel = n + 1 := Nat.exists_eq_add_one.mpr (by omega)
    simp only [Phrase.ReadFrom, List.append_assoc, List.cons_append] at ih ihitems ⊢
    rw [readItems_append hbs hj (ih fuel _ (by omega)), skipBlanks_append_cons hes (by decide)]
    simp only [ihitems fuel rest (by omega), Option.bind_eq_bind, Option.bind_some]
    rfl
  | lastMember key hbs hks hvs hj hes ih =>
    intro fuel rest hfuel
    simp only [List.length_append, List.length_cons, List.length_nil] at hfuel
    obtain ⟨fuel, rfl⟩ : ∃ n, fuel = n + 1 := Nat.exists_eq_add_one.mpr (by omega)
    simp only [Phrase.ReadFrom, List.append_assoc, List.cons_append, List.nil_append] at ih ⊢
    rw [readMembers_append hbs hks hvs hj (ih fuel _ (by omega)),
      skipBlanks_append_cons hes (by decide)]
    rfl
  | member key hbs hks hvs hj hes hmembers ih ihmembers =>
    intro fuel rest hfuel
    simp only [List.length_append, List.length_cons] at hfuel
    obtain ⟨fuel, rfl⟩ : ∃ n, fuel = n + 1 := Nat.exists_eq_add_one.mpr (by omega)
    simp only [Phrase.ReadFrom, List.append_assoc, List.cons_append] at ih ihmembers ⊢
    rw [readMembers_append hbs hks hvs hj (ih fuel _ (by omega)),
      skipBlanks_append_cons hes (by decide)]
    simp only [ihmembers fuel rest (by omega), Option.bind_eq_bind, Option.bind_some]
    rfl

/-- **Parsing.**  A text that spells a value is parsed as the value. -/
theorem parse_of_spells {j : Json} {s : String} (h : Spells (.value j) s.toList) :
    parse s = some j := by
  have hread : readValue (2 * s.toList.length + 2) (s.toList ++ []) = some (j, []) :=
    readFrom_of_spells h _ [] (by omega)
  have hskip : skipBlanks s.toList = s.toList := by
    have := h.skipBlanks_append blanks_nil []
    rwa [List.nil_append, List.append_nil] at this
  rw [List.append_nil] at hread
  simp only [parse, hskip, hread]
  rfl

/-! ## Values as they are written -/

/-- A value without numbers, in which each string and each key is a text. -/
inductive Plain : Json → Prop where
  | null : Plain .null
  | bool (b : Bool) : Plain (.bool b)
  | text (s : String) : Plain (.text s)
  | array {items : List Json} (h : ∀ j ∈ items, Plain j) : Plain (.array items)
  | record {members : List (String × Json)} (h : ∀ m ∈ members, Plain m.2) :
      Plain (.record members)

attribute [simp] Plain.bool Plain.text

section Layout

variable {start gap finish : String} {write : Json → String}

/-- Items with commas between them, each behind a start of blanks. -/
theorem spells_items (hstart : Blanks start.toList) (hfinish : Blanks finish.toList)
    {items : List Json} (hne : items ≠ []) (h : ∀ j ∈ items, Spells (.value j) (write j).toList) :
    Spells (.items items)
      (start ++ ("," ++ start).intercalate (items.map write) ++ finish ++ "]").toList := by
  induction items with
  | nil => exact absurd rfl hne
  | cons j items ih =>
    rw [List.forall_mem_cons] at h
    cases items with
    | nil => simpa using Spells.lastItem hstart h.1 hfinish
    | cons next items =>
      have hrest := ih (List.cons_ne_nil _ _) h.2
      simpa [String.intercalate_cons_cons] using Spells.item hstart h.1 blanks_nil hrest

/-- Members with commas between them, each behind a start of blanks, and blanks behind the
colon. -/
theorem spells_members (hstart : Blanks start.toList) (hgap : Blanks gap.toList)
    (hfinish : Blanks finish.toList) {members : List (String × Json)} (hne : members ≠ [])
    (h : ∀ m ∈ members, Spells (.value m.2) (write m.2).toList) :
    Spells (.members (members.map fun (key, value) => (some key, value)))
      (start ++ ("," ++ start).intercalate
        (members.map fun m => quoted (some m.1) ++ ":" ++ gap ++ write m.2) ++
          finish ++ "\x7d").toList := by
  induction members with
  | nil => exact absurd rfl hne
  | cons m members ih =>
    rw [List.forall_mem_cons] at h
    cases members with
    | nil =>
      simpa using Spells.lastMember m.1 hstart blanks_nil hgap h.1 hfinish
    | cons next members =>
      have hrest := ih (List.cons_ne_nil _ _) h.2
      simpa [String.intercalate_cons_cons] using
        Spells.member m.1 hstart blanks_nil hgap h.1 blanks_nil hrest

end Layout

/-! ## On one line -/

/-- The items on one line are the lines of the items. -/
theorem compactItems_eq_map (items : List Json) : compactItems items = items.map compact := by
  induction items with
  | nil => rfl
  | cons j items ih => rw [compactItems, ih, List.map_cons]

/-- The members on one line are the lines of the members. -/
theorem compactMembers_map (members : List (String × Json)) :
    compactMembers (members.map fun (key, value) => (some key, value)) =
      members.map fun m => quoted (some m.1) ++ ":" ++ "" ++ compact m.2 := by
  induction members with
  | nil => rfl
  | cons m members ih => rw [List.map_cons, compactMembers, ih, List.map_cons, String.append_empty]

/-- A value on one line is spelled. -/
theorem spells_compact {j : Json} (h : Plain j) : Spells (.value j) (compact j).toList := by
  have hnone : Blanks "".toList := blanks_nil
  induction h with
  | null => exact .nullWord
  | bool b =>
    cases b with
    | true => exact .trueWord
    | false => exact .falseWord
  | text s => exact .text s
  | @array items h ih =>
    cases items with
    | nil => exact .noItems blanks_nil
    | cons j items =>
      have hitems := spells_items hnone hnone (List.cons_ne_nil j items) ih
      rw [compact, compactItems_eq_map]
      simpa using Spells.array hitems
  | @record members h ih =>
    cases members with
    | nil => exact .noMembers blanks_nil
    | cons m members =>
      have hmembers := spells_members hnone hnone hnone (List.cons_ne_nil m members) ih
      rw [record, compact, compactMembers_map]
      simpa using Spells.object hmembers

/-! ## Indented -/

/-- The start of a line is blank. -/
theorem blanks_lineStart (level : Nat) : Blanks (lineStart level).toList := by
  intro c hc
  rw [lineStart, String.toList_ofList, List.mem_cons] at hc
  obtain rfl | hc := hc
  · decide
  · rw [List.eq_of_mem_replicate hc]
    decide

/-- The indented items are the items, each of them indented. -/
theorem indentedItems_eq_map (level : Nat) (items : List Json) :
    indentedItems level items = items.map (indented level) := by
  induction items with
  | nil => rfl
  | cons j items ih => rw [indentedItems, ih, List.map_cons]

/-- The indented members are the members, each with its value indented. -/
theorem indentedMembers_map (level : Nat) (members : List (String × Json)) :
    indentedMembers level (members.map fun (key, value) => (some key, value)) =
      members.map fun m => quoted (some m.1) ++ ":" ++ " " ++ indented level m.2 := by
  induction members with
  | nil => rfl
  | cons m members ih =>
    rw [List.map_cons, indentedMembers, ih, List.map_cons]
    simp [String.append_assoc]

/-- An indented value is spelled. -/
theorem spells_indented {j : Json} (h : Plain j) (level : Nat) :
    Spells (.value j) (indented level j).toList := by
  induction h generalizing level with
  | null =>
    rw [indented]
    exact .nullWord
  | bool b =>
    cases b with
    | true =>
      rw [indented]
      exact .trueWord
    | false =>
      rw [indented]
      exact .falseWord
  | text s => exact .text s
  | @array items h ih =>
    cases items with
    | nil =>
      rw [indented, indentedItems, bracketed, if_pos List.isEmpty_nil]
      exact .noItems blanks_nil
    | cons j items =>
      have hitems := spells_items (blanks_lineStart (level + 1)) (blanks_lineStart level)
        (List.cons_ne_nil j items) fun j hj => ih j hj (level + 1)
      rw [indented, indentedItems_eq_map, bracketed]
      simpa using Spells.array hitems
  | @record members h ih =>
    cases members with
    | nil =>
      rw [record, List.map_nil, indented, indentedMembers, bracketed, if_pos List.isEmpty_nil]
      exact .noMembers blanks_nil
    | cons m members =>
      have hgap : Blanks " ".toList := by simp [Blanks, isBlank]
      have hmembers := spells_members (blanks_lineStart (level + 1)) hgap
        (blanks_lineStart level) (List.cons_ne_nil m members) fun m hm => ih m hm (level + 1)
      rw [record, indented, indentedMembers_map, bracketed]
      simpa using Spells.object hmembers

/-! ## Reading what was written -/

/-- **One line.**  A value that was written on one line is read back. -/
theorem parse_compact {j : Json} (h : Plain j) : parse (compact j) = some j :=
  parse_of_spells (spells_compact h)

/-- **One line an item.**  So is a value that was written indented. -/
theorem parse_pretty {j : Json} (h : Plain j) : parse (pretty j) = some j :=
  parse_of_spells (spells_indented h 0)

end SchemaDdl.Json
