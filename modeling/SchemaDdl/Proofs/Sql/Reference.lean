/-
# References as they are written

A foreign key writes its target as a table and a column in parentheses, and declarations may
write it in other ways.  What the reader finds in a text does not depend on blanks:

* `splits_split` : a text is split in one of three ways;
* `Splits.parse?_eq` : the reader sees the two parts without the blanks around them;
* `parse?_eq_none_iff` : there is no reference exactly if the text names no table;
* `Splits.infix_iff` : where in a text a word can stand;
* `parse?_written` : what a foreign key writes is read back, as are the short forms.
-/
import SchemaDdl.Ddl.Clause
import SchemaDdl.Proofs.Text.Part

namespace SchemaDdl

/-! ## Blanks around texts -/

namespace Text

/-- A text of blanks only. -/
def IsBlankText (s : String) : Prop :=
  ∀ c ∈ s.toList, isBlank c = true

/-- A text with blanks around it. -/
def Spaced (s spaced : String) : Prop :=
  ∃ before after, IsBlankText before ∧ IsBlankText after ∧ spaced = before ++ s ++ after

/-- A text that is read up to a character: it is not empty, it does not have the character, and
it has no blanks at its ends. -/
structure IsNameUpTo (ending : Char) (s : String) : Prop where
  ne_empty : s ≠ ""
  trim_eq : trim s = s
  ending_not_mem : ending ∉ s.toList

/-- The characters of a text with blanks around it. -/
theorem Spaced.exists_toList {s spaced : String} (h : Spaced s spaced) :
    ∃ before after, (∀ c ∈ before, isBlank c = true) ∧ (∀ c ∈ after, isBlank c = true) ∧
      spaced.toList = before ++ s.toList ++ after := by
  obtain ⟨before, after, hbefore, hafter, rfl⟩ := h
  exact ⟨before.toList, after.toList, hbefore, hafter,
    by rw [String.toList_append, String.toList_append]⟩

/-- A text has blanks around it also if there are none. -/
theorem Spaced.refl (s : String) : Spaced s s :=
  ⟨"", "", by simp [IsBlankText], by simp [IsBlankText], by simp⟩

/-- Trimming takes away the blanks around a text. -/
theorem Spaced.trimmed_eq {s spaced : String} (h : Spaced s spaced) :
    trimmed spaced.toList = trimmed s.toList := by
  obtain ⟨before, after, hbefore, hafter, hspaced⟩ := h.exists_toList
  rw [hspaced, trimmed_append_blanks hbefore hafter]

/-- The blanks around a text bring no other character into it. -/
theorem Spaced.mem_iff {s spaced : String} (h : Spaced s spaced) {c : Char}
    (hc : isBlank c = false) : c ∈ spaced.toList ↔ c ∈ s.toList := by
  obtain ⟨before, after, hbefore, hafter, hspaced⟩ := h.exists_toList
  rw [hspaced, List.mem_append, List.mem_append,
    or_iff_left (not_mem_of_forall_isBlank hafter hc),
    or_iff_right (not_mem_of_forall_isBlank hbefore hc)]

section Name

variable {ending : Char} {s spaced : String} (h : IsNameUpTo ending s) (hspaced : Spaced s spaced)

include h hspaced

/-- Trimming a name with blanks around it leaves the name. -/
theorem IsNameUpTo.trimmed_spaced : trimmed spaced.toList = s.toList := by
  rw [hspaced.trimmed_eq, ← toList_trim, h.trim_eq]

/-- With blanks around it a name still does not have the character that would end it. -/
theorem IsNameUpTo.not_mem_spaced (hending : isBlank ending = false) :
    ending ∉ spaced.toList := by
  rw [hspaced.mem_iff hending]
  exact h.ending_not_mem

end Name

end Text

namespace Reference

/-! ## Where a text is split -/

/-- The three ways to write a reference, and the parts that each names: before and between
parentheses, before and after a full stop, or the table alone. -/
inductive Splits : List Char → List Char × List Char → Prop where
  | parentheses {table : List Char} (rest : List Char) (htable : '(' ∉ table) :
      Splits (table ++ '(' :: rest) (table, Text.upTo ')' rest)
  | fullStop {table column : List Char} (htable : '(' ∉ table) (hcolumn : '(' ∉ column)
      (hstop : '.' ∉ table) : Splits (table ++ '.' :: column) (table, column)
  | bare {table : List Char} (htable : '(' ∉ table) (hstop : '.' ∉ table) :
      Splits table (table, [])

/-- A text is split in the way in which it is written. -/
theorem Splits.split_eq {cs : List Char} {parts : List Char × List Char} (h : Splits cs parts) :
    split cs = parts := by
  unfold split
  cases h with
  | parentheses rest htable => rw [Text.cutAt_append_cons htable]
  | fullStop htable hcolumn hstop =>
    rw [Text.cutAt_eq_none (by simp [htable, hcolumn]), Text.cutAt_append_cons hstop]
  | bare htable hstop => rw [Text.cutAt_eq_none htable, Text.cutAt_eq_none hstop]

/-- Every text is written in one of these ways. -/
theorem splits_split (cs : List Char) : Splits cs (split cs) := by
  have hparts : ∃ parts, Splits cs parts := by
    by_cases hopen : '(' ∈ cs
    · obtain ⟨table, rest, rfl, htable⟩ := List.eq_append_cons_of_mem hopen
      exact ⟨_, .parentheses rest htable⟩
    · by_cases hstop : '.' ∈ cs
      · obtain ⟨table, column, rfl, htable⟩ := List.eq_append_cons_of_mem hstop
        rw [List.mem_append, List.mem_cons, not_or, not_or] at hopen
        exact ⟨_, .fullStop hopen.1 hopen.2.2 htable⟩
      · exact ⟨_, .bare hopen hstop⟩
  obtain ⟨parts, hsplits⟩ := hparts
  rwa [hsplits.split_eq]

/-- Blanks around a text stay around its parts. -/
theorem Splits.append_blanks {cs before after : List Char} {parts : List Char × List Char}
    (h : Splits cs parts) (hbefore : ∀ c ∈ before, Text.isBlank c = true)
    (hafter : ∀ c ∈ after, Text.isBlank c = true) :
    ∃ parts', Splits (before ++ cs ++ after) parts' ∧
      Text.trimmed parts'.1 = Text.trimmed parts.1 ∧
      Text.trimmed parts'.2 = Text.trimmed parts.2 := by
  have hempty : ∀ c ∈ ([] : List Char), Text.isBlank c = true := fun _ hc => nomatch hc
  have hleft : ∀ ds, Text.trimmed (before ++ ds) = Text.trimmed ds := fun ds => by
    simpa using Text.trimmed_append_blanks hbefore hempty ds
  have hright : ∀ ds, Text.trimmed (ds ++ after) = Text.trimmed ds := fun ds => by
    simpa using Text.trimmed_append_blanks hempty hafter ds
  have hbefore' : ∀ c, Text.isBlank c = false → c ∉ before :=
    fun c => Text.not_mem_of_forall_isBlank hbefore
  have hafter' : ∀ c, Text.isBlank c = false → c ∉ after :=
    fun c => Text.not_mem_of_forall_isBlank hafter
  have hopen : '(' ∉ before ∧ '(' ∉ after := ⟨hbefore' _ (by decide), hafter' _ (by decide)⟩
  have hstops : '.' ∉ before ∧ '.' ∉ after := ⟨hbefore' _ (by decide), hafter' _ (by decide)⟩
  have hclose : ')' ∉ after := hafter' _ (by decide)
  cases h with
  | @parentheses table rest htable =>
    have hsplits : Splits ((before ++ table) ++ '(' :: (rest ++ after)) _ :=
      .parentheses (rest ++ after) (by simp [htable, hopen.1])
    refine ⟨_, by simpa using hsplits, hleft table, ?_⟩
    -- The blanks at the end reach the column only if nothing closes it.
    by_cases hclosed : ')' ∈ rest
    · obtain ⟨column, tail, rfl, hcolumn⟩ := List.eq_append_cons_of_mem hclosed
      dsimp only
      rw [List.append_assoc, List.cons_append, Text.upTo_append_cons hcolumn,
        Text.upTo_append_cons hcolumn]
    · dsimp only
      rw [Text.upTo_eq_self (by simp [hclosed, hclose]), Text.upTo_eq_self hclosed, hright]
  | @fullStop table column htable hcolumn hstop =>
    have hsplits : Splits ((before ++ table) ++ '.' :: (column ++ after)) _ :=
      .fullStop (by simp [htable, hopen.1]) (by simp [hcolumn, hopen.2])
        (by simp [hstop, hstops.1])
    exact ⟨_, by simpa using hsplits, hleft table, hright column⟩
  | bare htable hstop =>
    have hsplits : Splits (before ++ cs ++ after) _ :=
      .bare (by simp [htable, hopen]) (by simp [hstop, hstops])
    exact ⟨_, hsplits, by dsimp only; rw [hright, hleft], rfl⟩

/-! ## What is read -/

/-- The reference that two parts of a text make when the blanks around them are taken away. -/
def ofParts? (parts : List Char × List Char) : Option Reference :=
  if (Text.trimmed parts.1).isEmpty then none
  else some (toColumn (String.ofList (Text.trimmed parts.1))
    (if (Text.trimmed parts.2).isEmpty then "id" else String.ofList (Text.trimmed parts.2)))

/-- A text makes the reference of its parts; it does not have to be trimmed before it is
split. -/
theorem Splits.parse?_eq {s : String} {parts : List Char × List Char}
    (h : Splits s.toList parts) : parse? s = ofParts? parts := by
  have hparse : parse? s = ofParts? (split (Text.trimmed s.toList)) := rfl
  obtain ⟨before, after, hblanks, hbefore, hafter⟩ := Text.exists_blanks_trimmed s.toList
  obtain ⟨parts', hsplits, htable, hcolumn⟩ :=
    (splits_split (Text.trimmed s.toList)).append_blanks hbefore hafter
  rw [← hblanks] at hsplits
  obtain rfl : parts' = parts := hsplits.split_eq.symm.trans h.split_eq
  rw [hparse, ofParts?, ofParts?, htable, hcolumn]

/-- Blanks around a text do not matter. -/
theorem parse?_spaced {s spaced : String} (h : Text.Spaced s spaced) : parse? spaced = parse? s := by
  unfold parse?
  rw [h.trimmed_eq]

/-- Parts that are names but for blanks make a reference to these names, and an empty column is
`id`. -/
theorem ofParts?_eq_some {table column : List Char} {t c : String} (ht : t ≠ "")
    (htable : Text.trimmed table = t.toList) (hcolumn : Text.trimmed column = c.toList) :
    ofParts? (table, column) = some (toColumn t (if c = "" then "id" else c)) := by
  have hne : t.toList ≠ [] := mt String.toList_eq_nil_iff.mp ht
  have hempty : c.toList.isEmpty = true ↔ c = "" := by
    rw [List.isEmpty_iff, String.toList_eq_nil_iff]
  unfold ofParts?
  rw [htable, hcolumn, if_neg (mt List.isEmpty_iff.mp hne), String.ofList_toList,
    String.ofList_toList]
  simp only [hempty]

/-- Two parts make no reference exactly if the first is blank. -/
theorem ofParts?_eq_none_iff (parts : List Char × List Char) :
    ofParts? parts = none ↔ ∀ c ∈ parts.1, Text.isBlank c = true := by
  unfold ofParts?
  rw [← Text.trimmed_eq_nil_iff, ← List.isEmpty_iff]
  split
  · rename_i hempty
    exact iff_of_true rfl hempty
  · rename_i hempty
    exact iff_of_false (by simp) hempty

/-! ## Texts that name no table -/

/-- The part of a text that names the table: what precedes the first opening parenthesis or,
where there is none, the first full stop, and all of it where there is neither. -/
def tablePart (cs : List Char) : List Char :=
  if '(' ∈ cs then Text.upTo '(' cs else Text.upTo '.' cs

/-- A text is split behind the part that names the table. -/
theorem Splits.fst_eq_tablePart {cs : List Char} {parts : List Char × List Char}
    (h : Splits cs parts) : parts.1 = tablePart cs := by
  unfold tablePart
  cases h with
  | parentheses rest htable => rw [if_pos (by simp), Text.upTo_append_cons htable]
  | fullStop htable hcolumn hstop =>
    rw [if_neg (by simp [htable, hcolumn]), Text.upTo_append_cons hstop]
  | bare htable hstop => rw [if_neg htable, Text.upTo_eq_self hstop]

/-- There is no reference exactly if the part that names the table is blank. -/
theorem parse?_eq_none_iff (s : String) :
    parse? s = none ↔ ∀ c ∈ tablePart s.toList, Text.isBlank c = true := by
  have hsplits := splits_split s.toList
  rw [hsplits.parse?_eq, ofParts?_eq_none_iff, hsplits.fst_eq_tablePart]

/-! ## Texts that name a table -/

/-- The target of a reference as a foreign key writes it. -/
def target (r : Reference) : String :=
  r.table ++ "(" ++ r.column ++ ")"

/-- A foreign key writes the target of its reference, and then the actions. -/
theorem foreignKeyClause_eq_target (columns : List String) (r : Reference) :
    foreignKeyClause columns r =
      "FOREIGN KEY (" ++ ", ".intercalate columns ++ ") REFERENCES " ++ r.target ++
        actionClause " ON DELETE " r.onDelete ++ actionClause " ON UPDATE " r.onUpdate := by
  unfold foreignKeyClause target
  simp only [String.append_assoc]

section Written

variable {t table : String} (ht : Text.IsNameUpTo '(' t) (htable : Text.Spaced t table)

include ht htable

/-- After a table and an opening parenthesis the column is read up to the closing one. -/
theorem parse?_parenthesis {rest c : String}
    (hcolumn : Text.trimmed (Text.upTo ')' rest.toList) = c.toList) :
    parse? (table ++ "(" ++ rest) = some (toColumn t (if c = "" then "id" else c)) := by
  have hopen : '(' ∉ table.toList := ht.not_mem_spaced htable (by decide)
  have hsplits : Splits (table ++ "(" ++ rest).toList (table.toList, Text.upTo ')' rest.toList) := by
    simpa using Splits.parentheses rest.toList hopen
  rw [hsplits.parse?_eq,
    ofParts?_eq_some ht.ne_empty (ht.trimmed_spaced htable) hcolumn]

/-- A column between parentheses is read. -/
theorem parse?_column {c column : String} (hc : Text.IsNameUpTo ')' c)
    (hcolumn : Text.Spaced c column) :
    parse? (table ++ "(" ++ column ++ ")") = some (toColumn t c) := by
  have hclose : ')' ∉ column.toList := hc.not_mem_spaced hcolumn (by decide)
  have hread : Text.trimmed (Text.upTo ')' (column ++ ")").toList) = c.toList := by
    rw [String.toList_append]
    show Text.trimmed (Text.upTo ')' (column.toList ++ [')'])) = c.toList
    rw [Text.upTo_append_cons hclose]
    exact hc.trimmed_spaced hcolumn
  rw [String.append_assoc, parse?_parenthesis ht htable hread, if_neg hc.ne_empty]

/-- Where nothing stands between parentheses the column is `id`, whether they are closed or
not. -/
theorem parse?_noColumn {blanks : String} (hblanks : Text.IsBlankText blanks) :
    parse? (table ++ "(" ++ blanks) = some (toColumn t "id") ∧
      parse? (table ++ "(" ++ blanks ++ ")") = some (toColumn t "id") := by
  have hclose : ')' ∉ blanks.toList := Text.not_mem_of_forall_isBlank hblanks (by decide)
  have hempty : Text.trimmed blanks.toList = "".toList := (Text.trimmed_eq_nil_iff _).mpr hblanks
  constructor
  · refine parse?_parenthesis ht htable (c := "") ?_
    rw [Text.upTo_eq_self hclose, hempty]
  · rw [String.append_assoc]
    refine parse?_parenthesis ht htable (c := "") ?_
    rw [String.toList_append]
    show Text.trimmed (Text.upTo ')' (blanks.toList ++ [')'])) = _
    rw [Text.upTo_append_cons hclose, hempty]

/-- A table and a column are read on both sides of a full stop, and a table alone stands for its
column `id`. -/
theorem parse?_withoutParentheses (hstop : '.' ∉ t.toList) :
    parse? table = some (toColumn t "id") ∧
      ∀ c column, Text.IsNameUpTo '(' c → Text.Spaced c column →
        parse? (table ++ "." ++ column) = some (toColumn t c) := by
  have htrimmed : Text.trimmed table.toList = t.toList := ht.trimmed_spaced htable
  have hopen : '(' ∉ table.toList := ht.not_mem_spaced htable (by decide)
  have hstop' : '.' ∉ table.toList := by
    rwa [htable.mem_iff (by decide)]
  constructor
  · rw [(Splits.bare hopen hstop').parse?_eq]
    exact ofParts?_eq_some ht.ne_empty htrimmed (c := "") rfl
  · intro c column hc hcolumn
    have hopen' : '(' ∉ column.toList := hc.not_mem_spaced hcolumn (by decide)
    have hsplits : Splits (table ++ "." ++ column).toList (table.toList, column.toList) := by
      simpa using Splits.fullStop hopen hopen' hstop'
    rw [hsplits.parse?_eq,
      ofParts?_eq_some ht.ne_empty htrimmed (hc.trimmed_spaced hcolumn),
      if_neg hc.ne_empty]

end Written

/-! ## Words within a reference -/

/-- What is written behind the closing parenthesis of a reference, where nobody reads it. -/
def behindColumn (cs : List Char) : List Char :=
  match Text.cutAt '(' cs with
  | some (_, rest) => ((Text.cutAt ')' rest).map Prod.snd).getD []
  | none => []

/-- A word without the characters at which a text is split stands in one of its parts or behind
them. -/
theorem Splits.infix_iff {cs word : List Char} {parts : List Char × List Char}
    (h : Splits cs parts) (hne : word ≠ []) (hopen : '(' ∉ word) (hclose : ')' ∉ word)
    (hstop : '.' ∉ word) :
    word <:+: cs ↔ word <:+: parts.1 ∨ word <:+: parts.2 ∨ word <:+: behindColumn cs := by
  unfold behindColumn
  cases h with
  | parentheses rest htable =>
    rw [Text.infix_append_cons_iff hopen, Text.cutAt_append_cons htable]
    by_cases hclosed : ')' ∈ rest
    · obtain ⟨column, behind, rfl, hcolumn⟩ := List.eq_append_cons_of_mem hclosed
      rw [Text.infix_append_cons_iff hclose, Text.upTo_append_cons hcolumn]
      dsimp only
      rw [Text.cutAt_append_cons hcolumn]
      rfl
    · rw [Text.upTo_eq_self hclosed]
      dsimp only
      rw [Text.cutAt_eq_none hclosed]
      simp [hne]
  | fullStop htable hcolumn hstop' =>
    rw [Text.infix_append_cons_iff hstop, Text.cutAt_eq_none (by simp [htable, hcolumn])]
    simp [hne]
  | bare htable hstop' =>
    rw [Text.cutAt_eq_none htable]
    simp [hne]

/-- The names of a reference that is read are the parts of its text without the blanks around
them, and a column without a name is `id`. -/
theorem Splits.names_of_parse? {s : String} {parts : List Char × List Char} {r : Reference}
    (h : Splits s.toList parts) (hr : parse? s = some r) :
    r.table.toList = Text.trimmed parts.1 ∧
      (r.column.toList = Text.trimmed parts.2 ∨ Text.trimmed parts.2 = [] ∧ r.column = "id") := by
  rw [h.parse?_eq, ofParts?] at hr
  split at hr
  · simp at hr
  · rw [Option.some.injEq] at hr
    rw [← hr]
    refine ⟨String.toList_ofList, ?_⟩
    by_cases hempty : (Text.trimmed parts.2).isEmpty
    · exact .inr ⟨List.isEmpty_iff.mp hempty, if_pos hempty⟩
    · exact .inl ((congrArg String.toList (if_neg hempty)).trans String.toList_ofList)

/-! ## Reading what is written -/

/-- **References as they are written.**  The target that a foreign key writes is read back,
whatever blanks stand around it, its table and its column.  A table without a column stands for
its column `id`, and a full stop may take the place of the parentheses.  A text is no reference
exactly if the part that names the table is blank. -/
theorem parse?_written :
    (∀ r : Reference, Text.IsNameUpTo '(' r.table → Text.IsNameUpTo ')' r.column →
      (∀ columns, foreignKeyClause columns r =
        "FOREIGN KEY (" ++ ", ".intercalate columns ++ ") REFERENCES " ++ r.target ++
          actionClause " ON DELETE " r.onDelete ++ actionClause " ON UPDATE " r.onUpdate) ∧
      parse? r.target = some (toColumn r.table r.column) ∧
      ∀ table column s, Text.Spaced r.table table → Text.Spaced r.column column →
        Text.Spaced (table ++ "(" ++ column ++ ")") s →
          parse? s = some (toColumn r.table r.column)) ∧
    (∀ t table s, Text.IsNameUpTo '(' t → '.' ∉ t.toList → Text.Spaced t table →
      (Text.Spaced table s → parse? s = some (toColumn t "id")) ∧
      (∀ blanks, Text.IsBlankText blanks →
        Text.Spaced (table ++ "(" ++ blanks) s ∨ Text.Spaced (table ++ "(" ++ blanks ++ ")") s →
          parse? s = some (toColumn t "id")) ∧
      ∀ c column, Text.IsNameUpTo '(' c → Text.Spaced c column →
        Text.Spaced (table ++ "." ++ column) s → parse? s = some (toColumn t c)) ∧
    ∀ s, parse? s = none ↔ ∀ c ∈ tablePart s.toList, Text.isBlank c = true := by
  refine ⟨?_, ?_, parse?_eq_none_iff⟩
  · intro r htable hcolumn
    refine ⟨fun columns => foreignKeyClause_eq_target columns r,
      parse?_column htable (.refl _) hcolumn (.refl _), ?_⟩
    intro table column s htable' hcolumn' hs
    rw [parse?_spaced hs, parse?_column htable htable' hcolumn hcolumn']
  · intro t table s ht hstop htable
    have hshort := parse?_withoutParentheses ht htable hstop
    refine ⟨?_, ?_, ?_⟩
    · intro hs
      rw [parse?_spaced hs, hshort.1]
    · intro blanks hblanks hs
      have hempty := parse?_noColumn ht htable hblanks
      rcases hs with hs | hs
      · rw [parse?_spaced hs, hempty.1]
      · rw [parse?_spaced hs, hempty.2]
    · intro c column hc hcolumn hs
      rw [parse?_spaced hs, hshort.2 c column hc hcolumn]

/-- A table of another schema needs parentheses, since its name has a full stop of its own. -/
theorem parse?_written_users :
    Text.IsNameUpTo '(' "shop.users" ∧ Text.IsNameUpTo ')' "id" ∧
      parse? (toColumn "shop.users" "id").target = some (toColumn "shop.users" "id") ∧
      parse? " shop.users ( id )\n" = some (toColumn "shop.users" "id") ∧
      Text.IsNameUpTo '(' "users" ∧ parse? " users" = some (toColumn "users" "id") ∧
      parse? "users(" = some (toColumn "users" "id") ∧
      Text.IsNameUpTo '(' "mail" ∧ parse? "users. mail" = some (toColumn "users" "mail") ∧
      parse? " (id)" = none := by
  obtain ⟨htarget, hshort, hnone⟩ := parse?_written
  have hqualified : Text.IsNameUpTo '(' "shop.users" :=
    ⟨by decide, by decide +kernel, by decide⟩
  have husers : Text.IsNameUpTo '(' "users" := ⟨by decide, by decide +kernel, by decide⟩
  have hmail : Text.IsNameUpTo '(' "mail" := ⟨by decide, by decide +kernel, by decide⟩
  have hid : Text.IsNameUpTo ')' "id" := ⟨by decide, by decide +kernel, by decide⟩
  have hblank : Text.IsBlankText " " := by simp [Text.IsBlankText, Text.isBlank]
  have hnewline : Text.IsBlankText "\n" := by simp [Text.IsBlankText, Text.isBlank]
  have hempty : Text.IsBlankText "" := by simp [Text.IsBlankText]
  obtain ⟨_, hplain, hspaced⟩ := htarget (toColumn "shop.users" "id") hqualified hid
  refine ⟨hqualified, hid, hplain, ?_, husers, ?_, ?_, hmail, ?_, ?_⟩
  · exact hspaced " shop.users " " id " _ ⟨" ", " ", hblank, hblank, rfl⟩
      ⟨" ", " ", hblank, hblank, rfl⟩ ⟨"", "\n", hempty, hnewline, rfl⟩
  · exact (hshort "users" " users" _ husers (by decide) ⟨" ", "", hblank, hempty, rfl⟩).1 (.refl _)
  · exact (hshort "users" "users" _ husers (by decide) (.refl _)).2.1 "" hempty (.inl (.refl _))
  · exact (hshort "users" "users" _ husers (by decide) (.refl _)).2.2 "mail" " mail" hmail
      ⟨" ", "", hblank, hempty, rfl⟩ (.refl _)
  · exact (hnone " (id)").mpr (by simp [tablePart, Text.upTo, Text.isBlank])

end Reference

end SchemaDdl
