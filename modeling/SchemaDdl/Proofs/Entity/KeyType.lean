/-
# The type of a relation's column

The type of a column that refers to another table is guessed from the text of its reference: it
is `TEXT` if a hint stands anywhere in the text, and `INTEGER` otherwise.  So the name of the
table has a say in it as well as the name of the column:

* `hintsAtText_iff_of_parse?` : the hints of a reference, by its parts;
* `dataType_expand_relation` : the types that two references to one column lead to.

A table of charts gets a text for its integer key (`not_dataType_alike_charts`).
-/
import SchemaDdl.Proofs.Entity.RelationKeys
import SchemaDdl.Proofs.Sql.Reference
import SchemaDdl.Proofs.Text.Case

namespace SchemaDdl

namespace Embedding

/-! ## Hints -/

/-- A text has a hint somewhere, in any case, that a key is no integer. -/
def HintsAtText (s : String) : Prop :=
  ∃ word : List Char, word <:+: s.toList ∧ (String.ofList word).toLower ∈ textKeyHints

/-- The type is guessed from the hints in the whole text of a reference. -/
theorem keyType_eq_text_iff (reference : String) :
    keyType reference = "TEXT" ↔ HintsAtText reference := by
  have hany : textKeyHints.any (Text.contains reference.toLower) = true ↔
      HintsAtText reference := by
    rw [List.any_eq_true]
    constructor
    · rintro ⟨hint, hmem, hcontains⟩
      rw [Text.contains, Text.occursIn_iff_infix, Text.toList_toLower, List.infix_map_iff]
        at hcontains
      obtain ⟨word, hword, hlower⟩ := hcontains
      have hhint : (String.ofList word).toLower = hint := by
        apply String.toList_inj.mp
        rw [Text.toList_toLower, String.toList_ofList, hlower]
      exact ⟨word, hword, hhint ▸ hmem⟩
    · rintro ⟨word, hword, hmem⟩
      refine ⟨_, hmem, ?_⟩
      rw [Text.contains, Text.occursIn_iff_infix, Text.toList_toLower, Text.toList_toLower,
        String.toList_ofList]
      exact hword.map Char.toLower
  rw [← hany, keyType]
  split <;> simp_all

/-- A relation refers by a text or by an integer. -/
theorem keyType_eq_or (reference : String) :
    keyType reference = "TEXT" ∨ keyType reference = "INTEGER" := by
  unfold keyType
  split
  · exact .inl rfl
  · exact .inr rfl

/-- A hint is a word of letters. -/
theorem isAlpha_of_hint {word : List Char} (h : (String.ofList word).toLower ∈ textKeyHints) :
    word ≠ [] ∧ ∀ c ∈ word, c.isAlpha = true := by
  have hletters : (textKeyHints.all fun hint =>
      !hint.toList.isEmpty && hint.toList.all Char.isAlpha) = true := by decide
  have hhint := List.all_eq_true.mp hletters _ h
  rw [Text.toList_toLower, String.toList_ofList, Bool.and_eq_true, List.all_eq_true] at hhint
  obtain ⟨hne, halpha⟩ := hhint
  constructor
  · rintro rfl
    exact Bool.noConfusion hne
  · intro c hc
    rw [← c.isAlpha_toLower_eq_isAlpha]
    exact halpha _ (List.mem_map_of_mem hc)

/-- Blanks around a text have no share in its hints. -/
theorem hintsAtText_trimmed_iff (cs : List Char) :
    HintsAtText (String.ofList (Text.trimmed cs)) ↔ HintsAtText (String.ofList cs) := by
  unfold HintsAtText
  rw [String.toList_ofList, String.toList_ofList]
  refine exists_congr fun word => and_congr_left fun hhint => ?_
  obtain ⟨hne, hletters⟩ := isAlpha_of_hint hhint
  exact Text.infix_trimmed_iff hne (fun c hc => Text.isBlank_of_isAlpha (hletters c hc)) cs

/-- A hint in the text of a reference stands in one of its parts or behind them. -/
theorem hintsAtText_iff_of_splits {reference : String} {parts : List Char × List Char}
    (h : Reference.Splits reference.toList parts) :
    HintsAtText reference ↔
      HintsAtText (String.ofList parts.1) ∨ HintsAtText (String.ofList parts.2) ∨
        HintsAtText (String.ofList (Reference.behindColumn reference.toList)) := by
  unfold HintsAtText
  simp only [String.toList_ofList, ← exists_or, ← or_and_right]
  refine exists_congr fun word => and_congr_left fun hhint => ?_
  obtain ⟨hne, hletters⟩ := isAlpha_of_hint hhint
  have hword : ∀ {c : Char}, c.isAlpha = false → c ∉ word := by
    intro c hc hmem
    rw [hletters c hmem] at hc
    exact Bool.noConfusion hc
  exact h.infix_iff hne (hword (by decide)) (hword (by decide)) (hword (by decide))

/-- The hints of a reference that is read stand in its table, in its column or behind the closing
parenthesis. -/
theorem hintsAtText_iff_of_parse? {reference : String} {r : Reference}
    (h : Reference.parse? reference = some r) :
    HintsAtText reference ↔
      HintsAtText r.table ∨ HintsAtText r.column ∨
        HintsAtText (String.ofList (Reference.behindColumn reference.toList)) := by
  have hsplits := Reference.splits_split reference.toList
  obtain ⟨htable, hcolumn⟩ := hsplits.names_of_parse? h
  rw [hintsAtText_iff_of_splits hsplits, ← hintsAtText_trimmed_iff, ← htable,
    String.ofList_toList, ← hintsAtText_trimmed_iff (Reference.split reference.toList).2]
  rcases hcolumn with hnamed | ⟨hempty, hid⟩
  · rw [← hnamed, String.ofList_toList]
  · -- Neither the missing name nor `id` in its place has a hint.
    have hnone : ∀ s lower : String, s.toList.map Char.toLower = lower.toList →
        textKeyHints.any (Text.contains lower) = false → ¬ HintsAtText s := by
      intro s lower hlower hhints hhint
      rw [← keyType_eq_text_iff, keyType, Text.toLower_eq_of_toList hlower, hhints] at hhint
      exact absurd hhint (by decide)
    have hblank : ¬ HintsAtText (String.ofList []) := hnone _ "" rfl rfl
    have hdefault : ¬ HintsAtText "id" := hnone _ "id" rfl rfl
    rw [hempty, hid]
    simp only [hblank, hdefault, false_or]

/-! ## Columns of relations -/

/-- The embedding with another reference. -/
def referringTo (e : Embedding) (reference : String) : Embedding :=
  { e with reference := some reference }

/-- A reference has a hint outside of its column, in its table or behind the parenthesis that
closes it. -/
def HintsElsewhere (reference : String) (r : Reference) : Prop :=
  HintsAtText r.table ∨
    HintsAtText (String.ofList (Reference.behindColumn reference.toList))

/-- A text without characters is no reference. -/
theorem ne_empty_of_parse? {reference : String} {r : Reference}
    (h : Reference.parse? reference = some r) : reference ≠ "" := by
  rintro rfl
  have hnone : Reference.parse? "" = none := rfl
  rw [hnone] at h
  cases h

section Relation

variable {e : Embedding} (hmode : e.mode = .relation) {column : String}
  (hcolumn : e.column = some column) (hne : column ≠ "")

include hmode hcolumn hne

/-- A relation whose column has a name makes one field of every reference that can be read. -/
theorem exists_expand_referringTo {reference : String} {r : Reference}
    (h : Reference.parse? reference = some r) (m : Metadata) :
    ∃ f, m.expand (e.referringTo reference) = [f] ∧ f.name = column ∧
      f.dataType = keyType reference := by
  have hfield : ∃ f, (e.referringTo reference).relationField = some f ∧ f.name = column ∧
      f.dataType = keyType reference := by
    unfold relationField referringTo
    simp [hcolumn, hne, ne_empty_of_parse? h, Field.new]
  obtain ⟨f, hf, hname, htype⟩ := hfield
  have hexpand : m.expand (e.referringTo reference) =
      (e.referringTo reference).relationField.toList := by
    rw [Metadata.expand, contribution]
    have hmode' : (e.referringTo reference).mode = .relation := hmode
    rw [hmode']
  refine ⟨f, ?_, hname, htype⟩
  rw [hexpand, hf]
  rfl

/-- Its type is that of a text if the reference has a hint in its column or elsewhere, and that
of an integer otherwise. -/
theorem exists_expand_referringTo_hints {reference : String} {r : Reference}
    (h : Reference.parse? reference = some r) (m : Metadata) :
    ∃ f, m.expand (e.referringTo reference) = [f] ∧ f.name = column ∧
      (f.dataType = "TEXT" ∨ f.dataType = "INTEGER") ∧
      (f.dataType = "TEXT" ↔ HintsAtText r.column ∨ HintsElsewhere reference r) := by
  obtain ⟨f, hf, hname, htype⟩ := exists_expand_referringTo hmode hcolumn hne h m
  refine ⟨f, hf, hname, htype ▸ keyType_eq_or reference, ?_⟩
  rw [htype, keyType_eq_text_iff, hintsAtText_iff_of_parse? h, HintsElsewhere, or_left_comm]

/-- **The type of a relation's column.**  A relation whose column has a name makes one field of
every reference that can be read.  The field is a text if a hint stands in the name of the
column, in that of the table or behind the closing parenthesis, and an integer otherwise.  So two
references to columns of one name lead to the same type exactly if this name has a hint, or if
both or neither have one elsewhere. -/
theorem dataType_expand_relation {first second : String} {r r' : Reference}
    (hfirst : Reference.parse? first = some r) (hsecond : Reference.parse? second = some r')
    (hsame : r.column = r'.column) (m : Metadata) :
    ∃ f f', m.expand (e.referringTo first) = [f] ∧ m.expand (e.referringTo second) = [f'] ∧
      f.name = column ∧ f'.name = column ∧
      (f.dataType = "TEXT" ∨ f.dataType = "INTEGER") ∧
      (f'.dataType = "TEXT" ∨ f'.dataType = "INTEGER") ∧
      (f.dataType = "TEXT" ↔ HintsAtText r.column ∨ HintsElsewhere first r) ∧
      (f'.dataType = "TEXT" ↔ HintsAtText r'.column ∨ HintsElsewhere second r') ∧
      (f.dataType = f'.dataType ↔
        HintsAtText r.column ∨ (HintsElsewhere first r ↔ HintsElsewhere second r')) := by
  obtain ⟨f, hf, hname, htype, hhints⟩ :=
    exists_expand_referringTo_hints hmode hcolumn hne hfirst m
  obtain ⟨f', hf', hname', htype', hhints'⟩ :=
    exists_expand_referringTo_hints hmode hcolumn hne hsecond m
  refine ⟨f, f', hf, hf', hname, hname', htype, htype', hhints, hhints', ?_⟩
  -- Both types are the same exactly if both or neither are texts.
  have htexts : f.dataType = f'.dataType ↔ (f.dataType = "TEXT" ↔ f'.dataType = "TEXT") := by
    rcases htype with h | h <;> rcases htype' with h' | h' <;> simp [h, h']
  rw [htexts, hhints, hhints', hsame]
  by_cases hcolumn' : HintsAtText r'.column <;> simp [hcolumn']

end Relation

/-- A relation of songs to the charts that they are in. -/
def chartRelation : Embedding :=
  DesiredTable.relationEmbedding "Song" "Chart" "chart_id" "charts(id)"

/-- A table of songs with this relation and one to their albums. -/
def songsMetadata : Metadata where
  fields := []
  tables := [⟨"Song", "songs", none, none, []⟩]
  indexes := []
  enums := []
  embeddings := [chartRelation,
    DesiredTable.relationEmbedding "Song" "Album" "album_id" "albums(id)"]

/-- Keys that are called `uuid` lead to one type, whatever their tables are called. -/
theorem dataType_expand_relation_uuid :
    chartRelation.mode = .relation ∧ chartRelation.column = some "chart_id" ∧
      Reference.parse? "charts(uuid)" = some (.toColumn "charts" "uuid") ∧
      Reference.parse? "albums.uuid" = some (.toColumn "albums" "uuid") ∧
      ∃ f f', songsMetadata.expand (chartRelation.referringTo "charts(uuid)") = [f] ∧
        songsMetadata.expand (chartRelation.referringTo "albums.uuid") = [f'] ∧
        f.dataType = "TEXT" ∧ f.dataType = f'.dataType := by
  have hmode : chartRelation.mode = .relation := rfl
  have hcolumn : chartRelation.column = some "chart_id" := rfl
  have hfirst : Reference.parse? "charts(uuid)" = some (.toColumn "charts" "uuid") := by
    decide +kernel
  have hsecond : Reference.parse? "albums.uuid" = some (.toColumn "albums" "uuid") := by
    decide +kernel
  have hhint : HintsAtText "uuid" := ⟨"uuid".toList, List.infix_rfl, by decide +kernel⟩
  obtain ⟨f, f', hf, hf', _, _, _, _, htext, _, hsame⟩ :=
    dataType_expand_relation hmode hcolumn (by decide) hfirst hsecond rfl songsMetadata
  exact ⟨hmode, hcolumn, hfirst, hsecond, f, f', hf, hf', htext.mpr (.inl hhint),
    hsame.mpr (.inl hhint)⟩

/-- A reference to the key of `charts` leads to a text, since there are chars in the name of the
table; one to a key of the same name in `albums` leads to an integer. -/
theorem not_dataType_alike_charts :
    (¬ ∀ (m : Metadata) (e : Embedding) (column first second : String) (r r' : Reference),
      e.mode = .relation → e.column = some column → column ≠ "" →
        Reference.parse? first = some r → Reference.parse? second = some r' →
          r.column = r'.column → r.table ≠ r'.table →
            (m.expand (e.referringTo first)).map Field.dataType =
              (m.expand (e.referringTo second)).map Field.dataType) ∧
    songsMetadata.render .postgres = .ok ("-- POSTGRES TABLE: songs --\n" ++
      "CREATE TABLE songs (\n  chart_id TEXT NOT NULL,\n  album_id INTEGER NOT NULL,\n" ++
      "  CONSTRAINT fk_song_chart_id FOREIGN KEY (chart_id) REFERENCES charts(id),\n" ++
      "  CONSTRAINT fk_song_album_id FOREIGN KEY (album_id) REFERENCES albums(id)\n);\n") := by
  refine ⟨?_, by decide +kernel⟩
  intro halike
  have hsame := halike songsMetadata chartRelation "chart_id" "charts(id)" "albums(id)"
    (.toColumn "charts" "id") (.toColumn "albums" "id") rfl rfl (by decide) (by decide +kernel)
    (by decide +kernel) rfl (by decide)
  revert hsame
  decide +kernel

end Embedding

end SchemaDdl
