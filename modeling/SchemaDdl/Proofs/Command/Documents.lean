/-
# Documents survive being written and read

Metadata and live schemas are written in one form, and read from many: under other names,
with fields left out, as arrays.  What is written is read back whole:

* `Metadata.faithful`, `LiveSchema.faithful` : every part of a document is read as it was
  written;
* `read?_toJson` : so are the texts of documents, and reading the text that is written for an
  accepted text gives what the accepted text gave.
-/
import SchemaDdl.Command.Run
import SchemaDdl.Proofs.Json.Record

namespace SchemaDdl

open Json (Faithful Given given?_record_bind optional?_optional_text)

/-! ## Actions, defaults and types by dialect -/

/-- Actions are written faithfully, by their SQL words. -/
theorem ReferentialAction.faithful :
    Faithful ReferentialAction.toJson ReferentialAction.ofJson? where
  plain a := .text a.sql
  decode_encode := ofKey?_sql

/-- So are actions that may be missing. -/
theorem ReferentialAction.faithful_optional :
    Faithful (Json.optional ReferentialAction.toJson) (Json.optional? ReferentialAction.ofJson?) :=
  faithful.optional fun _ => nofun

/-- Defaults are written faithfully. -/
theorem DefaultValue.faithful : Faithful DefaultValue.toJson DefaultValue.ofJson? where
  plain v := by
    cases v with
    | literal text => exact .record (by simp)
    | function text => exact .record (by simp)
  decode_encode v := by
    cases v with
    | literal text => rfl
    | function text => rfl

/-- So are defaults that may be missing. -/
theorem DefaultValue.faithful_optional :
    Faithful (Json.optional DefaultValue.toJson) (Json.optional? DefaultValue.ofJson?) :=
  faithful.optional fun v => by cases v <;> nofun

/-- Types by dialect are written faithfully: one under the name of each dialect that has one,
and none for the others. -/
theorem Overrides.faithful : Faithful Overrides.toJson Overrides.ofJson? where
  plain o := .record fun m hm => by
    obtain ⟨d, -, hd⟩ := List.mem_filterMap.mp hm
    obtain ⟨dataType, -, rfl⟩ := Option.map_eq_some_iff.mp hd
    exact .text dataType
  decode_encode o := by
    obtain ⟨postgres, mysql, mariadb⟩ := o
    cases postgres <;> cases mysql <;> cases mariadb <;> rfl

/-! ## Metadata

Each record gives all of its fields under their own names, so that the values for fields left
out are not used. -/

/-- Fields are written faithfully. -/
theorem Field.faithful : Faithful Field.toJson Field.ofJson? where
  plain f := .record (by
    simp [DefaultValue.faithful_optional.plain, ReferentialAction.faithful_optional.plain,
      Overrides.faithful.plain])
  decode_encode f := by
    rw [Field.ofJson?, Field.toJson, given?_record_bind (by decide) rfl]
    -- Only what is read is rewritten.  The steps of reading are left to `rfl`, since rewriting
    -- them goes through all that follows a step once more for each of them.
    simp only [Given.text?, Given.bool?, Given.optionalText?, Given.get?_cons_self,
      Given.get?_cons_of_ne, ne_eq, String.reduceEq, not_false_eq_true,
      optional?_optional_text, DefaultValue.faithful_optional.decode_encode,
      ReferentialAction.faithful_optional.decode_encode, Overrides.faithful.decode_encode]
    rfl

/-- Table directives are written faithfully. -/
theorem TableDirective.faithful : Faithful TableDirective.toJson TableDirective.ofJson? where
  plain t := .record (by simp)
  decode_encode t := by
    rw [TableDirective.ofJson?, TableDirective.toJson, given?_record_bind (by decide) rfl]
    simp

/-- Index directives are written faithfully. -/
theorem IndexDirective.faithful : Faithful IndexDirective.toJson IndexDirective.ofJson? where
  plain i := .record (by simp)
  decode_encode i := by
    rw [IndexDirective.ofJson?, IndexDirective.toJson, given?_record_bind (by decide) rfl]
    simp

/-- Enum types are written faithfully. -/
theorem EnumType.faithful : Faithful EnumType.toJson EnumType.ofJson? where
  plain e := .record (by simp)
  decode_encode e := by
    rw [EnumType.ofJson?, EnumType.toJson, given?_record_bind (by decide) rfl]
    simp

/-- Modes are written faithfully, by their keywords. -/
theorem EmbedMode.faithful : Faithful (fun mode => Json.text mode.keyword) EmbedMode.ofJson? where
  plain mode := .text mode.keyword
  decode_encode mode := by
    cases mode <;> decide +kernel

/-- Embeddings are written faithfully. -/
theorem Embedding.faithful : Faithful Embedding.toJson Embedding.ofJson? where
  plain e := .record (by
    simp [ReferentialAction.faithful_optional.plain, Overrides.faithful.plain])
  decode_encode e := by
    rw [Embedding.ofJson?, Embedding.toJson, given?_record_bind (by decide) rfl]
    -- As for fields.
    simp only [Given.text?, Given.bool?, Given.optionalText?, Given.get?_cons_self,
      Given.get?_cons_of_ne, ne_eq, String.reduceEq, not_false_eq_true,
      optional?_optional_text, EmbedMode.faithful.decode_encode,
      ReferentialAction.faithful_optional.decode_encode, Overrides.faithful.decode_encode]
    rfl

/-- **Metadata.**  Metadata is written faithfully. -/
theorem Metadata.faithful : Faithful Metadata.toJson Metadata.ofJson? where
  plain m := .record (by
    simp [Field.faithful.list.plain, TableDirective.faithful.list.plain,
      IndexDirective.faithful.list.plain, EnumType.faithful.list.plain,
      Embedding.faithful.list.plain])
  decode_encode m := by
    rw [Metadata.ofJson?, Metadata.toJson, given?_record_bind (by decide) rfl]
    simp [Field.faithful.list.decode_encode, TableDirective.faithful.list.decode_encode,
      IndexDirective.faithful.list.decode_encode, EnumType.faithful.list.decode_encode,
      Embedding.faithful.list.decode_encode]

/-! ## Live schemas -/

/-- Live columns are written faithfully. -/
theorem LiveColumn.faithful : Faithful LiveColumn.toJson LiveColumn.ofJson? where
  plain c := .record (by simp)
  decode_encode c := by
    rw [LiveColumn.ofJson?, LiveColumn.toJson, given?_record_bind (by decide) rfl]
    simp

/-- Live tables are written faithfully. -/
theorem LiveTable.faithful : Faithful LiveTable.toJson LiveTable.ofJson? where
  plain t := .record (by simp [LiveColumn.faithful.list.plain])
  decode_encode t := by
    rw [LiveTable.ofJson?, LiveTable.toJson, given?_record_bind (by decide) rfl]
    simp [LiveColumn.faithful.list.decode_encode]

/-- Live indexes are written faithfully. -/
theorem LiveIndex.faithful : Faithful LiveIndex.toJson LiveIndex.ofJson? where
  plain i := .record (by simp)
  decode_encode i := by
    rw [LiveIndex.ofJson?, LiveIndex.toJson, given?_record_bind (by decide) rfl]
    simp

/-- **Live schemas.**  Live schemas are written faithfully. -/
theorem LiveSchema.faithful : Faithful LiveSchema.toJson LiveSchema.ofJson? where
  plain s := .record (by
    simp [LiveTable.faithful.list.plain, LiveIndex.faithful.list.plain,
      EnumType.faithful.list.plain])
  decode_encode s := by
    rw [LiveSchema.ofJson?, LiveSchema.toJson, given?_record_bind (by decide) rfl]
    simp [LiveTable.faithful.list.decode_encode, LiveIndex.faithful.list.decode_encode,
      EnumType.faithful.list.decode_encode]

/-! ## Texts -/

/-- Where every written text is read back, reading a text, writing what it gives and reading
that is the same as reading the text. -/
theorem bind_read_write {α : Type} {read : String → Option α} {write : α → String}
    (h : ∀ a, read (write a) = some a) (text : String) :
    ((read text).bind fun a => read (write a)) = read text := by
  simp only [h, Option.bind_fun_some]

/-- **Documents.**  Metadata and live schemas are read back just as they were written, on one
line or indented.  And whatever text of a document is accepted, the text that is written for
what it gives is accepted and gives the same. -/
theorem read?_toJson :
    (∀ m : Metadata, Metadata.read? m.toJson.compact = some m ∧
      Metadata.read? m.toJson.pretty = some m) ∧
    (∀ s : LiveSchema, LiveSchema.read? s.toJson.compact = some s ∧
      LiveSchema.read? s.toJson.pretty = some s) ∧
    ∀ text : String,
      ((Metadata.read? text).bind fun m => Metadata.read? m.toJson.compact) =
        Metadata.read? text ∧
      ((Metadata.read? text).bind fun m => Metadata.read? m.toJson.pretty) =
        Metadata.read? text ∧
      ((LiveSchema.read? text).bind fun s => LiveSchema.read? s.toJson.compact) =
        LiveSchema.read? text ∧
      ((LiveSchema.read? text).bind fun s => LiveSchema.read? s.toJson.pretty) =
        LiveSchema.read? text := by
  have hmetadata : ∀ m : Metadata, Metadata.read? m.toJson.compact = some m :=
    Metadata.faithful.parse_compact_bind
  have hmetadata' : ∀ m : Metadata, Metadata.read? m.toJson.pretty = some m :=
    Metadata.faithful.parse_pretty_bind
  have hlive : ∀ s : LiveSchema, LiveSchema.read? s.toJson.compact = some s :=
    LiveSchema.faithful.parse_compact_bind
  have hlive' : ∀ s : LiveSchema, LiveSchema.read? s.toJson.pretty = some s :=
    LiveSchema.faithful.parse_pretty_bind
  exact ⟨fun m => ⟨hmetadata m, hmetadata' m⟩, fun s => ⟨hlive s, hlive' s⟩, fun text =>
    ⟨bind_read_write hmetadata text, bind_read_write hmetadata' text,
      bind_read_write hlive text, bind_read_write hlive' text⟩⟩

/-- An index given under the other name of its columns, and an embedding given as an array
that breaks off behind its mode. -/
example :
    Metadata.read? ("\x7b\"embedded\": [[\"User\", \"Address\", \" JSON \"]], " ++
        "\"indexes\": [\x7b\"columns\": [\"city\"]\x7d]\x7d") =
      some ⟨[], [], [⟨"", "", ["city"], false, none, none⟩], [],
        [⟨"User", "Address", .json, none, none, none, false, none, none, none, none, .empty⟩]⟩ := by
  decide +kernel

end SchemaDdl
