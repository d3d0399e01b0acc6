/-
# Types that speak of a serial

A comparison passes over the default of a column whose type has the word `SERIAL` in it.  All
serial types do, and so may any other type, such as an enum type that is named by its user:

* `Sql.mentionsSerial_iff` : which types have the word in them;
* `Sql.isSome_integerForSerial?_iff` : which types are serial types;
* `sequenceBacked_iff_mentionsSerial` : what this means for the defaults that are compared.
-/
import SchemaDdl.Proofs.Drift.Comparison
import SchemaDdl.Proofs.Drift.TypeBucket
import SchemaDdl.Proofs.Text.Part

namespace SchemaDdl

/-! ## Two ways to recognise a serial type -/

namespace Sql

open Text

/-- The names of serial types. -/
def serialNames : List String :=
  ["SERIAL", "SERIAL2", "SERIAL4", "SERIAL8", "SMALLSERIAL", "BIGSERIAL"]

/-- An integer type stands for a type exactly if it has the name of a serial type, in any case
and with blanks around it. -/
theorem isSome_integerForSerial?_iff (dataType : String) :
    (integerForSerial? dataType).isSome = true ↔ typeWord dataType ∈ serialNames := by
  rw [integerForSerial?, Option.isSome_map, serialWidth?]
  split <;> simp_all [serialNames]

/-- A type speaks of a serial exactly if the word stands somewhere in it, in any case. -/
theorem mentionsSerial_iff (dataType : String) :
    mentionsSerial dataType = true ↔
      ∃ before word after, dataType = before ++ word ++ after ∧ word.toUpper = "SERIAL" := by
  have hletters : ∀ c ∈ "SERIAL".toList, c.isAlpha = true := List.all_eq_true.mp (by decide)
  have hword : ∀ {word : List Char}, "SERIAL".toList = word.map Char.toUpper →
      word ≠ [] ∧ ∀ c ∈ word, isBlank c = false := by
    intro word hsame
    constructor
    · rintro rfl
      cases hsame
    · intro c hc
      rw [← isBlank_toUpper]
      exact isBlank_of_isAlpha (hletters _ (hsame ▸ List.mem_map_of_mem hc))
  rw [mentionsSerial, Text.contains, occursIn_iff_infix, toList_typeWord, List.infix_map_iff]
  constructor
  · rintro ⟨word, hoccurs, hsame⟩
    obtain ⟨hne, hnonblank⟩ := hword hsame
    obtain ⟨before, after, hparts⟩ := (infix_trimmed_iff hne hnonblank _).mp hoccurs
    refine ⟨String.ofList before, String.ofList word, String.ofList after, ?_, ?_⟩
    · apply String.toList_inj.mp
      simp only [String.toList_append, String.toList_ofList, hparts]
    · apply String.toList_inj.mp
      rw [toList_toUpper, String.toList_ofList, hsame]
  · rintro ⟨before, word, after, rfl, hsame⟩
    have hupper : "SERIAL".toList = word.toList.map Char.toUpper := by
      rw [← toList_toUpper, hsame]
    obtain ⟨hne, hnonblank⟩ := hword hupper
    refine ⟨word.toList, (infix_trimmed_iff hne hnonblank _).mpr ?_, hupper⟩
    refine ⟨before.toList, after.toList, ?_⟩
    rw [String.toList_append, String.toList_append]

/-- Every serial type speaks of a serial. -/
theorem mentionsSerial_of_mem {dataType : String} (h : typeWord dataType ∈ serialNames) :
    mentionsSerial dataType = true := by
  have hnames : ∀ name ∈ serialNames, Text.contains name "SERIAL" = true := by decide
  exact hnames _ h

/-- Both ways agree on a type exactly if it is a serial type or does not speak of a serial. -/
theorem mentionsSerial_agrees_iff (dataType : String) :
    (mentionsSerial dataType = true ↔ (integerForSerial? dataType).isSome = true) ↔
      typeWord dataType ∈ serialNames ∨ mentionsSerial dataType = false := by
  rw [isSome_integerForSerial?_iff]
  constructor
  · intro hagrees
    by_cases hmentions : mentionsSerial dataType = true
    · exact .inl (hagrees.mp hmentions)
    · exact .inr ((Bool.not_eq_true _).mp hmentions)
  · rintro (hserial | hsilent)
    · exact iff_of_true (mentionsSerial_of_mem hserial) hserial
    · have hmentions : ¬ mentionsSerial dataType = true := by rw [hsilent]; exact Bool.false_ne_true
      exact iff_of_false hmentions fun hserial => hmentions (mentionsSerial_of_mem hserial)

end Sql

/-! ## Defaults that are passed over -/

namespace Drift

/-- The default of a column that does not count up, and does not draw on a sequence, is passed
over exactly if one of its types speaks of a serial. -/
theorem sequenceBacked_eq_true_iff {d : Dialect} {f : Field} {c : LiveColumn}
    (hfield : f.autoIncrement = false) (hlive : c.autoIncrement = false)
    (hdraws : ∀ default, c.default = some default → drawsFromSequence default = false) :
    sequenceBacked d f c = true ↔
      Sql.mentionsSerial (f.resolveType d).dataType = true ∨
        Sql.mentionsSerial c.effectiveType = true := by
  have hany : c.default.any drawsFromSequence = false := by
    cases hdefault : c.default with
    | none => rfl
    | some default => exact hdraws default hdefault
  rw [sequenceBacked, hfield, hlive, hany]
  simp

/-- **Types that speak of a serial.**  A type speaks of a serial if the word stands anywhere in
it, which is so for every serial type; so the two ways to recognise one agree on serial types and
on types without the word, and on no others.  The default of a column that neither counts up nor
draws on a sequence is passed over exactly if one of its types speaks of a serial, and a change of
it is reported exactly if its forms differ and neither type does. -/
theorem sequenceBacked_iff_mentionsSerial (dataType : String) :
    (Sql.mentionsSerial dataType = true ↔
      ∃ before word after, dataType = before ++ word ++ after ∧ word.toUpper = "SERIAL") ∧
    ((Sql.integerForSerial? dataType).isSome = true ↔
      Sql.typeWord dataType ∈ Sql.serialNames) ∧
    ((Sql.mentionsSerial dataType = true ↔ (Sql.integerForSerial? dataType).isSome = true) ↔
      Sql.typeWord dataType ∈ Sql.serialNames ∨ Sql.mentionsSerial dataType = false) ∧
    ∀ (s : DesiredSchema) (d : Dialect) (t : DesiredTable) (f : Field) (c : LiveColumn),
      f.autoIncrement = false → c.autoIncrement = false →
      (∀ default, c.default = some default → drawsFromSequence default = false) →
      (sequenceBacked d f c = true ↔
        Sql.mentionsSerial (f.resolveType d).dataType = true ∨
          Sql.mentionsSerial c.effectiveType = true) ∧
      ((∃ desired live, .default desired live ∈ columnChanges s d t f c) ↔
        defaultForm (f.default.map DefaultValue.text) (desiredBucket s d f) ≠
            defaultForm c.default (liveBucket d c) ∧
          Sql.mentionsSerial (f.resolveType d).dataType = false ∧
          Sql.mentionsSerial c.effectiveType = false) := by
  refine ⟨Sql.mentionsSerial_iff dataType, Sql.isSome_integerForSerial?_iff dataType,
    Sql.mentionsSerial_agrees_iff dataType, ?_⟩
  intro s d t f c hfield hlive hdraws
  have hbacked := sequenceBacked_eq_true_iff (d := d) hfield hlive hdraws
  refine ⟨hbacked, ?_⟩
  have hcompared : sequenceBacked d f c = false ↔
      Sql.mentionsSerial (f.resolveType d).dataType = false ∧
        Sql.mentionsSerial c.effectiveType = false := by
    rw [← Bool.not_eq_true, hbacked, not_or, Bool.not_eq_true, Bool.not_eq_true]
  rw [← hcompared]
  simp [mem_columnChanges_iff, AttributeDiffers]

/-- The number of a device, which a serial type counts up. -/
def deviceNumber : Field :=
  Field.new "Device" "number" "BIGSERIAL"

/-- The mode of a device, of an enum type with the word in its name. -/
def deviceMode : Field :=
  { Field.new "Device" "mode" "serial_mode" with default := some (.literal "idle") }

/-- A table of devices with their modes. -/
def devicesSchema : DesiredSchema where
  tables := [⟨⟨"Device", "devices", none, none, []⟩, [deviceMode]⟩]
  indexes := []
  enums := [⟨"serial_mode", ["idle", "busy"]⟩]

/-- The mode of a device in a database, with another default. -/
def liveMode : LiveColumn :=
  ⟨"mode", "USER-DEFINED", some "serial_mode", true, false, false, some "'busy'::serial_mode", false⟩

/-- The table of devices in a database. -/
def devicesCatalog : LiveSchema where
  tables := [⟨"devices", [liveMode]⟩]
  indexes := []
  enums := [⟨"serial_mode", ["idle", "busy"]⟩]

/-- The default of a number is passed over, as it is that of a serial type, and so is the default
of a mode. -/
theorem sequenceBacked_deviceMode :
    (Sql.integerForSerial? deviceNumber.dataType).isSome = true ∧
      deviceMode.autoIncrement = false ∧ liveMode.autoIncrement = false ∧
      (∀ default, liveMode.default = some default → drawsFromSequence default = false) ∧
      sequenceBacked .postgres deviceMode liveMode = true := by
  have hdraws : ∀ default, liveMode.default = some default → drawsFromSequence default = false := by
    rintro default ⟨⟩
    decide +kernel
  obtain ⟨_, hserial, _⟩ := sequenceBacked_iff_mentionsSerial deviceNumber.dataType
  obtain ⟨hmentions, _, _, hbacked⟩ := sequenceBacked_iff_mentionsSerial liveMode.effectiveType
  refine ⟨hserial.mpr (by decide +kernel), rfl, rfl, hdraws, ?_⟩
  have hword : Sql.mentionsSerial liveMode.effectiveType = true :=
    hmentions.mpr ⟨"", "serial", "_mode", by decide +kernel, by decide +kernel⟩
  exact (hbacked devicesSchema .postgres ⟨⟨"Device", "devices", none, none, []⟩, [deviceMode]⟩
    deviceMode liveMode rfl rfl hdraws).1.mpr (.inr hword)

/-- An enum type with the word in its name is no serial type but speaks of a serial, and the
change of a default of this type is not reported. -/
theorem not_agrees_serialMode :
    Sql.mentionsSerial "serial_mode" = true ∧ Sql.integerForSerial? "serial_mode" = none ∧
      defaultForm (some "idle") "serial_mode" ≠
        defaultForm (some "'busy'::serial_mode") "serial_mode" ∧
      (compare devicesSchema devicesCatalog .postgres).hasChanges = false := by
  decide +kernel

end Drift

end SchemaDdl
