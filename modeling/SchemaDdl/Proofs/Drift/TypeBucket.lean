/-
# Buckets of written types

The types that a renderer puts in place of others fall into known buckets:

* `typeBucket_of_mem_integerWords` : all integer and serial types are in one bucket;
* `typeBucket_enumList` : a written out enum type is in the bucket of enum types.
-/
import SchemaDdl.Drift.TypeBucket
import SchemaDdl.Proofs.Text.Case
import SchemaDdl.Proofs.Text.Ending

namespace SchemaDdl

/-- The characters of a type name without blanks around it and in upper case. -/
theorem Sql.toList_typeWord (dataType : String) :
    (Sql.typeWord dataType).toList = (Text.trimmed dataType.toList).map Char.toUpper := by
  rw [Sql.typeWord, Text.toList_toUpper, Text.toList_trim]

/-- A type name that is in upper case and has no blanks around it is its own word. -/
theorem Sql.typeWord_eq_self {word : String}
    (h : (Text.trimmed word.toList).map Char.toUpper = word.toList) : Sql.typeWord word = word :=
  String.toList_inj.mp ((Sql.toList_typeWord word).trans h)

/-- The names of integers of some width are their own words. -/
theorem Sql.typeWord_name (width : Sql.IntegerWidth) :
    Sql.typeWord width.serialName = width.serialName ∧
      Sql.typeWord width.integerName = width.integerName ∧
      Sql.typeWord width.mysqlName = width.mysqlName := by
  cases width <;>
    exact ⟨typeWord_eq_self (by decide), typeWord_eq_self (by decide), typeWord_eq_self (by decide)⟩

namespace Drift

/-! ## Integer and serial types -/

/-- A type whose word is an integer word is in the bucket of integers. -/
theorem typeBucket_of_mem_integerWords {dataType : String}
    (h : Sql.typeWord dataType ∈ integerWords) (d : Dialect) :
    typeBucket d dataType = "integer" := by
  have hrule : ∀ word ∈ integerWords, typeRules.find? (·.applies d word) =
      some ⟨.word integerWords, "integer", false⟩ := by
    cases d <;> decide
  rw [typeBucket, hrule _ h]

/-- Plain integer types are integers. -/
theorem typeBucket_of_integerWidth? {dataType : String} {width : Sql.IntegerWidth}
    (h : Sql.integerWidth? dataType = some width) (d : Dialect) :
    typeBucket d dataType = "integer" := by
  apply typeBucket_of_mem_integerWords
  unfold Sql.integerWidth? at h
  split at h <;> simp_all [integerWords]

/-- Serial types are integers. -/
theorem typeBucket_of_serialWidth? {dataType : String} {width : Sql.IntegerWidth}
    (h : Sql.serialWidth? dataType = some width) (d : Dialect) :
    typeBucket d dataType = "integer" := by
  apply typeBucket_of_mem_integerWords
  unfold Sql.serialWidth? at h
  split at h <;> simp_all [integerWords]

/-- The names of integers of some width are integer words. -/
theorem typeWord_name_mem_integerWords (width : Sql.IntegerWidth) :
    Sql.typeWord width.serialName ∈ integerWords ∧
      Sql.typeWord width.integerName ∈ integerWords ∧
      Sql.typeWord width.mysqlName ∈ integerWords := by
  obtain ⟨hserial, hinteger, hmysql⟩ := Sql.typeWord_name width
  rw [hserial, hinteger, hmysql]
  cases width <;> decide

/-- The serial type that counts up a type is in the bucket of that type. -/
@[simp]
theorem typeBucket_getD_serialType? (d : Dialect) (dataType : String) :
    typeBucket d ((Sql.serialType? dataType).getD dataType) = typeBucket d dataType := by
  unfold Sql.serialType?
  cases hwidth : Sql.integerWidth? dataType with
  | none => rfl
  | some width =>
    rw [typeBucket_of_integerWidth? hwidth]
    exact typeBucket_of_mem_integerWords (typeWord_name_mem_integerWords width).1 d

/-- An integer type in place of a serial type is in the bucket of that type. -/
theorem typeBucket_getD_map_serialWidth? {name : Sql.IntegerWidth → String}
    (hname : ∀ width, Sql.typeWord (name width) ∈ integerWords) (d : Dialect)
    (dataType : String) :
    typeBucket d (((Sql.serialWidth? dataType).map name).getD dataType) = typeBucket d dataType := by
  cases hwidth : Sql.serialWidth? dataType with
  | none => rfl
  | some width =>
    rw [typeBucket_of_serialWidth? hwidth]
    exact typeBucket_of_mem_integerWords (hname width) d

/-- The integer type that stores a type is in the bucket of that type. -/
@[simp]
theorem typeBucket_getD_integerForSerial? (d : Dialect) (dataType : String) :
    typeBucket d ((Sql.integerForSerial? dataType).getD dataType) = typeBucket d dataType :=
  typeBucket_getD_map_serialWidth? (fun width => (typeWord_name_mem_integerWords width).2.2) d
    dataType

/-- The integer type behind a type is in the bucket of that type. -/
@[simp]
theorem typeBucket_getD_serialBase? (d : Dialect) (dataType : String) :
    typeBucket d ((Sql.serialBase? dataType).getD dataType) = typeBucket d dataType :=
  typeBucket_getD_map_serialWidth? (fun width => (typeWord_name_mem_integerWords width).2.1) d
    dataType

/-! ## Enum types -/

/-- The word of a written out enum type begins as the type does. -/
theorem toList_typeWord_enumList (values : String) :
    (Sql.typeWord ("ENUM(" ++ values)).toList =
      "ENUM(".toList ++ (Text.dropBlanksRight values.toList).map Char.toUpper := by
  have hstart : Text.dropBlanks ("ENUM(".toList ++ values.toList) =
      "ENUM".toList ++ '(' :: values.toList := rfl
  rw [Sql.toList_typeWord, String.toList_append, Text.trimmed, hstart,
    Text.dropBlanksRight_append_cons (by decide), List.map_append]
  rfl

/-- A written out enum type is in the bucket of enum types. -/
theorem typeBucket_enumList {d : Dialect} (hd : d.isMysqlFamily = true) (values : String) :
    typeBucket d ("ENUM(" ++ values) = enumBucket := by
  have hword := toList_typeWord_enumList values
  have hleading : leadingWord (Sql.typeWord ("ENUM(" ++ values)).toList = "ENUM".toList := by
    rw [hword]
    rfl
  -- Each rule on the start of a type is settled by the start that is known.
  have hvarchar : Text.beginsWith (Sql.typeWord ("ENUM(" ++ values)) "VARCHAR" = false := by
    rw [Text.beginsWith, hword]
    rfl
  have hvarying :
      Text.beginsWith (Sql.typeWord ("ENUM(" ++ values)) "CHARACTER VARYING" = false := by
    rw [Text.beginsWith, hword]
    rfl
  have henum : Text.beginsWith (Sql.typeWord ("ENUM(" ++ values)) "ENUM(" = true := by
    rw [Text.beginsWith, hword]
    rfl
  simp [typeBucket, typeRules, TypeRule.applies, TypePattern.accepts, integerWords, hvarchar,
    hvarying, hleading, henum, hd]

end Drift

end SchemaDdl
