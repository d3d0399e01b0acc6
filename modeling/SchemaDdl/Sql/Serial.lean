/-
# Serial types

A serial type is an integer type whose values the database counts up on its own.
There are three widths of integers, and each has its names as a plain integer and as
a serial type.
-/
import SchemaDdl.Text.Blank
import SchemaDdl.Text.Cut

namespace SchemaDdl.Sql

/-! ## Widths -/

/-- The widths of integers that have a serial type. -/
inductive IntegerWidth where
  | small
  | regular
  | big
  deriving DecidableEq, Repr

/-- A type name without blanks around it and in upper case. -/
def typeWord (dataType : String) : String :=
  (Text.trim dataType).toUpper

/-- The width of a plain integer type. -/
def integerWidth? (dataType : String) : Option IntegerWidth :=
  match typeWord dataType with
  | "INT" => some .regular
  | "INTEGER" => some .regular
  | "INT4" => some .regular
  | "BIGINT" => some .big
  | "INT8" => some .big
  | "SMALLINT" => some .small
  | "INT2" => some .small
  | _ => none

/-- The width of a serial type. -/
def serialWidth? (dataType : String) : Option IntegerWidth :=
  match typeWord dataType with
  | "SERIAL" => some .regular
  | "SERIAL4" => some .regular
  | "BIGSERIAL" => some .big
  | "SERIAL8" => some .big
  | "SMALLSERIAL" => some .small
  | "SERIAL2" => some .small
  | _ => none

/-! ## Names by width -/

/-- The serial type of a width. -/
def IntegerWidth.serialName : IntegerWidth → String
  | .small => "SMALLSERIAL"
  | .regular => "SERIAL"
  | .big => "BIGSERIAL"

/-- The plain integer type of a width by its long name. -/
def IntegerWidth.integerName : IntegerWidth → String
  | .small => "SMALLINT"
  | .regular => "INTEGER"
  | .big => "BIGINT"

/-- The plain integer type of a width by the name that MySQL stores. -/
def IntegerWidth.mysqlName : IntegerWidth → String
  | .small => "SMALLINT"
  | .regular => "INT"
  | .big => "BIGINT"

/-! ## From one type to the other -/

/-- The serial type that counts up a plain integer type. -/
def serialType? (dataType : String) : Option String :=
  (integerWidth? dataType).map IntegerWidth.serialName

/-- The plain integer type behind a serial type, as PostgreSQL names it. -/
def serialBase? (dataType : String) : Option String :=
  (serialWidth? dataType).map IntegerWidth.integerName

/-- The plain integer type that the MySQL family stores a serial type as. -/
def integerForSerial? (dataType : String) : Option String :=
  (serialWidth? dataType).map IntegerWidth.mysqlName

/-- Whether the name of a type speaks of a serial. -/
def mentionsSerial (dataType : String) : Bool :=
  Text.contains (typeWord dataType) "SERIAL"

end SchemaDdl.Sql
