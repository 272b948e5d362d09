import RequiemDB.Classic.Answered
import RequiemDB.Classic.Reading
import RequiemDB.Sql.Timestamps

/-!
# Integers through the database

The integer attributes of a message on their way through a buffer of `classic-insert.c`, a
column and a conversion of `classic-get.c`, each with the type, the size and the conversion
that the source has for it.
-/

namespace RequiemDB

open Timestamps

/-- What a `get_optional_*` function writes and a `get_*` function reads. -/
inductive IntegerAttribute where
  | vlanNum | userNumber | pid
  | messageProcessingModel | securityModel | securityLevel
  | ipVersion | port | ianaProtocolNumber
  | dataSize | diskSize
  | inodeNumber | majorDevice | minorDevice | cMajorDevice | cMinorDevice
  | overflowSize | heartbeatInterval
deriving DecidableEq

namespace IntegerAttribute

/-- The type of the attribute, which the writer is named by. -/
def type : IntegerAttribute → IntegerConversion
  | .vlanNum => .int32
  | .ipVersion | .ianaProtocolNumber => .uint8
  | .port => .uint16
  | .dataSize | .diskSize => .uint64
  | .userNumber | .pid | .messageProcessingModel | .securityModel | .securityLevel
  | .inodeNumber | .majorDevice | .minorDevice | .cMajorDevice | .cMinorDevice
  | .overflowSize | .heartbeatInterval => .uint32

/-- The size of the writer's buffer. -/
def bufferSize : IntegerAttribute → Nat
  | .ipVersion | .port | .ianaProtocolNumber => 8
  | .messageProcessingModel | .securityModel | .securityLevel => 12
  | .dataSize | .diskSize => 32
  | .vlanNum | .userNumber | .pid
  | .inodeNumber | .majorDevice | .minorDevice | .cMajorDevice | .cMinorDevice
  | .overflowSize | .heartbeatInterval => 16

/-- The conversion of the reader. -/
def conversion : IntegerAttribute → IntegerConversion
  | .ipVersion | .ianaProtocolNumber => .uint8
  | .port => .uint16
  | .vlanNum | .userNumber | .pid | .messageProcessingModel | .securityModel | .securityLevel
  | .dataSize | .diskSize
  | .inodeNumber | .majorDevice | .minorDevice | .cMajorDevice | .cMinorDevice
  | .overflowSize | .heartbeatInterval => .uint32

end IntegerAttribute

/-- `get_optional_integer` of the source: `strncpy` or `snprintf` into a buffer of the size. -/
def getOptionalInteger (size : Nat) : Option Int → String
  | none => String.ofList ("NULL".toList.take size)
  | some value => (snprintf size (toString value)).1

/-- What a column of numbers holds of a literal. -/
def columnCell (text : String) : Cell :=
  match scanNumber text with
  | .number value => .number value
  | .endOfText | .nothing => .null

namespace IntegerAttribute

/--
`get_` of the source. The pointer to the new attribute, which is zero, is cast to one to the type
of the conversion, so that a shorter conversion leaves the high bytes as they are.
-/
def read (retrieval : Retrieval) (integer : IntegerAttribute) (cell : Cell) :
    Except ErrorCode (Option Int) :=
  match retrieval.fetchField cell with
  | none => .ok none
  | some field => (integer.conversion.stored field).map fun number =>
      some (integer.type.wrap (number.getD 0))

/-- A value of the type of the attribute, or none. -/
def Takes (integer : IntegerAttribute) (value : Option Int) : Prop :=
  ∀ number, value = some number →
    integer.type.range.1 ≤ number ∧ number ≤ integer.type.range.2

/-- The buffer holds the whole text, and the value that is read of it is the one written. -/
def Survives (retrieval : Retrieval) (integer : IntegerAttribute) (value : Option Int) : Prop :=
  let buffer := getOptionalInteger integer.bufferSize value
  buffer = value.elim "NULL" toString ∧ integer.read retrieval (columnCell buffer) = .ok value

section Buffers

variable {integer : IntegerAttribute}

/-- A number of the type has fewer characters than the buffer. -/
theorem length_lt_bufferSize {number : Int} (above : integer.type.range.1 ≤ number)
    (below : number ≤ integer.type.range.2) : (toString number).length < integer.bufferSize := by
  have short : ∀ digits, 0 < digits → digits + 1 < integer.bufferSize →
      number.natAbs < 10 ^ digits → (toString number).length < integer.bufferSize := by
    intro digits positive room small
    exact Nat.lt_of_le_of_lt (length_toString_int positive small) room
  cases integer <;> simp only [type, IntegerConversion.range] at above below
  case ipVersion | ianaProtocolNumber => exact short 3 (by decide) (by decide) (by omega)
  case port => exact short 5 (by decide) (by decide) (by omega)
  case dataSize | diskSize => exact short 20 (by decide) (by decide) (by omega)
  all_goals exact short 10 (by decide) (by decide) (by omega)

variable {value : Option Int} (takes : integer.Takes value)
include takes

theorem getOptionalInteger_eq :
    getOptionalInteger integer.bufferSize value = value.elim "NULL" toString := by
  cases value with
  | none => cases integer <;> rfl
  | some number =>
      rcases takes number rfl with ⟨above, below⟩
      rw [getOptionalInteger, snprintf_of_length_lt (length_lt_bufferSize above below)]
      rfl

/-- The literal in the buffer is the cell that the functions of the format insert. -/
theorem columnCell_getOptionalInteger :
    columnCell (getOptionalInteger integer.bufferSize value) = optionalNumber value := by
  rw [getOptionalInteger_eq takes]
  cases value with
  | none => decide
  | some number =>
      rw [Option.elim_some, columnCell, scanNumber_toString]
      rfl

end Buffers

section Conversions

variable (retrieval : Retrieval) {number : Int}

theorem stored_number {conversion : IntegerConversion} (unchecked : ¬ conversion.Checked)
    (number : Int) : conversion.stored (.number number) = .ok (some (conversion.wrap number)) := by
  rw [IntegerConversion.stored_of_not_checked unchecked, Cell.value, fieldToNumber,
    scanNumber_toString]
  rfl

theorem stored_number_of_inRange {conversion : IntegerConversion}
    (above : conversion.range.1 ≤ number) (below : number ≤ conversion.range.2) :
    conversion.stored (.number number) = .ok (some number) :=
  IntegerConversion.stored_of_numeral (scanNumber_eq_number_iff.mp (scanNumber_toString number))
    above below

theorem wrap_uint32 (number : Int) : IntegerConversion.uint32.wrap number = number % 2 ^ 32 :=
  ((uint32_ofInt_eq_iff number _).mp rfl).symm

/-- Where the reader has the type of the writer, the number comes back. -/
theorem read_of_same {integer : IntegerAttribute} (same : integer.conversion = integer.type)
    (above : integer.type.range.1 ≤ number) (below : number ≤ integer.type.range.2) :
    integer.read retrieval (.number number) = .ok (some number) := by
  rw [read, fetchField_number]
  dsimp only
  rw [same, stored_number_of_inRange above below]
  exact congrArg _ (congrArg some (IntegerConversion.wrap_of_inRange above below))

/-- A conversion to 32 bits leaves the low ones of the number. -/
theorem read_of_uint32 {integer : IntegerAttribute} (reader : integer.conversion = .uint32)
    (number : Int) : integer.read retrieval (.number number) =
      .ok (some (integer.type.wrap (number % 2 ^ 32))) := by
  rw [read, fetchField_number]
  dsimp only
  rw [reader, stored_number (by decide), wrap_uint32]
  rfl

theorem read_vlanNum (above : -2 ^ 31 ≤ number) (below : number ≤ 2 ^ 31 - 1) :
    vlanNum.read retrieval (.number number) = .ok (some number) := by
  have bits : vlanNum.type.wrap (number % 2 ^ 32) = number := by
    simp only [type, IntegerConversion.wrap, Int32.toInt_ofInt, Int.bmod, Int32.size]
    omega
  rw [read_of_uint32 retrieval rfl, bits]

theorem read_size {integer : IntegerAttribute} (isSize : integer = .dataSize ∨ integer = .diskSize)
    (number : Int) : integer.read retrieval (.number number) = .ok (some (number % 2 ^ 32)) := by
  have half : IntegerConversion.uint64.wrap (number % 2 ^ 32) = number % 2 ^ 32 := by
    apply IntegerConversion.wrap_of_inRange <;> simp only [IntegerConversion.range] <;> omega
  rcases isSize with rfl | rfl
  · rw [read_of_uint32 retrieval rfl, type, half]
  · rw [read_of_uint32 retrieval rfl, type, half]

/-- An attribute without a size of 64 bits comes back as it is. -/
theorem read_of_notSize {integer : IntegerAttribute}
    (notSize : ¬ (integer = .dataSize ∨ integer = .diskSize))
    (above : integer.type.range.1 ≤ number) (below : number ≤ integer.type.range.2) :
    integer.read retrieval (.number number) = .ok (some number) := by
  cases integer
  case dataSize => exact absurd (.inl rfl) notSize
  case diskSize => exact absurd (.inr rfl) notSize
  case vlanNum => exact read_vlanNum retrieval above below
  all_goals exact read_of_same retrieval rfl above below

/-- What comes back of the sizes of a file in `File.answered`. -/
theorem read_dataSize (value : Option UInt64) :
    dataSize.read retrieval (optionalNumber (value.map (·.toNat))) =
      .ok ((value.map fun size => size.toUInt32.toUInt64).map (·.toNat)) := by
  cases value with
  | none => rfl
  | some size =>
      have low : (size.toUInt32.toUInt64.toNat : Int) = size.toNat % 2 ^ 32 := by
        rw [UInt32.toNat_toUInt64, UInt64.toNat_toUInt32]
        rfl
      rw [Option.map_some, Option.map_some, optionalNumber, Option.elim_some,
        read_size retrieval (.inl rfl), Option.map_some, low]

end Conversions

end IntegerAttribute

end RequiemDB
