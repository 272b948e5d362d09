import RequiemDB.Sql.Field

/-!
# The integer conversions of a field

The eight functions that two macros of `requiemdb-sql.c` define, against the numerals of a
text: white space, a sign and decimal digits, with anything behind them.
-/

namespace RequiemDB

section Grammar

/-- Decimal digits up to something else, and their value. -/
structure LeadingDigits (text : List Char) (value : Nat) (rest : List Char) : Prop where
  split : ∃ digits, digits ≠ [] ∧ (∀ digit ∈ digits, digit.isDigit) ∧ text = digits ++ rest ∧
    value = Nat.ofDigitChars 10 digits 0
  ends : ∀ next, rest.head? = some next → ¬ next.isDigit

inductive Sign where
  | none | plus | minus
deriving DecidableEq

def Sign.chars : Sign → List Char
  | .none => []
  | .plus => ['+']
  | .minus => ['-']

def Sign.apply (value : Nat) : Sign → Int
  | .none | .plus => value
  | .minus => -value

/-- The text starts, behind white space, with a decimal numeral of the number. -/
def StartsWithNumeral (text : String) (number : Int) : Prop :=
  ∃ (blanks : List Char) (sign : Sign) (digits : List Char) (value : Nat) (rest : List Char),
    (∀ blank ∈ blanks, isSpace blank) ∧ text.toList = blanks ++ (sign.chars ++ digits) ∧
      LeadingDigits digits value rest ∧ number = sign.apply value

theorem leadingDigits_eq_some_iff {text : List Char} {value : Nat} :
    leadingDigits text = some value ↔ ∃ rest, LeadingDigits text value rest := by
  constructor
  · intro found
    have notEmpty : text.takeWhile Char.isDigit ≠ [] := by
      intro empty
      simp [leadingDigits, empty] at found
    simp only [leadingDigits, List.isEmpty_iff, notEmpty, if_false, Option.some.injEq] at found
    refine ⟨text.dropWhile Char.isDigit, ⟨text.takeWhile Char.isDigit, notEmpty, ?_, ?_, ?_⟩, ?_⟩
    · exact fun digit present => List.mem_takeWhile_imp present
    · exact List.takeWhile_append_dropWhile.symm
    · exact found.symm
    · intro next head isDigit
      have stops := List.head?_dropWhile_not Char.isDigit text
      rw [head] at stops
      simp [isDigit] at stops
  · rintro ⟨rest, ⟨digits, notEmpty, all, rfl, rfl⟩, ends⟩
    have stops : rest.takeWhile Char.isDigit = [] := by
      cases rest with
      | nil => rfl
      | cons next rest => exact List.takeWhile_cons_of_neg (ends next rfl)
    have whole : (digits ++ rest).takeWhile Char.isDigit = digits := by
      rw [List.takeWhile_append_of_pos all, stops, List.append_nil]
    simp only [leadingDigits, whole, List.isEmpty_iff, notEmpty, if_false]
    rfl

/-- A numeral starts neither with white space nor with a sign of its own. -/
theorem LeadingDigits.exists_cons {text rest : List Char} {value : Nat}
    (leading : LeadingDigits text value rest) :
    ∃ digit others, text = digit :: others ∧ digit.isDigit := by
  rcases leading.split with ⟨digits, notEmpty, all, rfl, -⟩
  cases digits with
  | nil => exact absurd rfl notEmpty
  | cons digit others => exact ⟨digit, others ++ rest, rfl, all digit List.mem_cons_self⟩

/-- The scan of a text finds just the numerals of the grammar. -/
theorem scanNumber_eq_number_iff {text : String} {number : Int} :
    scanNumber text = .number number ↔ StartsWithNumeral text number := by
  constructor
  · intro scanned
    have blanks : ∀ blank ∈ text.toList.takeWhile isSpace, isSpace blank := fun blank present =>
      List.mem_takeWhile_imp present
    have split : text.toList = text.toList.takeWhile isSpace ++ text.toList.dropWhile isSpace :=
      List.takeWhile_append_dropWhile.symm
    have found : ∀ (rest : List Char) (sign : Sign),
        text.toList.dropWhile isSpace = sign.chars ++ rest →
        ((leadingDigits rest).elim .nothing fun value => .number (sign.apply value)) =
          Scanned.number number → StartsWithNumeral text number := by
      intro rest sign shape value
      cases leading : leadingDigits rest with
      | none => simp [leading] at value
      | some digits =>
          rcases leadingDigits_eq_some_iff.mp leading with ⟨behind, digitsOf⟩
          rw [leading, Option.elim_some, Scanned.number.injEq] at value
          exact ⟨_, sign, rest, digits, behind, blanks, by rw [← shape]; exact split, digitsOf,
            value.symm⟩
    rw [scanNumber] at scanned
    split at scanned
    · cases scanned
    · next rest shape => exact found rest .minus shape scanned
    · next rest shape => exact found rest .plus shape scanned
    · next rest notMinus notPlus => exact found _ .none rfl scanned
  · rintro ⟨blanks, sign, digits, value, rest, areBlank, split, leading, rfl⟩
    have value_eq := leadingDigits_eq_some_iff.mpr ⟨rest, leading⟩
    rcases leading.exists_cons with ⟨digit, others, rfl, isDigit⟩
    rcases not_isSpace_of_isDigit isDigit with ⟨notSpace, notMinus, notPlus⟩
    rw [scanNumber, split, List.dropWhile_append_of_pos areBlank]
    cases sign with
    | none => simp [Sign.chars, Sign.apply, notSpace, notMinus, notPlus, value_eq]
    | plus =>
        have notSpace : isSpace '+' = false := by decide
        simp [Sign.chars, Sign.apply, notSpace, value_eq]
    | minus =>
        have notSpace : isSpace '-' = false := by decide
        simp [Sign.chars, Sign.apply, notSpace, value_eq]

theorem scanNumber_eq_endOfText_iff {text : String} :
    scanNumber text = .endOfText ↔ ∀ char ∈ text.toList, isSpace char := by
  have ends : text.toList.dropWhile isSpace = [] ↔ ∀ char ∈ text.toList, isSpace char :=
    List.dropWhile_eq_nil_iff
  rw [← ends, scanNumber]
  split
  · next shape => simp [shape]
  · next rest shape => cases leadingDigits rest <;> simp [shape]
  · next rest shape => cases leadingDigits rest <;> simp [shape]
  · next notEmpty _ _ =>
      refine iff_of_false ?_ notEmpty
      cases leadingDigits (text.toList.dropWhile isSpace) <;> simp

end Grammar

section Conversions

variable (field : Cell)

/--
`requiemdb_sql_field_to_int8` of the source, a macro: the number is read into an `int`, which a
numeral out of its range leaves undefined in C, and which it wraps to here.
-/
def fieldToInt8 {α : Type} (convert : Int → α) (min max : Int) : Except ErrorCode α :=
  match scanNumber field.value with
  | .endOfText | .nothing => .error invalidValue
  | .number value =>
      let tmp := Int32.ofInt value
      if tmp.toInt < min ∨ tmp.toInt > max then .error invalidValue else .ok (convert tmp.toInt)

def requiemdbSqlFieldToInt8 : Except ErrorCode Int8 := fieldToInt8 field Int8.ofInt (-128) 127

def requiemdbSqlFieldToInt16 : Except ErrorCode (Option Int16) := fieldTo field Int16.ofInt

def requiemdbSqlFieldToInt64 : Except ErrorCode (Option Int64) := fieldTo field Int64.ofInt

theorem requiemdbSqlFieldToUint8_eq :
    requiemdbSqlFieldToUint8 field = fieldToInt8 field UInt8.ofInt 0 255 := by
  rw [requiemdbSqlFieldToUint8, fieldToInt8]
  cases scanNumber field.value with
  | endOfText => rfl
  | nothing => rfl
  | number value => simp [Int32.lt_iff_toInt_lt]

theorem map_fieldToInt8 {α : Type} (convert : Int → α) (toInt : α → Int) (min max : Int) :
    ((fieldToInt8 field convert min max).map fun value => some (toInt value)) =
      match scanNumber field.value with
      | .endOfText | .nothing => .error invalidValue
      | .number value =>
          let tmp := (Int32.ofInt value).toInt
          if tmp < min ∨ tmp > max then .error invalidValue
          else .ok (some (toInt (convert tmp))) := by
  rw [fieldToInt8]
  cases scanNumber field.value with
  | endOfText => rfl
  | nothing => rfl
  | number value =>
      dsimp only
      split <;> rfl

/-- The functions `requiemdb_sql_field_to_*` for integers. -/
inductive IntegerConversion where
  | int8 | uint8 | int16 | uint16 | int32 | uint32 | int64 | uint64
deriving DecidableEq

namespace IntegerConversion

/-- The smallest and the largest number of the type. -/
def range : IntegerConversion → Int × Int
  | .int8 => (-128, 127)
  | .uint8 => (0, 255)
  | .int16 => (-2 ^ 15, 2 ^ 15 - 1)
  | .uint16 => (0, 2 ^ 16 - 1)
  | .int32 => (-2 ^ 31, 2 ^ 31 - 1)
  | .uint32 => (0, 2 ^ 32 - 1)
  | .int64 => (-2 ^ 63, 2 ^ 63 - 1)
  | .uint64 => (0, 2 ^ 64 - 1)

/-- The number that a function stores, `none` if it succeeds without storing one. -/
def stored (field : Cell) : IntegerConversion → Except ErrorCode (Option Int)
  | .int8 => (requiemdbSqlFieldToInt8 field).map fun value => some value.toInt
  | .uint8 => (requiemdbSqlFieldToUint8 field).map fun value => some value.toNat
  | .int16 => (requiemdbSqlFieldToInt16 field).map (·.map Int16.toInt)
  | .uint16 => (requiemdbSqlFieldToUint16 field).map (·.map fun value => value.toNat)
  | .int32 => (requiemdbSqlFieldToInt32 field).map (·.map Int32.toInt)
  | .uint32 => (requiemdbSqlFieldToUint32 field).map (·.map fun value => value.toNat)
  | .int64 => (requiemdbSqlFieldToInt64 field).map (·.map Int64.toInt)
  | .uint64 => (requiemdbSqlFieldToUint64 field).map (·.map fun value => value.toNat)

/-- The functions of the macro that looks for a conversion. -/
def Checked : IntegerConversion → Prop
  | .int8 | .uint8 => True
  | _ => False

instance : ∀ conversion : IntegerConversion, Decidable conversion.Checked
  | .int8 | .uint8 => inferInstanceAs (Decidable True)
  | .int16 | .uint16 | .int32 | .uint32 | .int64 | .uint64 => inferInstanceAs (Decidable False)

/--
A success comes of a numeral, and stores its number if that is in range; any other text is an
error.
-/
structure NumbersOnly (conversion : IntegerConversion) (field : Cell) : Prop where
  numeral : ∀ value, conversion.stored field = .ok value →
    ∃ number, StartsWithNumeral field.value number ∧
      (conversion.range.1 ≤ number → number ≤ conversion.range.2 → value = some number)
  error : (¬ ∃ number, StartsWithNumeral field.value number) →
    conversion.stored field = .error invalidValue

/-- A number in the type of the conversion, and back. -/
def wrap : IntegerConversion → Int → Int
  | .int8 => fun number => (Int8.ofInt number).toInt
  | .uint8 => fun number => (UInt8.ofInt number).toNat
  | .int16 => fun number => (Int16.ofInt number).toInt
  | .uint16 => fun number => (UInt16.ofInt number).toNat
  | .int32 => fun number => (Int32.ofInt number).toInt
  | .uint32 => fun number => (UInt32.ofInt number).toNat
  | .int64 => fun number => (Int64.ofInt number).toInt
  | .uint64 => fun number => (UInt64.ofInt number).toNat

variable {conversion : IntegerConversion} {field : Cell} {number : Int}

theorem wrap_of_inRange (above : conversion.range.1 ≤ number)
    (below : number ≤ conversion.range.2) : conversion.wrap number = number := by
  cases conversion <;> simp only [range] at above below
  case int8 => simp only [wrap, Int8.toInt_ofInt, Int.bmod, Int8.size]; omega
  case int16 => simp only [wrap, Int16.toInt_ofInt, Int.bmod, Int16.size]; omega
  case int32 => simp only [wrap, Int32.toInt_ofInt, Int.bmod, Int32.size]; omega
  case int64 => simp only [wrap, Int64.toInt_ofInt, Int.bmod, Int64.size]; omega
  case uint8 => have same := (uint8_ofInt_eq_iff number _).mp rfl; simp only [wrap]; omega
  case uint16 => have same := (uint16_ofInt_eq_iff number _).mp rfl; simp only [wrap]; omega
  case uint32 => have same := (uint32_ofInt_eq_iff number _).mp rfl; simp only [wrap]; omega
  case uint64 => have same := (uint64_ofInt_eq_iff number _).mp rfl; simp only [wrap]; omega

theorem stored_of_not_checked (unchecked : ¬ conversion.Checked) :
    conversion.stored field = (fieldToNumber field.value none).map (·.map conversion.wrap) := by
  cases conversion
  case int8 | uint8 => exact absurd trivial unchecked
  all_goals
    simp only [stored, requiemdbSqlFieldToInt16, requiemdbSqlFieldToUint16,
      requiemdbSqlFieldToInt32, requiemdbSqlFieldToUint32, requiemdbSqlFieldToInt64,
      requiemdbSqlFieldToUint64, fieldTo]
    rcases fieldToNumber field.value none with _ | (_ | _) <;> rfl

theorem stored_of_checked (checked : conversion.Checked) :
    conversion.stored field = match scanNumber field.value with
      | .endOfText | .nothing => .error invalidValue
      | .number value =>
          let tmp := (Int32.ofInt value).toInt
          if tmp < conversion.range.1 ∨ tmp > conversion.range.2 then .error invalidValue
          else .ok (some (conversion.wrap tmp)) := by
  cases conversion
  case int8 => exact map_fieldToInt8 field Int8.ofInt Int8.toInt (-128) 127
  case uint8 =>
    rw [stored, requiemdbSqlFieldToUint8_eq]
    exact map_fieldToInt8 field UInt8.ofInt (fun value => value.toNat) 0 255
  all_goals exact absurd checked not_false

theorem stored_of_numeral (starts : StartsWithNumeral field.value number)
    (above : conversion.range.1 ≤ number) (below : number ≤ conversion.range.2) :
    conversion.stored field = .ok (some number) := by
  have scanned := scanNumber_eq_number_iff.mpr starts
  by_cases checked : conversion.Checked
  · have fits : (Int32.ofInt number).toInt = number := by
      change int32.wrap number = number
      apply wrap_of_inRange
      all_goals
        cases conversion
        case int8 | uint8 => simp only [range] at above below ⊢; omega
        all_goals exact absurd checked not_false
    rw [stored_of_checked checked, scanned]
    simp only [fits, wrap_of_inRange above below]
    exact if_neg (by omega)
  · rw [stored_of_not_checked checked, fieldToNumber, scanned]
    simp [Except.map, wrap_of_inRange above below]

section NoNumeral

variable (noNumeral : ¬ ∃ number, StartsWithNumeral field.value number)
include noNumeral

theorem stored_eq_error (caught : conversion.Checked ∨ ∀ char ∈ field.value.toList, isSpace char) :
    conversion.stored field = .error invalidValue := by
  by_cases checked : conversion.Checked
  · rw [stored_of_checked checked]
    cases scanned : scanNumber field.value with
    | endOfText => rfl
    | nothing => rfl
    | number value => exact absurd ⟨value, scanNumber_eq_number_iff.mp scanned⟩ noNumeral
  · have blank := scanNumber_eq_endOfText_iff.mpr (caught.resolve_left checked)
    rw [stored_of_not_checked checked, fieldToNumber, blank]
    rfl

/-- The functions without the check return 0 and leave the value unset. -/
theorem stored_eq_none (unchecked : ¬ conversion.Checked)
    (notBlank : ¬ ∀ char ∈ field.value.toList, isSpace char) :
    conversion.stored field = .ok none := by
  rw [stored_of_not_checked unchecked, fieldToNumber]
  cases scanned : scanNumber field.value with
  | endOfText => exact absurd (scanNumber_eq_endOfText_iff.mp scanned) notBlank
  | nothing => rfl
  | number value => exact absurd ⟨value, scanNumber_eq_number_iff.mp scanned⟩ noNumeral

end NoNumeral

/-- Six of the functions take a text that is neither blank nor a number. -/
theorem numbersOnly_iff (conversion : IntegerConversion) (field : Cell) :
    conversion.NumbersOnly field ↔ conversion.Checked ∨
      (∀ char ∈ field.value.toList, isSpace char) ∨
        ∃ number, StartsWithNumeral field.value number := by
  rw [← or_assoc]
  constructor
  · intro numbersOnly
    by_contra fails
    rcases not_or.mp fails with ⟨notCaught, noNumeral⟩
    rcases not_or.mp notCaught with ⟨unchecked, notBlank⟩
    have failed := numbersOnly.error noNumeral
    rw [stored_eq_none noNumeral unchecked notBlank] at failed
    cases failed
  · intro condition
    have error : (¬ ∃ number, StartsWithNumeral field.value number) →
        conversion.stored field = .error invalidValue := fun noNumeral =>
      stored_eq_error noNumeral (condition.resolve_right noNumeral)
    refine ⟨?_, error⟩
    intro value succeeded
    by_cases numeral : ∃ number, StartsWithNumeral field.value number
    · rcases numeral with ⟨number, starts⟩
      refine ⟨number, starts, fun above below => ?_⟩
      rw [stored_of_numeral starts above below, Except.ok.injEq] at succeeded
      exact succeeded.symm
    · rw [error numeral] at succeeded
      cases succeeded

/-- `abc` is a success of `requiemdb_sql_field_to_int32` that stores nothing. -/
theorem not_numbersOnly : ¬ int32.NumbersOnly (.text "abc") := by
  intro numbersOnly
  have succeeds : int32.stored (.text "abc") = .ok none := by decide
  rcases numbersOnly.numeral none succeeds with ⟨number, starts, -⟩
  have scanned : scanNumber "abc" = .number number := scanNumber_eq_number_iff.mpr starts
  have none : scanNumber "abc" = .nothing := by decide
  rw [none] at scanned
  cases scanned

end IntegerConversion

end Conversions

end RequiemDB
