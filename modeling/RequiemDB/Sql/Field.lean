import Mathlib.Data.List.TakeWhile
import RequiemDB.Query.Criterion
import RequiemDB.Query.Values
import RequiemDB.Sql.Database

/-!
# The fields of an answered row

What `requiemdb_sql_row_fetch_field` returns of a stored cell depends on the
plugin and its server. A `Retrieval` says in which text a binary cell is returned,
what `requiemdb_sql_unescape_binary` makes of that text, and whether an empty
value is told from NULL. The conversions read the text of a field as `sscanf`
does.
-/

namespace RequiemDB

open Lib

/-- The bytes before the terminator. -/
def cString (bytes : List UInt8) : List UInt8 := bytes.takeWhile (· ≠ 0)

theorem cString_append_nul {text : List UInt8} (noNul : 0 ∉ text) (rest : List UInt8) :
    cString (text ++ 0 :: rest) = text := by
  have all : ∀ byte ∈ text, decide (byte ≠ 0) = true := by
    intro byte present
    rw [decide_eq_true_eq]
    rintro rfl
    exact noNul present
  rw [cString, List.takeWhile_append_of_pos all, List.takeWhile_cons_of_neg (by simp),
    List.append_nil]

theorem cString_eq_self {text : List UInt8} (noNul : 0 ∉ text) : cString text = text := by
  refine List.takeWhile_eq_self_iff.mpr fun byte present => ?_
  rw [decide_eq_true_eq]
  rintro rfl
  exact noNul present

/-- Each byte as one character. -/
def byteText (bytes : List UInt8) : String :=
  String.ofList (bytes.map fun byte => Char.ofNat byte.toNat)

/-- A number of millionths as `%f` writes it. -/
def fixedText (millionths : Int) : String :=
  (if millionths < 0 then "-" else "") ++ (millionths.natAbs / 1000000).repr ++ "." ++
    padded 6 (millionths.natAbs % 1000000 : Nat)

/-- `requiemdb_sql_field_get_value`, up to its terminator. -/
def Cell.value : Cell → String
  | .null => ""
  | .text value => value
  | .number value => toString value
  | .decimal millionths => fixedText millionths
  -- the server returns a timestamp without the quotes of its literal
  | .timestamp sec => String.ofList (buildTimestampString (gmtime sec.toNat)).toList.tail.dropLast
  | .blob bytes => byteText (cString bytes)

/-- `requiemdb_sql_field_get_value` for `requiemdb_sql_field_get_len` bytes. -/
def Cell.bytes : Cell → List UInt8
  | .blob bytes => bytes
  | cell => cell.value.toUTF8.toList

/-- `requiemdb_sql_field_get_len` is zero. -/
def Cell.IsEmpty : Cell → Prop
  | .null => True
  | .text value => value = ""
  | .blob bytes => bytes = []
  | .number _ | .decimal _ | .timestamp _ => False

instance : ∀ cell : Cell, Decidable cell.IsEmpty
  | .null => inferInstanceAs (Decidable True)
  | .text value => inferInstanceAs (Decidable (value = ""))
  | .blob bytes => inferInstanceAs (Decidable (bytes = []))
  | .number _ | .decimal _ | .timestamp _ => inferInstanceAs (Decidable False)

section Bytea

/-- A byte in the escape format of `bytea`. -/
def byteaEscape (byte : UInt8) : List UInt8 :=
  if byte = 92 then [92, 92]
  else if byte < 32 ∨ 126 < byte then [92, 48 + byte / 64, 48 + byte / 8 % 8, 48 + byte % 8]
  else [byte]

/-- `PQunescapeBytea`; a backslash before anything else is left out. -/
def byteaUnescape : List UInt8 → List UInt8
  | 92 :: 92 :: rest => 92 :: byteaUnescape rest
  | 92 :: high :: middle :: low :: rest =>
      if 48 ≤ high ∧ high ≤ 51 ∧ 48 ≤ middle ∧ middle ≤ 55 ∧ 48 ≤ low ∧ low ≤ 55 then
        ((high - 48) * 64 + (middle - 48) * 8 + (low - 48)) :: byteaUnescape rest
      else byteaUnescape (high :: middle :: low :: rest)
  | 92 :: rest => byteaUnescape rest
  | byte :: rest => byte :: byteaUnescape rest
  | [] => []

theorem forall_byte {property : UInt8 → Prop} (all : ∀ number : Fin 256, property (.ofFin number))
    (byte : UInt8) : property byte :=
  all byte.toFin

theorem octal_digits (byte : UInt8) :
    (48 ≤ 48 + byte / 64 ∧ 48 + byte / 64 ≤ 51 ∧ 48 ≤ 48 + byte / 8 % 8 ∧
      48 + byte / 8 % 8 ≤ 55 ∧ 48 ≤ 48 + byte % 8 ∧ 48 + byte % 8 ≤ 55) ∧
    (48 + byte / 64 - 48) * 64 + (48 + byte / 8 % 8 - 48) * 8 + (48 + byte % 8 - 48) = byte ∧
    48 + byte / 64 ≠ 92 := by
  revert byte
  exact forall_byte (by decide +kernel)

theorem byteaUnescape_escape (byte : UInt8) (rest : List UInt8) :
    byteaUnescape (byteaEscape byte ++ rest) = byte :: byteaUnescape rest := by
  rw [byteaEscape]
  split
  · next backslash =>
      subst backslash
      simp [byteaUnescape]
  · next notBackslash =>
      split
      · rcases octal_digits byte with ⟨digits, value, notBackslash⟩
        simp only [List.cons_append, List.nil_append]
        rw [byteaUnescape, if_pos digits, value]
        exact notBackslash
      · rw [List.singleton_append, byteaUnescape]
        all_goals simp [notBackslash]

end Bytea

/-- The side of an SQL plugin and its server that a reader meets. -/
structure Retrieval where
  /-- The text in which a stored binary cell is returned. -/
  textForm : List UInt8 → List UInt8
  unescapeBinary : List UInt8 → List UInt8
  unescapeBinary_textForm : ∀ bytes, unescapeBinary (textForm bytes) = bytes
  /-- `fetch_field` answers an empty value as it answers NULL. -/
  emptyIsNull : Bool

namespace Retrieval

/-- `mysql.c`: a cell is returned as it is. -/
def mysql : Retrieval where
  textForm := id
  unescapeBinary := id
  unescapeBinary_textForm _ := rfl
  emptyIsNull := false

/-- `sqlite3.c`: `sql_resource_field_copy` leaves an empty value without data. -/
def sqlite3 : Retrieval := { mysql with emptyIsNull := true }

/-- `pgsql.c`: a binary cell is returned in the escape format. -/
def pgsql : Retrieval where
  textForm bytes := bytes.flatMap byteaEscape
  unescapeBinary := byteaUnescape
  unescapeBinary_textForm bytes := by
    induction bytes with
    | nil => rfl
    | cons byte bytes ih => rw [List.flatMap_cons, byteaUnescape_escape, ih]
  emptyIsNull := false

variable (retrieval : Retrieval)

/-- A stored cell as the server returns it. -/
def returned : Cell → Cell
  | .blob bytes => .blob (retrieval.textForm bytes)
  | cell => cell

/-- `requiemdb_sql_row_fetch_field`. -/
def fetchField (cell : Cell) : Option Cell :=
  if cell = .null then none
  else if retrieval.emptyIsNull ∧ (retrieval.returned cell).IsEmpty then none
  else some (retrieval.returned cell)

/-- What the calls of a reader answer; a reader leaves the database as it is. -/
def reply (store : Store) : (op : SqlOp) → SqlReply op
  | .fetchField cell => .ok (retrieval.fetchField cell)
  | .unescapeBinary input => .ok (retrieval.unescapeBinary input)
  | op => (store.accept op).1

end Retrieval

section Conversions

variable (field : Cell)

/--
`requiemdb_sql_field_to_{uint16,int32,uint32,uint64}`: only the end of the text is an error,
and a text without a numeral leaves the value unassigned. What C does with a numeral out of range
is undefined: here the number wraps, where glibc takes the bound of 64 bits for one beyond it.
-/
def fieldTo {α : Type} (convert : Int → α) : Except ErrorCode (Option α) :=
  (fieldToNumber field.value none).map fun number => number.map convert

def requiemdbSqlFieldToUint16 : Except ErrorCode (Option UInt16) := fieldTo field UInt16.ofInt

def requiemdbSqlFieldToInt32 : Except ErrorCode (Option Int32) := fieldTo field Int32.ofInt

def requiemdbSqlFieldToUint32 : Except ErrorCode (Option UInt32) := fieldTo field UInt32.ofInt

def requiemdbSqlFieldToUint64 : Except ErrorCode (Option UInt64) := fieldTo field UInt64.ofInt

/-- `requiemdb_sql_field_to_uint8`: the number is read into an `int` and has to be in range. -/
def requiemdbSqlFieldToUint8 : Except ErrorCode UInt8 :=
  match scanNumber field.value with
  | .endOfText | .nothing => .error invalidValue
  | .number value =>
      let tmp := Int32.ofInt value
      if tmp < 0 ∨ tmp > 255 then .error invalidValue else .ok (UInt8.ofInt tmp.toInt)

/-- The value of leading digits with a fraction, in millionths. -/
def leadingFixed (text : List Char) : Option Nat :=
  let whole := text.takeWhile Char.isDigit
  let fraction := match text.dropWhile Char.isDigit with
    | '.' :: rest => rest.takeWhile Char.isDigit
    | _ => []
  if whole.isEmpty && fraction.isEmpty then none
  else some (Nat.ofDigitChars 10 (whole ++ (fraction ++ List.replicate 6 '0').take 6) 0)

/-- `sscanf` with `%f` on a numeral without exponent. -/
def scanFixed (text : String) : Scanned :=
  match text.toList.dropWhile isSpace with
  | [] => .endOfText
  | '-' :: rest => (leadingFixed rest).elim .nothing fun value => .number (-value)
  | '+' :: rest => (leadingFixed rest).elim .nothing fun value => .number value
  | rest => (leadingFixed rest).elim .nothing fun value => .number value

/-- `requiemdb_sql_field_to_float`, in millionths. -/
def requiemdbSqlFieldToFloat : Except ErrorCode (Option Int) :=
  match scanFixed field.value with
  | .endOfText => .error invalidValue
  | .nothing => .ok none
  | .number value => .ok (some value)

/--
`requiemdb_sql_time_from_timestamp` on the timestamp of the field; that this is how its text is
read is `Timestamps.requiemdbSqlTimeFromTimestamp_cell`.
-/
def requiemdbSqlTimeFromTimestamp (gmtoff : Int32) (usec : UInt32) : Except ErrorCode Time :=
  match field with
  | .timestamp sec => .ok ⟨sec, usec, gmtoff⟩
  | _ => .error invalidValue

end Conversions

section Wrap

variable (number : Int)

theorem uint8_ofInt_eq_iff (value : UInt8) :
    UInt8.ofInt number = value ↔ number % 2 ^ 8 = value.toNat := by
  have below : value.toNat < 256 := value.toNat_lt
  have toNat : (UInt8.ofInt number).toNat = (number % 256).toNat := by
    simp [UInt8.ofInt]
    omega
  rw [← UInt8.toNat_inj, toNat]
  omega

theorem uint16_ofInt_eq_iff (value : UInt16) :
    UInt16.ofInt number = value ↔ number % 2 ^ 16 = value.toNat := by
  have below : value.toNat < 65536 := value.toNat_lt
  have toNat : (UInt16.ofInt number).toNat = (number % 65536).toNat := by
    simp [UInt16.ofInt]
    omega
  rw [← UInt16.toNat_inj, toNat]
  omega

theorem uint32_ofInt_eq_iff (value : UInt32) :
    UInt32.ofInt number = value ↔ number % 2 ^ 32 = value.toNat := by
  have below : value.toNat < 4294967296 := value.toNat_lt
  have toNat : (UInt32.ofInt number).toNat = (number % 4294967296).toNat := by
    simp [UInt32.ofInt]
    omega
  rw [← UInt32.toNat_inj, toNat]
  omega

theorem uint64_ofInt_eq_iff (value : UInt64) :
    UInt64.ofInt number = value ↔ number % 2 ^ 64 = value.toNat := by
  have below : value.toNat < 18446744073709551616 := value.toNat_lt
  have toNat : (UInt64.ofInt number).toNat = (number % 18446744073709551616).toNat := by
    simp [UInt64.ofInt]
    omega
  rw [← UInt64.toNat_inj, toNat]
  omega

/-- A number that was written with a sign it does not have is read without it. -/
theorem uint32_ofInt_toInt32 (value : UInt32) : UInt32.ofInt value.toInt32.toInt = value := by
  have signed : value.toInt32.toInt = value.toBitVec.toInt := rfl
  have below : value.toNat < 4294967296 := value.toNat_lt
  refine (uint32_ofInt_eq_iff _ _).mpr ?_
  rw [signed, BitVec.toInt_eq_toNat_bmod, UInt32.toNat_toBitVec, Int.bmod]
  split <;> omega

end Wrap

section Numerals

theorem leadingDigits_of_digits {digits : List Char} (notEmpty : digits ≠ [])
    (all : ∀ digit ∈ digits, digit.isDigit) :
    leadingDigits digits = some (Nat.ofDigitChars 10 digits 0) := by
  have whole : digits.takeWhile Char.isDigit = digits :=
    List.takeWhile_eq_self_iff.mpr all
  simp only [leadingDigits, whole, List.isEmpty_iff, notEmpty, if_false]
  rfl

theorem leadingDigits_toDigits (number : Nat) :
    leadingDigits (Nat.toDigits 10 number) = some number := by
  rw [leadingDigits_of_digits Nat.toDigits_ne_nil fun digit present =>
    Nat.isDigit_of_mem_toDigits (by decide) (by decide) present, Nat.ofDigitChars_ten_toDigits]

theorem not_isSpace_of_isDigit {digit : Char} (isDigit : digit.isDigit) :
    isSpace digit = false ∧ digit ≠ '-' ∧ digit ≠ '+' := by
  have bounds := Char.isDigit_iff_toNat.mp isDigit
  refine ⟨?_, ?_, ?_⟩
  · simp only [isSpace, decide_eq_false_iff_not, List.mem_cons, List.not_mem_nil, or_false]
    rintro (rfl | rfl | rfl | rfl | rfl | rfl) <;> exact absurd isDigit (by decide)
  · rintro rfl; exact absurd isDigit (by decide)
  · rintro rfl; exact absurd isDigit (by decide)

theorem scanNumber_of_digits {digits : List Char} (notEmpty : digits ≠ [])
    (all : ∀ digit ∈ digits, digit.isDigit) :
    scanNumber (String.ofList digits) = .number (Nat.ofDigitChars 10 digits 0) := by
  cases digits with
  | nil => exact absurd rfl notEmpty
  | cons digit rest =>
      rcases not_isSpace_of_isDigit (all digit List.mem_cons_self) with
        ⟨notSpace, notMinus, notPlus⟩
      have value := leadingDigits_of_digits notEmpty all
      simp [scanNumber, notSpace, notMinus, notPlus, value]

theorem scanNumber_repr (number : Nat) : scanNumber number.repr = .number number := by
  rw [Nat.repr_eq_ofList_toDigits, scanNumber_of_digits Nat.toDigits_ne_nil fun digit present =>
    Nat.isDigit_of_mem_toDigits (by decide) (by decide) present, Nat.ofDigitChars_ten_toDigits]

theorem scanNumber_toString (number : Int) : scanNumber (toString number) = .number number := by
  cases number with
  | ofNat number => exact scanNumber_repr number
  | negSucc number =>
      have text : (toString (Int.negSucc number)).toList = '-' :: Nat.toDigits 10 (number + 1) := by
        simp [toString, Int.repr]
      rw [scanNumber, text, List.dropWhile_cons_of_neg (by decide)]
      simp [leadingDigits_toDigits, Int.negSucc_eq]

@[simp]
theorem fieldTo_number {α : Type} (convert : Int → α) (number : Int) :
    fieldTo (.number number) convert = .ok (some (convert number)) := by
  rw [fieldTo, Cell.value, fieldToNumber, scanNumber_toString]
  rfl

theorem toList_pushn (char : Char) (count : Nat) :
    ("".pushn char count).toList = List.replicate count char := by
  rw [String.pushn_eq_repeat_push]
  induction count with
  | zero => rfl
  | succ count ih => simp [Nat.repeat, ih, List.replicate_succ']

theorem toList_padded (precision number : Nat) :
    (padded precision number).toList =
      List.replicate (precision - number.repr.length) '0' ++ Nat.toDigits 10 number := by
  have notNegative : ¬ (number : Int) < 0 := Int.not_lt.mpr (Int.natCast_nonneg number)
  simp [padded, notNegative, toList_pushn, Nat.toList_repr]

theorem isDigit_of_mem_padded {precision number : Nat} {digit : Char}
    (present : digit ∈ (padded precision number).toList) : digit.isDigit := by
  rw [toList_padded, List.mem_append] at present
  rcases present with zero | inDigits
  · rw [List.eq_of_mem_replicate zero]
    decide
  · exact Nat.isDigit_of_mem_toDigits (by decide) (by decide) inDigits

theorem length_padded {precision number : Nat} (below : number < 10 ^ precision)
    (positive : 0 < precision) : (padded precision number).toList.length = precision := by
  have short : number.repr.length ≤ precision := (Nat.length_repr_le_iff positive).mpr below
  have digits : (Nat.toDigits 10 number).length = number.repr.length := by
    rw [← Nat.toList_repr, String.length_toList]
  simp only [toList_padded, List.length_append, List.length_replicate, digits]
  omega

theorem ofDigitChars_padded {number : Nat} (below : number < 10 ^ 6) (start : Nat) :
    Nat.ofDigitChars 10 (padded 6 number).toList start = 1000000 * start + number := by
  have value : Nat.ofDigitChars 10 (padded 6 number).toList 0 = number := by
    rw [toList_padded, Nat.ofDigitChars_append, Nat.ofDigitChars_replicate_zero, Nat.mul_zero,
      Nat.ofDigitChars_ten_toDigits]
  rw [Nat.ofDigitChars_eq_ofDigitChars_zero, value, length_padded below (by decide)]

theorem leadingFixed_fixed (whole : Nat) {fraction : Nat} (below : fraction < 10 ^ 6) :
    leadingFixed (Nat.toDigits 10 whole ++ '.' :: (padded 6 fraction).toList) =
      some (1000000 * whole + fraction) := by
  have digits : ∀ digit ∈ Nat.toDigits 10 whole, digit.isDigit := fun digit present =>
    Nat.isDigit_of_mem_toDigits (by decide) (by decide) present
  have fractionDigits : (padded 6 fraction).toList.takeWhile Char.isDigit =
      (padded 6 fraction).toList :=
    List.takeWhile_eq_self_iff.mpr fun digit present => isDigit_of_mem_padded present
  have six : ((padded 6 fraction).toList ++ List.replicate 6 '0').take 6 =
      (padded 6 fraction).toList := by
    rw [List.take_append_of_le_length (length_padded below (by decide)).ge,
      List.take_of_length_le (length_padded below (by decide)).le]
  have front : (Nat.toDigits 10 whole ++ '.' :: (padded 6 fraction).toList).takeWhile Char.isDigit =
      Nat.toDigits 10 whole := by
    rw [List.takeWhile_append_of_pos digits, List.takeWhile_cons_of_neg (by decide),
      List.append_nil]
  have back : (Nat.toDigits 10 whole ++ '.' :: (padded 6 fraction).toList).dropWhile Char.isDigit =
      '.' :: (padded 6 fraction).toList := by
    rw [List.dropWhile_append_of_pos digits, List.dropWhile_cons_of_neg (by decide)]
  simp only [leadingFixed, front, back, fractionDigits, six, Nat.ofDigitChars_append,
    Nat.ofDigitChars_ten_toDigits, ofDigitChars_padded below]
  simp

/-- A number of millionths is read back from the text that `%f` writes. -/
theorem scanFixed_fixedText (millionths : Int) :
    scanFixed (fixedText millionths) = .number millionths := by
  have below : millionths.natAbs % 1000000 < 10 ^ 6 := Nat.mod_lt _ (by decide)
  have value := leadingFixed_fixed (millionths.natAbs / 1000000) below
  rw [Nat.div_add_mod] at value
  by_cases negative : millionths < 0
  · have text : (fixedText millionths).toList = '-' ::
        (Nat.toDigits 10 (millionths.natAbs / 1000000) ++
          '.' :: (padded 6 (millionths.natAbs % 1000000 : Nat)).toList) := by
      simp [fixedText, negative, Nat.toList_repr]
    rw [scanFixed, text, List.dropWhile_cons_of_neg (by decide)]
    simp only [value, Option.elim_some, Scanned.number.injEq]
    omega
  · have text : (fixedText millionths).toList =
        Nat.toDigits 10 (millionths.natAbs / 1000000) ++
          '.' :: (padded 6 (millionths.natAbs % 1000000 : Nat)).toList := by
      simp [fixedText, negative, Nat.toList_repr]
    rw [scanFixed, text]
    cases shape : Nat.toDigits 10 (millionths.natAbs / 1000000) with
    | nil => exact absurd shape Nat.toDigits_ne_nil
    | cons digit rest =>
        have isDigit : digit.isDigit := Nat.isDigit_of_mem_toDigits (by decide) (by decide)
          (shape ▸ List.mem_cons_self)
        rcases not_isSpace_of_isDigit isDigit with ⟨notSpace, notMinus, notPlus⟩
        rw [shape] at value
        rw [List.cons_append] at value ⊢
        rw [List.dropWhile_cons_of_neg (by simp [notSpace])]
        generalize rest ++ _ = tail at value ⊢
        simp [notMinus, notPlus, value, Int.natAbs_of_nonneg (Int.not_lt.mp negative)]

@[simp]
theorem requiemdbSqlFieldToFloat_decimal (millionths : Int) :
    requiemdbSqlFieldToFloat (.decimal millionths) = .ok (some millionths) := by
  rw [requiemdbSqlFieldToFloat, Cell.value, scanFixed_fixedText]

end Numerals

end RequiemDB
