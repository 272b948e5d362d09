import Mathlib.Data.List.DropRight
import RequiemDB.Sql.Conversions

/-!
# Times as texts

A time goes into the database as three texts, a timestamp with its offset and its microseconds,
and comes back through `sscanf`. `gmtime_r` and `requiem_timegm` are parameters; the calendar of
the model is one pair of them.
-/

namespace RequiemDB.Timestamps

section Scanf

/-- What a format of `sscanf` asks for. -/
inductive Directive where
  /-- `%d` -/
  | decimal
  | blank
  | literal (char : Char)
deriving DecidableEq

/-- `%d`: the number and what follows it. -/
def scanDecimal (text : List Char) : Option (Int × List Char) :=
  let read (digits : List Char) (sign : Sign) : Option (Int × List Char) :=
    (leadingDigits digits).map fun value => (sign.apply value, digits.dropWhile Char.isDigit)
  match text.dropWhile isSpace with
  | '-' :: rest => read rest .minus
  | '+' :: rest => read rest .plus
  | rest => read rest .none

/-- `sscanf`: the numbers up to the first directive that fails. -/
def sscanf : List Directive → List Char → List Int
  | [], _ => []
  | .decimal :: format, text =>
      match scanDecimal text with
      | some (number, rest) => number :: sscanf format rest
      | none => []
  | .blank :: format, text => sscanf format (text.dropWhile isSpace)
  | .literal char :: format, next :: rest => if next = char then sscanf format rest else []
  | .literal _ :: _, [] => []

/-- `snprintf` into a buffer: what is written, and the length of the whole text. -/
def snprintf (size : Nat) (text : String) : String × Nat :=
  (String.ofList (text.toList.take (size - 1)), text.length)

end Scanf

section Functions

/-- `idmef_time_t`; the seconds are left without a bound. -/
structure Moment where
  sec : Int
  gmtOffset : Int32
  usec : UInt32
deriving DecidableEq

/-- The fields that `requiemdb_sql_time_from_timestamp` sets. -/
def scanned (time : Tm) : Tm := { time with wday := 0, yday := 0 }

/-- `gmtime_r` and `requiem_timegm`, which are inverse to each other. -/
structure Clock where
  gmtimeR : Int → Option Tm
  requiemTimegm : Tm → Int
  normal : ∀ {sec : Int} {time : Tm}, gmtimeR sec = some time → time.Normal
  /-- `tm_year` is an `int`. -/
  year : ∀ {sec : Int} {time : Tm}, gmtimeR sec = some time →
    -2 ^ 31 ≤ time.year ∧ time.year < 2 ^ 31
  requiemTimegm_gmtimeR : ∀ {sec : Int} {time : Tm}, gmtimeR sec = some time →
    requiemTimegm (scanned time) = sec

/-- The buffers of a time. -/
structure TimeBuffers where
  time : String
  gmtoff : Option String
  usec : Option String
deriving DecidableEq

variable (clock : Clock)

/-- `requiemdb_sql_time_to_timestamp`; a buffer that the caller does not pass has no size. -/
def requiemdbSqlTimeToTimestamp (time : Option Moment) (timeBufSize : Nat)
    (gmtoffBufSize usecBufSize : Option Nat) : Except ErrorCode TimeBuffers :=
  match time with
  | none => .ok ⟨(snprintf timeBufSize "NULL").1,
      gmtoffBufSize.map fun size => (snprintf size "NULL").1,
      usecBufSize.map fun size => (snprintf size "NULL").1⟩
  | some time =>
      match clock.gmtimeR time.sec with
      | none => .error criterionError
      | some utc =>
          let (timeBuf, ret) := snprintf timeBufSize (buildTimestampString utc)
          if ret ≥ timeBufSize then .error ⟨-1, minusOne_negative⟩
          else .ok ⟨timeBuf,
            gmtoffBufSize.map fun size => (snprintf size (toString time.gmtOffset.toInt)).1,
            -- `%d` on an unsigned number
            usecBufSize.map fun size => (snprintf size (toString time.usec.toInt32.toInt)).1⟩

/-- `"%d-%d-%d %d:%d:%d"` -/
def timestampFormat : List Directive :=
  [.decimal, .literal '-', .decimal, .literal '-', .decimal, .blank, .decimal, .literal ':',
    .decimal, .literal ':', .decimal]

/-- `requiemdb_sql_time_from_timestamp` -/
def requiemdbSqlTimeFromTimestamp (timeBuf : String) (gmtoff : Int32) (usec : UInt32) :
    Except ErrorCode Moment :=
  match (sscanf timestampFormat timeBuf.toList).map Int32.ofInt with
  | [year, mon, mday, hour, min, sec] =>
      let tm : Tm := {
        sec := sec.toInt
        min := min.toInt
        hour := hour.toInt
        mday := mday.toInt
        mon := (mon - 1).toInt
        year := (year - 1900).toInt
        wday := 0
        yday := 0 }
      .ok { sec := clock.requiemTimegm tm, gmtOffset := gmtoff, usec }
  | _ => .error criterionError

end Functions

section Numbers

/-- What stands in front of a number's digits does not reach into them. -/
def EndsNumeral (rest : List Char) : Prop := ∀ next, rest.head? = some next → ¬ next.isDigit

theorem dropWhile_eq {digits rest : List Char} {value : Nat}
    (leading : LeadingDigits digits value rest) : digits.dropWhile Char.isDigit = rest := by
  rcases leading.split with ⟨front, -, all, rfl, -⟩
  rw [List.dropWhile_append_of_pos all]
  cases rest with
  | nil => rfl
  | cons next rest => exact List.dropWhile_cons_of_neg (leading.ends next rfl)

theorem scanDecimal_signed (sign : Sign) {digits rest : List Char} {value : Nat}
    (leading : LeadingDigits digits value rest) :
    scanDecimal (sign.chars ++ digits) = some (sign.apply value, rest) := by
  have value_eq := leadingDigits_eq_some_iff.mpr ⟨rest, leading⟩
  have rest_eq := dropWhile_eq leading
  rcases leading.exists_cons with ⟨digit, others, rfl, isDigit⟩
  rcases not_isSpace_of_isDigit isDigit with ⟨notSpace, notMinus, notPlus⟩
  cases sign with
  | none => simp [scanDecimal, Sign.chars, notSpace, notMinus, notPlus, value_eq, rest_eq]
  | plus =>
      have notSpace : isSpace '+' = false := by decide
      simp [scanDecimal, Sign.chars, notSpace, value_eq, rest_eq]
  | minus =>
      have notSpace : isSpace '-' = false := by decide
      simp [scanDecimal, Sign.chars, notSpace, value_eq, rest_eq]

theorem leadingDigits_append {digits rest : List Char} (notEmpty : digits ≠ [])
    (all : ∀ digit ∈ digits, digit.isDigit) (ends : EndsNumeral rest) :
    LeadingDigits (digits ++ rest) (Nat.ofDigitChars 10 digits 0) rest :=
  ⟨⟨digits, notEmpty, all, rfl, rfl⟩, ends⟩

theorem scanDecimal_int (number : Int) {rest : List Char} (ends : EndsNumeral rest) :
    scanDecimal ((toString number).toList ++ rest) = some (number, rest) := by
  have digits : ∀ value : Nat, LeadingDigits (Nat.toDigits 10 value ++ rest) value rest := by
    intro value
    have all : ∀ digit ∈ Nat.toDigits 10 value, digit.isDigit := fun digit present =>
      Nat.isDigit_of_mem_toDigits (by decide) (by decide) present
    have leading := leadingDigits_append Nat.toDigits_ne_nil all ends
    rwa [Nat.ofDigitChars_ten_toDigits] at leading
  cases number with
  | ofNat value =>
      have text : (toString (Int.ofNat value)).toList = Nat.toDigits 10 value := by
        simp [toString, Int.repr, Nat.toList_repr]
      rw [text]
      exact scanDecimal_signed .none (digits value)
  | negSucc value =>
      have text : (toString (Int.negSucc value)).toList = '-' :: Nat.toDigits 10 (value + 1) := by
        simp [toString, Int.repr, Nat.toList_repr]
      rw [text]
      exact scanDecimal_signed .minus (digits (value + 1))

theorem scanDecimal_padded {number : Int} (nonneg : 0 ≤ number) {rest : List Char}
    (ends : EndsNumeral rest) :
    scanDecimal ((padded 2 number).toList ++ rest) = some (number, rest) := by
  lift number to ℕ using nonneg
  have notEmpty : (padded 2 number).toList ≠ [] := by
    rw [toList_padded]
    simp [Nat.toDigits_ne_nil]
  have value : Nat.ofDigitChars 10 (padded 2 number).toList 0 = number := by
    rw [toList_padded, Nat.ofDigitChars_append, Nat.ofDigitChars_replicate_zero, Nat.mul_zero,
      Nat.ofDigitChars_ten_toDigits]
  have all : ∀ digit ∈ (padded 2 number).toList, digit.isDigit := fun digit present =>
    isDigit_of_mem_padded present
  have leading := leadingDigits_append notEmpty all ends
  rw [value] at leading
  have scanned := scanDecimal_signed .none leading
  rwa [Sign.chars, List.nil_append, Sign.apply] at scanned

variable {format : List Directive} {text rest : List Char}

theorem sscanf_decimal {number : Int} (scanned : scanDecimal text = some (number, rest)) :
    sscanf (.decimal :: format) text = number :: sscanf format rest := by
  rw [sscanf, scanned]

theorem sscanf_literal (char : Char) :
    sscanf (.literal char :: format) (char :: rest) = sscanf format rest := by
  rw [sscanf, if_pos rfl]

/-- The conversion behind a blank skips white space as well. -/
theorem sscanf_blank : sscanf (.blank :: .decimal :: format) (' ' :: rest) =
    sscanf (.decimal :: format) rest := by
  have skipped : (' ' :: rest).dropWhile isSpace = rest.dropWhile isSpace :=
    List.dropWhile_cons_of_pos (by decide)
  have scanned : scanDecimal (rest.dropWhile isSpace) = scanDecimal rest := by
    simp only [scanDecimal, List.dropWhile_idempotent]
  simp only [sscanf, skipped, scanned]

/-- The text of a number has a sign beside its digits. -/
theorem length_toString_int {digits : Nat} (positive : 0 < digits) {number : Int}
    (small : number.natAbs < 10 ^ digits) : (toString number).length ≤ digits + 1 := by
  have short : ∀ value : Nat, value < 10 ^ digits → value.repr.length ≤ digits :=
    fun value below => (Nat.length_repr_le_iff positive).mpr below
  cases number with
  | ofNat value =>
      have length := short value small
      have text : toString (Int.ofNat value) = value.repr := rfl
      rw [text]
      omega
  | negSucc value =>
      have length := short (value + 1) small
      have text : toString (Int.negSucc value) = "-" ++ (value + 1).repr := rfl
      have sign : "-".length = 1 := rfl
      rw [text, String.length_append, sign]
      omega

end Numbers

section Texts

/-- A timestamp without its quotes. -/
def timestampChars (time : Tm) : List Char :=
  (toString (time.year + 1900)).toList ++ '-' :: ((padded 2 (time.mon + 1)).toList ++
    '-' :: ((padded 2 time.mday).toList ++ ' ' :: ((padded 2 time.hour).toList ++
      ':' :: ((padded 2 time.min).toList ++ ':' :: (padded 2 time.sec).toList))))

theorem toList_buildTimestampString (time : Tm) :
    (buildTimestampString time).toList = '\'' :: (timestampChars time ++ ['\'']) := by
  delta buildTimestampString
  simp [timestampChars, toString]

/-- What a server returns of a timestamp. -/
def unquoted (text : String) : String := String.ofList text.toList.tail.dropLast

theorem toList_unquoted (time : Tm) :
    (unquoted (buildTimestampString time)).toList = timestampChars time := by
  rw [unquoted, String.toList_ofList, toList_buildTimestampString, List.tail_cons,
    List.dropLast_concat]

variable {time : Tm} (normal : time.Normal)
include normal

/-- The format finds the numbers that the writer put into the text. -/
theorem sscanf_timestampChars : sscanf timestampFormat (timestampChars time) =
    [time.year + 1900, time.mon + 1, time.mday, time.hour, time.min, time.sec] := by
  have dash : ∀ rest, EndsNumeral ('-' :: rest) := by simp [EndsNumeral]
  have blank : ∀ rest, EndsNumeral (' ' :: rest) := by simp [EndsNumeral]
  have colon : ∀ rest, EndsNumeral (':' :: rest) := by simp [EndsNumeral]
  have mon : 0 ≤ time.mon + 1 := by have := normal.mon; omega
  have mday : 0 ≤ time.mday := by have := normal.mday; omega
  have sec := scanDecimal_padded normal.sec.1 (show EndsNumeral [] by simp [EndsNumeral])
  rw [List.append_nil] at sec
  rw [timestampFormat, timestampChars]
  rw [sscanf_decimal (scanDecimal_int _ (dash _)), sscanf_literal]
  rw [sscanf_decimal (scanDecimal_padded mon (dash _)), sscanf_literal]
  rw [sscanf_decimal (scanDecimal_padded mday (blank _)), sscanf_blank]
  rw [sscanf_decimal (scanDecimal_padded normal.hour.1 (colon _)), sscanf_literal]
  rw [sscanf_decimal (scanDecimal_padded normal.min.1 (colon _)), sscanf_literal]
  rw [sscanf_decimal sec, sscanf]

theorem length_buildTimestampString (year : -2 ^ 31 ≤ time.year ∧ time.year < 2 ^ 31) :
    (buildTimestampString time).length ≤ 28 := by
  have two : ∀ number : Int, 0 ≤ number → number < 100 → (padded 2 number).toList.length = 2 := by
    intro number nonneg below
    lift number to ℕ using nonneg
    exact length_padded (by omega) (by decide)
  have mon := two (time.mon + 1) (by have := normal.mon; omega) (by have := normal.mon; omega)
  have mday := two time.mday (by have := normal.mday; omega) (by have := normal.mday; omega)
  have hour := two time.hour normal.hour.1 (by have := normal.hour; omega)
  have min := two time.min normal.min.1 (by have := normal.min; omega)
  have sec := two time.sec normal.sec.1 (by have := normal.sec; omega)
  have year : (toString (time.year + 1900)).toList.length ≤ 11 :=
    length_toString_int (show 0 < 10 by decide) (by omega)
  rw [← String.length_toList, toList_buildTimestampString]
  simp only [timestampChars, List.length_cons, List.length_append, mon, mday, hour, min, sec,
    List.length_nil]
  omega

end Texts

section RoundTrip

/-- What the callers pass. -/
def timeBufSize : Nat := 128

def numberBufSize : Nat := 16

/--
The buffers hold the whole texts, and the reader makes the time of them, with the numbers of
the two smaller ones.
-/
def RoundTrips (clock : Clock) (time : Moment) : Prop :=
  ∃ (utc : Tm) (gmtoff : Int32) (usec : UInt32),
    let gmtoffText := toString time.gmtOffset.toInt
    let usecText := toString time.usec.toInt32.toInt
    clock.gmtimeR time.sec = some utc ∧
      requiemdbSqlTimeToTimestamp clock (some time) timeBufSize (some numberBufSize)
        (some numberBufSize) = .ok ⟨buildTimestampString utc, some gmtoffText, some usecText⟩ ∧
      requiemdbSqlFieldToInt32 (.text gmtoffText) = .ok (some gmtoff) ∧
      requiemdbSqlFieldToUint32 (.text usecText) = .ok (some usec) ∧
      requiemdbSqlTimeFromTimestamp clock (unquoted (buildTimestampString utc)) gmtoff usec =
        .ok time

theorem snprintf_of_length_lt {size : Nat} {text : String} (fits : text.length < size) :
    snprintf size text = (text, text.length) := by
  rw [snprintf, List.take_of_length_le (by rw [String.length_toList]; omega), String.ofList_toList]

theorem length_toString_int32 (number : Int32) :
    (toString number.toInt).length < numberBufSize := by
  have small : number.toInt.natAbs < 10 ^ 10 := by
    have above := number.le_toInt
    have below := number.toInt_lt
    omega
  exact Nat.lt_of_le_of_lt (length_toString_int (by decide) small) (by decide)

theorem fieldTo_text {α : Type} (convert : Int → α) (number : Int) :
    fieldTo (.text (toString number)) convert = .ok (some (convert number)) := by
  rw [fieldTo, Cell.value, fieldToNumber, scanNumber_toString]
  rfl

variable {clock : Clock}

/-- The reader shifts the year and the month back to what the writer shifted. -/
theorem requiemdbSqlTimeFromTimestamp_unquoted {sec : Int} {utc : Tm}
    (converted : clock.gmtimeR sec = some utc) (gmtoff : Int32) (usec : UInt32) :
    requiemdbSqlTimeFromTimestamp clock (unquoted (buildTimestampString utc)) gmtoff usec =
      .ok ⟨sec, gmtoff, usec⟩ := by
  have normal := clock.normal converted
  have inInt : ∀ number : Int, -2 ^ 31 ≤ number → number < 2 ^ 31 →
      (Int32.ofInt number).toInt = number := by
    intro number above below
    rw [Int32.toInt_ofInt, Int.bmod_eq_of_le] <;> simp only [Int32.size] <;> omega
  have year : (Int32.ofInt (utc.year + 1900) - 1900).toInt = utc.year := by
    rw [Int32.ofInt_add, show (1900 : Int32) = Int32.ofInt 1900 from rfl, Int32.add_sub_cancel]
    exact inInt utc.year (clock.year converted).1 (clock.year converted).2
  have mon : (Int32.ofInt (utc.mon + 1) - 1).toInt = utc.mon := by
    rw [Int32.ofInt_add, show (1 : Int32) = Int32.ofInt 1 from rfl, Int32.add_sub_cancel]
    have bounds := normal.mon
    exact inInt utc.mon (by omega) (by omega)
  have mday := inInt utc.mday (by have := normal.mday; omega) (by have := normal.mday; omega)
  have hour := inInt utc.hour (by have := normal.hour; omega) (by have := normal.hour; omega)
  have min := inInt utc.min (by have := normal.min; omega) (by have := normal.min; omega)
  have second := inInt utc.sec (by have := normal.sec; omega) (by have := normal.sec; omega)
  have inverse := clock.requiemTimegm_gmtimeR converted
  simp only [requiemdbSqlTimeFromTimestamp, toList_unquoted, sscanf_timestampChars normal,
    List.map_cons, List.map_nil, year, mon, mday, hour, min, second]
  rw [scanned] at inverse
  rw [inverse]

theorem timestamp_roundTrips (clock : Clock) (time : Moment)
    (accepted : (clock.gmtimeR time.sec).isSome) : RoundTrips clock time := by
  rcases Option.isSome_iff_exists.mp accepted with ⟨utc, converted⟩
  have length := length_buildTimestampString (clock.normal converted) (clock.year converted)
  have fits : (buildTimestampString utc).length < timeBufSize :=
    Nat.lt_of_le_of_lt length (by decide)
  refine ⟨utc, time.gmtOffset, time.usec, converted, ?_, ?_, ?_, ?_⟩
  · simp only [requiemdbSqlTimeToTimestamp, converted, snprintf_of_length_lt fits, ge_iff_le,
      Nat.not_le.mpr fits, if_false, Option.map_some,
      snprintf_of_length_lt (length_toString_int32 _)]
  · rw [requiemdbSqlFieldToInt32, fieldTo_text, Int32.ofInt_toInt]
  · rw [requiemdbSqlFieldToUint32, fieldTo_text, uint32_ofInt_toInt32]
  · exact requiemdbSqlTimeFromTimestamp_unquoted converted time.gmtOffset time.usec

/-- The calendar of the model, for the years that an `int` holds. -/
def gregorian : Clock where
  gmtimeR sec :=
    if -2 ^ 31 ≤ (gmtime sec).year ∧ (gmtime sec).year < 2 ^ 31 then some (gmtime sec) else none
  requiemTimegm := timegm
  normal {sec time} converted := by
    rw [Option.ite_none_right_eq_some] at converted
    exact Option.some.inj converted.2 ▸ normal_gmtime sec
  year {sec time} converted := by
    rw [Option.ite_none_right_eq_some] at converted
    exact Option.some.inj converted.2 ▸ converted.1
  requiemTimegm_gmtimeR {sec time} converted := by
    rw [Option.ite_none_right_eq_some] at converted
    exact Option.some.inj converted.2 ▸ timegm_gmtime sec

/-- A time before the year 0, with more microseconds than an `int` holds. -/
theorem timestamp_roundTrips_ancient : RoundTrips gregorian ⟨-99999999999, -43200, 4000000000⟩ :=
  timestamp_roundTrips gregorian ⟨-99999999999, -43200, 4000000000⟩ (by decide)

theorem gmtimeR_gregorian (sec : UInt32) :
    gregorian.gmtimeR sec.toNat = some (gmtime sec.toNat) := by
  have below : sec.toNat < 4294967296 := sec.toNat_lt
  have day := dayOfMarchYear_bounds ((sec.toNat : Int) / 86400)
  have year : -2 ^ 31 ≤ (gmtime sec.toNat).year ∧ (gmtime sec.toNat).year < 2 ^ 31 := by
    simp only [gmtime]
    rw [daysToMarch] at day
    split <;> omega
  exact if_pos year

def moment (time : Time) : Moment := ⟨time.sec.toNat, time.gmtOffset, time.usec⟩

/-- The text of a timestamp cell is read as the cell itself. -/
theorem requiemdbSqlTimeFromTimestamp_cell (sec : UInt32) (gmtoff : Int32) (usec : UInt32) :
    requiemdbSqlTimeFromTimestamp gregorian (Cell.timestamp sec).value gmtoff usec =
      (RequiemDB.requiemdbSqlTimeFromTimestamp (.timestamp sec) gmtoff usec).map moment :=
  requiemdbSqlTimeFromTimestamp_unquoted (gmtimeR_gregorian sec) gmtoff usec

end RoundTrip

end RequiemDB.Timestamps
