import RequiemDB.Classic.Get
import RequiemDB.Classic.Rows

/-!
# What a reader answers

`Get.read` is the answer of a reader on a database as it stands. It takes a bind of
readers to a bind of answers, so that a reader is evaluated part by part: a field
from its cell, a list from the rows of its query.
-/

namespace RequiemDB

open Lib

/-- A reader leaves the database as it is. -/
def Retrieval.environment (retrieval : Retrieval) : Environment SqlReply Store := fun op store =>
  (retrieval.reply store op, store)

namespace Get

variable {α β : Type} (retrieval : Retrieval) (store : Store)

/-- The answer of a reader. -/
def read (reader : Get α) : Except ErrorCode α :=
  (Program.run retrieval.environment reader.run store).1

theorem run_environment (program : Sql α) :
    (Program.run retrieval.environment program store).2 = store := by
  induction program with
  | done answer => rfl
  | perform op next ih => exact ih _

@[simp]
theorem read_pure (answer : α) : (pure answer : Get α).read retrieval store = .ok answer := rfl

@[simp]
theorem read_throw (error : ErrorCode) :
    (throw error : Get α).read retrieval store = .error error := rfl

@[simp]
theorem read_convert (result : Except ErrorCode α) :
    (convert result).read retrieval store = result := rfl

@[simp]
theorem read_perform (op : SqlOp) (reply : SqlReply op → Except ErrorCode α) :
    (perform op reply).read retrieval store = reply (retrieval.reply store op) := rfl

@[simp]
theorem read_bind (first : Get α) (rest : α → Get β) :
    (first >>= rest).read retrieval store =
      first.read retrieval store >>= fun answer => (rest answer).read retrieval store := by
  rw [read, ExceptT.run_bind, Program.run_bind, run_environment]
  simp only [read]
  cases (Program.run retrieval.environment first.run store).1 <;> rfl

@[simp]
theorem read_map (f : α → β) (reader : Get α) :
    (f <$> reader).read retrieval store = f <$> reader.read retrieval store := by
  rw [map_eq_pure_bind, read_bind]
  cases reader.read retrieval store <;> rfl

@[simp]
theorem read_tryCatch (reader : Get α) (handler : ErrorCode → Get α) :
    (tryCatch reader handler).read retrieval store =
      match reader.read retrieval store with
      | .error error => (handler error).read retrieval store
      | .ok answer => .ok answer := by
  rw [read, ExceptT.run_tryCatch, Program.run_bind, run_environment]
  simp only [read]
  cases (Program.run retrieval.environment reader.run store).1 <;> rfl

end Get

section Calls

variable {α : Type} (retrieval : Retrieval) (store : Store)

@[simp]
theorem read_requiemdbSqlQuery (columns : List Column) (query : Select) :
    (requiemdbSqlQuery columns query).read retrieval store =
      .ok ((store.select query).map fun row => columns.map row.cell) := rfl

@[simp]
theorem read_requiemdbSqlTableFetchRow (table : Table) (fetched : Nat) :
    (requiemdbSqlTableFetchRow table fetched).read retrieval store = .ok () := rfl

@[simp]
theorem read_requiemdbSqlRowFetchField (row : Fetched) (column : Nat) :
    (requiemdbSqlRowFetchField row column).read retrieval store =
      .ok (retrieval.fetchField (row.getD column .null)) := rfl

@[simp]
theorem read_requiemdbSqlUnescapeBinary (input : List UInt8) :
    (requiemdbSqlUnescapeBinary input).read retrieval store =
      .ok (retrieval.unescapeBinary input) := rfl

@[simp]
theorem ok_bind {β : Type} (answer : α) (rest : α → Except ErrorCode β) :
    (.ok answer >>= rest : Except ErrorCode β) = rest answer := rfl

end Calls

section Loops

variable {α β : Type} (retrieval : Retrieval) {store : Store}

@[simp]
theorem map_ok (f : α → β) (answer : α) :
    f <$> (.ok answer : Except ErrorCode α) = .ok (f answer) :=
  rfl

/-- The rows of a list, each read to an answer under its position. -/
theorem read_fetchRows (table : Table) {body : Int → Fetched → Get β} {cells : Int → α → Fetched}
    {answer : Int → α → β} {elements : List α} {start : Int}
    (reads : ∀ (position : Nat) element, elements[position]? = some element →
      (body (start + position) (cells (start + position) element)).read retrieval store =
        .ok (answer (start + position) element)) :
    (fetchRows table body start
      (each (fun index element => [cells index element]) start elements)).read
        retrieval store =
      .ok (each (fun index element => [answer index element]) start elements) := by
  induction elements generalizing start with
  | nil => simp [fetchRows]
  | cons element elements ih =>
      have here := reads 0 element rfl
      have later : (fetchRows table body (start + 1)
          (each (fun index element => [cells index element]) (start + 1) elements)).read
            retrieval store = _ :=
        ih fun position found atPosition => by
          have next := reads (position + 1) found atPosition
          rwa [Int.natCast_add, Int.add_comm position, ← Int.add_assoc] at next
      simp only [Int.natCast_zero, Int.add_zero] at here
      simp [fetchRows, here, later]

theorem read_getNested {body : Int → α → Get β} {answer : Int → α → β} {elements : List α}
    {start : Int}
    (reads : ∀ (position : Nat) element, elements[position]? = some element →
      (body (start + position) element).read retrieval store =
        .ok (answer (start + position) element)) :
    (getNested body start elements).read retrieval store =
      .ok (each (fun index element => [answer index element]) start elements) := by
  induction elements generalizing start with
  | nil => simp [getNested]
  | cons element elements ih =>
      have here := reads 0 element rfl
      have later : (getNested body (start + 1) elements).read retrieval store = _ :=
        ih fun position found atPosition => by
          have next := reads (position + 1) found atPosition
          rwa [Int.natCast_add, Int.add_comm position, ← Int.add_assoc] at next
      simp only [Int.natCast_zero, Int.add_zero] at here
      simp [getNested, here, later]

variable {columns : List Column} {query : Select}

theorem read_getListed {body : Int → Fetched → Get β} {row : Int → α → Row}
    {answer : Int → α → β} {elements : List α}
    (rows : store.select query = each (fun index element => [row index element]) 0 elements)
    (reads : ∀ (position : Nat) element, elements[position]? = some element →
      (body position (columns.map (row position element).cell)).read retrieval store =
        .ok (answer position element)) :
    (getListed columns query body).read retrieval store =
      .ok (each (fun index element => [answer index element]) 0 elements) := by
  have fetched := @read_fetchRows _ _ retrieval store query.table body
    (fun index element => columns.map (row index element).cell) answer elements 0
    fun position element found => by rw [Int.zero_add]; exact reads position element found
  rw [getListed, Get.read_bind, read_requiemdbSqlQuery, ok_bind, rows, map_each]
  cases elements with
  | nil => rfl
  | cons element elements => exact fetched

@[simp]
theorem read_fetchesRow (table : Table) (fetched : Nat) :
    (fetchesRow table fetched).read retrieval store = .ok true := by
  simp [fetchesRow]

theorem read_fetchLater (table : Table) (body : Int → Fetched → Get β) (start : Int)
    (rows : List Fetched) :
    (fetchLater table body start rows).read retrieval store =
      (fetchRows table body start rows).read retrieval store := by
  induction rows generalizing start with
  | nil => simp [fetchLater, fetchRows]
  | cons row rows ih => simp [fetchLater, fetchRows, ih]

/-- Where no call fails, the two loops read the same elements. -/
theorem read_getElements (body : Int → Fetched → Get β) :
    (getElements columns query body).read retrieval store =
      (getListed columns query body).read retrieval store := by
  rw [getElements, getListed, Get.read_bind, Get.read_bind, read_requiemdbSqlQuery, ok_bind,
    ok_bind]
  cases (store.select query).map fun row => columns.map row.cell with
  | nil => rfl
  | cons row rows => simp [fetchRows, read_fetchLater]

theorem read_getSingle_none {body : Fetched → Get β} (none : store.select query = []) :
    (getSingle columns query body).read retrieval store = .ok .none := by
  rw [getSingle, Get.read_bind, read_requiemdbSqlQuery, none]
  rfl

theorem read_getSingle_some {body : Fetched → Get β} {row : Row}
    (one : store.select query = [row]) :
    (getSingle columns query body).read retrieval store =
      some <$> (body (columns.map row.cell)).read retrieval store := by
  rw [getSingle, Get.read_bind, read_requiemdbSqlQuery, one]
  simp

end Loops

section Listed

variable {α : Type} {row : Int → α → Row}

/-- Rows under increasing positions are in the order of their index. -/
theorem ordered_each (indexed : ∀ index element, (row index element).index = some index)
    (start : Int) (elements : List α) :
    ordered (each (fun index element => [row index element]) start elements) =
      each (fun index element => [row index element]) start elements := by
  apply List.mergeSort_of_pairwise
  induction elements generalizing start with
  | nil => exact .nil
  | cons element elements ih =>
      rw [each_cons, List.singleton_append, List.pairwise_cons]
      refine ⟨?_, ih (start + 1)⟩
      intro later present
      rcases (mem_each _ _ _).mp present with ⟨position, found, _, inPart⟩
      rw [List.mem_singleton.mp inPart, indexed, indexed]
      simp
      omega

/-- The rows of a list whose query keeps all but the copy of the last one. -/
theorem filter_listed_row {query : Select} (elements : List α)
    (isMatch : ∀ index element, query.Matches (row index element) ↔ index ≠ -1) :
    (listed (fun index element => [row index element]) elements).filter
        (fun row => query.Matches row) =
      each (fun index element => [row index element]) 0 elements := by
  have inside : ∀ start : Nat, (each (fun index element => [row index element]) start
      elements).filter (fun row => query.Matches row) =
        each (fun index element => [row index element]) start elements := by
    intro start
    apply List.filter_eq_self.mpr
    intro kept present
    rcases (mem_each _ _ _).mp present with ⟨position, element, _, inPart⟩
    rw [List.mem_singleton.mp inPart, decide_eq_true_eq, isMatch]
    omega
  have copy : ∀ element, ¬ query.Matches (row (-1) element) := fun element => by simp [isMatch]
  rw [listed, List.filter_append, show (0 : Int) = (0 : Nat) from rfl, inside]
  cases elements.getLast? <;> simp [copy]

/-- The cells that are fetched of the rows do not depend on their positions. -/
theorem map_each_row {columns : List Column} {cells : α → Fetched} (start : Int)
    (elements : List α)
    (ofRow : ∀ index element, columns.map (row index element).cell = cells element) :
    (each (fun index element => [row index element]) start elements).map
        (fun row => columns.map row.cell) = elements.map cells := by
  induction elements generalizing start with
  | nil => rfl
  | cons element elements ih => simp [ofRow, ih]

end Listed

section Fields

variable (retrieval : Retrieval) (store : Store) (row : Fetched) (index : Nat)

@[simp]
theorem lookup_cons_of_ne {column other : Column} (differs : column ≠ other) (cell : Cell)
    (cells : List (Column × Cell)) :
    List.lookup column ((other, cell) :: cells) = List.lookup column cells := by
  rw [List.lookup_cons, beq_false_of_ne differs]

/-- A text as it is read back: an empty one may be absent. -/
def Retrieval.text (value : Option String) : Option String :=
  value.filter fun value => ¬ (retrieval.emptyIsNull ∧ value = "")

/-- The texts of a list as they are read back. -/
def Retrieval.texts (values : List String) : List String :=
  values.filterMap fun value => retrieval.text (some value)

@[simp]
theorem fetchField_null_cell : retrieval.fetchField .null = none := rfl

@[simp]
theorem fetchField_number (value : Int) :
    retrieval.fetchField (.number value) = some (.number value) := by
  simp [Retrieval.fetchField, Retrieval.returned, Cell.IsEmpty]

@[simp]
theorem fetchField_decimal (millionths : Int) :
    retrieval.fetchField (.decimal millionths) = some (.decimal millionths) := by
  simp [Retrieval.fetchField, Retrieval.returned, Cell.IsEmpty]

@[simp]
theorem fetchField_timestamp (sec : UInt32) :
    retrieval.fetchField (.timestamp sec) = some (.timestamp sec) := by
  simp [Retrieval.fetchField, Retrieval.returned, Cell.IsEmpty]

@[simp]
theorem map_value_stringLiteral (value : Option String) :
    (retrieval.fetchField (stringLiteral value)).map Cell.value = retrieval.text value := by
  cases value with
  | none => rfl
  | some value =>
      by_cases absent : retrieval.emptyIsNull ∧ value = ""
      · simp [stringLiteral, Retrieval.fetchField, Retrieval.returned, Cell.IsEmpty,
          Retrieval.text, Option.filter, absent]
      · simp [stringLiteral, Retrieval.fetchField, Retrieval.returned, Cell.IsEmpty,
          Retrieval.text, Option.filter, absent, Cell.value]

@[simp]
theorem read_getString :
    (getString row index).read retrieval store =
      .ok ((retrieval.fetchField (row.getD index .null)).map Cell.value) := by
  rw [getString, Get.read_bind, read_requiemdbSqlRowFetchField, ok_bind]
  cases retrieval.fetchField (row.getD index .null) <;> rfl

end Fields

section Numbers

variable (retrieval : Retrieval) (store : Store) (row : Fetched) (index : Nat)

/-- The value of an optional number that is converted. -/
def fieldNumber {α : Type} (conversion : Cell → Except ErrorCode (Option α)) (zero : α) :
    Option Cell → Except ErrorCode (Option α)
  | none => .ok none
  | some field => (fun value => some (value.getD zero)) <$> conversion field

@[simp]
theorem read_getNumber {α : Type} (conversion : Cell → Except ErrorCode (Option α)) (zero : α) :
    (getNumber row index conversion zero).read retrieval store =
      fieldNumber conversion zero (retrieval.fetchField (row.getD index .null)) := by
  rw [getNumber, Get.read_bind, read_requiemdbSqlRowFetchField, ok_bind]
  cases retrieval.fetchField (row.getD index .null) <;> simp [fieldNumber]

@[simp]
theorem read_getUint16 :
    (getUint16 row index).read retrieval store =
      fieldNumber requiemdbSqlFieldToUint16 0 (retrieval.fetchField (row.getD index .null)) :=
  read_getNumber retrieval store row index _ 0

@[simp]
theorem read_getUint32 :
    (getUint32 row index).read retrieval store =
      fieldNumber requiemdbSqlFieldToUint32 0 (retrieval.fetchField (row.getD index .null)) :=
  read_getNumber retrieval store row index _ 0

@[simp]
theorem read_getFloat :
    (getFloat row index).read retrieval store =
      fieldNumber requiemdbSqlFieldToFloat 0 (retrieval.fetchField (row.getD index .null)) :=
  read_getNumber retrieval store row index _ 0

/-- A number comes back up to the width of the conversion. -/
theorem fieldNumber_optionalNumber {α β : Type} {convert : Int → α} {number : β → Int} (zero : α)
    (value : Option β) :
    fieldNumber (fun field => fieldTo field convert) zero
        (retrieval.fetchField (optionalNumber (value.map number))) =
      .ok (value.map fun value => convert (number value)) := by
  cases value with
  | none => rfl
  | some value => simp [optionalNumber, fieldNumber]

@[simp]
theorem fieldNumber_uint16 (value : Option UInt16) :
    fieldNumber requiemdbSqlFieldToUint16 0
      (retrieval.fetchField (optionalNumber (value.map (·.toNat)))) = .ok value := by
  have same : ∀ value : UInt16, UInt16.ofInt value.toNat = value := fun value =>
    (uint16_ofInt_eq_iff value.toNat value).mpr (by have := value.toNat_lt; omega)
  refine (fieldNumber_optionalNumber retrieval 0 value).trans ?_
  simp [same]

@[simp]
theorem fieldNumber_uint32 (value : Option UInt32) :
    fieldNumber requiemdbSqlFieldToUint32 0
      (retrieval.fetchField (optionalNumber (value.map (·.toNat)))) = .ok value := by
  have same : ∀ value : UInt32, UInt32.ofInt value.toNat = value := fun value =>
    (uint32_ofInt_eq_iff value.toNat value).mpr (by have := value.toNat_lt; omega)
  refine (fieldNumber_optionalNumber retrieval 0 value).trans ?_
  simp [same]

@[simp]
theorem fieldNumber_uint64 (value : Option UInt64) :
    fieldNumber requiemdbSqlFieldToUint32 0
      (retrieval.fetchField (optionalNumber (value.map (·.toNat)))) =
        .ok (value.map (·.toUInt32)) := by
  have same : ∀ value : UInt64, UInt32.ofInt value.toNat = value.toUInt32 := fun value =>
    (uint32_ofInt_eq_iff value.toNat value.toUInt32).mpr (by rw [UInt64.toNat_toUInt32]; omega)
  refine (fieldNumber_optionalNumber retrieval 0 value).trans ?_
  simp [same]

@[simp]
theorem fieldNumber_int32 (value : Option Int32) :
    fieldNumber requiemdbSqlFieldToUint32 0
      (retrieval.fetchField (optionalNumber (value.map (·.toInt)))) =
        .ok (value.map (·.toUInt32)) := by
  have same : ∀ value : Int32, UInt32.ofInt value.toInt = value.toUInt32 := fun value => by
    refine (uint32_ofInt_eq_iff value.toInt value.toUInt32).mpr ?_
    have bits := value.toBitVec.toInt_eq_toNat_bmod
    have below := value.toBitVec.isLt
    have same : value.toUInt32.toNat = value.toBitVec.toNat := rfl
    have whole := @Int.bmod_emod value.toBitVec.toNat (2 ^ 32)
    rw [Int32.toInt, bits, same]
    omega
  refine (fieldNumber_optionalNumber retrieval 0 value).trans ?_
  simp [same]

@[simp]
theorem fieldNumber_decimal (millionths : Int) :
    fieldNumber requiemdbSqlFieldToFloat 0 (some (.decimal millionths)) =
      .ok (some millionths) := by
  simp [fieldNumber]

/-- `fieldNumber` for the conversion that assigns its value or fails. -/
def fieldUint8 : Option Cell → Except ErrorCode (Option UInt8)
  | none => .ok none
  | some field => some <$> requiemdbSqlFieldToUint8 field

@[simp]
theorem read_getUint8 :
    (getUint8 row index).read retrieval store =
      fieldUint8 (retrieval.fetchField (row.getD index .null)) := by
  rw [getUint8, Get.read_bind, read_requiemdbSqlRowFetchField, ok_bind]
  cases retrieval.fetchField (row.getD index .null) <;> simp [fieldUint8]

@[simp]
theorem fieldUint8_optionalNumber (value : Option UInt8) :
    fieldUint8 (retrieval.fetchField (optionalNumber (value.map (·.toNat)))) = .ok value := by
  cases value with
  | none => rfl
  | some value =>
      have below := value.toNat_lt
      have scanned : scanNumber (toString (value.toNat : Int)) = _ :=
        scanNumber_toString value.toNat
      have toInt : (Int32.ofInt value.toNat).toInt = value.toNat :=
        Int32.toInt_ofInt_of_le (by omega) (by omega)
      have inRange : ¬ (Int32.ofInt value.toNat < 0 ∨ 255 < Int32.ofInt value.toNat) := by
        rw [Int32.lt_iff_toInt_lt, Int32.lt_iff_toInt_lt, toInt]
        simp
        omega
      have same : UInt8.ofInt value.toNat = value :=
        (uint8_ofInt_eq_iff value.toNat value).mpr (by omega)
      simp only [optionalNumber, Option.map_some, Option.elim_some, fetchField_number, fieldUint8,
        requiemdbSqlFieldToUint8, Cell.value, scanned, gt_iff_lt, inRange, if_false, toInt, same]
      rfl

end Numbers

section Times

variable (retrieval : Retrieval) (store : Store) {row : Fetched} (unassigned : Int)
  {timeIndex gmtoffIndex usecIndex : Nat} (value : Option Time)

/-- A time that is stored with its microseconds comes back. -/
theorem read_getTimestamp_usec
    (time : row[timeIndex]? = some (requiemdbSqlTimeToTimestamp value).1)
    (gmtoff : row[gmtoffIndex]? = some (requiemdbSqlTimeToTimestamp value).2.1)
    (usec : row[usecIndex]? = some (requiemdbSqlTimeToTimestamp value).2.2) :
    (getTimestamp row unassigned timeIndex gmtoffIndex (some usecIndex)).read retrieval store =
      .ok value := by
  cases value with
  | none => simp [getTimestamp, time, requiemdbSqlTimeToTimestamp]
  | some value =>
      have whole := uint32_ofInt_toInt32 value.usec
      simp [getTimestamp, time, gmtoff, usec, requiemdbSqlTimeToTimestamp,
        requiemdbSqlFieldToUint32, requiemdbSqlFieldToInt32, requiemdbSqlTimeFromTimestamp, whole]

/-- A time without its microseconds. -/
def Time.wholeSeconds (time : Time) : Time := { time with usec := 0 }

theorem read_getTimestamp
    (time : row[timeIndex]? = some (requiemdbSqlTimeToTimestamp value).1)
    (gmtoff : row[gmtoffIndex]? = some (requiemdbSqlTimeToTimestamp value).2.1) :
    (getTimestamp row unassigned timeIndex gmtoffIndex none).read retrieval store =
      .ok (value.map Time.wholeSeconds) := by
  cases value with
  | none => simp [getTimestamp, time, requiemdbSqlTimeToTimestamp]
  | some value =>
      simp [getTimestamp, time, gmtoff, requiemdbSqlTimeToTimestamp, Time.wholeSeconds,
        requiemdbSqlFieldToInt32, requiemdbSqlTimeFromTimestamp]

end Times

section Enumerations

variable {E : EnumKind → Type} [Librequiem E] {kind : EnumKind} {retrieval : Retrieval}
  (store : Store) (row : Fetched) (index : Nat)

/-- Every value of an enumeration has a name. -/
structure NamesGiven (E : EnumKind → Type) [Librequiem E] : Prop where
  value : ∀ {kind : EnumKind} (value : E kind), Librequiem.toString value ≠ ""
  dataType : ∀ type, Librequiem.dataTypeToString E type ≠ ""

theorem fetchField_text {value : String} (given : retrieval.emptyIsNull → value ≠ "") :
    retrieval.fetchField (stringLiteral (some value)) = some (.text value) := by
  have notEmpty : ¬ (retrieval.emptyIsNull ∧ value = "") := fun ⟨isNull, empty⟩ =>
    given isNull empty
  simp [stringLiteral, Retrieval.fetchField, Retrieval.returned, Cell.IsEmpty, notEmpty]

@[simp]
theorem read_getEnum :
    (getEnum row index : Get (Option (E kind))).read retrieval store =
      .ok ((retrieval.fetchField (row.getD index .null)).map fun field =>
        Librequiem.toNumeric field.value) := by
  rw [getEnum, Get.read_bind, read_requiemdbSqlRowFetchField, ok_bind]
  cases retrieval.fetchField (row.getD index .null) <;> rfl

@[simp]
theorem read_getMandatoryEnum [Inhabited (E kind)] :
    (getMandatoryEnum row index : Get (E kind)).read retrieval store =
      .ok (((retrieval.fetchField (row.getD index .null)).map fun field =>
        Librequiem.toNumeric field.value).getD default) := by
  rw [getMandatoryEnum, Get.read_bind, read_getEnum]
  rfl

theorem map_enumLiteral (names : retrieval.emptyIsNull → NamesGiven E) (value : E kind) :
    ((retrieval.fetchField (enumLiteral value)).map fun field =>
      (Librequiem.toNumeric field.value : E kind)) = some value := by
  rw [enumLiteral, fetchField_text fun isNull => (names isNull).value value, Option.map_some,
    Cell.value, Librequiem.toNumeric_toString]

theorem map_optionalEnumLiteral (names : retrieval.emptyIsNull → NamesGiven E)
    (value : Option (E kind)) :
    ((retrieval.fetchField (optionalEnumLiteral value)).map fun field =>
      (Librequiem.toNumeric field.value : E kind)) = value := by
  cases value with
  | none => rfl
  | some value => exact map_enumLiteral names value

end Enumerations

end RequiemDB
