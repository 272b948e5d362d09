import RequiemDB.Lib.Program
import RequiemDB.Query.Resolve

/-!
# Queries for idents and for values

The part of `classic.c` that builds the two queries of the plugin, and the reader
that takes the values of a selection out of a row of the second one. The texts of
a criterion and of the limits come from the SQL plugin and may fail.
-/

namespace RequiemDB

open Lib

/-- What the SQL plugin writes into a query. -/
structure SqlText (Criterion : Type) where
  /-- `requiemdb_sql_build_criterion_string`, which fails by its operator and value alone. -/
  criterion : Criterion → Except ErrorCode (List FieldName → String)
  /-- `requiemdb_sql_build_limit_offset_string` -/
  limitOffset : Int → Int → Except ErrorCode String

/-- The parts of the text that is handed to `requiemdb_sql_query`; `join` is the `FROM` clause. -/
structure SqlQuery where
  distinct : Bool
  select : SqlSelect
  join : Join
  condition : Option String
  limitOffset : String
deriving DecidableEq

section Queries

variable {Criterion : Type} (text : SqlText Criterion)

/-- The condition of a query without criteria is left out. -/
def resolveCondition (criteria : Option (Criteria Criterion)) (join : Join) :
    Except ErrorCode (Option String × Join) :=
  match criteria with
  | none => .ok (none, join)
  | some criteria => do
      let (condition, join) ← classicPathResolveCriteria text.criterion criteria join
      .ok (some condition, join)

/-- The end of both functions: `WHERE`, the modifiers, `LIMIT` and `OFFSET`. -/
def finishQuery (distinct : Bool) (criteria : Option (Criteria Criterion)) (limit offset : Int)
    (join : Join) (select : SqlSelect) : Except ErrorCode SqlQuery := do
  let (condition, join) ← resolveCondition text criteria join
  let limitOffset ← text.limitOffset limit offset
  .ok { distinct, select, join, condition, limitOffset }

def classicGetValues (selection : List SelectedPath) (criteria : Option (Criteria Criterion))
    (distinct : Bool) (limit offset : Int) : Except ErrorCode SqlQuery := do
  let (join, select) ← classicPathResolveSelection selection .new .new
  finishQuery text distinct criteria limit offset join select

/-- `alert.create_time` and `heartbeat.create_time`. -/
def createTimePath (messageType : MessageTable) : IdmefPath where
  top := messageType
  below := [⟨"create_time", .forbidden, .value .time⟩]
  notEmpty := by simp
  follows := by cases messageType <;> decide

/-- The order of idents is that of the creation times. -/
def orderFlags (order : Direction) : SelectedFlags where
  functions := []
  groupBy := false
  orderAsc := order = .asc
  orderDesc := order = .desc

def getMessageIdentsSetOrder (messageType : MessageTable) (order : Option Direction)
    (join : Join) (select : SqlSelect) : Except ErrorCode (Join × SqlSelect) :=
  match order with
  | none => .ok (join, select)
  | some order =>
      classicPathResolveSelected ⟨createTimePath messageType, orderFlags order⟩ join select

/-- The field list starts with `DISTINCT(top_table._ident)`. -/
def identSelect : SqlSelect where
  fields := [.distinctIdent]
  fieldCount := 1
  groupBy := []
  orderBy := []

def getMessageIdents (messageType : MessageTable) (criteria : Option (Criteria Criterion))
    (limit offset : Int) (order : Option Direction) : Except ErrorCode SqlQuery := do
  let join := Join.new.setTopClass messageType
  let (join, select) ← getMessageIdentsSetOrder messageType order join identSelect
  finishQuery text false criteria limit offset join select

end Queries

section Reader

/-- A read of the column of a row: an error, NULL, or a text. -/
abbrev RowReply : Nat → Type := fun _ => Except ErrorCode (Option String)

/-- A function that reads columns of one row by their numbers. -/
abbrev RowReader := Program RowReply

/-- What `sscanf` meets at a numeral: the end of the text, something else, or a number. -/
inductive Scanned where
  | endOfText
  | nothing
  | number (value : Int)
deriving DecidableEq

/-- The value of leading decimal digits, nothing where there is none. -/
def leadingDigits (text : List Char) : Option Nat :=
  let digits := text.takeWhile Char.isDigit
  if digits.isEmpty then none
  else some (digits.foldl (fun value digit => 10 * value + (digit.toNat - '0'.toNat)) 0)

/-- `isspace` in the C locale. -/
def isSpace (c : Char) : Bool := c ∈ [' ', '\t', '\n', '\x0b', '\x0c', '\r']

/-- `sscanf` with one decimal conversion, behind white space and a sign. -/
def scanNumber (text : String) : Scanned :=
  match text.toList.dropWhile isSpace with
  | [] => .endOfText
  | '-' :: rest => (leadingDigits rest).elim .nothing fun value => .number (-value)
  | '+' :: rest => (leadingDigits rest).elim .nothing fun value => .number value
  | rest => (leadingDigits rest).elim .nothing fun value => .number value

/-- `REQUIEMDB_ERROR_INVALID_VALUE`. -/
def invalidValue : ErrorCode := ⟨-1, minusOne_negative⟩

/--
`requiemdb_sql_field_to_int32` and `requiemdb_sql_field_to_uint32`: the value keeps what it had
where there is no numeral, and the text must not be blank.
-/
def fieldToNumber (text : String) (initial : Option Int) : Except ErrorCode (Option Int) :=
  match scanNumber text with
  | .endOfText => .error invalidValue
  | .nothing => .ok initial
  | .number value => .ok (some value)

/-- What `get_value` leaves in `*value`. -/
inductive FetchedValue (Value : Type) where
  | null
  | count (value : Option Int)
  | time (timestamp : String) (gmtoff usec : Option Int)
  | fromPath (value : Value)
  | unassigned

variable {Value : Type} (newFromPath : IdmefPath → String → Except ErrorCode Value)

def fetchField (column : Nat) : RowReader (Except ErrorCode (Option String)) :=
  .perform column .done

/-- A time that is read with its offset and its microseconds. -/
def SelectedPath.MultipleTimeField (selected : SelectedPath) : Prop :=
  selected.path.leafType = .time ∧
    ∀ function ∈ [SqlFunction.min, .max, .avg, .std], function ∉ selected.flags.functions

instance (selected : SelectedPath) : Decidable selected.MultipleTimeField :=
  inferInstanceAs (Decidable (_ ∧ _))

/-- The result of `get_value`: an error, or the number of columns consumed and the value. -/
abbrev GetValueResult (Value : Type) := Except ErrorCode (Nat × FetchedValue Value)

/-- The microseconds of a time; on a blank text the source returns the result of its last fetch. -/
def getUsec (cnt : Nat) (timestamp : String) (gmtoff : Option Int) :
    RowReader (GetValueResult Value) :=
  fetchField (cnt + 2) >>= fun
    | .error error => .done (.error error)
    | .ok none => .done (.ok (3, .time timestamp gmtoff (some 0)))
    | .ok (some usecField) =>
        match fieldToNumber usecField (some 0) with
        | .error _ => .done (.ok (1, .unassigned))
        | .ok usec => .done (.ok (3, .time timestamp gmtoff usec))

/-- The offset of a time and what follows it. -/
def getGmtoff (cnt : Nat) (timestamp : String) : RowReader (GetValueResult Value) :=
  fetchField (cnt + 1) >>= fun
    | .error error => .done (.error error)
    | .ok none => getUsec cnt timestamp (some 0)
    | .ok (some gmtoffField) =>
        match fieldToNumber gmtoffField (some 0) with
        | .error error => .done (.error error)
        | .ok gmtoff => getUsec cnt timestamp gmtoff

def getValue (cnt : Nat) (selected : SelectedPath) : RowReader (GetValueResult Value) :=
  fetchField cnt >>= fun
    | .error error => .done (.error error)
    | .ok none => .done (.ok (if selected.MultipleTimeField then 3 else 1, .null))
    | .ok (some charVal) =>
        if SqlFunction.count ∈ selected.flags.functions then
          match fieldToNumber charVal none with
          | .error error => .done (.error error)
          | .ok count => .done (.ok (1, .count count))
        else if selected.path.leafType = .time then
          if selected.MultipleTimeField then getGmtoff cnt charVal
          else .done (.ok (1, .time charVal (some 0) (some 0)))
        else
          match newFromPath selected.path charVal with
          | .error error => .done (.error error)
          | .ok value => .done (.ok (1, .fromPath value))

/--
The loop of `classic_get_next_values`: each value is read at the column behind the last, and
the loop ends with the number of columns consumed and the values.
-/
def readValues : Nat → List SelectedPath →
    RowReader (Except ErrorCode (Nat × List (FetchedValue Value)))
  | sqlCnt, [] => .done (.ok (sqlCnt, []))
  | sqlCnt, selected :: selection =>
      getValue newFromPath sqlCnt selected >>= fun
        | .error error => .done (.error error)
        | .ok (consumed, value) =>
            readValues (sqlCnt + consumed) selection >>= fun
              | .error error => .done (.error error)
              | .ok (last, values) => .done (.ok (last, value :: values))

def classicGetNextValues (selection : List SelectedPath) :
    RowReader (Except ErrorCode (List (FetchedValue Value))) :=
  readValues newFromPath 0 selection >>= fun
    | .error error => .done (.error error)
    | .ok (_, values) => .done (.ok values)

end Reader

end RequiemDB
