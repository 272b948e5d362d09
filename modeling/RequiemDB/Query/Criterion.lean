import RequiemDB.Lib.Condition
import RequiemDB.Query.Resolve
import RequiemDB.Sql.Calendar

/-!
# The text of a criterion

`requiemdb_sql_build_criterion_string` and what the three SQL plugins write for it:
the tables of operators, the constraint on a field and the constraint on a part of
a time. The text is kept as its tokens; `Comparison.text` and `conditionText` give
the characters. What a comparison says of a cell is told by `SqlServer`, by the
operator that its text names.
-/

namespace RequiemDB

open Lib

/-- What an operator tests, without its flags. -/
inductive CriterionTest where
  | equal | lesser | greater | lesserOrEqual | greaterOrEqual | substr | regex | null
deriving DecidableEq

/-- `idmef_criterion_operator_t`; the flags `NOT` and `NOCASE`. -/
structure CriterionOperator where
  test : CriterionTest
  noCase : Bool
  not : Bool
deriving DecidableEq

/-- The operator with its flag `NOT`. -/
def CriterionOperator.negation (operator : CriterionOperator) : CriterionOperator :=
  { operator with not := true }

/--
`idmef_value_t`: a time, a string, a data with its content and the text that stands for it,
or another value by its text.
-/
inductive FixedValue where
  | time (sec : Int)
  | string (value : String)
  | data (content text : String)
  | scalar (text : String)
deriving DecidableEq

/-- `idmef_criterion_value_t`. -/
inductive CriterionValue where
  | value (value : FixedValue)
  | regex (regex : String)
  | brokenDownTime (time : Tm)
deriving DecidableEq

structure Criterion where
  operator : CriterionOperator
  value : CriterionValue
deriving DecidableEq

inductive Backend where
  | mysql | pgsql | sqlite3
deriving DecidableEq

/--
The plugin with what belongs to the server and to librequiem: the escape of a text, and what
`requiem_string_get_string_released` gives for an empty string.
-/
structure SqlDialect where
  backend : Backend
  escape : String → Except ErrorCode String
  emptyReleased : Option String

/-- The right side of a comparison: an escaped text, a timestamp, or the word `NULL`. -/
inductive Literal where
  | escaped (text : String)
  | timestamp (text : String)
  | null
deriving DecidableEq

def Literal.text : Literal → String
  | .escaped text | .timestamp text => text
  | .null => "NULL"

/-- The expressions that take a part of a time. -/
inductive TimeFunction where
  | extract (unit : String)
  | function (name : String)
  | strftime (format : String)
deriving DecidableEq

/-- How the plugins add hours to a field. -/
inductive TimeShift where
  | dateAdd | interval | datetime
deriving DecidableEq

/-- An atomic comparison, by the format that writes it. -/
inductive Comparison where
  | fixed (field operator : String) (value : Literal)
  | lower (field operator : String) (value : Literal)
  | null (field operator : String)
  | time (function : TimeFunction) (shift : TimeShift) (field : String) (hours : Int)
      (operator : String) (quoted : Bool) (value : Int)
deriving DecidableEq

def TimeShift.text (field : String) (hours : Int) : TimeShift → String
  | .dateAdd => "DATE_ADD(" ++ field ++ ", INTERVAL " ++ hours.repr ++ " HOUR)"
  | .interval => field ++ " + INTERVAL '" ++ hours.repr ++ " HOUR'"
  | .datetime => "DATETIME(" ++ field ++ ", '" ++ hours.repr ++ " hours')"

def TimeFunction.text (operand : String) : TimeFunction → String
  | .extract unit => "EXTRACT(" ++ unit ++ " FROM " ++ operand ++ ")"
  | .function name => name ++ "(" ++ operand ++ ")"
  | .strftime format => "STRFTIME('" ++ format ++ "', " ++ operand ++ ") + 0"

def Comparison.text : Comparison → String
  | .fixed field operator value => field ++ " " ++ operator ++ " " ++ value.text
  | .lower field operator value =>
      "lower(" ++ field ++ ") " ++ operator ++ " lower(" ++ value.text ++ ")"
  | .null field operator => field ++ " " ++ operator
  | .time function shift field hours operator quoted value =>
      function.text (shift.text field hours) ++ " " ++ operator ++ " " ++
        if quoted then "'" ++ value.repr ++ "'" else value.repr

abbrev ConditionText := List (ConditionToken Comparison)

def tokenText : ConditionToken Comparison → String
  | .lparen => "("
  | .rparen => ")"
  | .and => " AND "
  | .or => " OR "
  | .not => "NOT"
  | .atom comparison => comparison.text

/-- The characters of a text. -/
def conditionText (tokens : ConditionText) : String := String.join (tokens.map tokenText)

/-- `requiemdb_error(REQUIEMDB_ERROR_GENERIC)` and the other codes of failures. -/
def criterionError : ErrorCode := ⟨-1, minusOne_negative⟩

section Mysql

/-- `get_operator_string` of the MySQL plugin. -/
def mysqlOperatorString : CriterionOperator → Option String
  | ⟨.equal, false, false⟩ => some "= BINARY"
  | ⟨.equal, true, false⟩ => some "="
  | ⟨.equal, false, true⟩ => some "!= BINARY"
  | ⟨.equal, true, true⟩ => some "!="
  | ⟨.greater, false, false⟩ => some ">"
  | ⟨.greaterOrEqual, false, false⟩ => some ">="
  | ⟨.lesser, false, false⟩ => some "<"
  | ⟨.lesserOrEqual, false, false⟩ => some "<="
  | ⟨.substr, false, false⟩ => some "LIKE BINARY"
  | ⟨.substr, true, false⟩ => some "LIKE"
  | ⟨.substr, false, true⟩ => some "NOT LIKE BINARY"
  | ⟨.substr, true, true⟩ => some "NOT LIKE "
  | ⟨.regex, false, false⟩ => some "REGEXP BINARY"
  | ⟨.regex, true, false⟩ => some "REGEXP"
  | ⟨.regex, false, true⟩ => some "NOT REGEXP"
  | ⟨.regex, true, true⟩ => some "NOT REGEXP BINARY"
  | ⟨.null, false, false⟩ => some "IS NULL"
  | ⟨.null, false, true⟩ => some "IS NOT NULL"
  | _ => none

def mysqlBuildConstraintString (operator : CriterionOperator) (value : Literal) :
    Except ErrorCode (String → Comparison) :=
  match mysqlOperatorString operator with
  | none => .error criterionError
  | some text => .ok fun field => .fixed field text value

end Mysql

section Pgsql

/-- `get_operator_string` of the PostgreSQL plugin. -/
def pgsqlOperatorString : CriterionOperator → Option String
  | ⟨.equal, false, false⟩ => some "="
  | ⟨.equal, false, true⟩ => some "!="
  | ⟨.greater, false, false⟩ => some ">"
  | ⟨.greaterOrEqual, false, false⟩ => some ">="
  | ⟨.lesser, false, false⟩ => some "<"
  | ⟨.lesserOrEqual, false, false⟩ => some "<="
  | ⟨.substr, false, false⟩ => some "LIKE"
  | ⟨.substr, true, false⟩ => some "ILIKE"
  | ⟨.substr, false, true⟩ => some "NOT LIKE"
  | ⟨.substr, true, true⟩ => some "NOT ILIKE"
  | ⟨.regex, false, false⟩ => some "~"
  | ⟨.regex, true, false⟩ => some "~*"
  | ⟨.regex, false, true⟩ => some "!~"
  | ⟨.regex, true, true⟩ => some "!~*"
  | ⟨.null, false, false⟩ => some "IS NULL"
  | ⟨.null, false, true⟩ => some "IS NOT NULL"
  | _ => none

def pgsqlBuildConstraintString (operator : CriterionOperator) (value : Literal) :
    Except ErrorCode (String → Comparison) :=
  match pgsqlOperatorString operator with
  | some text => .ok fun field => .fixed field text value
  | none =>
      if operator = ⟨.equal, true, false⟩ then .ok fun field => .lower field "=" value
      else if operator = ⟨.equal, true, true⟩ then .ok fun field => .lower field "!=" value
      else .error criterionError

end Pgsql

section Sqlite3

/-- `get_operator_string` of the SQLite plugin. -/
def sqlite3OperatorString : CriterionOperator → Option String
  | ⟨.equal, _, false⟩ => some "="
  | ⟨.equal, _, true⟩ => some "!="
  | ⟨.greater, false, false⟩ => some ">"
  | ⟨.greaterOrEqual, false, false⟩ => some ">="
  | ⟨.lesser, false, false⟩ => some "<"
  | ⟨.lesserOrEqual, false, false⟩ => some "<="
  | ⟨.substr, _, false⟩ => some "LIKE"
  | ⟨.substr, false, true⟩ => some "NOT LIKE"
  | ⟨.substr, true, true⟩ => some "NOT LIKE "
  | ⟨.regex, _, false⟩ => some "REGEXP"
  | ⟨.regex, _, true⟩ => some "NOT REGEXP"
  | ⟨.null, false, false⟩ => some "IS NULL"
  | ⟨.null, false, true⟩ => some "IS NOT NULL"
  | _ => none

def sqlite3BuildConstraintString (operator : CriterionOperator) (value : Literal) :
    Except ErrorCode (String → Comparison) :=
  match sqlite3OperatorString operator with
  | none => .error criterionError
  | some text =>
      if operator.noCase then .ok fun field => .lower field text value
      else .ok fun field => .fixed field text value

end Sqlite3

/-- `_requiemdb_plugin_sql_get_operator_string`. -/
def operatorString : Backend → CriterionOperator → Option String
  | .mysql => mysqlOperatorString
  | .pgsql => pgsqlOperatorString
  | .sqlite3 => sqlite3OperatorString

/-- `_requiemdb_plugin_sql_build_constraint_string`. -/
def buildConstraintString : Backend → CriterionOperator → Literal →
    Except ErrorCode (String → Comparison)
  | .mysql => mysqlBuildConstraintString
  | .pgsql => pgsqlBuildConstraintString
  | .sqlite3 => sqlite3BuildConstraintString

/-- `requiemdb_sql_time_constraint_type_t`, as far as criteria use it. -/
inductive TimeConstraint where
  | year | month | yday | mday | wday | hour | min | sec
deriving DecidableEq

/-- What a plugin compares a constraint with, and the expression it compares. -/
def mysqlTimeFunction (value : Int) : TimeConstraint → TimeFunction × Int
  | .year => (.extract "YEAR", value)
  | .month => (.extract "MONTH", value)
  | .yday => (.function "DAYOFYEAR", value)
  | .mday => (.function "DAYOFMONTH", value)
  | .wday => (.function "DAYOFWEEK", value.tmod 7 + 1)
  | .hour => (.extract "HOUR", value)
  | .min => (.extract "MINUTE", value)
  | .sec => (.extract "SECOND", value)

def pgsqlTimeFunction (value : Int) : TimeConstraint → TimeFunction × Int
  | .year => (.extract "YEAR", value)
  | .month => (.extract "MONTH", value)
  | .yday => (.extract "DOY", value)
  | .mday => (.extract "DAY", value)
  | .wday => (.extract "DOW", value.tmod 7 + 1)
  | .hour => (.extract "HOUR", value)
  | .min => (.extract "MINUTE", value)
  | .sec => (.extract "SECOND", value)

def sqlite3TimeFunction (value : Int) : TimeConstraint → TimeFunction × Int
  | .year => (.strftime "%Y", value)
  | .month => (.strftime "%m", value)
  | .yday => (.strftime "%j", value)
  | .mday => (.strftime "%d", value)
  | .wday => (.strftime "%w", value.tmod 7)
  | .hour => (.strftime "%H", value)
  | .min => (.strftime "%M", value)
  | .sec => (.strftime "%S", value)

/--
`_requiemdb_plugin_sql_build_time_constraint_string`. The field names of the format are
shorter than the buffers of the plugins.
-/
def buildTimeConstraintString (backend : Backend) (type : TimeConstraint)
    (operator : CriterionOperator) (value gmtOffset : Int) :
    Except ErrorCode (String → Comparison) :=
  match operatorString backend operator with
  | none => .error criterionError
  | some text =>
      let hours := gmtOffset.tdiv 3600
      match backend with
      | .mysql =>
          let (function, value) := mysqlTimeFunction value type
          .ok fun field => .time function .dateAdd field hours text true value
      | .pgsql =>
          let (function, value) := pgsqlTimeFunction value type
          .ok fun field => .time function .interval field hours text false value
      | .sqlite3 =>
          let (function, value) := sqlite3TimeFunction value type
          .ok fun field => .time function .datetime field hours text false value

/-- The text of an operator table entry, where a missing one is printed like NULL. -/
def operatorText (backend : Backend) (operator : CriterionOperator) : String :=
  (operatorString backend operator).getD "(null)"

/-- `requiemdb_sql_escape`; the text of NULL is the word `NULL`. -/
def sqlEscape (dialect : SqlDialect) : Option String → Except ErrorCode Literal
  | none => .ok .null
  | some text => (dialect.escape text).map .escaped

/-- The characters of a pattern: `%` is escaped, `*` without a backslash becomes `%`. -/
def likePattern : Bool → List Char → List Char
  | _, [] => []
  | escapeNext, c :: rest =>
      (if c = '%' then ['\\', '%'] else if c = '*' ∧ ¬ escapeNext then ['%'] else [c]) ++
        likePattern (¬ escapeNext ∧ c = '\\') rest

/-- `build_criterion_fixed_sql_like_value`; only strings and data have a pattern. -/
def buildCriterionFixedSqlLikeValue (dialect : SqlDialect) :
    FixedValue → Except ErrorCode (Option String)
  | .string value | .data value _ =>
      .ok (if value.toList = [] then dialect.emptyReleased
        else some (String.ofList (likePattern false value.toList)))
  | .time _ | .scalar _ => .error criterionError

/-- The digits of a number, at least as many as the precision. -/
def padded (precision : Nat) (value : Int) : String :=
  let digits := value.natAbs.repr
  (if value < 0 then "-" else "") ++ "".pushn '0' (precision - digits.length) ++ digits

/-- `_requiemdb_plugin_sql_build_timestamp_string`, which no plugin replaces. -/
def buildTimestampString (time : Tm) : String :=
  "'" ++ (time.year + 1900).repr ++ "-" ++ padded 2 (time.mon + 1) ++ "-" ++ padded 2 time.mday ++
    " " ++ padded 2 time.hour ++ ":" ++ padded 2 time.min ++ ":" ++ padded 2 time.sec ++ "'"

/-- A value that is no time, by its pattern or by the text of `idmef_value_to_string`. -/
def buildCriterionFixedSqlValue (dialect : SqlDialect) (value : FixedValue)
    (operator : CriterionOperator) : Except ErrorCode Literal :=
  match value with
  | .time sec => .ok (.timestamp (buildTimestampString (gmtime sec)))
  | .string text | .data _ text | .scalar text =>
      if operator.test = .substr then do
        let pattern ← buildCriterionFixedSqlLikeValue dialect value
        sqlEscape dialect pattern
      else sqlEscape dialect (some text)

def buildCriterionFixedValue (dialect : SqlDialect) (operator : CriterionOperator)
    (value : FixedValue) : Except ErrorCode (String → ConditionText) := do
  let literal ← buildCriterionFixedSqlValue dialect value operator
  let comparison ← buildConstraintString dialect.backend operator literal
  .ok fun field => [.atom (comparison field)]

/-- The constraints of a broken-down time in the order of the source; -1 is a field not set. -/
def brokenDownFields (time : Tm) : List (TimeConstraint × Int) :=
  let year := if time.year ≠ -1 then time.year + 1900 else time.year
  let month := if time.mon ≠ -1 then time.mon + 1 else time.mon
  [(.year, year), (.month, month), (.yday, time.yday), (.mday, time.mday), (.wday, time.wday),
    (.hour, time.hour), (.min, time.min), (.sec, time.sec)].filter fun entry => entry.2 ≠ -1

/-- Constraints with AND between them. -/
def buildConjunction : List (String → Comparison) → String → ConditionText
  | [], _ => []
  | [comparison], field => [.atom (comparison field)]
  | comparison :: comparisons, field =>
      .atom (comparison field) :: .and :: buildConjunction comparisons field

def buildCriterionBrokenDownTimeEqual (dialect : SqlDialect) (operator : CriterionOperator)
    (time : Tm) : Except ErrorCode (String → ConditionText) := do
  let comparisons ← (brokenDownFields time).mapM fun (type, value) =>
    buildTimeConstraintString dialect.backend type operator value 0
  .ok (buildConjunction comparisons)

def buildCriterionBrokenDownTimeNotEqual (dialect : SqlDialect) (time : Tm) :
    Except ErrorCode (String → ConditionText) := do
  let text ← buildCriterionBrokenDownTimeEqual dialect ⟨.equal, false, false⟩ time
  .ok fun field => [.not, .lparen] ++ text field ++ [.rparen]

def buildCriterionBrokenDownTime (dialect : SqlDialect) (operator : CriterionOperator)
    (time : Tm) : Except ErrorCode (String → ConditionText) :=
  if operator = ⟨.equal, false, false⟩ then
    buildCriterionBrokenDownTimeEqual dialect operator time
  else if operator = ⟨.equal, false, true⟩ then buildCriterionBrokenDownTimeNotEqual dialect time
  else .error criterionError

def buildCriterionRegex (dialect : SqlDialect) (operator : CriterionOperator) (regex : String) :
    Except ErrorCode (String → ConditionText) := do
  let literal ← sqlEscape dialect (some regex)
  let comparison ← buildConstraintString dialect.backend operator literal
  .ok fun field => [.atom (comparison field)]

/-- The three kinds of values. -/
def buildCriterionValue (dialect : SqlDialect) (operator : CriterionOperator) :
    CriterionValue → Except ErrorCode (String → ConditionText)
  | .value value => buildCriterionFixedValue dialect operator value
  | .regex regex => buildCriterionRegex dialect operator regex
  | .brokenDownTime time => buildCriterionBrokenDownTime dialect operator time

/-- `requiemdb_sql_build_criterion_string`. -/
def buildCriterionString (dialect : SqlDialect) (criterion : Criterion) :
    Except ErrorCode (String → ConditionText) :=
  let operator := criterion.operator
  if operator = ⟨.null, false, false⟩ ∨ operator = ⟨.null, false, true⟩ then
    .ok fun field => [.atom (.null field (operatorText dialect.backend operator))]
  else if operator.not then do
    let text ← buildCriterionValue dialect operator criterion.value
    .ok fun field =>
      [.lparen, .atom (.null field (operatorText dialect.backend ⟨.null, false, false⟩)), .or] ++
        text field ++ [.rparen]
  else buildCriterionValue dialect operator criterion.value

/-- The field of a path in a condition. -/
def FieldName.text : FieldName → String
  | .column table name => table ++ "." ++ name
  | .zero => "0"

def fieldText (fields : List FieldName) : String :=
  ", ".intercalate (fields.map FieldName.text)

end RequiemDB
