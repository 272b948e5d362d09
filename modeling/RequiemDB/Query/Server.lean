import RequiemDB.Query.Criteria

/-!
# What the servers read in a criterion

The meaning of the operators and time functions that the plugins write, for each
kind of server. How two values compare, with and without the case of letters, is
left to the server.
-/

namespace RequiemDB

open Lib

/-- How a cell and a value are related, without negation. -/
inductive Relation where
  | equal | lesser | greater | lesserOrEqual | greaterOrEqual | like | regexp
deriving DecidableEq

/-- An operator of SQL: a relation, whether it looks at the case of letters, and `NOT`. -/
structure SqlOperator where
  relation : Relation
  caseSensitive : Bool
  negated : Bool
deriving DecidableEq

/-- What the operator says of values that are related, or not. -/
def SqlOperator.answer (operator : SqlOperator) (related : Bool) : Truth :=
  .ofBool (if operator.negated then !related else related)

/-- `BINARY` makes an operator of MySQL look at the case of letters. -/
def mysqlOperator : String → Option SqlOperator
  | "= BINARY" => some ⟨.equal, true, false⟩
  | "=" => some ⟨.equal, false, false⟩
  | "!= BINARY" => some ⟨.equal, true, true⟩
  | "!=" => some ⟨.equal, false, true⟩
  | ">" => some ⟨.greater, false, false⟩
  | ">=" => some ⟨.greaterOrEqual, false, false⟩
  | "<" => some ⟨.lesser, false, false⟩
  | "<=" => some ⟨.lesserOrEqual, false, false⟩
  | "LIKE BINARY" => some ⟨.like, true, false⟩
  | "LIKE" => some ⟨.like, false, false⟩
  | "NOT LIKE BINARY" => some ⟨.like, true, true⟩
  | "NOT LIKE " => some ⟨.like, false, true⟩
  | "REGEXP BINARY" => some ⟨.regexp, true, false⟩
  | "REGEXP" => some ⟨.regexp, false, false⟩
  | "NOT REGEXP BINARY" => some ⟨.regexp, true, true⟩
  | "NOT REGEXP" => some ⟨.regexp, false, true⟩
  | _ => none

def pgsqlOperator : String → Option SqlOperator
  | "=" => some ⟨.equal, true, false⟩
  | "!=" => some ⟨.equal, true, true⟩
  | ">" => some ⟨.greater, true, false⟩
  | ">=" => some ⟨.greaterOrEqual, true, false⟩
  | "<" => some ⟨.lesser, true, false⟩
  | "<=" => some ⟨.lesserOrEqual, true, false⟩
  | "LIKE" => some ⟨.like, true, false⟩
  | "ILIKE" => some ⟨.like, false, false⟩
  | "NOT LIKE" => some ⟨.like, true, true⟩
  | "NOT ILIKE" => some ⟨.like, false, true⟩
  | "~" => some ⟨.regexp, true, false⟩
  | "~*" => some ⟨.regexp, false, false⟩
  | "!~" => some ⟨.regexp, true, true⟩
  | "!~*" => some ⟨.regexp, false, true⟩
  | _ => none

/-- `LIKE` of SQLite takes no account of case; `REGEXP` is `sqlite3_regexp`, which does. -/
def sqlite3Operator : String → Option SqlOperator
  | "=" => some ⟨.equal, true, false⟩
  | "!=" => some ⟨.equal, true, true⟩
  | ">" => some ⟨.greater, true, false⟩
  | ">=" => some ⟨.greaterOrEqual, true, false⟩
  | "<" => some ⟨.lesser, true, false⟩
  | "<=" => some ⟨.lesserOrEqual, true, false⟩
  | "LIKE" => some ⟨.like, false, false⟩
  | "NOT LIKE" | "NOT LIKE " => some ⟨.like, false, true⟩
  | "REGEXP" => some ⟨.regexp, true, false⟩
  | "NOT REGEXP" => some ⟨.regexp, true, true⟩
  | _ => none

def sqlOperator : Backend → String → Option SqlOperator
  | .mysql => mysqlOperator
  | .pgsql => pgsqlOperator
  | .sqlite3 => sqlite3Operator

/-- The part of a time that a function takes; days of the year are counted from 1. -/
def TimeFunction.part (time : Tm) : TimeFunction → Option Int
  | .extract "YEAR" | .strftime "%Y" => some (time.year + 1900)
  | .extract "MONTH" | .strftime "%m" => some (time.mon + 1)
  | .extract "DOY" | .function "DAYOFYEAR" | .strftime "%j" => some (time.yday + 1)
  | .extract "DAY" | .function "DAYOFMONTH" | .strftime "%d" => some time.mday
  | .extract "DOW" | .strftime "%w" => some time.wday
  | .function "DAYOFWEEK" => some (time.wday + 1)
  | .extract "HOUR" | .strftime "%H" => some time.hour
  | .extract "MINUTE" | .strftime "%M" => some time.min
  | .extract "SECOND" | .strftime "%S" => some time.sec
  | _ => none

/-- How numbers compare; there is no pattern for a number. -/
def Relation.ofNumbers (left right : Int) : Relation → Option Bool
  | .equal => some (left = right)
  | .lesser => some (left < right)
  | .greater => some (right < left)
  | .lesserOrEqual => some (left ≤ right)
  | .greaterOrEqual => some (right ≤ left)
  | .like | .regexp => none

/-- `lower()` of a literal; a timestamp has no letters. -/
def Literal.lower (lowerText : String → String) : Literal → Literal
  | .escaped text => .escaped (lowerText text)
  | .timestamp text => .timestamp text
  | .null => .null

@[simp]
theorem Literal.lower_eq_null {lowerText : String → String} {literal : Literal} :
    literal.lower lowerText = .null ↔ literal = .null := by
  cases literal <;> simp [Literal.lower]

/-- A comparison of a part of a time with a number. -/
def relatePart (backend : Backend) (operator : String) (part : Option Int) (value : Int) : Truth :=
  match sqlOperator backend operator, part with
  | some operator, some part =>
      ((operator.relation.ofNumbers part value).map operator.answer).getD .unknown
  | _, _ => .unknown

/--
A server with its values: how a value that is not NULL compares with a literal, `lower()` of
both, the instant that a value of a time column stands for, and the regular expressions that
the server compiles.
-/
structure SqlServer (backend : Backend) where
  Value : Type
  compare : Relation → Bool → Value → Literal → Bool
  lower : Value → Value
  lowerText : String → String
  instant : Value → Int
  accepts : Literal → Bool

namespace SqlServer

variable {backend : Backend} (server : SqlServer backend)

/--
The comparison comes to an end without an error. PostgreSQL does not look at the pattern for a
cell that is NULL; `sqlite3_regexp` compiles it first, and then hands the NULL to `regexec`.
-/
def evaluates (relation : Relation) (cell : Option server.Value) (pattern : Literal) : Bool :=
  relation ≠ .regexp ||
    match backend with
    | .mysql => server.accepts pattern
    | .pgsql => cell.isNone || server.accepts pattern
    | .sqlite3 => cell.isSome && server.accepts pattern

/-- A comparison of a cell with a literal; whatever is compared with NULL is unknown. -/
def relate (operator : String) (cell : Option server.Value) (value : Literal) : Option Truth :=
  (sqlOperator backend operator).bind fun operator =>
    if server.evaluates operator.relation cell value then
      some <| match cell with
        | none => .unknown
        | some content =>
            if value = .null then .unknown
            else operator.answer
              (server.compare operator.relation operator.caseSensitive content value)
    else none

/-- What an atomic comparison says, where its field is the cell; nothing if it ends in an error. -/
def reads (cell : Option server.Value) : Comparison → Option Truth
  | .fixed _ operator value => server.relate operator cell value
  | .lower _ operator value =>
      server.relate operator (cell.map server.lower) (value.lower server.lowerText)
  | .null _ "IS NULL" => some (.ofBool cell.isNone)
  | .null _ "IS NOT NULL" => some (.ofBool cell.isSome)
  | .null _ _ => none
  | .time function _ _ hours operator _ value =>
      some (relatePart backend operator (cell.bind fun content =>
        function.part (gmtime (server.instant content + hours * 3600))) value)

/-- The truth value of an atomic comparison, as far as it comes to an end. -/
def truth (cell : Option server.Value) (comparison : Comparison) : Truth :=
  (server.reads cell comparison).getD .unknown

/-- MySQL compiles the patterns of a condition before it looks at a row. -/
def prepares (tokens : ConditionText) : Bool :=
  backend ≠ .mysql || tokens.all fun
    | .atom comparison => (server.reads none comparison).isSome
    | _ => true

/-- What a text says of the cell, if it is a condition and no error ends its evaluation. -/
def answer (cell : Option server.Value) (tokens : ConditionText) : Option Truth :=
  if server.prepares tokens then runText (server.reads cell) tokens else none

/-- The text is a condition, and it is true of the cell. -/
def Selects (cell : Option server.Value) (tokens : ConditionText) : Prop :=
  ownValue (server.truth cell) tokens = some .holds

instance (cell : Option server.Value) (tokens : ConditionText) :
    Decidable (server.Selects cell tokens) :=
  inferInstanceAs (Decidable (_ = _))

variable {server} (cell : Option server.Value) {tokens : ConditionText}

theorem selects_iff {meaning : Meaning Comparison} (isConjunction : Conjunction tokens meaning) :
    server.Selects cell tokens ↔ meaning (server.truth cell) = .holds := by
  rcases isConjunction.parse with ⟨condition, parsed, value⟩
  simp [Selects, ownValue, parsed, value]

theorem not_selects (hollow : Hollow tokens) : ¬ server.Selects cell tokens := by
  simp [Selects, ownValue, hollow.parse]

end SqlServer

end RequiemDB
