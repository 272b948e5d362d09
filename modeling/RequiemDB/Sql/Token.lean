import RequiemDB.Query.Criterion

/-!
# The tokens of a statement

What the formats of the source write, token by token. A text that was escaped is one
literal, whatever it is.
-/

namespace RequiemDB

inductive SqlToken where
  /-- A keyword, a name or a sign. -/
  | word (text : String)
  | column (column : Column)
  | number (value : Int)
  | decimal (millionths : Int)
  | text (content : String)
  | blob (content : List UInt8)
deriving DecidableEq

abbrev SqlTokens := List SqlToken

def Cell.token : Cell → SqlToken
  | .null => .word "NULL"
  | .text value => .text value
  | .number value => .number value
  | .decimal millionths => .decimal millionths
  | .timestamp sec => .text (buildTimestampString (gmtime sec.toNat))
  | .blob value => .blob value

/-- A cell without the content of a text or a binary string. -/
def Cell.blank : Cell → Cell
  | .text _ => .text ""
  | .blob _ => .blob []
  | cell => cell

def Row.blank (row : Row) : Row :=
  { row with cells := row.cells.map fun (column, cell) => (column, cell.blank) }

def ParentType.letter : ParentType → String
  | .A => "A"
  | .C => "C"
  | .F => "F"
  | .H => "H"
  | .S => "S"
  | .T => "T"

def parentIndexName (level : Nat) : String := "_parent" ++ level.repr ++ "_index"

/-- The key columns that the statement of a row names, with their values. -/
def Row.key (row : Row) : List (SqlToken × SqlToken) :=
  (row.parentType.elim [] fun letter => [(.word "_parent_type", .text letter.letter)]) ++
    [(.word "_message_ident", .number row.messageIdent)] ++
    row.parents.zipIdx.map (fun (index, level) => (.word (parentIndexName level), .number index)) ++
    row.index.elim [] fun index => [(.word "_index", .number index)]

def cellTokens (cells : List (Column × Cell)) : List (SqlToken × SqlToken) :=
  cells.map fun (column, cell) => (.column column, cell.token)

/-- `INSERT INTO table (names) VALUES(values)`. -/
def insertTokens (table : Table) (values : List (SqlToken × SqlToken)) : SqlTokens :=
  [.word "INSERT", .word "INTO", .word table.sqlName, .word "("] ++
    (values.map Prod.fst).intersperse (.word ",") ++ [.word ")", .word "VALUES", .word "("] ++
    (values.map Prod.snd).intersperse (.word ",") ++ [.word ")"]

def Row.tokens (row : Row) : SqlTokens := insertTokens row.table (row.key ++ cellTokens row.cells)

end RequiemDB
