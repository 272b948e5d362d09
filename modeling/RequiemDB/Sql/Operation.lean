import Mathlib.Algebra.Order.Ring.Int
import RequiemDB.Lib.Program
import RequiemDB.Sql.Statement

/-!
# The SQL interface of the format plugin

The classic format reaches the database through `requiemdb_sql_*` calls alone. A
plugin function is a `Program` over these calls; what a call does is left to the
environment, which may be a faithful store, a store whose statements fail, or the
connection handle over an SQL plugin.
-/

namespace RequiemDB

open Lib

/-- A return value below zero. -/
structure ErrorCode where
  code : Int
  negative : code < 0
deriving DecidableEq

/-- The code that stands for an error of which only the sign is looked at. -/
theorem minusOne_negative : (-1 : Int) < 0 := by decide

/-- The calls of the plugin, each with the data the environment needs to answer it. -/
inductive SqlOp where
  | transactionStart
  | transactionEnd
  | transactionAbort
  | escape (input : Option String)
  | escapeBinary (input : List UInt8)
  | unescapeBinary (input : List UInt8)
  /-- The insertion into a message table, whose row the server numbers. -/
  | insertMessage (table : MessageTable) (cells : List (Column × Cell))
  | insert (row : Row)
  | delete (statement : Delete)
  | selectMaxIdent (table : MessageTable)
  | select (query : Select)
  /--
  `requiemdb_sql_table_fetch_row` on the rows that a query on `table` answered, `fetched` of
  which were fetched before.
  -/
  | fetchRow (table : Table) (fetched : Nat)
  /-- `requiemdb_sql_row_fetch_field` on a cell of a fetched row. -/
  | fetchField (cell : Cell)
deriving DecidableEq

/--
What a call returns: a return value, or an error or the data of a success. A field is
absent when `requiemdb_sql_row_fetch_field` returns 0.
-/
abbrev SqlReply : SqlOp → Type
  | .transactionStart | .transactionEnd | .transactionAbort => Int
  | .escape _ | .escapeBinary _ => Except ErrorCode Cell
  | .unescapeBinary _ => Except ErrorCode (List UInt8)
  | .insertMessage _ _ | .insert _ | .delete _ => Int
  | .selectMaxIdent _ => Except ErrorCode Cell
  | .select _ => Except ErrorCode (List Row)
  | .fetchRow _ _ => Except ErrorCode Unit
  | .fetchField _ => Except ErrorCode (Option Cell)

/-- A function of the plugin. -/
abbrev Sql := Program SqlReply

/-- `ret = program; if ( ret < 0 ) return ret;` before the rest of a function. -/
def checked (program : Sql Int) (rest : Sql Int) : Sql Int :=
  program >>= fun ret => if ret < 0 then .done ret else rest

theorem run_checked {State : Type} (environment : Environment SqlReply State)
    (program rest : Sql Int) (state : State) :
    (checked program rest).run environment state =
      if (program.run environment state).1 < 0 then program.run environment state
      else rest.run environment (program.run environment state).2 := by
  rw [checked, Program.run_bind]
  split <;> rfl

/-- `requiemdb_sql_escape`; on an error the function returns `onError` of it. -/
def escapeOr (onError : ErrorCode → ErrorCode) (input : Option String) (rest : Cell → Sql Int) :
    Sql Int :=
  .perform (.escape input) fun
    | .error error => .done (onError error).code
    | .ok literal => rest literal

/-- `requiemdb_sql_escape` where an error is handed on as it is. -/
def requiemdbSqlEscape (input : Option String) (rest : Cell → Sql Int) : Sql Int :=
  escapeOr id input rest

def requiemdbSqlEscapeBinary (input : List UInt8) (rest : Cell → Sql Int) : Sql Int :=
  .perform (.escapeBinary input) fun
    | .error error => .done error.code
    | .ok literal => rest literal

/-- `requiemdb_sql_insert` into a table whose key columns the caller writes. -/
def requiemdbSqlInsert (row : Row) : Sql Int :=
  .perform (.insert row) .done

/-- The literal of a string: `NULL`, or the quoted text. -/
def stringLiteral : Option String → Cell
  | none => .null
  | some value => .text value

/-- `get_optional_uint8` to `get_optional_int32`: `NULL`, or the decimal number. -/
def optionalNumber (value : Option Int) : Cell :=
  value.elim .null .number

end RequiemDB
