import Mathlib.Order.Basic
import RequiemDB.Lib.Machine

/-!
# Reading from a result table

`requiemdb_sql_table_fetch_row` and `requiemdb_sql_row_fetch_field` over the
`sql_fetch_row` and `sql_fetch_field` of the three plugins. Each plugin keeps its
own cursor: MySQL the rows of the client library, whose lengths belong to the row
that was fetched last; PostgreSQL a position without any row object; SQLite a
list of copied rows and a pointer to the current one. The rows that a user holds
are the ones the core keeps with the table.

`cursor` is the cursor that the plugins stand for: the rows in order, then the
end for ever, and each cell as often as it is asked for.
-/

namespace RequiemDB

open Lib

/-- The rows that the server answers; a cell is NULL or a text. -/
structure ResultSet where
  ncolumn : Nat
  rows : List (List (Option (List UInt8)))
  aligned : ∀ row ∈ rows, row.length = ncolumn

namespace ResultSet

variable (result : ResultSet)

def nrow : Nat := result.rows.length

def cell (row column : Nat) : Option (List UInt8) :=
  (result.rows[row]?.bind fun cells => cells[column]?).join

end ResultSet

/-- The calls on one table; a row is named by its number among the rows handed out. -/
inductive CursorCall where
  | fetchRow
  | fetchField (row column : Nat)
deriving DecidableEq

/-- What `sql_fetch_field` returns: an error, 0 for an absent field, or 1, a value and a length. -/
inductive FieldReply where
  | invalidColumnNum
  | generic
  | absent
  | field (value : List UInt8) (len : Nat)
deriving DecidableEq

/-- What a call returns; a row that was not handed out cannot be asked for a field. -/
inductive CursorReply where
  | row
  | noMoreRows
  | read (reply : FieldReply)
  | noSuchRow
deriving DecidableEq

/-- A field of a text: its bytes and their number. -/
def FieldReply.ofCell : Option (List UInt8) → FieldReply
  | none => .absent
  | some value => .field value value.length

/-- The cursor, by the number of rows that it was asked for. -/
def cursor (result : ResultSet) : Machine Nat CursorCall CursorReply := fun calls call =>
  match call with
  | .fetchRow => (if calls < result.nrow then .row else .noMoreRows, calls + 1)
  | .fetchField row column =>
      (if row < min calls result.nrow then
        .read (if column < result.ncolumn then .ofCell (result.cell row column)
          else .invalidColumnNum)
      else .noSuchRow, calls)

/-- The two functions of a plugin; a `Pointer` is what `*row` is set to. -/
structure CursorPlugin (Resource Pointer : Type) where
  /-- 0 without a row, 1 with one. -/
  sqlFetchRow : Resource → Option Pointer × Resource
  sqlFetchField : Resource → Pointer → Nat → FieldReply

/-- `requiemdb_sql_table_t`: the plugin's resource, and the rows handed out. -/
structure SqlTable (Resource Pointer : Type) where
  res : Resource
  rowList : List Pointer

/-- `requiemdb_sql_table_fetch_row` and `requiemdb_sql_row_fetch_field`. -/
def CursorPlugin.table {Resource Pointer : Type} (plugin : CursorPlugin Resource Pointer) :
    Machine (SqlTable Resource Pointer) CursorCall CursorReply := fun table call =>
  match call with
  | .fetchRow =>
      match plugin.sqlFetchRow table.res with
      | (none, res) => (.noMoreRows, { table with res })
      | (some pointer, res) => (.row, ⟨res, table.rowList ++ [pointer]⟩)
  | .fetchField row column =>
      match table.rowList[row]? with
      | none => (.noSuchRow, table)
      | some pointer => (.read (plugin.sqlFetchField table.res pointer column), table)

section Mysql

/-- `MYSQL_RES`: the position of the next row, and whether the end was reached. -/
structure MysqlResource where
  result : ResultSet
  next : Nat
  ended : Bool

/-- `mysql_fetch_row`. -/
def mysqlFetchRow (res : MysqlResource) : Option Nat × MysqlResource :=
  if res.next < res.result.nrow then (some res.next, { res with next := res.next + 1 })
  else (none, { res with ended := true })

/--
`mysql_fetch_lengths`: the lengths of the row fetched last. Whether the library still gives
them behind the end is a parameter.
-/
def mysqlFetchLengths (lengthsBehindEnd : Bool) (res : MysqlResource) : Option (Nat → Nat) :=
  if res.next = 0 ∨ (res.ended ∧ ¬ lengthsBehindEnd) then none
  else some fun column => ((res.result.cell (res.next - 1) column).map List.length).getD 0

/-- The session reports no error: no other call is made on it in between. -/
def mysqlPlugin (lengthsBehindEnd : Bool) : CursorPlugin MysqlResource Nat where
  sqlFetchRow := mysqlFetchRow
  sqlFetchField res row column :=
    if column ≥ res.result.ncolumn then .invalidColumnNum
    else
      match mysqlFetchLengths lengthsBehindEnd res with
      | none => .generic
      | some lengths =>
          match res.result.cell row column with
          | none => .absent
          | some value => .field value (lengths column)

end Mysql

section Pgsql

/-- `struct pg_result`. -/
structure PgResult where
  result : ResultSet
  row : Int

/-- `*row` is set to NULL; fields are read at the position of the resource. -/
def pgsqlPlugin : CursorPlugin PgResult Unit where
  sqlFetchRow res :=
    if res.row + 1 < res.result.nrow then (some (), { res with row := res.row + 1 })
    else (none, res)
  sqlFetchField res _ column :=
    if column ≥ res.result.ncolumn then .invalidColumnNum
    else .ofCell (res.result.cell res.row.toNat column)

end Pgsql

section Sqlite3

/-- `sqlite3_field_t`. -/
structure Sqlite3Field where
  len : Nat
  data : Option (List UInt8)

/-- `sqlite3_resource_t`; a row is its position in the list. -/
structure Sqlite3Resource where
  ncolumn : Nat
  rows : List (List Sqlite3Field)
  currentRow : Option Nat

/-- `sql_resource_field_copy`: a field without bytes is stored as NULL. -/
def sqlResourceFieldCopy (cell : Option (List UInt8)) : Sqlite3Field :=
  let len := (cell.map List.length).getD 0
  if len = 0 then ⟨0, none⟩ else ⟨len, cell⟩

/-- `sql_read_row`. -/
def sqlReadRow (result : ResultSet) : Sqlite3Resource where
  ncolumn := result.ncolumn
  rows := result.rows.map (·.map sqlResourceFieldCopy)
  currentRow := none

/-- `requiem_list_get_next`, which starts at the first element behind NULL. -/
def requiemListGetNext {α : Type} (list : List α) (position : Option Nat) : Option Nat :=
  let next := position.elim 0 (· + 1)
  if next < list.length then some next else none

def sqlite3Plugin : CursorPlugin Sqlite3Resource Nat where
  sqlFetchRow res :=
    let row := requiemListGetNext res.rows res.currentRow
    (row, { res with currentRow := row })
  sqlFetchField res row column :=
    if column ≥ res.ncolumn then .invalidColumnNum
    else
      match res.rows[row]?.bind fun fields => fields[column]? with
      | none => .absent
      | some field => if field.len = 0 then .absent else .field (field.data.getD []) field.len

end Sqlite3

/-- The three plugins. -/
inductive SqlPlugin where
  | mysql (lengthsBehindEnd : Bool)
  | pgsql
  | sqlite3

/-- What the calls on a table are answered with a plugin. -/
def SqlPlugin.replies (result : ResultSet) (calls : List CursorCall) :
    SqlPlugin → List CursorReply
  | .mysql lengthsBehindEnd =>
      (mysqlPlugin lengthsBehindEnd).table.replies calls ⟨⟨result, 0, false⟩, []⟩
  | .pgsql => pgsqlPlugin.table.replies calls ⟨⟨result, -1⟩, []⟩
  | .sqlite3 => sqlite3Plugin.table.replies calls ⟨sqlReadRow result, []⟩

/-- The row that was fetched last, of the rows asked for. -/
def ResultSet.lastFetched (result : ResultSet) (calls : Nat) : Nat := min calls result.nrow - 1

/--
The calls that a plugin answers like the cursor, by the number of rows asked for before:
with MySQL a field that is not behind the end and as long as that of the row fetched last;
with PostgreSQL a field that is that of the row fetched last; with SQLite a row that is not
asked for a second time behind the end, and a field that is not empty.
-/
def SqlPlugin.Follows (result : ResultSet) (plugin : SqlPlugin) (calls : Nat) :
    CursorCall → Prop
  | .fetchRow =>
      match plugin with
      | .mysql _ | .pgsql => True
      | .sqlite3 => calls ≤ result.nrow ∨ result.nrow = 0
  | .fetchField row column =>
      row < min calls result.nrow → column < result.ncolumn →
        match plugin with
        | .mysql lengthsBehindEnd =>
            (calls ≤ result.nrow ∨ lengthsBehindEnd = true) ∧
              ∀ value ∈ result.cell row column,
                ((result.cell (result.lastFetched calls) column).map List.length).getD 0 =
                  value.length
        | .pgsql => result.cell (result.lastFetched calls) column = result.cell row column
        | .sqlite3 => result.cell row column ≠ some []

section Follow

variable {Resource Pointer : Type} {plugin : CursorPlugin Resource Pointer} {result : ResultSet}

/--
A plugin goes with the cursor: behind a number of calls its table is the one told by
`tables`, whose rows are the pointers, and it answers like the cursor exactly the calls that
follow it.
-/
structure GoesWith (plugin : CursorPlugin Resource Pointer) (result : ResultSet)
    (follows : Nat → CursorCall → Prop) (tables : Nat → SqlTable Resource Pointer)
    (pointer : Nat → Pointer) : Prop where
  rowList : ∀ calls, (tables calls).rowList = (List.range (min calls result.nrow)).map pointer
  fetchRow : ∀ calls, follows calls .fetchRow →
    plugin.table (tables calls) .fetchRow =
      (if calls < result.nrow then .row else .noMoreRows, tables (calls + 1))
  wrongRow : ∀ calls, ¬ follows calls .fetchRow →
    (plugin.table (tables calls) .fetchRow).1 ≠ if calls < result.nrow then .row else .noMoreRows
  invalidColumn : ∀ calls row column, result.ncolumn ≤ column →
    plugin.sqlFetchField (tables calls).res (pointer row) column = .invalidColumnNum
  fetchField : ∀ calls row column, row < min calls result.nrow → column < result.ncolumn →
    (plugin.sqlFetchField (tables calls).res (pointer row) column =
      .ofCell (result.cell row column) ↔ follows calls (.fetchField row column))
  elsewhere : ∀ calls row column,
    ¬ (row < min calls result.nrow ∧ column < result.ncolumn) →
      follows calls (.fetchField row column)

/-- The field of a row that was handed out is asked of the plugin. -/
theorem table_fetchField {table : SqlTable Resource Pointer} {pointer : Nat → Pointer}
    {bound : Nat} (rows : table.rowList = (List.range bound).map pointer) (row column : Nat) :
    plugin.table table (.fetchField row column) =
      (if row < bound then .read (plugin.sqlFetchField table.res (pointer row) column)
        else .noSuchRow, table) := by
  simp only [CursorPlugin.table, rows, List.getElem?_map]
  by_cases inside : row < bound <;> simp [inside]

theorem GoesWith.implements {follows : Nat → CursorCall → Prop}
    {tables : Nat → SqlTable Resource Pointer} {pointer : Nat → Pointer}
    (goesWith : GoesWith plugin result follows tables pointer) :
    Machine.Implements plugin.table (cursor result) follows
      fun table calls => table = tables calls where
  agrees := by
    rintro _ calls call rfl isFollowed
    cases call with
    | fetchRow =>
        rw [goesWith.fetchRow calls isFollowed]
        exact ⟨rfl, rfl⟩
    | fetchField row column =>
        rw [table_fetchField (goesWith.rowList calls)]
        refine ⟨?_, rfl⟩
        simp only [cursor]
        by_cases handedOut : row < min calls result.nrow
        · by_cases inside : column < result.ncolumn
          · have same := (goesWith.fetchField calls row column handedOut inside).mpr isFollowed
            simp only [handedOut, inside, if_true, same]
          · have invalid := goesWith.invalidColumn calls row column (by omega)
            simp only [handedOut, inside, if_true, if_false, invalid]
        · simp only [handedOut, if_false]
  differs := by
    rintro _ calls call rfl wrong
    cases call with
    | fetchRow => exact goesWith.wrongRow calls wrong
    | fetchField row column =>
        rw [table_fetchField (goesWith.rowList calls)]
        have both : row < min calls result.nrow ∧ column < result.ncolumn := by
          by_contra outside
          exact wrong (goesWith.elsewhere calls row column outside)
        have other := mt (goesWith.fetchField calls row column both.1 both.2).mp wrong
        simpa only [cursor, both.1, both.2, if_true, ne_eq, CursorReply.read.injEq] using other

end Follow

section Plugins

variable (result : ResultSet)

theorem min_succ_nrow (calls : Nat) :
    min (calls + 1) result.nrow =
      if calls < result.nrow then min calls result.nrow + 1 else min calls result.nrow := by
  split <;> omega

/-- The table of MySQL behind a number of calls. -/
def mysqlTable (calls : Nat) : SqlTable MysqlResource Nat :=
  ⟨⟨result, min calls result.nrow, decide (result.nrow < calls)⟩,
    (List.range (min calls result.nrow)).map id⟩

/-- The table of PostgreSQL behind a number of calls. -/
def pgsqlTable (calls : Nat) : SqlTable PgResult Unit :=
  ⟨⟨result, (min calls result.nrow : Nat) - 1⟩,
    (List.range (min calls result.nrow)).map fun _ => ()⟩

/-- The table of SQLite behind calls none of which starts again behind the end. -/
def sqlite3Table (calls : Nat) : SqlTable Sqlite3Resource Nat :=
  ⟨{ sqlReadRow result with
      currentRow := if calls = 0 ∨ result.nrow < calls then none else some (calls - 1) },
    (List.range (min calls result.nrow)).map id⟩

theorem mysql_fetchRow (lengthsBehindEnd : Bool) (calls : Nat) :
    (mysqlPlugin lengthsBehindEnd).table (mysqlTable result calls) .fetchRow =
      (if calls < result.nrow then .row else .noMoreRows, mysqlTable result (calls + 1)) := by
  by_cases more : calls < result.nrow
  · have here : min calls result.nrow = calls := by omega
    have notEnded : ¬ result.nrow < calls := by omega
    have notEndedNow : ¬ result.nrow < calls + 1 := by omega
    simp only [mysqlTable, min_succ_nrow]
    simp [CursorPlugin.table, mysqlPlugin, mysqlFetchRow, here, more, notEnded, notEndedNow,
      List.range_succ]
  · have here : min calls result.nrow = result.nrow := by omega
    have ended : result.nrow < calls + 1 := by omega
    simp [CursorPlugin.table, mysqlPlugin, mysqlFetchRow, mysqlTable, here, more, ended,
      min_succ_nrow]

theorem mysql_goesWith (lengthsBehindEnd : Bool) :
    GoesWith (mysqlPlugin lengthsBehindEnd) result
      ((SqlPlugin.mysql lengthsBehindEnd).Follows result) (mysqlTable result) id where
  rowList _ := rfl
  fetchRow calls _ := mysql_fetchRow result lengthsBehindEnd calls
  wrongRow calls wrong := absurd trivial wrong
  invalidColumn calls row column outside := if_pos outside
  fetchField calls row column handedOut inside := by
    have fetched : min calls result.nrow ≠ 0 := by omega
    have notOutside : ¬ result.ncolumn ≤ column := by omega
    by_cases gone : result.nrow < calls ∧ lengthsBehindEnd = false
    · have behind : ¬ (calls ≤ result.nrow ∨ lengthsBehindEnd = true) := by
        rw [gone.2]
        simpa using gone.1
      simp only [SqlPlugin.Follows, behind, false_and]
      simp [mysqlPlugin, mysqlTable, notOutside, mysqlFetchLengths, gone, handedOut, inside]
      cases result.cell row column <;> simp [FieldReply.ofCell]
    · have here : calls ≤ result.nrow ∨ lengthsBehindEnd = true := by
        cases lengthsBehindEnd <;> simp_all
      have notGone : ¬ (min calls result.nrow = 0 ∨
          decide (result.nrow < calls) = true ∧ ¬ lengthsBehindEnd = true) := by
        rintro (none | ⟨ended, notGiven⟩)
        · exact fetched none
        · have isEnded : result.nrow < calls := of_decide_eq_true ended
          rcases here with here | given
          · omega
          · exact notGiven given
      simp only [SqlPlugin.Follows, here, true_and, handedOut, inside, forall_const, mysqlPlugin,
        mysqlTable, id, ge_iff_le, notOutside, if_false, mysqlFetchLengths, notGone]
      cases result.cell row column with
      | none => simp [FieldReply.ofCell]
      | some value => simp [FieldReply.ofCell, ResultSet.lastFetched]
  elsewhere calls row column outside handedOut inside := absurd ⟨handedOut, inside⟩ outside

theorem pgsql_fetchRow (calls : Nat) :
    pgsqlPlugin.table (pgsqlTable result calls) .fetchRow =
      (if calls < result.nrow then .row else .noMoreRows, pgsqlTable result (calls + 1)) := by
  by_cases more : calls < result.nrow
  · have here : min calls result.nrow = calls := by omega
    simp only [pgsqlTable, min_succ_nrow]
    simp [CursorPlugin.table, pgsqlPlugin, here, more, List.range_succ]
  · have here : min calls result.nrow = result.nrow := by omega
    simp [CursorPlugin.table, pgsqlPlugin, pgsqlTable, here, more, min_succ_nrow]

theorem ofCell_injective : Function.Injective FieldReply.ofCell := by
  intro left right same
  cases left <;> cases right <;> simp_all [FieldReply.ofCell]

theorem pgsql_goesWith :
    GoesWith pgsqlPlugin result (SqlPlugin.pgsql.Follows result) (pgsqlTable result)
      fun _ => () where
  rowList _ := rfl
  fetchRow calls _ := pgsql_fetchRow result calls
  wrongRow calls wrong := absurd trivial wrong
  invalidColumn calls row column outside := if_pos outside
  fetchField calls row column handedOut inside := by
    have notOutside : ¬ result.ncolumn ≤ column := by omega
    have position : ((min calls result.nrow : Nat) - 1 : Int).toNat = result.lastFetched calls := by
      rw [ResultSet.lastFetched]
      omega
    simp only [SqlPlugin.Follows, handedOut, inside, forall_const, pgsqlPlugin, pgsqlTable,
      ge_iff_le, notOutside, if_false, position]
    exact ofCell_injective.eq_iff
  elsewhere calls row column outside handedOut inside := absurd ⟨handedOut, inside⟩ outside

/-- The next row of the copied list; behind the end it is the first one again. -/
theorem sqlite3_next (calls : Nat) :
    requiemListGetNext (sqlReadRow result).rows (sqlite3Table result calls).res.currentRow =
      if result.nrow < calls ∧ result.nrow ≠ 0 then some 0
      else if calls < result.nrow then some calls else none := by
  have rows : (sqlReadRow result).rows.length = result.nrow := by simp [sqlReadRow, ResultSet.nrow]
  simp only [requiemListGetNext, rows, sqlite3Table]
  split <;> split <;> grind

/-- A copied field, without bytes where the cell is NULL or empty. -/
theorem sqlite3_field {row column : Nat} (handedOut : row < result.nrow)
    (inside : column < result.ncolumn) :
    ((sqlReadRow result).rows[row]?.bind fun fields => fields[column]?) =
      some (sqlResourceFieldCopy (result.cell row column)) := by
  have atRow : result.rows[row]? = some result.rows[row] := List.getElem?_eq_getElem handedOut
  have aligned := result.aligned _ (List.getElem_mem handedOut)
  have atColumn : result.rows[row][column]? = some result.rows[row][column] :=
    List.getElem?_eq_getElem (by rw [aligned]; exact inside)
  simp [sqlReadRow, ResultSet.cell, atRow, atColumn]

/-- A copied field is read like the cell it was copied from, unless that is empty. -/
theorem sqlResourceFieldCopy_read (cell : Option (List UInt8)) :
    (if (sqlResourceFieldCopy cell).len = 0 then FieldReply.absent
      else .field ((sqlResourceFieldCopy cell).data.getD []) (sqlResourceFieldCopy cell).len) =
      .ofCell cell ↔ cell ≠ some [] := by
  cases cell with
  | none => simp [sqlResourceFieldCopy, FieldReply.ofCell]
  | some value =>
      cases value with
      | nil => simp [sqlResourceFieldCopy, FieldReply.ofCell]
      | cons byte bytes => simp [sqlResourceFieldCopy, FieldReply.ofCell]

theorem sqlite3_goesWith :
    GoesWith sqlite3Plugin result (SqlPlugin.sqlite3.Follows result) (sqlite3Table result)
      id where
  rowList _ := rfl
  fetchRow calls followed := by
    have next := sqlite3_next result calls
    have notAgain : ¬ (result.nrow < calls ∧ result.nrow ≠ 0) := by
      rcases followed with here | none <;> omega
    rw [if_neg notAgain] at next
    simp only [CursorPlugin.table, sqlite3Plugin]
    have sameRows : (sqlite3Table result calls).res.rows = (sqlReadRow result).rows := rfl
    rw [sameRows, next]
    by_cases more : calls < result.nrow
    · have here : min calls result.nrow = calls := by omega
      have notEnded : ¬ result.nrow < calls + 1 := by omega
      simp only [sqlite3Table, min_succ_nrow]
      simp [more, here, notEnded, List.range_succ]
    · have ended : result.nrow < calls + 1 := by omega
      simp [more, sqlite3Table, ended, min_succ_nrow]
  wrongRow calls wrong := by
    have next := sqlite3_next result calls
    have again : result.nrow < calls ∧ result.nrow ≠ 0 := by
      simpa [SqlPlugin.Follows] using wrong
    have noMore : ¬ calls < result.nrow := by omega
    rw [if_pos again] at next
    simp only [CursorPlugin.table, sqlite3Plugin]
    have sameRows : (sqlite3Table result calls).res.rows = (sqlReadRow result).rows := rfl
    rw [sameRows, next, if_neg noMore]
    exact fun same => CursorReply.noConfusion same
  invalidColumn calls row column outside := if_pos outside
  fetchField calls row column handedOut inside := by
    have notOutside : ¬ result.ncolumn ≤ column := by omega
    have found := sqlite3_field result (show row < result.nrow by omega) inside
    have sameRows : (sqlite3Table result calls).res.rows = (sqlReadRow result).rows := rfl
    have sameColumns : (sqlite3Table result calls).res.ncolumn = result.ncolumn := rfl
    simp only [SqlPlugin.Follows, handedOut, inside, forall_const, sqlite3Plugin, id, ge_iff_le,
      sameColumns, notOutside, if_false, sameRows, found]
    exact sqlResourceFieldCopy_read _
  elsewhere calls row column outside handedOut inside := absurd ⟨handedOut, inside⟩ outside

/--
A plugin answers a sequence of calls like the cursor exactly if every call follows it in the
state the cursor is in.
-/
theorem replies_eq_cursor_iff (plugin : SqlPlugin) (calls : List CursorCall) :
    plugin.replies result calls = (cursor result).replies calls 0 ↔
      (cursor result).Along (plugin.Follows result) calls 0 := by
  cases plugin with
  | mysql lengthsBehindEnd =>
      refine (mysql_goesWith result lengthsBehindEnd).implements.replies_eq_iff calls ?_
      simp [mysqlTable]
  | pgsql =>
      refine (pgsql_goesWith result).implements.replies_eq_iff calls ?_
      simp [pgsqlTable]
  | sqlite3 =>
      refine (sqlite3_goesWith result).implements.replies_eq_iff calls ?_
      simp [sqlite3Table, sqlReadRow]

end Plugins

/-- Two rows of one column each, `a` and `bb`. -/
def twoRows : ResultSet where
  ncolumn := 1
  rows := [[some [97]], [some [98, 98]]]
  aligned := by decide

/-- Both rows, the first field of the first one, and two more rows behind the end. -/
def readsBack : List CursorCall :=
  [.fetchRow, .fetchRow, .fetchField 0 0, .fetchRow, .fetchRow]

/--
MySQL gives the first field the length of the second, PostgreSQL gives the second field, and
SQLite starts again behind the end.
-/
theorem readsBack_not_cursor :
    SqlPlugin.replies twoRows readsBack (.mysql true) ≠ (cursor twoRows).replies readsBack 0 ∧
      SqlPlugin.replies twoRows readsBack .pgsql ≠ (cursor twoRows).replies readsBack 0 ∧
      SqlPlugin.replies twoRows readsBack .sqlite3 ≠ (cursor twoRows).replies readsBack 0 := by
  decide

end RequiemDB
