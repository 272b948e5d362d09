import Mathlib.Data.List.Sort
import Mathlib.Logic.Function.Basic
import RequiemDB.Sql.Operation

/-!
# A transactional database behind the SQL interface

`environment` gives the calls of the plugin the meaning of a database with one
client: the rows that are committed, the rows that the open transaction sees, a
counter for each message table. A plan of faults says which calls fail; a failed
statement changes no row and leaves the transaction open, a failed COMMIT
discards it.

Every stored row remembers the message it was inserted for. No statement reads
this owner; it is there to state whose rows a deletion removes.
-/

namespace RequiemDB

open Lib

/-- A message: its table and the ident of its row there. -/
structure Owner where
  table : MessageTable
  ident : Nat
deriving DecidableEq

/-- A stored row and the message it was inserted for. -/
structure Entry where
  owner : Option Owner
  row : Row
deriving DecidableEq

/-- The row of a message in its own table; `_ident` takes the place of `_message_ident`. -/
def messageRow (owner : Owner) (cells : List (Column × Cell)) : Row where
  table := owner.table.table
  parentType := none
  messageIdent := owner.ident
  parents := []
  index := none
  cells := cells

/-- The rows in the order of their `_index`. -/
def ordered (rows : List Row) : List Row :=
  rows.mergeSort fun left right => decide (left.index.getD 0 ≤ right.index.getD 0)

/-- The statements that may fail without the end of the transaction. -/
def SqlOp.isStatement : SqlOp → Bool
  | .insertMessage _ _ | .insert _ | .delete _ | .selectMaxIdent _ | .select _ => true
  | _ => false

/-- The error of a call, if any, by the call and the number of statements sent before it. -/
abbrev Faults := SqlOp → Nat → Option ErrorCode

/-- No call fails. -/
def noFaults : Faults := fun _ _ => none

/-- Only statements fail, each by its position among the statements sent. -/
def statementFaults (fails : Nat → Option ErrorCode) : Faults := fun op sent =>
  if op.isStatement then fails sent else none

/-- The state of the database, as its one client finds it. -/
structure Store where
  committed : List Entry
  visible : List Entry
  next : MessageTable → Nat
  writing : Option Owner
  sent : Nat

/-- A database without rows whose counters start at one. -/
def Store.empty : Store where
  committed := []
  visible := []
  next := fun _ => 1
  writing := none
  sent := 0

namespace Store

variable (store : Store)

/-- No transaction is open. -/
def Idle : Prop := store.visible = store.committed

def rows : List Row := store.visible.map Entry.row

/-- The message whose row comes next in a message table. -/
def nextOwner (table : MessageTable) : Owner := ⟨table, store.next table⟩

/--
The primary keys are not looked at: a row that one client inserts never has the key of another
one (`Collisions`). The server that many clients share refuses such a row (`Concurrent`).
-/
def insert (row : Row) : Store :=
  { store with visible := store.visible ++ [⟨store.writing, row⟩] }

def insertMessage (table : MessageTable) (cells : List (Column × Cell)) : Store :=
  { store with
    visible := store.visible ++
      [⟨some (store.nextOwner table), messageRow (store.nextOwner table) cells⟩]
    next := Function.update store.next table (store.next table + 1)
    writing := some (store.nextOwner table) }

def delete (statement : Delete) : Store :=
  { store with visible := store.visible.filter fun entry => ¬ statement.Matches entry.row }

def maxIdent (table : MessageTable) : Option Nat :=
  ((store.rows.filter fun row => row.table = table.table).map Row.messageIdent).max?

def select (query : Select) : List Row :=
  let found := store.rows.filter fun row => query.Matches row
  if query.listed then ordered found else found

/--
A call that succeeds. The counters are not rolled back with a transaction, but see `Counting` for
the servers that do.
-/
def accept : (op : SqlOp) → SqlReply op × Store
  | .transactionStart => (0, { store with visible := store.committed, writing := none })
  | .transactionEnd => (0, { store with committed := store.visible, writing := none })
  | .transactionAbort => (0, { store with visible := store.committed, writing := none })
  | .escape input => (.ok (stringLiteral input), store)
  | .escapeBinary input => (.ok (.blob input), store)
  | .unescapeBinary input => (.ok input, store)
  | .insertMessage table cells => (0, store.insertMessage table cells)
  | .insert row => (0, store.insert row)
  | .delete statement => (0, store.delete statement)
  | .selectMaxIdent table =>
      (.ok ((store.maxIdent table).elim .null fun ident => .number ident), store)
  | .select query => (.ok (store.select query), store)
  | .fetchRow _ _ => (.ok (), store)
  | .fetchField cell => (.ok (if cell = .null then none else some cell), store)

/-- A call that fails. -/
def refuse : SqlOp → Store
  | .transactionEnd | .transactionAbort =>
      { store with visible := store.committed, writing := none }
  | _ => store

end Store

/-- What a failed call returns. -/
def refusal (error : ErrorCode) : (op : SqlOp) → SqlReply op
  | .transactionStart | .transactionEnd | .transactionAbort => error.code
  | .escape _ | .escapeBinary _ => .error error
  | .unescapeBinary _ => .error error
  | .insertMessage _ _ | .insert _ | .delete _ => error.code
  | .selectMaxIdent _ => .error error
  | .select _ => .error error
  | .fetchRow _ _ => .error error
  | .fetchField _ => .error error

/-- The statement is counted whether it fails or not. -/
def Store.counted (store : Store) (op : SqlOp) : Store :=
  if op.isStatement then { store with sent := store.sent + 1 } else store

section Counted

variable (store : Store)

@[simp]
theorem counted_escape (input : Option String) : store.counted (.escape input) = store := rfl

@[simp]
theorem counted_fetchRow (table : Table) (fetched : Nat) :
    store.counted (.fetchRow table fetched) = store := rfl

@[simp]
theorem counted_fetchField (cell : Cell) : store.counted (.fetchField cell) = store := rfl

end Counted

def environment (faults : Faults) : Environment SqlReply Store := fun op store =>
  match faults op store.sent with
  | none => (store.counted op).accept op
  | some error => (refusal error op, (store.counted op).refuse op)

theorem environment_of_accepted {faults : Faults} {op : SqlOp} {store : Store}
    (accepted : faults op store.sent = none) :
    environment faults op store = (store.counted op).accept op := by
  simp only [environment, accepted]

theorem environment_of_refused {faults : Faults} {op : SqlOp} {store : Store} {error : ErrorCode}
    (refused : faults op store.sent = some error) :
    environment faults op store = (refusal error op, (store.counted op).refuse op) := by
  simp only [environment, refused]

@[simp]
theorem environment_noFaults (op : SqlOp) (store : Store) :
    environment noFaults op store = (store.counted op).accept op := rfl

end RequiemDB
