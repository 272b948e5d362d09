import RequiemDB.Classic.AllOrNothing
import RequiemDB.Lib.Threads
import RequiemDB.Sql.Handle

/-!
# The steps of two threads on one handle

The functions of the handle that start and end transactions, taken apart into the steps that
other threads can come between: a test of `internal_transaction_disabled`, a test of the
status word, the mutex, one statement on the server. One thread starts a transaction for the
user, inserts messages and ends it; the other one inserts a message.
-/

namespace RequiemDB.Stepwise

open Lib Handle

variable {E : EnumKind → Type} [Librequiem E]

inductive Step where
  | testDisabled
  | setDisabled (value : Bool)
  | lock
  | unlock
  | testStatus
  | setStatus (value : Bool)
  | query (text : Query)
  /-- A call of the SQL plugin that is neither BEGIN nor COMMIT nor ROLLBACK. -/
  | call (op : SqlOp)

abbrev StepReply : Step → Type
  | .testDisabled | .testStatus => Bool
  | .setDisabled _ | .setStatus _ | .lock | .unlock => Unit
  | .query _ => Int
  | .call op => SqlReply op

abbrev Steps := Program StepReply

section Functions

def requiemdbSqlQuery (text : Query) : Steps Int :=
  .perform .lock fun _ => .perform (.query text) fun ret => .perform .unlock fun _ => .done ret

/-- `_requiemdb_sql_transaction_start`: a success keeps the mutex locked. -/
def sqlTransactionStart : Steps Int :=
  .perform .lock fun _ =>
  .perform .testStatus fun inTransaction =>
  if inTransaction then .perform .unlock fun _ => .done transactionError
  else requiemdbSqlQuery .begin >>= fun ret =>
    if ret < 0 then .perform .unlock fun _ => .done ret
    else .perform (.setStatus true) fun _ => .done ret

def sqlTransactionEnd : Steps Int :=
  .perform .testStatus fun inTransaction =>
  if inTransaction then
    requiemdbSqlQuery .commit >>= fun ret =>
    .perform (.setStatus false) fun _ => .perform .unlock fun _ => .done ret
  else .done transactionError

def sqlTransactionAbort : Steps Int :=
  .perform .testStatus fun inTransaction =>
  if inTransaction then
    .perform (.setStatus false) fun _ =>
    requiemdbSqlQuery .rollback >>= fun ret => .perform .unlock fun _ => .done ret
  else .done transactionError

/-- The test of `internal_transaction_disabled`, which takes no lock. -/
def unlessDisabled (function : Steps Int) : Steps Int :=
  .perform .testDisabled fun disabled => if disabled then .done 0 else function

def requiemdbTransactionStart : Steps Int :=
  sqlTransactionStart >>= fun ret =>
  if ret < 0 then .done ret else .perform (.setDisabled true) fun _ => .done ret

def requiemdbTransactionEnd : Steps Int :=
  sqlTransactionEnd >>= fun ret => .perform (.setDisabled false) fun _ => .done ret

/-- A call under the mutex. -/
def locked (op : SqlOp) : Steps (SqlReply op) :=
  .perform .lock fun _ => .perform (.call op) fun reply => .perform .unlock fun _ => .done reply

/-- A call of the format plugin. NULL is escaped without the SQL plugin. -/
def pluginCall : (op : SqlOp) → Steps (SqlReply op)
  | .transactionStart => unlessDisabled sqlTransactionStart
  | .transactionEnd => unlessDisabled sqlTransactionEnd
  | .transactionAbort => unlessDisabled sqlTransactionAbort
  | .escape none => .perform (.call (.escape none)) .done
  | .fetchRow table fetched => .perform (.call (.fetchRow table fetched)) .done
  | .fetchField cell => .perform (.call (.fetchField cell)) .done
  | op => locked op

/-- A function of the format plugin in its steps. -/
def stepsOf {α : Type} : Sql α → Steps α
  | .done answer => .done answer
  | .perform op next => pluginCall op >>= fun reply => stepsOf (next reply)

/-- The messages that a thread inserts one after the other. -/
def insertAll : List (Message E) → Steps Int
  | [] => .done 0
  | message :: messages => stepsOf (classicInsert message) >>= fun _ => insertAll messages

/-- A transaction of the user. -/
def transacting (messages : List (Message E)) : Steps Int :=
  requiemdbTransactionStart >>= fun ret =>
  if ret < 0 then .done ret else insertAll messages >>= fun _ => requiemdbTransactionEnd

/-- The other thread. -/
def inserting (message : Message E) : Steps Int := stepsOf (classicInsert message)

end Functions

/-- The two threads: with a transaction of the user, and with a message of its own. -/
inductive Party where
  | user | inserter
deriving DecidableEq

/-- The handle, the server, and what the threads did. -/
structure Shared where
  internalTransactionDisabled : Bool
  inTransaction : Bool
  /-- The owner of the recursive mutex and how often it has locked it. -/
  holder : Option Party
  depth : Nat
  /-- The transaction that is open on the server. -/
  open_ : Option Nat
  begun : Nat
  committed : List Nat
  store : Store
  /-- The transaction in which each statement of a thread ran. -/
  statements : Party → List (Option Nat)
  /-- What each test of `internal_transaction_disabled` by a thread has read. -/
  tests : Party → List Bool

/-- A connected handle, on which nothing has been done. -/
def Shared.on (store : Store) : Shared where
  internalTransactionDisabled := false
  inTransaction := false
  holder := none
  depth := 0
  open_ := none
  begun := 0
  committed := []
  store := store
  statements := fun _ => []
  tests := fun _ => []

namespace Shared

variable (shared : Shared) (party : Party)

/-- A call of the plugin; outside of a transaction a statement commits by itself. -/
def call (op : SqlOp) : SqlReply op × Shared :=
  let (reply, store) := RequiemDB.environment noFaults op shared.store
  let ran := shared.statements party ++ [shared.open_]
  (reply,
    if op.isStatement then { shared with
      store := if shared.open_ = none then { store with committed := store.visible } else store
      statements := Function.update shared.statements party ran }
    else { shared with store })

/-- BEGIN, COMMIT and ROLLBACK. -/
def carryOut : Query → Shared
  | .begin => { shared with
      store := (shared.store.accept .transactionStart).2, open_ := some shared.begun,
      begun := shared.begun + 1 }
  | .commit => { shared with
      store := (shared.store.accept .transactionEnd).2, open_ := none,
      committed := shared.committed ++ shared.open_.toList }
  | .rollback => { shared with
      store := (shared.store.accept .transactionAbort).2, open_ := none }
  | .other => shared

/-- One step of a thread, without a failure of the database. -/
def serve : (op : Step) → Option (StepReply op × Shared)
  | .testDisabled =>
      let value := shared.internalTransactionDisabled
      some (value, { shared with
        tests := Function.update shared.tests party (shared.tests party ++ [value]) })
  | .setDisabled value => some ((), { shared with internalTransactionDisabled := value })
  | .lock =>
      if shared.holder = none then some ((), { shared with holder := some party, depth := 1 })
      else if shared.holder = some party then some ((), { shared with depth := shared.depth + 1 })
      else none
  | .unlock =>
      if shared.holder ≠ some party then some ((), shared)
      else if shared.depth = 1 then some ((), { shared with holder := none, depth := 0 })
      else some ((), { shared with depth := shared.depth - 1 })
  | .testStatus => some (shared.inTransaction, shared)
  | .setStatus value => some ((), { shared with inTransaction := value })
  | .query text => some (0, shared.carryOut text)
  | .call op => some (shared.call party op)

end Shared

/-- The step of a thread, for the turns of a schedule. -/
def serve (party : Party) (op : Step) (shared : Shared) : Option (StepReply op × Shared) :=
  shared.serve party op

/-- Both threads at their beginning. -/
def start (messages : List (Message E)) (message : Message E) (store : Store) :
    Threads StepReply Int Party Shared where
  programs
    | .user => transacting messages
    | .inserter => inserting message
  shared := .on store

end RequiemDB.Stepwise
