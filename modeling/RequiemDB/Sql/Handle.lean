import RequiemDB.Classic.Reachable

/-!
# The connection handle

`requiemdb_sql_t` over an SQL plugin: the functions of `requiemdb-sql.c` that
open a connection, send statements and keep the status word, and the functions
of `requiemdb.c` that start and end transactions for the user. An oracle settles
how each plugin call ends.

`World` is the handle together with the server's side of its session: whether a
transaction is open there. It keeps two records that the code does not have: the
events of the run, and the transaction that the caller has started and not yet
ended.
-/

namespace RequiemDB.Handle

open Lib

/-- The texts that are sent to the server. -/
inductive Query where
  | begin | commit | rollback | other
deriving DecidableEq

/-- The calls of the plugin. -/
inductive PluginCall where
  | opened | openFailed | closed | sent (query : Query) | escape | unescape | fetchRow | fetchField
deriving DecidableEq

/-- A session and a transaction on it. -/
structure Place where
  session : Nat
  transaction : Nat
deriving DecidableEq

/-- A plugin call, the session it was made on, and what was open and owed before it. -/
structure Event where
  call : PluginCall
  session : Nat
  open_ : Option Nat
  owed : Option Place
deriving DecidableEq

/-- How a plugin call ends: `lost` stands for the code `REQUIEMDB_ERROR_CONNECTION`. -/
inductive Outcome where
  | success
  | failure (error : ErrorCode)
  | lost (error : ErrorCode)

def Outcome.code : Outcome → Int
  | .success => 0
  | .failure error | .lost error => error.code

/--
What the oracle settles for a call: its end, whether a COMMIT or ROLLBACK that fails leaves
the transaction open, whether the thread has an error text, and the data that is read.
-/
structure Fate where
  outcome : Outcome
  staysOpen : Bool
  threadError : Bool
  rows : List Row
  cell : Cell
  field : Option Cell

structure World where
  connected : Bool
  transaction : Bool
  internalTransactionDisabled : Bool
  session : Nat
  lockDepth : Int
  sessions : Nat
  begun : Nat
  open_ : Option Nat
  owed : Option Place
  events : List Event
  performed : Nat

/-- A handle behind `requiemdb_sql_new`. -/
def World.start : World where
  connected := false
  transaction := false
  internalTransactionDisabled := false
  session := 0
  lockDepth := 0
  sessions := 0
  begun := 0
  open_ := none
  owed := none
  events := []
  performed := 0

namespace World

variable (world : World)

def lock : World := { world with lockDepth := world.lockDepth + 1 }

def unlock : World := { world with lockDepth := world.lockDepth - 1 }

/-- A plugin call takes place. -/
def record (call : PluginCall) : World :=
  { world with
    events := world.events ++ [⟨call, world.session, world.open_, world.owed⟩]
    performed := world.performed + 1 }

/-- The plugin gives out a new session, on which no transaction is open. -/
def newSession : World :=
  { world with session := world.sessions, sessions := world.sessions + 1, open_ := none }

/-- A query that the server has carried out. -/
def carryOut : Query → World
  | .begin => { world with open_ := some world.begun, begun := world.begun + 1 }
  | .commit | .rollback => { world with open_ := none }
  | .other => world

/-- A query that the server has refused. -/
def refuse (staysOpen : Bool) : Query → World
  | .commit | .rollback => if staysOpen then world else { world with open_ := none }
  | .begin | .other => world

end World

section Functions

variable (oracle : Nat → Fate)

/-- `update_sql_from_errno`. -/
def updateSqlFromErrno : Outcome → World → World
  | .lost _, world => { (world.record .closed) with connected := false, open_ := none }
  | _, world => world

/-- The status word is overwritten, not updated. -/
def requiemdbSqlConnect (world : World) : Int × World :=
  match (oracle world.performed).outcome with
  | .success =>
      (0, { (world.record .opened).newSession with connected := true, transaction := false })
  | .failure error | .lost error => (error.code, world.record .openFailed)

/-- `assert_connected`, whose error unlocks the mutex and ends the function. -/
def assertConnected (world : World) (rest : World → Int × World) : Int × World :=
  if world.connected then rest world
  else
    let (ret, world) := requiemdbSqlConnect oracle world
    if ret < 0 then (ret, world.unlock) else rest world

/-- `_requiemdb_plugin_sql_query` and the treatment of its error. -/
def pluginSqlQuery (query : Query) (world : World) : Int × World :=
  let fate := oracle world.performed
  let sent := world.record (.sent query)
  match fate.outcome with
  | .success => (0, sent.carryOut query)
  | .failure error =>
      (error.code, updateSqlFromErrno fate.outcome (sent.refuse fate.staysOpen query))
  | .lost error => (error.code, updateSqlFromErrno fate.outcome sent)

def requiemdbSqlQuery (query : Query) (world : World) : Int × World :=
  assertConnected oracle world.lock fun world =>
  let (ret, world) := pluginSqlQuery oracle query world
  (ret, world.unlock)

/-- `requiemdb_sql_escape_fast`, `_escape_binary` and `_unescape_binary`. -/
def requiemdbSqlEscapeFast (call : PluginCall) (world : World) : Int × World :=
  assertConnected oracle world.lock fun world =>
  ((oracle world.performed).outcome.code, (world.record call).unlock)

/-- `requiemdb_sql_table_fetch_row` and `requiemdb_sql_row_fetch_field`. -/
def requiemdbSqlFetch (call : PluginCall) (world : World) : Int × World :=
  let outcome := (oracle world.performed).outcome
  (outcome.code, updateSqlFromErrno outcome (world.record call))

/-- `REQUIEMDB_ERROR_ALREADY_IN_TRANSACTION` and `REQUIEMDB_ERROR_NOT_IN_TRANSACTION`. -/
def transactionError : Int := -1

/-- `_requiemdb_sql_transaction_start`; a success is owed an end. -/
def sqlTransactionStart (world : World) : Int × World :=
  let world := world.lock
  if world.transaction then (transactionError, world.unlock)
  else
    let (ret, world) := requiemdbSqlQuery oracle .begin world
    if ret < 0 then (ret, world.unlock)
    else (ret, { world with
      transaction := true,
      owed := world.open_.map fun transaction => ⟨world.session, transaction⟩ })

/-- `_requiemdb_sql_transaction_end`, the end of what the caller has started. -/
def sqlTransactionEnd (world : World) : Int × World :=
  let world := { world with owed := none }
  if world.transaction then
    let (ret, world) := requiemdbSqlQuery oracle .commit world
    (ret, { world with transaction := false }.unlock)
  else (transactionError, world)

/-- `_requiemdb_sql_transaction_abort`, the other end of what the caller has started. -/
def sqlTransactionAbort (world : World) : Int × World :=
  let originalError := (oracle world.performed).threadError
  let world := { world with owed := none }
  if world.transaction then
    let world := { world with transaction := false }
    if originalError && !world.connected then (transactionError, world.unlock)
    else
      let (ret, world) := requiemdbSqlQuery oracle .rollback world
      (ret, world.unlock)
  else (transactionError, world)

/-- The `requiemdb_sql_transaction_*` functions do nothing inside of a user's transaction. -/
def unlessDisabled (function : World → Int × World) (world : World) : Int × World :=
  if world.internalTransactionDisabled then (0, world) else function world

def requiemdbSqlTransactionStart : World → Int × World :=
  unlessDisabled (sqlTransactionStart oracle)

def requiemdbSqlTransactionEnd : World → Int × World :=
  unlessDisabled (sqlTransactionEnd oracle)

def requiemdbSqlTransactionAbort : World → Int × World :=
  unlessDisabled (sqlTransactionAbort oracle)

def requiemdbTransactionStart (world : World) : Int × World :=
  let (ret, world) := sqlTransactionStart oracle world
  if ret < 0 then (ret, world) else (ret, { world with internalTransactionDisabled := true })

def requiemdbTransactionEnd (world : World) : Int × World :=
  let (ret, world) := sqlTransactionEnd oracle world
  (ret, { world with internalTransactionDisabled := false })

def requiemdbTransactionAbort (world : World) : Int × World :=
  let (ret, world) := sqlTransactionAbort oracle world
  (ret, { world with internalTransactionDisabled := false })

/-- The data of a call that returned without an error. -/
def answer {α : Type} (code : Int) (data : α) : Except ErrorCode α :=
  if negative : code < 0 then .error ⟨code, negative⟩ else .ok data

/-- The calls of the format plugin on the handle. NULL is escaped without the plugin. -/
def environment : Environment SqlReply World := fun op world =>
  let fate := oracle world.performed
  match op with
  | .transactionStart => requiemdbSqlTransactionStart oracle world
  | .transactionEnd => requiemdbSqlTransactionEnd oracle world
  | .transactionAbort => requiemdbSqlTransactionAbort oracle world
  | .escape none => (.ok .null, world)
  | .escape (some input) =>
      let (code, world) := requiemdbSqlEscapeFast oracle .escape world
      (answer code (stringLiteral (some input)), world)
  | .escapeBinary input =>
      let (code, world) := requiemdbSqlEscapeFast oracle .escape world
      (answer code (.blob input), world)
  | .unescapeBinary input =>
      let (code, world) := requiemdbSqlEscapeFast oracle .unescape world
      (answer code input, world)
  | .insertMessage _ _ => requiemdbSqlQuery oracle .other world
  | .insert _ => requiemdbSqlQuery oracle .other world
  | .delete _ => requiemdbSqlQuery oracle .other world
  | .selectMaxIdent _ =>
      let (code, world) := requiemdbSqlQuery oracle .other world
      (answer code fate.cell, world)
  | .select _ =>
      let (code, world) := requiemdbSqlQuery oracle .other world
      (answer code fate.rows, world)
  | .fetchRow _ _ =>
      let (code, world) := requiemdbSqlFetch oracle .fetchRow world
      (answer code (), world)
  | .fetchField _ =>
      let (code, world) := requiemdbSqlFetch oracle .fetchField world
      (answer code fate.field, world)

/-- The calls that a user makes on one handle. -/
inductive ApiCall (E : EnumKind → Type) where
  | query (text : Query)
  | escape
  | message (call : Call E)
  | sqlTransactionStart
  | sqlTransactionEnd
  | sqlTransactionAbort
  | transactionStart
  | transactionEnd
  | transactionAbort

variable {E : EnumKind → Type} [Librequiem E]

/-- One call of the user. -/
def perform : ApiCall E → World → Int × World
  | .query text => requiemdbSqlQuery oracle text
  | .escape => requiemdbSqlEscapeFast oracle .escape
  | .message call => call.program.run (environment oracle)
  | .sqlTransactionStart => requiemdbSqlTransactionStart oracle
  | .sqlTransactionEnd => requiemdbSqlTransactionEnd oracle
  | .sqlTransactionAbort => requiemdbSqlTransactionAbort oracle
  | .transactionStart => requiemdbTransactionStart oracle
  | .transactionEnd => requiemdbTransactionEnd oracle
  | .transactionAbort => requiemdbTransactionAbort oracle

/-- The world behind a sequence of calls. -/
def performAll : List (ApiCall E) → World → World
  | [], world => world
  | call :: calls, world => performAll calls (perform oracle call world).2

end Functions

end RequiemDB.Handle
