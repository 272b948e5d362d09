import Mathlib.Logic.Function.Basic
import RequiemDB.Lib.Program
import RequiemDB.Sql.Operation

/-!
# The copy and move commands

`do_cmd_copy_move` of `requiemdb-admin.c` with the functions it calls, as a
program over the operations on the two databases. The result of a query for
idents is a batch: the count it answers, the idents that
`requiemdb_result_idents_get_next` yields and the value that ends them. The
outer loop has a bound on its rounds, so that a run of any length is a run with
enough rounds.

The environment holds the messages of the source and of the destination. Every
operation on either database succeeds or fails as an oracle says.
-/

namespace RequiemDB.Admin

open Lib

variable {M : Type}

/-- The answer to a query for idents. -/
structure Batch where
  count : Int
  idents : List Nat
  last : Int
  ended : last ≤ 0

theorem Batch.ended_zero : (0 : Int) ≤ 0 := Int.le_refl 0

/-- The operations of the command. A ghost operation records each write to `delete_tbl`. -/
inductive Op (M : Type) where
  | fetchIdents (limit offset : Int)
  | getMessage (ident : Nat)
  | insertMessage (ident : Nat) (message : M)
  | recordIdent (index ident : Nat)
  | deleteFromList (idents : List Nat)
  | transactionStart
  | transactionEnd
  | transactionAbort
  | stopProcessing

abbrev Reply : Op M → Type
  | .fetchIdents _ _ => Except ErrorCode Batch
  | .getMessage _ => Except ErrorCode M
  | .insertMessage _ _ | .deleteFromList _ => Int
  | .recordIdent _ _ => Unit
  | .transactionStart | .transactionEnd | .transactionAbort => Int
  | .stopProcessing => Bool

/-- A function of the command. -/
abbrev Command (M : Type) := Program (@Reply M)

/-- The options of the command. -/
structure Options where
  eventsPerTransaction : Nat
  offset : Int
  deleteCopied : Bool

/-- The counters that the functions share. -/
structure Counters where
  eventNo : Nat
  curCount : Nat
  limitCopy : Int

/-- The number of entries of `delete_tbl`. -/
def deleteTableSize : Nat := 1024

/-- A conversion to `int`. -/
def toCInt (value : Int) : Int := value.bmod (2 ^ 32)

section Functions

variable (options : Options)

def fetchMessageIdentsLimited (counters : Counters)
    (rest : Except ErrorCode Batch → Counters → Command M (Int × Counters)) :
    Command M (Int × Counters) :=
  let localLimit : Int :=
    if counters.limitCopy < 0 then options.eventsPerTransaction
    else min options.eventsPerTransaction counters.limitCopy
  let start := toCInt options.offset + if options.deleteCopied then 0 else counters.curCount
  .perform (.fetchIdents (toCInt localLimit) (toCInt start)) fun
    | .error error => rest (.error error) counters
    | .ok batch => rest (.ok batch)
        (if counters.limitCopy > 0 then
          { counters with limitCopy := counters.limitCopy - batch.count } else counters)

/-- The results of COMMIT and BEGIN are not looked at. -/
def flushTransactionIfNeeded (counters : Counters) (increment : Nat)
    (rest : Counters → Command M (Int × Counters)) : Command M (Int × Counters) :=
  if options.eventsPerTransaction = 0 then rest counters
  else
    let eventNo := counters.eventNo + increment
    if options.eventsPerTransaction ≤ eventNo ∨ increment = 0 ∧ eventNo ≠ 0 then
      .perform .transactionEnd fun _ =>
      .perform .transactionStart fun _ =>
      rest { counters with eventNo := 0, curCount := counters.curCount + eventNo }
    else rest { counters with eventNo }

def transactionStart (rest : Command M (Int × Counters)) : Command M (Int × Counters) :=
  if 1 < options.eventsPerTransaction then .perform .transactionStart fun _ => rest else rest

def transactionEnd (ret : Int) (counters : Counters) : Command M (Int × Counters) :=
  if 1 < options.eventsPerTransaction then
    if ret < 0 then .perform .transactionAbort fun _ => .done (ret, counters)
    else .perform .transactionEnd fun _ =>
      .done (ret, { counters with curCount := counters.curCount + counters.eventNo })
  else .done (ret, counters)

/--
The loop of `copy_iterate` over the idents of a batch, with the entries of `delete_tbl` that
are in use. A failed deletion continues with the next ident, behind the flush.
-/
def copyIterate : List Nat → Int → List Nat → Counters → Command M (Int × Counters)
  | [], last, table, counters =>
      flushTransactionIfNeeded options counters 0 fun counters =>
      if table = [] then .done (last, counters)
      else .perform (.deleteFromList table) fun count =>
        .done (if count < 0 then -1 else last, counters)
  | ident :: idents, last, table, counters =>
      .perform (.getMessage ident) fun
      | .error error => .done (error.code, counters)
      | .ok message =>
        .perform (.insertMessage ident message) fun ret =>
        if ret < 0 then .done (ret, counters)
        else if options.deleteCopied then
          .perform (.recordIdent table.length ident) fun _ =>
          if 0 < options.eventsPerTransaction ∧ options.eventsPerTransaction ≤ counters.eventNo ∨
              deleteTableSize ≤ table.length + 1 then
            .perform (.deleteFromList (table ++ [ident])) fun count =>
            if count < 0 then copyIterate idents last (table ++ [ident]) counters
            else flushTransactionIfNeeded options counters 1 (copyIterate idents last [])
          else flushTransactionIfNeeded options counters 1
            (copyIterate idents last (table ++ [ident]))
        else flushTransactionIfNeeded options counters 1 (copyIterate idents last table)

/-- The `do ... while` loop of `do_cmd_copy_move`, for at most `rounds` rounds. -/
def copyRounds : Nat → Counters → Command M (Int × Counters)
  | 0, counters => .done (0, counters)
  | rounds + 1, counters =>
      fetchMessageIdentsLimited options counters fun
      | .error error, counters => transactionEnd options error.code counters
      | .ok batch, counters =>
        if batch.count ≤ 0 then transactionEnd options batch.count counters
        else copyIterate options batch.idents batch.last [] counters >>= fun (ret, counters) =>
          if ret < 0 then transactionEnd options ret counters
          else .perform .stopProcessing fun stop =>
            if stop then transactionEnd options ret counters else copyRounds rounds counters

/-- `do_cmd_copy_move` behind the setup of its options and databases. -/
def doCmdCopyMove (rounds : Nat) (limit : Int) : Command M (Int × Counters) :=
  transactionStart options (copyRounds options rounds ⟨0, 0, limit⟩)

end Functions

/-- What the oracle settles for one operation. -/
structure Fate where
  error : Option ErrorCode
  batch : Batch
  stop : Bool

/--
The two databases. `pending` holds the messages of the open transaction on the destination.
`settled` counts the operations performed.
-/
structure State (M : Type) where
  source : Nat → Option M
  committed : List (Nat × M)
  pending : List (Nat × M)
  inTransaction : Bool
  settled : Nat

namespace State

variable (state : State M)

def settle : State M := { state with settled := state.settled + 1 }

/-- Inside a transaction a message waits for COMMIT, otherwise it commits by itself. -/
def insert (ident : Nat) (message : M) : State M :=
  if state.inTransaction then { state with pending := state.pending ++ [(ident, message)] }
  else { state with committed := state.committed ++ [(ident, message)] }

def delete (idents : List Nat) : State M :=
  { state with source := fun ident => if ident ∈ idents then none else state.source ident }

def begin : State M := { state with inTransaction := true, pending := [] }

def commit : State M :=
  { state with
    committed := state.committed ++ state.pending, pending := [], inTransaction := false }

def rollback : State M := { state with pending := [], inTransaction := false }

end State

/-- `REQUIEMDB_ERROR_ALREADY_IN_TRANSACTION` and `REQUIEMDB_ERROR_NOT_IN_TRANSACTION`. -/
def transactionError : Int := -1

/-- The code of a fate: its error, or the value of a success. -/
def Fate.code (fate : Fate) (success : Int) : Int :=
  fate.error.elim success ErrorCode.code

/--
BEGIN is sent outside of a transaction only, COMMIT and ROLLBACK inside of one only. A
transaction whose COMMIT fails is lost.
-/
def environment (oracle : Nat → Fate) : Environment (@Reply M) (State M) := fun op state =>
  let fate := oracle state.settled
  let next := state.settle
  match op with
  | .fetchIdents _ _ => (fate.error.elim (.ok fate.batch) .error, next)
  | .getMessage ident =>
      (match fate.error, state.source ident with
        | none, some message => .ok message
        | some error, _ => .error error
        | none, none => .error ⟨-1, minusOne_negative⟩, next)
  | .insertMessage ident message =>
      (fate.code 0, if fate.error = none then next.insert ident message else next)
  | .recordIdent _ _ => ((), next)
  | .deleteFromList idents =>
      (fate.code idents.length, if fate.error = none then next.delete idents else next)
  | .transactionStart =>
      if state.inTransaction then (transactionError, next)
      else (fate.code 0, if fate.error = none then next.begin else next)
  | .transactionEnd =>
      if state.inTransaction then
        (fate.code 0, if fate.error = none then next.commit else next.rollback)
      else (transactionError, next)
  | .transactionAbort =>
      if state.inTransaction then (fate.code 0, next.rollback) else (transactionError, next)
  | .stopProcessing => (fate.stop, next)

end RequiemDB.Admin
