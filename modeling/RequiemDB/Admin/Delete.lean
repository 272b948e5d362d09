import RequiemDB.Admin.Window
import RequiemDB.Classic.Deletion

/-!
# Deleting messages

`cmd_delete` with the functions of the format plugin under it. Inside of the transaction of
the command the plugin starts none of its own and aborts none: behind a failed statement the
rows that the statements before it have removed stay removed, until the command aborts its
transaction or commits it.
-/

namespace RequiemDB.Admin

open Lib

variable {M : Type}

section Functions

variable (options : Options)

/--
The `do ... while` loop of `cmd_delete`, for at most `rounds` rounds. The deletion takes the
idents from the answer to the query.
-/
def deleteRounds : Nat → Counters → Command M (Int × Counters)
  | 0, counters => .done (0, counters)
  | rounds + 1, counters =>
      fetchMessageIdentsLimited options counters fun
      | .error error, counters => transactionEnd options error.code counters
      | .ok batch, counters =>
        if batch.count ≤ 0 then transactionEnd options batch.count counters
        else .perform (.deleteFromList batch.idents) fun ret =>
          flushTransactionIfNeeded options counters batch.count.toNat fun counters =>
          if ret < 0 then transactionEnd options ret counters
          else .perform .stopProcessing fun stop =>
            if stop then transactionEnd options ret counters else deleteRounds rounds counters

/-- `cmd_delete` behind the setup of its options and its database. -/
def cmdDelete (rounds : Nat) (limit : Int) : Command M (Int × Counters) :=
  transactionStart options
    (deleteRounds { options with deleteCopied := true } rounds ⟨0, 0, limit⟩)

end Functions

/--
A query for the idents of messages of a kind, with criteria and an order: it finds rows of
the message table.
-/
structure Criteria (kind : MessageTable) where
  finds : List Row → List Nat
  stored : ∀ rows, ∀ ident ∈ finds rows,
    ∃ row ∈ rows, row.table = kind.table ∧ row.messageIdent = ident

/-- The handle of the command and its database. -/
structure Connection where
  store : Store
  inTransaction : Bool
  internalTransactionDisabled : Bool
  /-- The rows behind each COMMIT. -/
  commits : List (List Entry)
  /-- The number of idents that were to be deleted since the last BEGIN. -/
  uncommitted : Nat
  /-- The idents whose deletion has failed. -/
  failed : List Nat
  /-- How often `stop_processing` was tested. -/
  tests : Nat

namespace Connection

variable (connection : Connection)

def start : Int × Connection :=
  if connection.inTransaction then (transactionError, connection)
  else (0, { connection with
    store := (connection.store.accept .transactionStart).2, inTransaction := true,
    uncommitted := 0 })

def finish : Int × Connection :=
  if connection.inTransaction then
    let store := (connection.store.accept .transactionEnd).2
    (0, { connection with
      store, inTransaction := false, commits := connection.commits ++ [store.committed] })
  else (transactionError, connection)

def abort : Int × Connection :=
  if connection.inTransaction then
    (0, { connection with
      store := (connection.store.accept .transactionAbort).2, inTransaction := false })
  else (transactionError, connection)

/-- A connection on a database in which no transaction is open. -/
def on (store : Store) : Connection where
  store := store
  inTransaction := false
  internalTransactionDisabled := false
  commits := []
  uncommitted := 0
  failed := []
  tests := 0

end Connection

section Environments

variable (fails : Nat → Option ErrorCode)

/-- The calls of the format plugin: statements fail by their position among those sent. -/
def pluginCalls : Environment SqlReply Connection := fun op connection =>
  match op with
  | .transactionStart =>
      if connection.internalTransactionDisabled then (0, connection) else connection.start
  | .transactionEnd =>
      if connection.internalTransactionDisabled then (0, connection) else connection.finish
  | .transactionAbort =>
      if connection.internalTransactionDisabled then (0, connection) else connection.abort
  | op =>
      let (reply, store) := RequiemDB.environment (statementFaults fails) op connection.store
      (reply, { connection with store })

def deleteMessageFromResultIdents : MessageTable → List Nat → Sql Int
  | .alert => classicDeleteAlertFromResultIdents
  | .heartbeat => classicDeleteHeartbeatFromResultIdents

/-- Only DELETE statements fail; `stops` settles when the signal has arrived. -/
def deleting {kind : MessageTable} (criteria : Criteria kind) (stops : Nat → Bool) :
    Environment (@Reply M) Connection := fun op connection =>
  match op with
  | .fetchIdents limit offset =>
      let idents := window limit offset (criteria.finds connection.store.rows)
      (.ok ⟨idents.length, idents, 0, Batch.ended_zero⟩, connection)
  | .deleteFromList idents =>
      let (ret, connection) := (deleteMessageFromResultIdents kind idents).run
        (pluginCalls fails) connection
      (ret, { connection with
        uncommitted := connection.uncommitted + idents.length
        failed := if ret < 0 then connection.failed ++ idents else connection.failed })
  | .transactionStart =>
      let (ret, connection) := connection.start
      (ret, if ret < 0 then connection else { connection with internalTransactionDisabled := true })
  | .transactionEnd =>
      let (ret, connection) := connection.finish
      (ret, { connection with internalTransactionDisabled := false })
  | .transactionAbort =>
      let (ret, connection) := connection.abort
      (ret, { connection with internalTransactionDisabled := false })
  | .stopProcessing => (stops connection.tests, { connection with tests := connection.tests + 1 })
  | .getMessage _ => (.error ⟨-1, minusOne_negative⟩, connection)
  | .insertMessage _ _ => (-1, connection)
  | .recordIdent _ _ => ((), connection)

end Environments

/-- The rows of a message. -/
def rowsOf (kind : MessageTable) (ident : Nat) (entries : List Entry) : List Entry :=
  entries.filter fun entry => entry.owner = some ⟨kind, ident⟩

/-- All of the rows that a message had are there, or none of them. -/
def Whole (kind : MessageTable) (ident : Nat) (initial entries : List Entry) : Prop :=
  rowsOf kind ident entries = rowsOf kind ident initial ∨ rowsOf kind ident entries = []

/-- No commit has half a message, or lacks a message of the deletion that failed. -/
structure NeverHalf {kind : MessageTable} (criteria : Criteria kind) (initial : List Entry)
    (connection : Connection) : Prop where
  whole : ∀ entries ∈ connection.commits, ∀ ident ∈ criteria.finds (initial.map Entry.row),
    Whole kind ident initial entries
  undeleted : ∀ entries ∈ connection.commits, ∀ ident ∈ connection.failed,
    rowsOf kind ident entries = rowsOf kind ident initial

section Condition

variable (fails : Nat → Option ErrorCode)

/-- The statements in front of the first one that fails. -/
def untilFailure : Nat → List Delete → List Delete
  | _, [] => []
  | sent, query :: queries =>
      if fails sent = none then query :: untilFailure (sent + 1) queries else []

def deleteQueries : MessageTable → IdentTest → List Delete
  | .alert => alertQueries
  | .heartbeat => heartbeatQueries

/--
The condition on a deletion: if one of its statements fails, then it does not fill up the
transaction, or the statements in front of that one match no row of its messages.
-/
def Spares (kind : MessageTable) (options : Options) (op : Op M) (connection : Connection) :
    Prop :=
  match op with
  | .deleteFromList idents =>
      let queries := deleteQueries kind (.among idents)
      let sent := untilFailure fails connection.store.sent queries
      sent.length < queries.length →
      options.eventsPerTransaction ≤ connection.uncommitted + idents.length →
      ∀ entry ∈ connection.store.visible, entry.Doomed kind idents →
      ∀ query ∈ sent, ¬ query.Matches entry.row
  | _ => True

end Condition

section Statements

variable (fails : Nat → Option ErrorCode) {connection : Connection}

/-- The connection behind some statements of a deletion. -/
def Connection.erased (connection : Connection) (queries : List Delete) (sent : Nat) :
    Connection :=
  { connection with store := { connection.store with
    visible := kept queries connection.store.visible, sent } }

theorem erased_nil (connection : Connection) :
    connection.erased [] connection.store.sent = connection := by
  simp [Connection.erased, kept]

/-- Inside of a transaction of the command a failed deletion is not undone. -/
theorem run_deleteEach_inside (disabled : connection.internalTransactionDisabled = true)
    (queries : List Delete) :
    ∃ ret sent, (deleteEach queries).run (pluginCalls fails) connection =
        (ret, connection.erased (untilFailure fails connection.store.sent queries) sent) ∧
      (ret < 0 ↔
        (untilFailure fails connection.store.sent queries).length < queries.length) := by
  induction queries generalizing connection with
  | nil =>
      refine ⟨0, connection.store.sent, ?_, by simp⟩
      rw [untilFailure, erased_nil]
      simp only [deleteEach, Program.run_perform, pluginCalls, disabled, if_true, Program.run_done]
  | cons query queries ih =>
      rw [deleteEach, Program.run_perform]
      cases failure : fails connection.store.sent with
      | some error =>
          have refused : statementFaults fails (.delete query) connection.store.sent =
              some error := failure
          refine ⟨error.code, connection.store.sent + 1, ?_, ?_⟩
          · simp only [pluginCalls, environment_of_refused refused, refusal, error.negative,
              if_true, Program.run_perform, disabled, Program.run_done, Int.lt_irrefl, if_false]
            simp [untilFailure, failure, Connection.erased, kept, Store.counted, Store.refuse,
              SqlOp.isStatement, disabled]
          · simp [untilFailure, failure, error.negative]
      | none =>
          have accepted : statementFaults fails (.delete query) connection.store.sent = none :=
            failure
          rcases @ih { connection with
            store := (connection.store.counted (.delete query)).delete query } disabled with
            ⟨ret, sent, runs, negative⟩
          refine ⟨ret, sent, ?_, ?_⟩
          · simp only [pluginCalls, environment_of_accepted accepted, Store.accept,
              Int.lt_irrefl, if_false, runs]
            rw [untilFailure, if_pos failure]
            simp only [Connection.erased, Store.delete, ← kept_cons]
            rfl
          · rw [untilFailure, if_pos failure]
            simpa [Store.counted, Store.delete, SqlOp.isStatement] using negative

theorem deleteMessageFromResultIdents_eq (kind : MessageTable) (idents : List Nat) :
    deleteMessageFromResultIdents kind idents =
      deleteFromResultIdents (deleteMessage (deleteQueries kind)) idents := by
  cases kind <;> rfl

theorem run_deleteMessageFromResultIdents (kind : MessageTable) {idents : List Nat}
    (some_ : idents ≠ []) (disabled : connection.internalTransactionDisabled = true) :
    let queries := deleteQueries kind (.among idents)
    let done := untilFailure fails connection.store.sent queries
    ∃ ret sent, (deleteMessageFromResultIdents kind idents).run (pluginCalls fails) connection =
        (ret, connection.erased done sent) ∧ (ret < 0 ↔ done.length < queries.length) := by
  rcases run_deleteEach_inside fails disabled (deleteQueries kind (.among idents)) with
    ⟨ret, sent, runs, negative⟩
  refine ⟨if ret < 0 then ret else idents.length, sent, ?_, ?_⟩
  · rw [deleteMessageFromResultIdents_eq, deleteFromResultIdents, if_neg some_, deleteFromList,
      Program.run_bind, deleteMessage, run_checked]
    simp only [Program.run_perform, pluginCalls, disabled, if_true, Program.run_done,
      Int.lt_irrefl, if_false]
    rw [runs]
  · rw [← negative]
    split <;> omega

theorem untilFailure_initial (sent : Nat) (queries : List Delete) :
    untilFailure fails sent queries <+: queries := by
  induction queries generalizing sent with
  | nil => exact List.prefix_rfl
  | cons query queries ih =>
      rw [untilFailure]
      split
      · exact (List.prefix_cons_inj query).mpr (ih (sent + 1))
      · exact List.nil_prefix

end Statements

section Rows

variable {kind : MessageTable} {ident : Nat} {initial entries : List Entry}

theorem rowsOf_kept (queries : List Delete) (entries : List Entry) :
    rowsOf kind ident (kept queries entries) = kept queries (rowsOf kind ident entries) := by
  simp only [rowsOf, kept, List.filter_filter, Bool.and_comm]

theorem mem_rowsOf {entry : Entry} :
    entry ∈ rowsOf kind ident entries ↔ entry ∈ entries ∧ entry.owner = some ⟨kind, ident⟩ := by
  simp [rowsOf]

/-- Every row belongs to the message that it was inserted for. -/
def Owned (entries : List Entry) : Prop :=
  ∀ entry ∈ entries, ∃ owner, entry.owner = some owner ∧ entry.row.BelongsTo owner

theorem deleteQueries_match_iff {row : Row} {owner : Owner} (belongs : row.BelongsTo owner)
    (idents : IdentTest) :
    (∃ query ∈ deleteQueries kind idents, query.Matches row) ↔
      owner.table = kind ∧ idents.Holds owner.ident := by
  cases kind with
  | alert => exact alertQueries_match_iff belongs idents
  | heartbeat => exact heartbeatQueries_match_iff belongs idents

/-- Any part of the statements of a deletion leaves the rows of other messages. -/
theorem rowsOf_kept_of_not_mem {queries : List Delete} {idents : List Nat} (owned : Owned entries)
    (among : queries ⊆ deleteQueries kind (.among idents)) (other : ident ∉ idents) :
    rowsOf kind ident (kept queries entries) = rowsOf kind ident entries := by
  rw [rowsOf_kept, kept, List.filter_eq_self]
  intro entry present
  rcases mem_rowsOf.mp present with ⟨stored, isOwner⟩
  rcases owned entry stored with ⟨owner, owns, belongs⟩
  have same : owner = ⟨kind, ident⟩ := Option.some.inj (owns.symm.trans isOwner)
  rw [decide_eq_true_eq]
  intro query inQueries isMatch
  have hit := (deleteQueries_match_iff belongs (.among idents)).mp
    ⟨query, among inQueries, isMatch⟩
  rw [same] at hit
  exact other hit.2

/-- All of the statements remove the rows of the messages. -/
theorem rowsOf_kept_of_mem {idents : List Nat} (owned : Owned entries) (deleted : ident ∈ idents) :
    rowsOf kind ident (kept (deleteQueries kind (.among idents)) entries) = [] := by
  rw [rowsOf_kept, kept, List.filter_eq_nil_iff]
  intro entry present
  rcases mem_rowsOf.mp present with ⟨stored, isOwner⟩
  rcases owned entry stored with ⟨owner, owns, belongs⟩
  have same : owner = ⟨kind, ident⟩ := Option.some.inj (owns.symm.trans isOwner)
  rw [decide_eq_true_eq]
  intro survives
  have doomed : owner.table = kind ∧ (IdentTest.among idents).Holds owner.ident := by
    rw [same]
    exact ⟨rfl, deleted⟩
  rcases (deleteQueries_match_iff belongs (.among idents)).mpr doomed with
    ⟨query, inQueries, isMatch⟩
  exact survives query inQueries isMatch

theorem rowsOf_found {criteria : Criteria kind} (owned : Owned entries)
    (found : ident ∈ criteria.finds (entries.map Entry.row)) : rowsOf kind ident entries ≠ [] := by
  rcases criteria.stored _ ident found with ⟨row, stored, inTable, sameIdent⟩
  rcases List.mem_map.mp stored with ⟨entry, present, rfl⟩
  rcases owned entry present with ⟨⟨table, number⟩, isOwner, belongs⟩
  have isKind : table = kind := belongs.table_eq inTable
  have isIdent : number = ident := belongs.ident.symm.trans sameIdent
  rw [isKind, isIdent] at isOwner
  exact List.ne_nil_of_mem (mem_rowsOf.mpr ⟨present, isOwner⟩)

end Rows

section Command

variable {fails : Nat → Option ErrorCode} {kind : MessageTable} {criteria : Criteria kind}
  {stops : Nat → Bool} {options : Options} {initial : List Entry} {counters : Counters}
  {connection : Connection} {condition : Prop}

/-- At the head of a round: no deletion has failed, and every commit was without halves. -/
structure Erasing (kind : MessageTable) (initial : List Entry) (counters : Counters)
    (connection : Connection) : Prop where
  inside : connection.inTransaction = true
  disabled : connection.internalTransactionDisabled = true
  among : connection.store.visible.Sublist initial
  whole : ∀ ident, Whole kind ident initial connection.store.visible
  commits : ∀ entries ∈ connection.commits,
    connection.store.visible.Sublist entries ∧ ∀ ident, Whole kind ident initial entries
  counted : counters.eventNo = connection.uncommitted
  succeeded : connection.failed = []

/-- The run from here on never commits a half exactly if all its deletions meet the condition. -/
def Decides (fails : Nat → Option ErrorCode) (criteria : Criteria kind) (stops : Nat → Bool)
    (options : Options) (initial : List Entry) (condition : Prop)
    (program : Command M (Int × Counters)) (connection : Connection) : Prop :=
  NeverHalf criteria initial (program.run (deleting fails criteria stops) connection).2 ↔
    condition ∧ program.Along (deleting fails criteria stops) (Spares fails kind options) connection

theorem decides_perform {op : Op M} {next : Reply op → Command M (Int × Counters)}
    (free : Spares fails kind options op connection)
    (decides : Decides fails criteria stops options initial condition
      (next (deleting fails criteria stops op connection).1)
      (deleting fails criteria stops op connection).2) :
    Decides fails criteria stops options initial condition (.perform op next) connection := by
  rw [Decides, Program.run_perform, Program.along_perform, and_iff_right free]
  exact decides

/-- What a deletion has to meet is left as a condition on the rest. -/
theorem decides_delete {idents : List Nat} {next : Int → Command M (Int × Counters)}
    (decides : Decides fails criteria stops options initial
      (Spares fails kind options (.deleteFromList idents : Op M) connection)
      (next (deleting fails criteria stops (.deleteFromList idents : Op M) connection).1)
      (deleting fails criteria stops (.deleteFromList idents : Op M) connection).2) :
    Decides fails criteria stops options initial True (.perform (.deleteFromList idents) next)
      connection := by
  rw [Decides, Program.run_perform, Program.along_perform, true_and]
  exact decides

theorem decides_of_free {op : Op M} {before : Connection} {program : Command M (Int × Counters)}
    (free : Spares fails kind options op before) :
    Decides fails criteria stops options initial (Spares fails kind options op before) program
      connection ↔ Decides fails criteria stops options initial True program connection := by
  rw [Decides, Decides, eq_true free]

/-- The connection behind COMMIT and BEGIN. -/
def Connection.flushed (connection : Connection) : Connection :=
  { connection with
    store := { connection.store with committed := connection.store.visible, writing := none }
    commits := connection.commits ++ [connection.store.visible]
    uncommitted := 0 }

theorem decides_flush {increment : Nat} {rest : Counters → Command M (Int × Counters)}
    (several : 1 < options.eventsPerTransaction) (positive : increment ≠ 0)
    (inside : connection.inTransaction = true)
    (disabled : connection.internalTransactionDisabled = true)
    (full : options.eventsPerTransaction ≤ counters.eventNo + increment →
      Decides fails criteria stops options initial condition
        (rest { counters with
          eventNo := 0, curCount := counters.curCount + (counters.eventNo + increment) })
        connection.flushed)
    (room : ¬ options.eventsPerTransaction ≤ counters.eventNo + increment →
      Decides fails criteria stops options initial condition
        (rest { counters with eventNo := counters.eventNo + increment }) connection) :
    Decides fails criteria stops options initial condition
      (flushTransactionIfNeeded { options with deleteCopied := true } counters increment rest)
      connection := by
  have notZero : options.eventsPerTransaction ≠ 0 := by omega
  rw [flushTransactionIfNeeded, if_neg notZero]
  simp only [positive, false_and, or_false]
  split
  · rename_i isFull
    refine decides_perform (by trivial) ?_
    refine decides_perform (by trivial) ?_
    have flushed : (deleting fails criteria stops (.transactionStart : Op M)
        (deleting fails criteria stops (.transactionEnd : Op M) connection).2).2 =
        connection.flushed := by
      simp [deleting, Connection.finish, Connection.start, inside, Store.accept, disabled,
        Connection.flushed]
    rw [flushed]
    exact full isFull
  · rename_i hasRoom
    exact room hasRoom

namespace Erasing

variable {idents : List Nat}

theorem owned (erasing : Erasing kind initial counters connection) (owned : Owned initial) :
    Owned connection.store.visible :=
  fun entry present => owned entry (erasing.among.subset present)

/-- Nothing has been deleted yet of the messages that the next query finds. -/
theorem found (erasing : Erasing kind initial counters connection) (ownedInitial : Owned initial)
    {ident : Nat} (isFound : ident ∈ criteria.finds connection.store.rows) :
    rowsOf kind ident connection.store.visible = rowsOf kind ident initial ∧
      ∀ entries ∈ connection.commits, rowsOf kind ident entries = rowsOf kind ident initial := by
  have some_ := rowsOf_found (erasing.owned ownedInitial) isFound
  refine ⟨(erasing.whole ident).resolve_right some_, fun entries committed => ?_⟩
  rcases erasing.commits entries committed with ⟨later, whole⟩
  refine (whole ident).resolve_right fun nothing => some_ ?_
  have sublist := later.filter fun entry => decide (entry.owner = some ⟨kind, ident⟩)
  have isNil : entries.filter (fun entry => decide (entry.owner = some ⟨kind, ident⟩)) = [] :=
    nothing
  rw [isNil] at sublist
  exact List.sublist_nil.mp sublist

theorem flushed (erasing : Erasing kind initial counters connection) :
    Erasing kind initial { counters with
      eventNo := 0, curCount := counters.curCount + counters.eventNo } connection.flushed where
  inside := erasing.inside
  disabled := erasing.disabled
  among := erasing.among
  whole := erasing.whole
  commits := by
    intro entries committed
    rcases List.mem_append.mp committed with earlier | last
    · exact erasing.commits entries earlier
    · rw [List.mem_singleton.mp last]
      exact ⟨List.Sublist.refl _, erasing.whole⟩
  counted := rfl
  succeeded := erasing.succeeded

theorem decides_end (erasing : Erasing kind initial counters connection)
    (several : 1 < options.eventsPerTransaction) {ret : Int} (succeeded : ¬ ret < 0) :
    Decides (M := M) fails criteria stops options initial True
      (transactionEnd { options with deleteCopied := true } ret counters) connection := by
  rw [transactionEnd, if_pos several, if_neg succeeded]
  refine decides_perform (by trivial) ?_
  refine iff_of_true ?_ ⟨trivial, trivial⟩
  have ended : (deleting fails criteria stops (.transactionEnd : Op M) connection).2 =
      { connection with
        store := { connection.store with committed := connection.store.visible, writing := none }
        commits := connection.commits ++ [connection.store.visible]
        inTransaction := false, internalTransactionDisabled := false } := by
    simp [deleting, Connection.finish, erasing.inside, Store.accept]
  rw [Program.run_done, ended]
  constructor
  · intro entries committed ident _
    exact (erasing.flushed.commits entries committed).2 ident
  · intro entries _ ident failed
    rw [erasing.succeeded] at failed
    exact absurd failed List.not_mem_nil

theorem erased (erasing : Erasing kind initial counters connection) (ownedInitial : Owned initial)
    (idents : List Nat) (sent : Nat) :
    Erasing kind initial { counters with eventNo := counters.eventNo + idents.length }
      { connection.erased (deleteQueries kind (.among idents)) sent with
        uncommitted := connection.uncommitted + idents.length } where
  inside := erasing.inside
  disabled := erasing.disabled
  among := List.filter_sublist.trans erasing.among
  whole := by
    intro ident
    by_cases deleted : ident ∈ idents
    · exact .inr (rowsOf_kept_of_mem (erasing.owned ownedInitial) deleted)
    · have spared := rowsOf_kept_of_not_mem (erasing.owned ownedInitial)
        (List.Subset.refl (deleteQueries kind (.among idents))) deleted
      rw [Whole, Connection.erased, spared]
      exact erasing.whole ident
  commits := by
    intro entries committed
    rcases erasing.commits entries committed with ⟨later, whole⟩
    exact ⟨List.filter_sublist.trans later, whole⟩
  counted := congrArg (· + idents.length) erasing.counted
  succeeded := erasing.succeeded

variable {ended : Connection} {sent : List Delete}

/-- A failed deletion is committed without a half exactly if it has removed nothing. -/
theorem neverHalf_committed_iff (erasing : Erasing kind initial counters connection)
    (ownedInitial : Owned initial)
    (found : ∀ ident ∈ idents, ident ∈ criteria.finds connection.store.rows)
    (among : sent ⊆ deleteQueries kind (.among idents))
    (commits : ended.commits = connection.commits ++ [kept sent connection.store.visible])
    (failed : ended.failed = idents) :
    NeverHalf criteria initial ended ↔
      ∀ entry ∈ connection.store.visible, entry.Doomed kind idents →
        ∀ query ∈ sent, ¬ query.Matches entry.row := by
  have owned := erasing.owned ownedInitial
  constructor
  · rintro ⟨_, undeleted⟩ entry present ⟨ident, inIdents, isOwner⟩ query inSent isMatch
    have inHalf : kept sent connection.store.visible ∈ ended.commits := by
      rw [commits]
      exact List.mem_append_right _ (List.mem_singleton_self _)
    have same := undeleted _ inHalf ident (failed ▸ inIdents)
    have before := (erasing.found ownedInitial (found ident inIdents)).1
    have stays : entry ∈ rowsOf kind ident (kept sent connection.store.visible) := by
      rw [same, ← before]
      exact mem_rowsOf.mpr ⟨present, isOwner⟩
    have isKept := (List.mem_filter.mp (mem_rowsOf.mp stays).1).2
    exact (of_decide_eq_true isKept) query inSent isMatch
  · intro spares
    have same : ∀ ident, rowsOf kind ident (kept sent connection.store.visible) =
        rowsOf kind ident connection.store.visible := by
      intro ident
      by_cases deleted : ident ∈ idents
      · rw [rowsOf_kept, kept, List.filter_eq_self]
        intro entry present
        rcases mem_rowsOf.mp present with ⟨stored, isOwner⟩
        exact decide_eq_true (spares entry stored ⟨ident, deleted, isOwner⟩)
      · exact rowsOf_kept_of_not_mem owned among deleted
    constructor
    · intro entries committed ident _
      rw [commits] at committed
      rcases List.mem_append.mp committed with earlier | half
      · exact (erasing.commits entries earlier).2 ident
      · rw [List.mem_singleton.mp half, Whole, same]
        exact erasing.whole ident
    · intro entries committed ident isFailed
      rw [failed] at isFailed
      rcases erasing.found ownedInitial (found ident isFailed) with ⟨now, before⟩
      rw [commits] at committed
      rcases List.mem_append.mp committed with earlier | half
      · exact before entries earlier
      · rw [List.mem_singleton.mp half, same]
        exact now

theorem neverHalf_aborted (erasing : Erasing kind initial counters connection)
    (ownedInitial : Owned initial)
    (found : ∀ ident ∈ idents, ident ∈ criteria.finds connection.store.rows)
    (commits : ended.commits = connection.commits) (failed : ended.failed = idents) :
    NeverHalf criteria initial ended := by
  constructor
  · intro entries committed ident _
    exact (erasing.commits entries (commits ▸ committed)).2 ident
  · intro entries committed ident isFailed
    have isFound := found ident (failed ▸ isFailed)
    exact (erasing.found ownedInitial isFound).2 entries (commits ▸ committed)

theorem recounted (erasing : Erasing kind initial counters connection) {others : Counters}
    (same : others.eventNo = counters.eventNo) : Erasing kind initial others connection :=
  ⟨erasing.inside, erasing.disabled, erasing.among, erasing.whole, erasing.commits,
    same.trans erasing.counted, erasing.succeeded⟩

theorem tested (erasing : Erasing kind initial counters connection) :
    Erasing kind initial counters { connection with tests := connection.tests + 1 } :=
  ⟨erasing.inside, erasing.disabled, erasing.among, erasing.whole, erasing.commits,
    erasing.counted, erasing.succeeded⟩

/-- Behind a failed deletion: the transaction is flushed, if it is full, and aborted. -/
theorem decides_failed (erasing : Erasing kind initial counters connection)
    (ownedInitial : Owned initial) (several : 1 < options.eventsPerTransaction)
    (found : ∀ ident ∈ idents, ident ∈ criteria.finds connection.store.rows)
    (some_ : idents ≠ []) {ret : Int} {position : Nat}
    (isSent : untilFailure fails connection.store.sent
      (deleteQueries kind (.among idents)) = sent)
    (fewer : sent.length < (deleteQueries kind (.among idents)).length) (failed : ret < 0)
    {rest : Counters → Command M (Int × Counters)} :
    Decides fails criteria stops options initial
      (Spares fails kind options (.deleteFromList idents : Op M) connection)
      (flushTransactionIfNeeded { options with deleteCopied := true } counters idents.length
        fun counters =>
          if ret < 0 then transactionEnd { options with deleteCopied := true } ret counters
          else rest counters)
      { connection.erased sent position with
        uncommitted := connection.uncommitted + idents.length, failed := idents } := by
  have nonempty : idents.length ≠ 0 := by simpa using some_
  have among : sent ⊆ deleteQueries kind (.among idents) :=
    isSent ▸ (untilFailure_initial fails _ _).subset
  refine decides_flush several nonempty (by exact erasing.inside) (by exact erasing.disabled)
    ?_ ?_
  · intro full
    rw [erasing.counted] at full
    rw [if_pos failed, transactionEnd, if_pos several, if_pos failed]
    refine decides_perform (by trivial) ?_
    rw [Decides, Program.run_done, Program.along_done, and_true]
    have halves := erasing.neverHalf_committed_iff ownedInitial found among
      (show (deleting (M := M) fails criteria stops .transactionAbort
        (Connection.flushed { connection.erased sent position with
          uncommitted := connection.uncommitted + idents.length
          failed := idents })).2.commits = _ by
        simp [deleting, Connection.abort, Connection.flushed, Connection.erased, erasing.inside])
      (by simp [deleting, Connection.abort, Connection.flushed, Connection.erased, erasing.inside])
    refine halves.trans ⟨fun spares _ _ => isSent ▸ spares, fun spares => ?_⟩
    exact isSent ▸ spares (isSent ▸ fewer) full
  · intro room
    rw [erasing.counted] at room
    rw [if_pos failed, transactionEnd, if_pos several, if_pos failed]
    refine decides_perform (by trivial) ?_
    refine iff_of_true ?_ ⟨fun _ full => absurd full room, trivial⟩
    apply erasing.neverHalf_aborted ownedInitial found <;>
      simp [deleting, Connection.abort, Connection.erased, erasing.inside]

theorem neverHalf (erasing : Erasing kind initial counters connection) :
    NeverHalf criteria initial connection where
  whole := fun entries committed ident _ => (erasing.commits entries committed).2 ident
  undeleted := by
    intro entries _ ident failed
    rw [erasing.succeeded] at failed
    exact absurd failed List.not_mem_nil

variable (fails criteria stops) in
/-- The induction over the rounds. -/
theorem decides (erasing : Erasing kind initial counters connection)
    (ownedInitial : Owned initial) (several : 1 < options.eventsPerTransaction) (rounds : Nat) :
    Decides (M := M) fails criteria stops options initial True
      (deleteRounds { options with deleteCopied := true } rounds counters) connection := by
  induction rounds generalizing counters connection with
  | zero => exact iff_of_true erasing.neverHalf ⟨trivial, trivial⟩
  | succ rounds ih =>
      have tail : ∀ {others : Counters} {after : Connection}, Erasing kind initial others after →
          ∀ {ret : Int}, ¬ ret < 0 → Decides (M := M) fails criteria stops options initial True
            (.perform .stopProcessing fun stop =>
              if stop then transactionEnd { options with deleteCopied := true } ret others
              else deleteRounds { options with deleteCopied := true } rounds others) after := by
        intro others after behind ret succeeded
        refine decides_perform (by trivial) ?_
        by_cases signal :
            (deleting (M := M) fails criteria stops .stopProcessing after).1 = true
        · rw [if_pos signal]
          exact behind.tested.decides_end several succeeded
        · rw [if_neg signal]
          exact ih behind.tested
      rw [deleteRounds, fetchMessageIdentsLimited]
      refine decides_perform (by trivial) ?_
      simp only [deleting]
      generalize isWindow : window _ _ (criteria.finds connection.store.rows) = idents
      have found : ∀ ident ∈ idents, ident ∈ criteria.finds connection.store.rows := by
        rw [← isWindow]
        exact (window_sublist _ _ _).subset
      generalize recount : (if counters.limitCopy > 0 then _ else counters) = others
      have sameNo : others.eventNo = counters.eventNo := by
        rw [← recount]
        split <;> rfl
      have round := erasing.recounted sameNo
      by_cases nothing : idents = []
      · have none_ : (idents.length : Int) ≤ 0 := by simp [nothing]
        rw [if_pos none_]
        exact round.decides_end several (by omega)
      · have nonempty := List.length_pos_iff.mpr nothing
        have some_ : ¬ (idents.length : Int) ≤ 0 := by omega
        rw [if_neg some_, Int.toNat_natCast]
        apply decides_delete
        rcases run_deleteMessageFromResultIdents fails kind nothing round.disabled with
          ⟨ret, position, runs, negative⟩
        simp only [deleting, runs]
        by_cases failed : ret < 0
        · have noOther : (connection.erased (untilFailure fails connection.store.sent
              (deleteQueries kind (.among idents))) position).failed = [] := round.succeeded
          rw [if_pos failed, noOther, List.nil_append]
          exact round.decides_failed ownedInitial several found nothing rfl (negative.mp failed)
            failed
        · -- every statement was sent, and the condition asks for nothing
          have all := (untilFailure_initial fails connection.store.sent
            (deleteQueries kind (.among idents))).eq_of_length_le
              (Nat.not_lt.mp fun fewer => failed (negative.mpr fewer))
          have free : Spares fails kind options (.deleteFromList idents : Op M) connection :=
            fun fewer => absurd (negative.mpr fewer) failed
          have behind := round.erased ownedInitial idents position
          rw [if_neg failed, all, decides_of_free free]
          refine decides_flush several nonempty.ne' (by exact round.inside)
            (by exact round.disabled) (fun _ => ?_) fun _ => ?_
          · rw [if_neg failed]
            exact tail behind.flushed failed
          · rw [if_neg failed]
            exact tail behind failed

end Erasing

end Command

/--
In no state that `cmd_delete` commits half of a message is deleted, or a message of the batch
whose deletion failed, exactly if every deletion of the run that fails does not fill up the
transaction or has removed nothing before it failed.
-/
theorem cmdDelete_never_half {M : Type} {kind : MessageTable} (criteria : Criteria kind)
    (fails : Nat → Option ErrorCode) (stops : Nat → Bool) (options : Options)
    (several : 1 < options.eventsPerTransaction) (limit : Int) (rounds : Nat) {store : Store}
    (sound : store.Sound) :
    NeverHalf criteria store.committed
        ((cmdDelete (M := M) options rounds limit).run (deleting fails criteria stops)
          (Connection.on store)).2 ↔
      (cmdDelete (M := M) options rounds limit).Along (deleting fails criteria stops)
        (Spares fails kind options) (Connection.on store) := by
  have owned : Owned store.committed := by
    intro entry stored
    rcases sound.entries entry stored with ⟨owner, isOwner, belongs, _⟩
    exact ⟨owner, isOwner, belongs⟩
  have started : Erasing kind store.committed ⟨0, 0, limit⟩
      { Connection.on store with
        store := (store.accept .transactionStart).2
        inTransaction := true
        internalTransactionDisabled := true } :=
    ⟨rfl, rfl, List.Sublist.refl _, fun _ => .inl rfl,
      fun _ absent => absurd absent List.not_mem_nil, rfl, rfl⟩
  have decides := started.decides (M := M) fails criteria stops owned several rounds
  rw [Decides, true_and] at decides
  rw [cmdDelete, transactionStart, if_pos several, Program.run_perform, Program.along_perform]
  exact decides.trans (and_iff_right trivial).symm

/-- All messages of a kind, in the order of their rows. -/
def Criteria.all (kind : MessageTable) : Criteria kind where
  finds rows := (rows.filter fun row => row.table = kind.table).map Row.messageIdent
  stored := by
    intro rows ident found
    rcases List.mem_map.mp found with ⟨row, inTable, isIdent⟩
    rcases List.mem_filter.mp inTable with ⟨present, isKind⟩
    exact ⟨row, present, of_decide_eq_true isKind, isIdent⟩

/-- An alert with the row of its creation time. -/
def timedAlert (ident : Nat) : List Entry :=
  [⟨some ⟨.alert, ident⟩, messageRow ⟨.alert, ident⟩ []⟩,
    ⟨some ⟨.alert, ident⟩, ⟨.createTime, some .A, ident, [], none, []⟩⟩]

/-- A database with two alerts. -/
def twoAlerts : Store where
  committed := timedAlert 1 ++ timedAlert 2
  visible := timedAlert 1 ++ timedAlert 2
  next := fun _ => 3
  writing := none
  sent := 0

theorem sound_twoAlerts : twoAlerts.Sound where
  idle := rfl
  entries := by
    have timed : ∀ ident < 3, ∀ entry ∈ timedAlert ident, entry.Sound fun _ => 3 := by
      intro ident given entry present
      refine ⟨⟨.alert, ident⟩, ?_, ?_, given⟩
      · simp only [timedAlert, List.mem_cons, List.not_mem_nil, or_false] at present
        rcases present with rfl | rfl <;> rfl
      · simp only [timedAlert, List.mem_cons, List.not_mem_nil, or_false] at present
        rcases present with rfl | rfl
        · exact messageRow_belongsTo _ []
        · have letter : some ParentType.A ∈ Table.createTime.letters .alert := by decide
          exact ⟨rfl, letter⟩
    intro entry present
    rcases List.mem_append.mp present with first | second
    · exact timed 1 (by decide) entry first
    · exact timed 2 (by decide) entry second

/-- The fifth statement fails, behind the deletion of the rows in `Requiem_Alert`. -/
def fifthFails : Nat → Option ErrorCode
  | 4 => some ⟨-1, minusOne_negative⟩
  | _ => none

theorem cmdDelete_never_half_twoAlerts :
    NeverHalf (Criteria.all .alert) twoAlerts.committed
        ((cmdDelete (M := Unit) ⟨2, 0, false⟩ 3 (-1)).run
          (deleting fifthFails (Criteria.all .alert) fun _ => false) (Connection.on twoAlerts)).2 ↔
      (cmdDelete (M := Unit) ⟨2, 0, false⟩ 3 (-1)).Along
        (deleting fifthFails (Criteria.all .alert) fun _ => false)
        (Spares fifthFails .alert ⟨2, 0, false⟩) (Connection.on twoAlerts) :=
  cmdDelete_never_half (Criteria.all .alert) fifthFails (fun _ => false) ⟨2, 0, false⟩ (by decide)
    (-1) 3 sound_twoAlerts

/-- The creation times of two alerts are committed without the alerts. -/
theorem not_cmdDelete_never_half :
    ¬ NeverHalf (Criteria.all .alert) twoAlerts.committed
      ((cmdDelete (M := Unit) ⟨2, 0, false⟩ 3 (-1)).run
        (deleting fifthFails (Criteria.all .alert) fun _ => false)
          (Connection.on twoAlerts)).2 := by
  have commits : ((cmdDelete (M := Unit) ⟨2, 0, false⟩ 3 (-1)).run
      (deleting fifthFails (Criteria.all .alert) fun _ => false)
      (Connection.on twoAlerts)).2.commits =
      [(timedAlert 1).tail ++ (timedAlert 2).tail] := by rfl
  rintro ⟨whole, _⟩
  rcases whole _ (commits ▸ List.mem_singleton_self _) 1 (by decide) with all | none_
  · exact absurd all (by decide)
  · exact absurd none_ (by decide)

end RequiemDB.Admin
