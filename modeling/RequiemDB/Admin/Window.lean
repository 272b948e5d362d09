import Mathlib.Data.List.Induction
import Mathlib.Data.List.TakeDrop
import RequiemDB.Admin.Copy

/-!
# The messages that a copy or a move processes

The source holds a sequence of messages, and a query for idents answers the window
that it asks for from the messages still present. One iteration over a batch copies
its messages in order and, in a move, removes them; a round of the command processes
the next messages of the requested window, whose offset stays in place in a move
because the source shrinks.

A run may be interrupted at one point: by a signal behind a batch, or by an operation
that fails.
-/

namespace RequiemDB.Admin

open Lib

variable {M : Type}

/-- The rows of `LIMIT offset, limit`; a negative number sets no bound. -/
def window {α : Type} (limit offset : Int) (messages : List α) : List α :=
  if limit < 0 then messages.drop offset.toNat else (messages.drop offset.toNat).take limit.toNat

theorem window_of_unlimited {α : Type} (offset : Int) (messages : List α) :
    window (-1) offset messages = messages.drop offset.toNat :=
  if_pos (by decide)

/-- The two databases of the command, and where the run is. -/
structure Databases (M : Type) where
  source : List (Nat × M)
  committed : List (Nat × M)
  pending : List (Nat × M)
  inTransaction : Bool
  /-- The queries for idents so far. -/
  queries : Nat
  /-- The messages inserted since the last query. -/
  copied : Nat

namespace Databases

variable (databases : Databases M)

def insert (ident : Nat) (message : M) : Databases M :=
  if databases.inTransaction then
    { databases with
      pending := databases.pending ++ [(ident, message)], copied := databases.copied + 1 }
  else
    { databases with
      committed := databases.committed ++ [(ident, message)], copied := databases.copied + 1 }

def delete (idents : List Nat) : Databases M :=
  { databases with source := databases.source.filter fun entry => entry.1 ∉ idents }

def begin : Databases M := { databases with inTransaction := true }

def commit : Databases M :=
  { databases with
    committed := databases.committed ++ databases.pending, pending := [], inTransaction := false }

def rollback : Databases M := { databases with pending := [], inTransaction := false }

end Databases

/-- The point at which a run is interrupted; rounds and positions count from zero. -/
inductive Interruption where
  | none
  | signal (round : Nat)
  | fetch (round : Nat) (error : ErrorCode)
  | get (round position : Nat) (error : ErrorCode)
  | insert (round position : Nat) (error : ErrorCode)
  /-- The deletion at the end of a batch. -/
  | delete (round : Nat) (error : ErrorCode)

namespace Interruption

variable (interruption : Interruption)

/-- The error of an operation that the interruption strikes. -/
def failure (op : Op M) (databases : Databases M) : Option ErrorCode :=
  match interruption, op with
  | fetch round error, .fetchIdents _ _ => if databases.queries = round then some error else .none
  | get round position error, .getMessage _ =>
      if databases.queries = round + 1 ∧ databases.copied = position then some error else .none
  | insert round position error, .insertMessage _ _ =>
      if databases.queries = round + 1 ∧ databases.copied = position then some error else .none
  | delete round error, .deleteFromList idents =>
      if databases.queries = round + 1 ∧ idents.length < deleteTableSize then some error else .none
  | _, _ => .none

/-- The signal has arrived when the flag is tested behind a batch. -/
def stops (databases : Databases M) : Bool :=
  match interruption with
  | signal round => databases.queries = round + 1
  | _ => false

end Interruption

/-- The answer to a query for idents. -/
def Batch.ofMessages (messages : List (Nat × M)) : Batch where
  count := messages.length
  idents := messages.map Prod.fst
  last := 0
  ended := Batch.ended_zero

theorem idents_ofMessages (messages : List (Nat × M)) :
    (Batch.ofMessages messages).idents = messages.map Prod.fst := rfl

theorem last_ofMessages (messages : List (Nat × M)) : (Batch.ofMessages messages).last = 0 := rfl

/-- The databases answer every operation that the interruption does not strike. -/
def serving (interruption : Interruption) : Environment (@Reply M) (Databases M) :=
  fun op databases =>
  let failure := interruption.failure op databases
  match op with
  | .fetchIdents limit offset =>
      (failure.elim (.ok (.ofMessages (window limit offset databases.source))) .error,
        { databases with queries := databases.queries + 1, copied := 0 })
  | .getMessage ident =>
      (match failure, databases.source.find? fun entry => entry.1 = ident with
        | .none, some entry => .ok entry.2
        | some error, _ => .error error
        | .none, .none => .error ⟨-1, minusOne_negative⟩, databases)
  | .insertMessage ident message =>
      (failure.elim 0 ErrorCode.code,
        failure.elim (databases.insert ident message) fun _ => databases)
  | .recordIdent _ _ => ((), databases)
  | .deleteFromList idents =>
      (failure.elim (idents.length : Int) ErrorCode.code,
        failure.elim (databases.delete idents) fun _ => databases)
  | .transactionStart =>
      if databases.inTransaction then (transactionError, databases) else (0, databases.begin)
  | .transactionEnd =>
      if databases.inTransaction then (0, databases.commit) else (transactionError, databases)
  | .transactionAbort =>
      if databases.inTransaction then (0, databases.rollback) else (transactionError, databases)
  | .stopProcessing => (interruption.stops databases, databases)

section Copying

/-- The entries of `delete_tbl` behind the idents: a full table has been handed to the source. -/
def tableOf (options : Options) (idents : List Nat) : List Nat :=
  if options.deleteCopied then
    idents.drop (deleteTableSize * (idents.length / deleteTableSize)) else []

/-- The idents whose messages the source has been told to delete. -/
def handedOver (options : Options) (idents : List Nat) : List Nat :=
  if options.deleteCopied then
    idents.take (deleteTableSize * (idents.length / deleteTableSize)) else []

/-- What the counters and the databases hold behind the messages `done` of a batch. -/
structure Progress (options : Options) (start : Databases M) (before : Counters)
    (done : List (Nat × M)) (counters : Counters) (databases : Databases M) : Prop where
  queries : databases.queries = start.queries
  copied : databases.copied = done.length
  inserted : databases.committed ++ databases.pending = start.committed ++ done
  limit : counters.limitCopy = before.limitCopy
  idle : databases.inTransaction = false → databases.pending = []
  source : databases.source =
    start.source.filter fun entry => entry.1 ∉ handedOver options (done.map Prod.fst)

/-- Inside a batch, at the head of the loop. -/
structure Copying (options : Options) (start : Databases M) (before : Counters)
    (done : List (Nat × M)) (counters : Counters) (databases : Databases M) : Prop
    extends Progress options start before done counters databases where
  waiting : databases.pending.length = counters.eventNo
  below : counters.eventNo < options.eventsPerTransaction
  events : done.length < options.eventsPerTransaction → counters.eventNo = done.length
  counted : counters.curCount + counters.eventNo = before.curCount + done.length
  opened : 1 < options.eventsPerTransaction ∨ done ≠ [] → databases.inTransaction = true

variable {options : Options} {interruption : Interruption} {start databases : Databases M}
  {before counters : Counters} {done : List (Nat × M)}

/-- COMMIT, if there is a transaction, and BEGIN. -/
def Databases.flushed (databases : Databases M) : Databases M :=
  { databases with
    committed := databases.committed ++ databases.pending, pending := [], inTransaction := true }

theorem run_flush (interruption : Interruption)
    (idle : databases.inTransaction = false → databases.pending = [])
    (rest : Command M (Int × Counters)) :
    (Program.perform .transactionEnd fun _ => .perform .transactionStart fun _ => rest :
        Command M (Int × Counters)).run (serving interruption) databases =
      rest.run (serving interruption) databases.flushed := by
  cases isOpen : databases.inTransaction with
  | true => simp [serving, isOpen, Databases.commit, Databases.begin, Databases.flushed]
  | false =>
      have nothing := idle isOpen
      simp [serving, isOpen, Databases.begin, Databases.flushed, nothing]

theorem Progress.flushed (progress : Progress options start before done counters databases)
    (later : Counters) (sameLimit : later.limitCopy = counters.limitCopy) :
    Progress options start before done later databases.flushed where
  queries := progress.queries
  copied := progress.copied
  inserted := by simpa [Databases.flushed] using progress.inserted
  limit := sameLimit.trans progress.limit
  idle := fun _ => rfl
  source := progress.source

theorem run_flushTransactionIfNeeded {entry : Nat × M}
    (copying : counters.eventNo < options.eventsPerTransaction ∧
      (done.length < options.eventsPerTransaction → counters.eventNo = done.length) ∧
      counters.curCount + counters.eventNo = before.curCount + done.length)
    (progress : Progress options start before (done ++ [entry]) counters databases)
    (waiting : databases.inTransaction = true → databases.pending.length = counters.eventNo + 1)
    (opened : 1 < options.eventsPerTransaction → databases.inTransaction = true)
    (rest : Counters → Command M (Int × Counters)) :
    ∃ after afterwards, Copying options start before (done ++ [entry]) after afterwards ∧
      (flushTransactionIfNeeded options counters 1 rest).run (serving interruption) databases =
        (rest after).run (serving interruption) afterwards := by
  rcases copying with ⟨below, events, counted⟩
  have positive : options.eventsPerTransaction ≠ 0 := by omega
  have length : (done ++ [entry]).length = done.length + 1 := by simp
  simp only [flushTransactionIfNeeded, if_neg positive]
  split
  · rename_i full
    refine ⟨_, _, ?_, run_flush interruption progress.idle _⟩
    refine ⟨progress.flushed _ rfl, rfl, ?_, ?_, ?_, fun _ => rfl⟩
    · exact Nat.pos_of_ne_zero positive
    · rw [length]
      intro inside
      omega
    · rw [length]
      show counters.curCount + (counters.eventNo + 1) + 0 = before.curCount + (done.length + 1)
      omega
  · rename_i notFull
    have isOpen : databases.inTransaction = true := opened (by omega)
    refine ⟨_, databases, ?_, rfl⟩
    refine ⟨?_, waiting isOpen, ?_, ?_, ?_, fun _ => isOpen⟩
    · exact ⟨progress.queries, progress.copied, progress.inserted, progress.limit, progress.idle,
        progress.source⟩
    · show counters.eventNo + 1 < options.eventsPerTransaction
      omega
    · rw [length]
      intro inside
      show counters.eventNo + 1 = done.length + 1
      omega
    · rw [length]
      show counters.curCount + (counters.eventNo + 1) = before.curCount + (done.length + 1)
      omega

/-- No operation on the message at the position is struck. -/
def Interruption.Spares (interruption : Interruption) (queries position : Nat) : Prop :=
  match interruption with
  | .get round struck _ | .insert round struck _ => ¬ (queries = round + 1 ∧ position = struck)
  | _ => True

theorem failure_getMessage {position : Nat}
    (spares : interruption.Spares databases.queries position)
    (here : databases.copied = position) (ident : Nat) :
    interruption.failure (.getMessage ident) databases = none := by
  subst here
  cases interruption <;> simp_all [Interruption.failure, Interruption.Spares]

theorem failure_insertMessage {position : Nat}
    (spares : interruption.Spares databases.queries position) (here : databases.copied = position)
    (ident : Nat) (message : M) :
    interruption.failure (.insertMessage ident message) databases = none := by
  subst here
  cases interruption <;> simp_all [Interruption.failure, Interruption.Spares]

/-- The deletion of a full table is not the one at the end of a batch. -/
theorem failure_full {idents : List Nat} (full : idents.length = deleteTableSize) :
    interruption.failure (.deleteFromList idents) databases = none := by
  cases interruption <;> simp [Interruption.failure, full]

/-- The message of an ident is the one that the source holds. -/
theorem find_entry {messages : List (Nat × M)} (distinct : (messages.map Prod.fst).Nodup)
    {entry : Nat × M} (present : entry ∈ messages) :
    messages.find? (fun other => other.1 = entry.1) = some entry := by
  induction messages with
  | nil => exact absurd present List.not_mem_nil
  | cons head messages ih =>
      rw [List.map_cons, List.nodup_cons] at distinct
      rcases List.mem_cons.mp present with rfl | later
      · simp
      · have differ : head.1 ≠ entry.1 := by
          intro same
          exact distinct.1 (same ▸ List.mem_map_of_mem later)
        rw [List.find?_cons_of_neg (by simpa using differ)]
        exact ih distinct.2 later

theorem handedOver_subset (options : Options) (idents : List Nat) :
    handedOver options idents ⊆ idents := by
  rw [handedOver]
  split
  · exact List.take_subset _ _
  · exact List.nil_subset _

/-- A message that comes later in the batch is still in the source. -/
theorem Progress.find (progress : Progress options start before done counters databases)
    (distinct : (start.source.map Prod.fst).Nodup) {entry : Nat × M}
    (present : entry ∈ start.source) (fresh : entry.1 ∉ done.map Prod.fst) :
    databases.source.find? (fun other => other.1 = entry.1) = some entry := by
  rw [progress.source]
  apply find_entry
  · exact distinct.sublist (List.filter_sublist.map Prod.fst)
  · refine List.mem_filter.mpr ⟨present, ?_⟩
    simpa using fun handed => fresh (handedOver_subset options _ handed)

section Tables

variable (moves : options.deleteCopied = true) (idents : List Nat)
include moves

theorem handedOver_append_tableOf :
    handedOver options idents ++ tableOf options idents = idents := by
  rw [handedOver, tableOf, if_pos moves, if_pos moves, List.take_append_drop]

theorem length_tableOf :
    (tableOf options idents).length = idents.length % deleteTableSize := by
  rw [tableOf, if_pos moves, List.length_drop]
  have split := Nat.div_add_mod idents.length deleteTableSize
  omega

theorem tables_of_room (room : (tableOf options idents).length + 1 < deleteTableSize)
    (ident : Nat) :
    tableOf options (idents ++ [ident]) = tableOf options idents ++ [ident] ∧
      handedOver options (idents ++ [ident]) = handedOver options idents := by
  rw [length_tableOf moves idents] at room
  have sameTables : (idents ++ [ident]).length / deleteTableSize =
      idents.length / deleteTableSize := by
    rw [List.length_append, List.length_singleton]
    simp only [deleteTableSize] at room ⊢
    omega
  have inside : deleteTableSize * (idents.length / deleteTableSize) ≤ idents.length :=
    Nat.mul_div_le _ _
  simp only [tableOf, handedOver, if_pos moves, sameTables]
  exact ⟨List.drop_append_of_le_length inside, List.take_append_of_le_length inside⟩

theorem tables_of_full (full : deleteTableSize ≤ (tableOf options idents).length + 1)
    (ident : Nat) :
    (tableOf options idents ++ [ident]).length = deleteTableSize ∧
      tableOf options (idents ++ [ident]) = [] ∧
      handedOver options (idents ++ [ident]) =
        handedOver options idents ++ (tableOf options idents ++ [ident]) := by
  have length := length_tableOf moves idents
  have whole : deleteTableSize * ((idents ++ [ident]).length / deleteTableSize) =
      (idents ++ [ident]).length := by
    rw [List.length_append, List.length_singleton]
    simp only [deleteTableSize] at full length ⊢
    omega
  refine ⟨?_, ?_, ?_⟩
  · rw [List.length_append, List.length_singleton]
    simp only [deleteTableSize] at full length ⊢
    omega
  · rw [tableOf, if_pos moves, whole, List.drop_length]
  · rw [← List.append_assoc, handedOver_append_tableOf moves, handedOver, if_pos moves, whole,
      List.take_length]

end Tables

/-- The bookkeeping of an insertion, before the source is told anything. -/
structure Inserted (options : Options) (start : Databases M) (before : Counters)
    (done : List (Nat × M)) (entry : Nat × M) (counters : Counters) (databases : Databases M) :
    Prop where
  queries : databases.queries = start.queries
  copied : databases.copied = done.length + 1
  inserted : databases.committed ++ databases.pending = start.committed ++ (done ++ [entry])
  limit : counters.limitCopy = before.limitCopy
  idle : databases.inTransaction = false → databases.pending = []
  source : databases.source =
    start.source.filter fun entry => entry.1 ∉ handedOver options (done.map Prod.fst)
  waiting : databases.inTransaction = true → databases.pending.length = counters.eventNo + 1
  opened : 1 < options.eventsPerTransaction → databases.inTransaction = true

theorem Copying.insert (copying : Copying options start before done counters databases)
    (entry : Nat × M) :
    Inserted options start before done entry counters (databases.insert entry.1 entry.2) := by
  have inserted := copying.inserted
  have waiting := copying.waiting
  have copied := copying.copied
  cases isOpen : databases.inTransaction with
  | true =>
      simp only [Databases.insert, isOpen, if_true]
      refine ⟨copying.queries, ?_, ?_, copying.limit, ?_, copying.source, ?_, fun _ => rfl⟩
      · show databases.copied + 1 = done.length + 1
        rw [copied]
      · show databases.committed ++ (databases.pending ++ [entry]) = _
        rw [← List.append_assoc, inserted, List.append_assoc]
      · intro closed
        exact absurd closed Bool.noConfusion
      · intro _
        simp [waiting]
  | false =>
      have nothing := copying.idle isOpen
      simp only [Databases.insert, isOpen, Bool.false_eq_true, if_false]
      refine ⟨copying.queries, ?_, ?_, copying.limit, fun _ => nothing, copying.source, ?_, ?_⟩
      · show databases.copied + 1 = done.length + 1
        rw [copied]
      · show databases.committed ++ [entry] ++ databases.pending = _
        rw [nothing, List.append_nil] at inserted ⊢
        rw [inserted, List.append_assoc]
      · intro open_
        exact absurd open_ Bool.noConfusion
      · intro several
        exact absurd (isOpen.symm.trans (copying.opened (.inl several))) (by decide)

section Inserted

variable {entry : Nat × M} {afterwards : Databases M}

/-- The source keeps what it has: the table is not handed over. -/
theorem Inserted.progress (inserted : Inserted options start before done entry counters databases)
    (kept : handedOver options ((done ++ [entry]).map Prod.fst) =
      handedOver options (done.map Prod.fst)) :
    Progress options start before (done ++ [entry]) counters databases where
  queries := inserted.queries
  copied := inserted.copied.trans (by simp)
  inserted := inserted.inserted
  limit := inserted.limit
  idle := inserted.idle
  source := by rw [kept, inserted.source]

theorem Inserted.progress_delete
    (inserted : Inserted options start before done entry counters databases) {table : List Nat}
    (handed : handedOver options ((done ++ [entry]).map Prod.fst) =
      handedOver options (done.map Prod.fst) ++ table) :
    Progress options start before (done ++ [entry]) counters (databases.delete table) where
  queries := inserted.queries
  copied := inserted.copied.trans (by simp)
  inserted := inserted.inserted
  limit := inserted.limit
  idle := inserted.idle
  source := by
    rw [handed, Databases.delete, inserted.source, List.filter_filter]
    simp only [List.mem_append, not_or, Bool.decide_and, Bool.and_comm]

end Inserted

theorem run_copyIterate_cons (copying : Copying options start before done counters databases)
    (distinct : (start.source.map Prod.fst).Nodup) {entry : Nat × M}
    (present : entry ∈ start.source) (fresh : entry.1 ∉ done.map Prod.fst)
    (spares : interruption.Spares start.queries done.length) (idents : List Nat) (last : Int) :
    ∃ after afterwards, Copying options start before (done ++ [entry]) after afterwards ∧
      (copyIterate options (entry.1 :: idents) last (tableOf options (done.map Prod.fst))
          counters).run (serving interruption) databases =
        (copyIterate options idents last (tableOf options ((done ++ [entry]).map Prod.fst))
          after).run (serving interruption) afterwards := by
  have spared : interruption.Spares databases.queries done.length := copying.queries ▸ spares
  have inserted := copying.insert entry
  rw [copyIterate, Program.run_perform]
  simp only [serving, failure_getMessage spared copying.copied, Option.elim_none,
    copying.find distinct present fresh, Program.run_perform,
    failure_insertMessage spared copying.copied, Int.lt_irrefl, if_false]
  generalize databases.insert entry.1 entry.2 = afterwards at inserted ⊢
  have counts : counters.eventNo < options.eventsPerTransaction ∧
      (done.length < options.eventsPerTransaction → counters.eventNo = done.length) ∧
      counters.curCount + counters.eventNo = before.curCount + done.length :=
    ⟨copying.below, copying.events, copying.counted⟩
  have idents_append : (done ++ [entry]).map Prod.fst = done.map Prod.fst ++ [entry.1] := by simp
  by_cases moves : options.deleteCopied = true
  · simp only [if_pos moves, Program.run_perform]
    by_cases full : deleteTableSize ≤ (tableOf options (done.map Prod.fst)).length + 1
    · rcases tables_of_full moves _ full entry.1 with ⟨length, empty, handed⟩
      have notNegative : ¬ ((tableOf options (done.map Prod.fst) ++ [entry.1]).length : Int) < 0 :=
        by omega
      rw [if_pos (.inr full)]
      simp only [Program.run_perform, serving, failure_full length, Option.elim_none,
        if_neg notNegative]
      rw [← idents_append] at empty handed
      rw [empty]
      exact run_flushTransactionIfNeeded counts (inserted.progress_delete handed)
        inserted.waiting inserted.opened _
    · rcases tables_of_room moves _ (Nat.not_le.mp full) entry.1 with ⟨grown, kept⟩
      have below : ¬ (0 < options.eventsPerTransaction ∧
          options.eventsPerTransaction ≤ counters.eventNo) := by
        have := copying.below
        omega
      rw [if_neg (not_or.mpr ⟨below, full⟩)]
      rw [← idents_append] at grown kept
      rw [grown]
      exact run_flushTransactionIfNeeded counts (inserted.progress kept)
        inserted.waiting inserted.opened _
  · have kept : handedOver options ((done ++ [entry]).map Prod.fst) =
        handedOver options (done.map Prod.fst) := by
      rw [handedOver, handedOver, if_neg moves, if_neg moves]
    have empty : ∀ idents, tableOf options idents = [] := fun idents => if_neg moves
    rw [if_neg moves, empty, empty]
    exact run_flushTransactionIfNeeded counts (inserted.progress kept)
      inserted.waiting inserted.opened _

/-- The messages of a batch up to the first one that an interruption strikes. -/
theorem run_copyIterate_append (initial : Copying options start before [] counters start)
    (distinct : (start.source.map Prod.fst).Nodup) (done rest : List (Nat × M))
    (present : (done ++ rest) ⊆ start.source) (fresh : ((done ++ rest).map Prod.fst).Nodup)
    (spares : ∀ position < done.length, interruption.Spares start.queries position) (last : Int) :
    ∃ after afterwards, Copying options start before done after afterwards ∧
      (copyIterate options ((done ++ rest).map Prod.fst) last [] counters).run
          (serving interruption) start =
        (copyIterate options (rest.map Prod.fst) last (tableOf options (done.map Prod.fst))
          after).run (serving interruption) afterwards := by
  induction done using List.reverseRecOn generalizing rest with
  | nil =>
      refine ⟨counters, start, initial, ?_⟩
      have empty : tableOf options ([] : List Nat) = [] := by
        rw [tableOf]
        split <;> simp
      rw [List.map_nil, empty, List.nil_append]
  | append_singleton done entry ih =>
      rw [List.append_assoc] at present fresh
      have earlier := fun position (before : position < done.length) =>
        spares position (Nat.lt_of_lt_of_le before (by simp))
      rcases ih ([entry] ++ rest) present fresh earlier with ⟨middle, between, copying, sameRun⟩
      rw [List.map_append, List.nodup_append] at fresh
      have isFresh : entry.1 ∉ done.map Prod.fst := by
        intro isDone
        exact fresh.2.2 _ isDone entry.1 (by simp) rfl
      have isPresent : entry ∈ start.source := present (by simp)
      have spared := spares done.length (by simp)
      rcases run_copyIterate_cons copying distinct isPresent isFresh spared
        (rest.map Prod.fst) last with ⟨after, afterwards, copied, next⟩
      refine ⟨after, afterwards, copied, ?_⟩
      rw [List.append_assoc, sameRun]
      exact next

/-- What a round leaves that copied its whole batch. -/
structure Settled (options : Options) (start : Databases M) (before : Counters)
    (batch : List (Nat × M)) (counters : Counters) (databases : Databases M) : Prop where
  queries : databases.queries = start.queries
  committed : databases.committed = start.committed ++ batch
  pending : databases.pending = []
  source : databases.source = if options.deleteCopied then
    start.source.filter fun entry => entry.1 ∉ batch.map Prod.fst else start.source
  events : counters.eventNo = 0
  counted : counters.curCount = before.curCount + batch.length
  limit : counters.limitCopy = before.limitCopy
  opened : 1 < options.eventsPerTransaction ∨ batch ≠ [] → databases.inTransaction = true

/-- The deletion at the end of a batch is not struck. -/
def Interruption.SparesDeletion (interruption : Interruption) (queries : Nat) : Prop :=
  match interruption with
  | .delete round _ => queries ≠ round + 1
  | _ => True

theorem failure_deleteFromList (spares : interruption.SparesDeletion databases.queries)
    (idents : List Nat) : interruption.failure (.deleteFromList idents) databases = none := by
  cases interruption <;> simp_all [Interruption.failure, Interruption.SparesDeletion]

theorem run_flush_nothing (interruption : Interruption)
    (copying : Copying options start before done counters databases)
    (rest : Counters → Command M (Int × Counters)) :
    ∃ after afterwards,
      (Progress options start before done after afterwards ∧ afterwards.pending = [] ∧
        after.eventNo = 0 ∧ after.curCount = before.curCount + done.length ∧
        (1 < options.eventsPerTransaction ∨ done ≠ [] → afterwards.inTransaction = true)) ∧
      (flushTransactionIfNeeded options counters 0 rest).run (serving interruption) databases =
        (rest after).run (serving interruption) afterwards := by
  have below := copying.below
  have counted := copying.counted
  have positive : options.eventsPerTransaction ≠ 0 := by omega
  simp only [flushTransactionIfNeeded, if_neg positive]
  split
  · refine ⟨_, _, ?_, run_flush interruption copying.idle _⟩
    refine ⟨copying.toProgress.flushed _ rfl, rfl, rfl, ?_, fun _ => rfl⟩
    exact counted
  · rename_i nothing
    simp only [Nat.add_zero, true_and, not_or, Nat.not_le, not_not] at nothing
    have noEvents : counters.eventNo = 0 := nothing.2
    refine ⟨_, databases, ?_, rfl⟩
    have noneWaiting := copying.waiting
    rw [noEvents] at noneWaiting counted
    refine ⟨?_, List.length_eq_zero_iff.mp noneWaiting, noEvents, counted, copying.opened⟩
    exact ⟨copying.queries, copying.copied, copying.inserted, copying.limit, copying.idle,
      copying.source⟩

theorem run_copyIterate (initial : Copying options start before [] counters start)
    (distinct : (start.source.map Prod.fst).Nodup) (batch : List (Nat × M))
    (present : batch ⊆ start.source) (fresh : (batch.map Prod.fst).Nodup)
    (spares : ∀ position < batch.length, interruption.Spares start.queries position)
    (deletes : tableOf options (batch.map Prod.fst) = [] ∨
      interruption.SparesDeletion start.queries) :
    ∃ after afterwards, Settled options start before batch after afterwards ∧
      (copyIterate options (batch.map Prod.fst) 0 [] counters).run (serving interruption) start =
        ((0, after), afterwards) := by
  rcases run_copyIterate_append initial distinct batch [] (by simpa using present)
    (by simpa using fresh) spares 0 with ⟨middle, between, copying, sameRun⟩
  rw [List.append_nil] at sameRun
  rw [sameRun, List.map_nil, copyIterate]
  have flushes := run_flush_nothing interruption copying
  generalize tableIs : tableOf options (batch.map Prod.fst) = table
  rcases flushes fun counters => if table = [] then .done ((0 : Int), counters)
      else .perform (.deleteFromList table) fun count =>
        .done (if count < 0 then -1 else 0, counters) with
    ⟨after, afterwards, ⟨progress, pending, events, counted, opened⟩, flushed⟩
  have inserted := progress.inserted
  rw [pending, List.append_nil] at inserted
  refine ⟨after, ?_⟩
  rw [flushed]
  have settled : ∀ source : List (Nat × M), source = (if options.deleteCopied then
      start.source.filter fun entry => entry.1 ∉ batch.map Prod.fst else start.source) →
      Settled options start before batch after { afterwards with source := source } := fun _ is =>
    ⟨progress.queries, inserted, pending, is, events, counted, progress.limit, opened⟩
  by_cases moves : options.deleteCopied = true
  · have whole := handedOver_append_tableOf moves (batch.map Prod.fst)
    have source := progress.source
    rw [tableIs] at whole
    generalize handedOver options (batch.map Prod.fst) = handed at whole source
    by_cases empty : table = []
    · refine ⟨afterwards, settled afterwards.source ?_, ?_⟩
      · rw [source, if_pos moves, ← whole, empty, List.append_nil]
      · rw [if_pos empty, Program.run_done]
    · have spared : interruption.failure (.deleteFromList table) afterwards = none :=
        failure_deleteFromList (progress.queries ▸ deletes.resolve_left (tableIs ▸ empty)) table
      have notNegative : ¬ (table.length : Int) < 0 := by omega
      refine ⟨afterwards.delete table, settled _ ?_, ?_⟩
      · rw [if_pos moves, ← whole, source, List.filter_filter]
        simp only [List.mem_append, not_or, Bool.decide_and, Bool.and_comm]
      · simp only [if_neg empty, Program.run_perform, serving, spared, Option.elim_none,
          if_neg notNegative, Program.run_done]
  · have empty : table = [] := tableIs.symm.trans (if_neg moves)
    have kept : afterwards.source = start.source := by
      rw [progress.source, handedOver, if_neg moves]
      simp
    refine ⟨afterwards, settled afterwards.source ?_, ?_⟩
    · rw [kept, if_neg moves]
    · rw [if_pos empty, Program.run_done]

end Copying

section Rounds

variable {options : Options} {interruption : Interruption} {counters : Counters}
  {databases : Databases M}

/-- The messages that the query of a round finds. -/
def nextBatch (options : Options) (counters : Counters) (source : List (Nat × M)) :
    List (Nat × M) :=
  window
    (toCInt (if counters.limitCopy < 0 then (options.eventsPerTransaction : Int)
      else min (options.eventsPerTransaction : Int) counters.limitCopy))
    (toCInt (toCInt options.offset + (if options.deleteCopied then 0 else counters.curCount : Nat)))
    source

theorem window_sublist {α : Type} (limit offset : Int) (messages : List α) :
    (window limit offset messages).Sublist messages := by
  rw [window]
  split
  · exact List.drop_sublist _ _
  · exact (List.take_sublist _ _).trans (List.drop_sublist _ _)

/-- The databases behind a query for idents. -/
def Databases.queried (databases : Databases M) : Databases M :=
  { databases with queries := databases.queries + 1, copied := 0 }

/-- At the head of the outer loop nothing is pending. -/
structure Head (options : Options) (counters : Counters) (databases : Databases M) : Prop where
  positive : 0 < options.eventsPerTransaction
  events : counters.eventNo = 0
  pending : databases.pending = []
  opened : 1 < options.eventsPerTransaction → databases.inTransaction = true

/-- The counters once a batch has been charged to the limit. -/
def Counters.charged (counters : Counters) (count : Int) : Counters :=
  if counters.limitCopy > 0 then { counters with limitCopy := counters.limitCopy - count }
  else counters

@[simp]
theorem charged_eventNo (count : Int) : (counters.charged count).eventNo = counters.eventNo := by
  rw [Counters.charged]
  split <;> rfl

@[simp]
theorem charged_curCount (count : Int) : (counters.charged count).curCount = counters.curCount := by
  rw [Counters.charged]
  split <;> rfl

theorem Head.copying (head : Head options counters databases) (count : Int) :
    Copying options databases.queried (counters.charged count) [] (counters.charged count)
      databases.queried := by
  have noEvents : (counters.charged count).eventNo = 0 := by rw [charged_eventNo, head.events]
  have pending : databases.queried.pending = [] := head.pending
  have none_ : ∀ idents, handedOver options (([] : List (Nat × M)).map Prod.fst) = idents →
      idents = [] := by
    rintro _ rfl
    exact List.subset_nil.mp (handedOver_subset options [])
  refine ⟨⟨rfl, rfl, ?_, rfl, fun _ => pending, ?_⟩, ?_, ?_, fun _ => noEvents, ?_, ?_⟩
  · rw [pending]
  · rw [none_ _ rfl]
    exact (List.filter_eq_self.mpr (by simp)).symm
  · rw [pending, noEvents, List.length_nil]
  · rw [noEvents]
    exact head.positive
  · rw [noEvents]
    rfl
  · rintro (several | some_)
    · exact head.opened several
    · exact absurd rfl some_

/-- The round that the interruption is in. -/
def Interruption.round : Interruption → Option Nat
  | .none => .none
  | .signal round | .fetch round _ | .get round _ _ | .insert round _ _ | .delete round _ =>
      some round

theorem run_fetchMessageIdentsLimited
    (answered : ∀ limit offset, interruption.failure (.fetchIdents limit offset) databases = none)
    (rest : Except ErrorCode Batch → Counters → Command M (Int × Counters)) :
    (fetchMessageIdentsLimited options counters rest).run (serving interruption) databases =
      (rest (.ok (.ofMessages (nextBatch options counters databases.source)))
        (counters.charged (nextBatch options counters databases.source).length)).run
          (serving interruption) databases.queried := by
  simp only [fetchMessageIdentsLimited, Program.run_perform, serving, answered, Option.elim_none]
  rfl

theorem run_copyRounds_nothing
    (answered : ∀ limit offset, interruption.failure (.fetchIdents limit offset) databases = none)
    (rounds : Nat) (nothing : nextBatch options counters databases.source = []) :
    (copyRounds options (rounds + 1) counters).run (serving interruption) databases =
      (transactionEnd options 0 (counters.charged 0)).run (serving interruption)
        databases.queried := by
  rw [copyRounds, run_fetchMessageIdentsLimited answered, nothing]
  rfl

variable (interruption) in
/-- A round none of whose operations is struck, up to the test of the signal. -/
theorem run_copyRounds_settled (head : Head options counters databases)
    (distinct : (databases.source.map Prod.fst).Nodup)
    (some_ : nextBatch options counters databases.source ≠ [])
    (answered : ∀ limit offset, interruption.failure (.fetchIdents limit offset) databases = none)
    (spares : ∀ position < (nextBatch options counters databases.source).length,
      interruption.Spares (databases.queries + 1) position)
    (deletes : tableOf options
        ((nextBatch options counters databases.source).map Prod.fst) = [] ∨
      interruption.SparesDeletion (databases.queries + 1)) :
    ∃ after afterwards,
      Settled options databases.queried
        (counters.charged (nextBatch options counters databases.source).length)
        (nextBatch options counters databases.source) after afterwards ∧
      ∀ rounds, (copyRounds options (rounds + 1) counters).run (serving interruption) databases =
        if interruption.stops afterwards then
          (transactionEnd options 0 after).run (serving interruption) afterwards
        else (copyRounds options rounds after).run (serving interruption) afterwards := by
  have among : (nextBatch options counters databases.source).Sublist databases.source :=
    window_sublist _ _ _
  have positive : ¬ (Batch.ofMessages (nextBatch options counters databases.source)).count ≤ 0 := by
    simpa [Batch.ofMessages] using some_
  rcases run_copyIterate (head.copying _) distinct
      (nextBatch options counters databases.source) among.subset
      (distinct.sublist (among.map Prod.fst)) spares deletes with
    ⟨after, afterwards, settled, copied⟩
  refine ⟨after, afterwards, settled, fun rounds => ?_⟩
  rw [copyRounds, run_fetchMessageIdentsLimited answered]
  simp only [if_neg positive, Program.run_bind]
  simp only [Batch.ofMessages, copied, Int.lt_irrefl, if_false, Program.run_perform, serving]
  by_cases stop : interruption.stops afterwards = true
  · rw [if_pos stop]
    exact congrArg (Program.run (serving interruption) · afterwards) (if_pos stop)
  · rw [if_neg stop]
    exact congrArg (Program.run (serving interruption) · afterwards) (if_neg stop)

section Spared

variable (spared : interruption.round ≠ some databases.queries)
include spared

theorem failure_fetchIdents (limit offset : Int) :
    interruption.failure (.fetchIdents limit offset) databases = none := by
  cases interruption <;> simp_all [Interruption.failure, Interruption.round, eq_comm]

theorem spares_of_round (position : Nat) :
    interruption.Spares (databases.queries + 1) position := by
  cases interruption <;> simp_all [Interruption.Spares, Interruption.round, eq_comm]

theorem sparesDeletion_of_round : interruption.SparesDeletion (databases.queries + 1) := by
  cases interruption <;> simp_all [Interruption.SparesDeletion, Interruption.round, eq_comm]

theorem stops_of_round {later : Databases M} (sameRound : later.queries = databases.queries + 1) :
    interruption.stops later = false := by
  cases interruption <;> simp_all [Interruption.stops, Interruption.round, eq_comm]

/-- The query of a round that answers nothing ends the loop. -/
theorem run_copyRounds_last (rounds : Nat)
    (nothing : nextBatch options counters databases.source = []) :
    (copyRounds options (rounds + 1) counters).run (serving interruption) databases =
      (transactionEnd options 0 (counters.charged 0)).run (serving interruption)
        databases.queried :=
  run_copyRounds_nothing (failure_fetchIdents spared) rounds nothing

theorem run_copyRounds_succ (head : Head options counters databases)
    (distinct : (databases.source.map Prod.fst).Nodup)
    (some_ : nextBatch options counters databases.source ≠ []) :
    ∃ after afterwards,
      Settled options databases.queried
        (counters.charged (nextBatch options counters databases.source).length)
        (nextBatch options counters databases.source) after afterwards ∧
      ∀ rounds, (copyRounds options (rounds + 1) counters).run (serving interruption) databases =
        (copyRounds options rounds after).run (serving interruption) afterwards := by
  rcases run_copyRounds_settled interruption head distinct some_ (failure_fetchIdents spared)
      (fun position _ => spares_of_round spared position)
      (.inr (sparesDeletion_of_round spared)) with ⟨after, afterwards, settled, goesOn⟩
  refine ⟨after, afterwards, settled, fun rounds => ?_⟩
  have noSignal : interruption.stops afterwards = false := stops_of_round spared settled.queries
  rw [goesOn, noSignal, if_neg Bool.false_ne_true]

end Spared

end Rounds

end RequiemDB.Admin
