import RequiemDB.Admin.Copy

/-!
# Moving messages without losing one

A message is safe while it is in the source or committed in the destination. The
deletions of `copyIterate` are safe when the idents in `delete_tbl` are those of
messages that the destination has committed. Two steps of the command do not see
to this: a failed COMMIT goes unnoticed, and a table that fills up is handed to
the source although the transaction on the destination is open. Runs without
such a step keep every message safe at every point.
-/

namespace RequiemDB.Admin

open Lib

variable {M : Type}

/-- Every message that the source started with is in the source or committed. -/
def Safe (initial : Nat → Option M) (state : State M) : Prop :=
  ∀ ident message, initial ident = some message →
    state.source ident = some message ∨ (ident, message) ∈ state.committed

/--
The condition on a step. A write to `delete_tbl` stays inside of it, and leaves room for
another entry while the destination has an open transaction. COMMIT succeeds when there is
something to commit.
-/
def Allowed (oracle : Nat → Fate) (op : Op M) (state : State M) : Prop :=
  match op with
  | .recordIdent index _ => index < deleteTableSize ∧
      (state.inTransaction = true → index + 1 < deleteTableSize)
  | .transactionEnd => state.inTransaction = true → state.pending ≠ [] →
      (oracle state.settled).error = none
  | _ => True

/-- The messages of the idents in the table have been inserted, and may wait for COMMIT. -/
structure Core (initial : Nat → Option M) (table : List Nat) (state : State M) : Prop where
  safe : Safe initial state
  shrinks : ∀ ident message, state.source ident = some message → initial ident = some message
  recorded : ∀ ident ∈ table, ∀ message, initial ident = some message →
    (ident, message) ∈ state.committed ++ state.pending
  idle : state.inTransaction = false → state.pending = []

namespace Core

variable {initial : Nat → Option M} {table : List Nat} {state : State M}

theorem settle (core : Core initial table state) : Core initial table state.settle :=
  ⟨core.safe, core.shrinks, core.recorded, core.idle⟩

theorem forget (core : Core initial table state) : Core initial [] state :=
  ⟨core.safe, core.shrinks, fun _ absent => absurd absent List.not_mem_nil, core.idle⟩

theorem insert (core : Core initial table state) (ident : Nat) (message : M) :
    Core initial table (state.insert ident message) := by
  rw [State.insert]
  split
  · rename_i inTransaction
    refine ⟨core.safe, core.shrinks, ?_, fun closed => by simp [inTransaction] at closed⟩
    intro other present held isInitial
    have before := core.recorded other present held isInitial
    rw [← List.append_assoc]
    exact List.mem_append_left _ before
  · refine ⟨?_, core.shrinks, ?_, core.idle⟩
    · intro other held isInitial
      exact (core.safe other held isInitial).imp_right (List.mem_append_left _)
    · intro other present held isInitial
      have before := core.recorded other present held isInitial
      simp only [List.mem_append] at before ⊢
      exact before.imp_left Or.inl

theorem mem_insert (state : State M) (ident : Nat) (message : M) :
    (ident, message) ∈
      (state.insert ident message).committed ++ (state.insert ident message).pending := by
  rw [State.insert]
  split <;> simp

/-- The message of a source ident is recorded once it has been inserted. -/
theorem record (core : Core initial table state) {ident : Nat} {message : M}
    (inserted : (ident, message) ∈ state.committed ++ state.pending)
    (read : initial ident = some message) : Core initial (table ++ [ident]) state := by
  refine ⟨core.safe, core.shrinks, ?_, core.idle⟩
  intro other present held isInitial
  rcases List.mem_append.mp present with old | new
  · exact core.recorded other old held isInitial
  · rw [List.mem_singleton.mp new] at isInitial ⊢
    rw [read, Option.some.injEq] at isInitial
    rwa [← isInitial]

/-- The source may forget what the destination has committed. -/
theorem delete (core : Core initial table state) (nothingPending : state.pending = []) :
    Core initial table (state.delete table) := by
  refine ⟨?_, ?_, core.recorded, core.idle⟩
  · intro ident message isInitial
    by_cases inTable : ident ∈ table
    · right
      have stored := core.recorded ident inTable message isInitial
      rwa [nothingPending, List.append_nil] at stored
    · have before := core.safe ident message isInitial
      simpa [State.delete, inTable] using before
  · intro ident message present
    simp only [State.delete] at present
    split at present
    · exact absurd present (by simp)
    · exact core.shrinks ident message present

theorem commit (core : Core initial table state) : Core initial table state.commit := by
  refine ⟨?_, core.shrinks, ?_, fun _ => rfl⟩
  · intro ident message isInitial
    exact (core.safe ident message isInitial).imp_right (List.mem_append_left _)
  · intro ident present message isInitial
    simpa [State.commit] using core.recorded ident present message isInitial

theorem rollback (core : Core initial table state) (nothingPending : state.pending = []) :
    Core initial table state.rollback := by
  refine ⟨core.safe, core.shrinks, ?_, fun _ => rfl⟩
  show ∀ ident ∈ table, ∀ message, initial ident = some message →
    (ident, message) ∈ state.committed ++ []
  rw [← nothingPending]
  exact core.recorded

theorem begin (core : Core initial table state) (nothingPending : state.pending = []) :
    Core initial table state.begin := by
  refine ⟨core.safe, core.shrinks, ?_, fun closed => by simp [State.begin] at closed⟩
  show ∀ ident ∈ table, ∀ message, initial ident = some message →
    (ident, message) ∈ state.committed ++ []
  rw [← nothingPending]
  exact core.recorded

/-- A rollback may lose what is pending, but nothing that the source still has. -/
theorem rollback_forget (core : Core initial table state) : Core initial [] state.rollback :=
  ⟨core.safe, core.shrinks, fun _ absent => absurd absent List.not_mem_nil, fun _ => rfl⟩

end Core

/-- The state at the head of the loop: fewer messages wait than the counter says. -/
structure Ready (initial : Nat → Option M) (options : Options) (table : List Nat)
    (counters : Counters) (state : State M) : Prop where
  core : Core initial table state
  counted : state.pending.length ≤ counters.eventNo
  below : counters.eventNo < options.eventsPerTransaction

theorem Ready.settle {initial : Nat → Option M} {options : Options} {table : List Nat}
    {counters : Counters} {state : State M} (ready : Ready initial options table counters state) :
    Ready initial options table counters state.settle :=
  ⟨ready.core.settle, ready.counted, ready.below⟩

section Keeps

variable (initial : Nat → Option M) (options : Options) (oracle : Nat → Fate)

/-- A run whose steps are allowed is safe at every step, and ends ready for another round. -/
def Keeps (program : Command M (Int × Counters)) (state : State M) : Prop :=
  program.Along (environment oracle) (Allowed oracle) state →
    program.Along (environment oracle) (fun _ => Safe initial) state ∧
    Ready initial options [] (program.run (environment oracle) state).1.2
      (program.run (environment oracle) state).2

variable {initial options oracle}

theorem keeps_done {ret : Int} {counters : Counters} {table : List Nat} {state : State M}
    (ready : Ready initial options table counters state) :
    Keeps initial options oracle (.done (ret, counters)) state :=
  fun _ => ⟨trivial, ready.core.forget, ready.counted, ready.below⟩

theorem keeps_perform {op : Op M} {next : Reply op → Command M (Int × Counters)}
    {state : State M} (safe : Safe initial state)
    (keeps : Allowed oracle op state →
      Keeps initial options oracle (next (environment oracle op state).1)
        (environment oracle op state).2) :
    Keeps initial options oracle (.perform op next) state := by
  rintro ⟨allowed, later⟩
  rcases keeps allowed later with ⟨goodLater, ready⟩
  exact ⟨⟨safe, goodLater⟩, ready⟩

theorem keeps_bind {program : Command M (Int × Counters)}
    {rest : Int × Counters → Command M (Int × Counters)} {state : State M}
    (keeps : Keeps initial options oracle program state)
    (keepsRest : ∀ ret counters next, Ready initial options [] counters next →
      Keeps initial options oracle (rest (ret, counters)) next) :
    Keeps initial options oracle (program >>= rest) state := by
  intro allowed
  rw [Program.along_bind] at allowed ⊢
  rw [Program.run_bind]
  rcases keeps allowed.1 with ⟨safe, ready⟩
  rcases keepsRest _ _ _ ready allowed.2 with ⟨safeRest, readyRest⟩
  exact ⟨⟨safe, safeRest⟩, readyRest⟩

/-- COMMIT and BEGIN: nothing is pending behind them, and the table keeps its meaning. -/
theorem keeps_flush {table : List Nat} {state : State M}
    {rest : Command M (Int × Counters)} (core : Core initial table state)
    (keeps : ∀ next, Core initial table next → next.pending = [] →
      Keeps initial options oracle rest next) :
    Keeps initial options oracle
      (.perform .transactionEnd fun _ => .perform .transactionStart fun _ => rest) state := by
  apply keeps_perform core.safe
  intro allowed
  have ended : Core initial table (environment oracle .transactionEnd state).2 ∧
      (environment oracle .transactionEnd state).2.pending = [] := by
    simp only [environment]
    split
    · rename_i inTransaction
      split
      · exact ⟨core.settle.commit, rfl⟩
      · rename_i failed
        have nothingPending : state.pending = [] := by
          by_contra somePending
          exact failed (allowed inTransaction somePending)
        exact ⟨core.settle.rollback nothingPending, rfl⟩
    · rename_i closed
      exact ⟨core.settle, core.idle (by simpa using closed)⟩
  rcases ended with ⟨coreEnded, nothingPending⟩
  apply keeps_perform coreEnded.safe
  intro _
  generalize (environment oracle .transactionEnd state).2 = middle at coreEnded nothingPending
  apply keeps
  · simp only [environment]
    split
    · exact coreEnded.settle
    · split
      · exact coreEnded.settle.begin nothingPending
      · exact coreEnded.settle
  · simp only [environment]
    split
    · exact nothingPending
    · split
      · rfl
      · exact nothingPending

/-- The flush keeps the invariant of the loop; without an increment nothing stays pending. -/
theorem keeps_flushTransactionIfNeeded {table : List Nat} {counters : Counters} {increment : Nat}
    {state : State M} {rest : Counters → Command M (Int × Counters)}
    (core : Core initial table state)
    (counted : state.pending.length ≤ counters.eventNo + increment)
    (below : counters.eventNo < options.eventsPerTransaction)
    (keeps : ∀ flushed next, Ready initial options table flushed next →
      (increment = 0 → next.pending = []) →
      Keeps initial options oracle (rest flushed) next) :
    Keeps initial options oracle
      (flushTransactionIfNeeded options counters increment rest) state := by
  have positive : options.eventsPerTransaction ≠ 0 := by omega
  simp only [flushTransactionIfNeeded, if_neg positive]
  split
  · apply keeps_flush core
    intro next coreNext nothingPending
    refine keeps _ _ ⟨coreNext, ?_, ?_⟩ fun _ => nothingPending
    · simp [nothingPending]
    · show 0 < options.eventsPerTransaction
      omega
  · rename_i noFlush
    simp only [not_or, not_and, not_not] at noFlush
    rcases noFlush with ⟨notFull, noRest⟩
    apply keeps _ _ ⟨core, counted, by simpa using notFull⟩
    intro noIncrement
    have noEvents := noRest noIncrement
    exact List.length_eq_zero_iff.mp (by omega)

/-- Behind a deletion that the destination has caught up with. -/
theorem keeps_delete {table : List Nat} {state : State M}
    {next : Int → Command M (Int × Counters)} (core : Core initial table state)
    (nothingPending : state.pending = [])
    (keeps : ∀ count after, Core initial table after → after.pending = [] →
      Keeps initial options oracle (next count) after) :
    Keeps initial options oracle (.perform (.deleteFromList table) next) state := by
  apply keeps_perform core.safe
  intro _
  apply keeps
  · simp only [environment]
    split
    · exact core.settle.delete nothingPending
    · exact core.settle
  · simp only [environment]
    split <;> exact nothingPending

/-- A message that is read is the one that the source started with. -/
theorem read_of_getMessage {ident : Nat} {message : M} {table : List Nat} {state : State M}
    (core : Core initial table state)
    (answer : (environment oracle (.getMessage ident) state).1 = .ok message) :
    initial ident = some message := by
  apply core.shrinks
  simp only [environment] at answer
  split at answer
  · rename_i stored
    rw [stored, Except.ok.inj answer]
  · cases answer
  · cases answer

theorem length_pending_insert (state : State M) (ident : Nat) (message : M) :
    (state.insert ident message).pending.length ≤ state.pending.length + 1 := by
  rw [State.insert]
  split <;> simp

/-- The rest of an iteration behind the read of a message, when later iterations keep. -/
theorem keeps_copied {ident : Nat} {idents table : List Nat} {last : Int} {counters : Counters}
    {message : M} {state : State M} (read : initial ident = some message)
    (ready : Ready initial options table counters state)
    (later : ∀ {table counters next}, Ready initial options table counters next →
      Keeps initial options oracle (copyIterate options idents last table counters) next) :
    Keeps initial options oracle
      (.perform (.insertMessage ident message) fun ret =>
        if ret < 0 then .done (ret, counters)
        else if options.deleteCopied then
          .perform (.recordIdent table.length ident) fun _ =>
          if 0 < options.eventsPerTransaction ∧ options.eventsPerTransaction ≤ counters.eventNo ∨
              deleteTableSize ≤ table.length + 1 then
            .perform (.deleteFromList (table ++ [ident])) fun count =>
            if count < 0 then copyIterate options idents last (table ++ [ident]) counters
            else flushTransactionIfNeeded options counters 1 (copyIterate options idents last [])
          else flushTransactionIfNeeded options counters 1
            (copyIterate options idents last (table ++ [ident]))
        else flushTransactionIfNeeded options counters 1 (copyIterate options idents last table))
      state := by
  rcases ready with ⟨core, counted, below⟩
  apply keeps_perform core.safe
  intro _
  cases fate : (oracle state.settled).error with
  | some error =>
      have negative := error.negative
      simp only [environment, Fate.code, fate, Option.elim_some, negative, if_true]
      exact keeps_done ⟨core.settle, counted, below⟩
  | none =>
      simp only [environment, Fate.code, fate, Option.elim_none, Int.lt_irrefl, if_true, if_false]
      have inserted := core.settle.insert ident message
      have stored := Core.mem_insert state.settle ident message
      have grown : (state.settle.insert ident message).pending.length ≤ counters.eventNo + 1 :=
        Nat.le_trans (length_pending_insert state.settle ident message)
          (Nat.add_le_add_right counted 1)
      generalize state.settle.insert ident message = after at inserted stored grown
      split
      · apply keeps_perform inserted.safe
        intro allowed
        have recorded := (inserted.record stored read).settle
        split
        · rename_i full
          have tableFull : deleteTableSize ≤ table.length + 1 := by
            rcases full with ⟨_, late⟩ | tableFull
            · omega
            · exact tableFull
          have closed : after.inTransaction = false := by
            by_contra open_
            have room := allowed.2 (by simpa using open_)
            omega
          have nothingPending : after.pending = [] := inserted.idle closed
          apply keeps_delete recorded nothingPending
          intro count next coreNext nothingPendingNext
          split
          · exact later ⟨coreNext, by simp [nothingPendingNext], below⟩
          · apply keeps_flushTransactionIfNeeded coreNext.forget
              (by simp [nothingPendingNext]) below
            intro flushed flushedState readyFlushed _
            exact later readyFlushed
        · apply keeps_flushTransactionIfNeeded recorded grown below
          intro flushed flushedState readyFlushed _
          exact later readyFlushed
      · apply keeps_flushTransactionIfNeeded inserted grown below
        intro flushed flushedState readyFlushed _
        exact later readyFlushed

theorem keeps_copyIterate {idents table : List Nat} {last : Int} {counters : Counters}
    {state : State M} (ready : Ready initial options table counters state) :
    Keeps initial options oracle (copyIterate options idents last table counters) state := by
  induction idents generalizing table counters state with
  | nil =>
      apply keeps_flushTransactionIfNeeded ready.core ready.counted ready.below
      intro flushed next readyNext caughtUp
      split
      · exact keeps_done readyNext
      · apply keeps_delete readyNext.core (caughtUp rfl)
        intro count after coreAfter nothingPending
        exact keeps_done ⟨coreAfter, by simp [nothingPending], readyNext.below⟩
  | cons ident idents ih =>
      rw [copyIterate]
      apply keeps_perform ready.core.safe
      intro _
      cases answer : (environment oracle (.getMessage ident) state).1 with
      | error error => exact keeps_done ready.settle
      | ok message =>
          have read := read_of_getMessage ready.core answer
          exact keeps_copied read ready.settle ih

/-- The end of the command commits or discards what its transaction holds. -/
theorem keeps_transactionEnd {ret : Int} {counters : Counters} {state : State M}
    (ready : Ready initial options [] counters state) :
    Keeps initial options oracle (transactionEnd options ret counters) state := by
  rw [transactionEnd]
  split
  · split
    · apply keeps_perform ready.core.safe
      intro _
      simp only [environment]
      split
      · exact keeps_done ⟨ready.core.settle.rollback_forget, Nat.zero_le _, ready.below⟩
      · exact keeps_done ready.settle
    · apply keeps_perform ready.core.safe
      intro _
      simp only [environment]
      split
      · split
        · exact keeps_done ⟨ready.core.settle.commit, Nat.zero_le _, ready.below⟩
        · exact keeps_done ⟨ready.core.settle.rollback_forget, Nat.zero_le _, ready.below⟩
      · exact keeps_done ⟨ready.core.settle, ready.counted, ready.below⟩
  · exact keeps_done ready

/-- The counters that the rounds share with the transaction do not depend on the limit. -/
theorem keeps_copyRounds {rounds : Nat} {counters : Counters} {state : State M}
    (ready : Ready initial options [] counters state) :
    Keeps initial options oracle (copyRounds options rounds counters) state := by
  induction rounds generalizing counters state with
  | zero => exact keeps_done ready
  | succ rounds ih =>
      rw [copyRounds, fetchMessageIdentsLimited]
      apply keeps_perform ready.core.safe
      intro _
      cases fate : (oracle state.settled).error with
      | some error =>
          simp only [environment, fate, Option.elim_some]
          exact keeps_transactionEnd ready.settle
      | none =>
          simp only [environment, fate, Option.elim_none]
          have readyFetched : Ready initial options []
              (if counters.limitCopy > 0 then
                { counters with
                  limitCopy := counters.limitCopy - (oracle state.settled).batch.count }
              else counters) state.settle := by
            split
            · exact ⟨ready.core.settle, ready.counted, ready.below⟩
            · exact ready.settle
          generalize (if counters.limitCopy > 0 then
              { counters with limitCopy := counters.limitCopy - (oracle state.settled).batch.count }
            else counters) = fetched at readyFetched ⊢
          split
          · exact keeps_transactionEnd readyFetched
          · apply keeps_bind (keeps_copyIterate readyFetched)
            intro ret after next readyNext
            show Keeps initial options oracle
              (if ret < 0 then transactionEnd options ret after
              else .perform .stopProcessing fun stop =>
                if stop then transactionEnd options ret after
                else copyRounds options rounds after) next
            split
            · exact keeps_transactionEnd readyNext
            · apply keeps_perform readyNext.core.safe
              intro _
              split
              · exact keeps_transactionEnd readyNext.settle
              · exact ih readyNext.settle

end Keeps

/-- The databases when the command starts: an empty transaction state on the destination. -/
def State.start (source : Nat → Option M) (committed : List (Nat × M)) : State M where
  source := source
  committed := committed
  pending := []
  inTransaction := false
  settled := 0

/--
A move does not lose a message: in every run whose steps are allowed, at every point each
message that the source started with is in the source or committed in the destination.
-/
theorem move_safe (options : Options) (positive : 1 ≤ options.eventsPerTransaction)
    (limit : Int) (rounds : Nat) (oracle : Nat → Fate)
    (source : Nat → Option M) (committed : List (Nat × M))
    (allowed : (doCmdCopyMove options rounds limit).Along (environment oracle) (Allowed oracle)
      (State.start source committed)) :
    (doCmdCopyMove options rounds limit).Along (environment oracle) (fun _ => Safe source)
        (State.start source committed) ∧
      Safe source ((doCmdCopyMove options rounds limit).run (environment oracle)
        (State.start source committed)).2 := by
  have core : Core source [] (State.start source committed) :=
    ⟨fun _ _ isInitial => Or.inl isInitial, fun _ _ present => present,
      fun _ absent => absurd absent List.not_mem_nil, fun _ => rfl⟩
  have keeps : Keeps source options oracle (doCmdCopyMove options rounds limit)
      (State.start source committed) := by
    rw [doCmdCopyMove, transactionStart]
    split
    · apply keeps_perform core.safe
      intro _
      apply keeps_copyRounds
      cases fate : (oracle 0).error with
      | none =>
          have begun : (environment oracle .transactionStart (State.start source committed)).2 =
              (State.start source committed).settle.begin := by
            simp [environment, State.start, fate]
          rw [begun]
          exact ⟨core.settle.begin rfl, Nat.zero_le _, positive⟩
      | some error =>
          have refused : (environment oracle .transactionStart (State.start source committed)).2 =
              (State.start source committed).settle := by
            simp [environment, State.start, fate]
          rw [refused]
          exact ⟨core.settle, Nat.zero_le _, positive⟩
    · exact keeps_copyRounds ⟨core, Nat.zero_le _, positive⟩
  rcases keeps allowed with ⟨along, ready⟩
  exact ⟨along, ready.core.safe⟩

/-- The options of a move that names none. -/
def defaultMove : Options := ⟨1000, 0, true⟩

/-- A source with one message. -/
def oneMessage : Nat → Option String := fun ident => if ident = 1 then some "message" else none

/-- The one ident is fetched once; the first COMMIT, the sixth operation, ends as given. -/
def oneBatch (commit : Option ErrorCode) (settled : Nat) : Fate where
  error := if settled = 5 then commit else none
  batch := if settled = 1 then ⟨1, [1], 0, Batch.ended_zero⟩ else ⟨0, [], 0, Batch.ended_zero⟩
  stop := false

theorem move_safe_oneMessage :
    (doCmdCopyMove defaultMove 2 (-1)).Along (environment (oneBatch none))
        (fun _ => Safe oneMessage) (State.start oneMessage []) ∧
      Safe oneMessage ((doCmdCopyMove defaultMove 2 (-1)).run (environment (oneBatch none))
        (State.start oneMessage [])).2 := by
  apply move_safe defaultMove (by decide)
  refine ⟨trivial, trivial, trivial, trivial, ⟨by decide, fun _ => by decide⟩, ?_⟩
  exact ⟨fun _ _ => rfl, trivial, trivial, trivial, trivial, fun _ _ => rfl, trivial⟩

/-- The COMMIT fails, and the message is deleted from the source all the same. -/
theorem move_loses_message :
    ¬ Safe oneMessage ((doCmdCopyMove defaultMove 2 (-1)).run
      (environment (oneBatch (some ⟨-1, by decide⟩))) (State.start oneMessage [])).2 := by
  intro safe
  rcases safe 1 "message" rfl with inSource | committed
  · exact absurd inSource (by decide)
  · exact absurd committed (by decide)

end RequiemDB.Admin
