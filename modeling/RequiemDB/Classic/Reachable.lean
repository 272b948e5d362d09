import RequiemDB.Classic.Delete
import RequiemDB.Classic.Ownership

/-!
# The databases that the plugin builds

A database is reached by calls of `classicInsert` and of the delete functions,
any of whose statements may fail. The invariant is `Store.Sound`: every row
remembers a message to which it belongs, and the ident of that message has been
given out. A call of `classicInsert` adds rows of one fresh message only.
-/

namespace RequiemDB

open Lib

variable {E : EnumKind → Type} [Librequiem E]

/-- The row belongs to the message it was inserted for, whose ident has been given out. -/
def Entry.Sound (next : MessageTable → Nat) (entry : Entry) : Prop :=
  ∃ owner, entry.owner = some owner ∧ entry.row.BelongsTo owner ∧ owner.ident < next owner.table

/-- No transaction is open, and every row is sound. -/
structure Store.Sound (store : Store) : Prop where
  idle : store.Idle
  entries : ∀ entry ∈ store.committed, entry.Sound store.next

theorem Store.sound_empty : Store.empty.Sound where
  idle := rfl
  entries := fun _ absent => absurd absent List.not_mem_nil

theorem Entry.Sound.mono {next later : MessageTable → Nat} {entry : Entry}
    (sound : entry.Sound next) (grows : ∀ table, next table ≤ later table) :
    entry.Sound later := by
  rcases sound with ⟨owner, isOwner, belongs, given⟩
  exact ⟨owner, isOwner, belongs, Nat.lt_of_lt_of_le given (grows owner.table)⟩

/-- The rows of a sound database are not found by a query for the next message. -/
theorem Store.Sound.not_matches {store : Store} (sound : store.Sound) {kind : MessageTable}
    {query : Select} (avoids : query.Avoids kind.other)
    (ident : query.messageIdent = store.next kind) {row : Row} (present : row ∈ store.rows) :
    ¬ query.Matches row := by
  rcases List.mem_map.mp present with ⟨entry, inStore, rfl⟩
  rw [sound.idle] at inStore
  rcases sound.entries entry inStore with ⟨owner, _, belongs, given⟩
  apply belongs.not_matches avoids
  rintro rfl
  exact absurd (ident ▸ given) (Nat.lt_irrefl _)

/-- A row in a message table is the row of a message of that table. -/
theorem Row.BelongsTo.table_eq {row : Row} {owner : Owner} {table : MessageTable}
    (belongs : row.BelongsTo owner) (inTable : row.table = table.table) :
    owner.table = table := by
  have letter := belongs.letter
  rw [inTable] at letter
  cases table <;> cases kind : owner.table <;>
    simp [Table.letters, MessageTable.table, kind] at letter ⊢

/-- In a sound database the row that is inserted next has the greatest ident of its table. -/
theorem maxIdent_insertMessage_of_sound {store : Store} {next : MessageTable → Nat}
    (entries : ∀ entry ∈ store.visible, entry.Sound next) (table : MessageTable)
    (cells : List (Column × Cell)) (atNext : store.next table = next table) :
    (store.insertMessage table cells).maxIdent table = some (store.next table) := by
  rw [Store.maxIdent, List.max?_eq_some_iff]
  constructor
  · simp [Store.rows, Store.insertMessage, messageRow, Store.nextOwner]
  · intro ident present
    simp only [Store.rows, Store.insertMessage, List.map_append, List.filter_append,
      List.mem_append, List.mem_map, List.mem_filter, decide_eq_true_eq] at present
    rcases present with
      ⟨row, ⟨⟨entry, stored, rfl⟩, inTable⟩, rfl⟩ | ⟨row, ⟨⟨entry, isNew, rfl⟩, _⟩, rfl⟩
    · rcases entries entry stored with ⟨owner, _, belongs, given⟩
      rw [belongs.table_eq inTable] at given
      rw [belongs.ident, atNext]
      exact Nat.le_of_lt given
    · rw [List.mem_singleton.mp isNew]
      exact Nat.le_refl _

/-- The transaction of a message: the rows it sees beyond the committed ones are the message's. -/
structure Grown (base : Store) (owner : Owner) (store : Store) : Prop where
  committed : store.committed = base.committed
  next : store.next = base.next
  writing : store.writing = some owner
  visible : ∃ added, store.visible = base.committed ++ added ∧
    ∀ entry ∈ added, entry.owner = some owner ∧ entry.row.BelongsTo owner

section Grown

variable {base store : Store} {owner : Owner} {faults : Faults}

theorem Grown.counted (grown : Grown base owner store) (op : SqlOp) :
    Grown base owner (store.counted op) := by
  rw [Store.counted]
  split
  · exact ⟨grown.committed, grown.next, grown.writing, grown.visible⟩
  · exact grown

theorem Grown.insert (grown : Grown base owner store) {row : Row}
    (belongs : row.BelongsTo owner) : Grown base owner (store.insert row) := by
  rcases grown.visible with ⟨added, visible, ofOwner⟩
  refine ⟨grown.committed, grown.next, grown.writing, added ++ [⟨some owner, row⟩], ?_, ?_⟩
  · simp [Store.insert, visible, grown.writing]
  · intro entry present
    rcases List.mem_append.mp present with old | new
    · exact ofOwner entry old
    · rw [List.mem_singleton.mp new]
      exact ⟨rfl, belongs⟩

/-- An insertion of a row of the message, whether it fails or not. -/
theorem Grown.environment_insert (grown : Grown base owner store) {row : Row}
    (belongs : row.BelongsTo owner) :
    Grown base owner (environment faults (.insert row) store).2 := by
  cases fault : faults (.insert row) store.sent with
  | none =>
      rw [environment_of_accepted fault]
      exact (grown.counted _).insert belongs
  | some error =>
      rw [environment_of_refused fault]
      exact grown.counted (.insert row)

end Grown

/-- A program that follows a script of the message adds rows of the message only. -/
theorem Emits.grown {program : Sql Int} {script : Script Row} (emits : Emits program script)
    {owner : Owner} (fits : AllFit owner script) (faults : Faults) {base store : Store}
    (grown : Grown base owner store) :
    Grown base owner (program.run (environment faults) store).2 := by
  have ends : ∀ {failing : Sql Int} {state : Store}, GivesUp failing →
      Grown base owner state → Grown base owner (failing.run (environment faults) state).2 := by
    rintro failing state ⟨code, _, rfl⟩ stillGrown
    exact stillGrown
  induction emits generalizing store with
  | done => exact grown
  | @escape input next script failure _ ih =>
      rw [Program.run_perform]
      cases fault : faults (.escape input) store.sent with
      | none =>
          rw [environment_of_accepted fault]
          exact ih fits grown
      | some error =>
          rw [environment_of_refused fault]
          exact ends (failure error) grown
  | @escapeBinary input next script failure _ ih =>
      rw [Program.run_perform]
      cases fault : faults (.escapeBinary input) store.sent with
      | none =>
          rw [environment_of_accepted fault]
          exact ih fits grown
      | some error =>
          rw [environment_of_refused fault]
          exact ends (failure error) grown
  | @must row next script failure _ ih =>
      rcases List.forall_mem_cons.mp fits with ⟨here, later⟩
      have inserted : Grown base owner (environment faults (.insert row) store).2 :=
        grown.environment_insert here.belongs
      rw [Program.run_perform]
      by_cases negative : (environment faults (.insert row) store).1 < 0
      · exact ends (failure _ negative) inserted
      · exact ih _ (Int.not_lt.mp negative) later inserted
  | @ignore row next script _ ih =>
      rcases List.forall_mem_cons.mp fits with ⟨here, later⟩
      exact ih _ later (grown.environment_insert here.belongs)
  | @«instead» row other next script _ _ ihFailure ih =>
      rcases List.forall_mem_cons.mp fits with ⟨here, later⟩
      have inserted : Grown base owner (environment faults (.insert row) store).2 :=
        grown.environment_insert here.belongs
      rw [Program.run_perform]
      by_cases negative : (environment faults (.insert row) store).1 < 0
      · exact ihFailure _ negative
          (List.forall_mem_cons.mpr ⟨.must (here.replaced other rfl).2, later⟩) inserted
      · exact ih _ (Int.not_lt.mp negative) later inserted

section Insert

variable {base store : Store} {owner : Owner} {faults : Faults}

/-- The ident is read back, or the function ends with an error. -/
theorem Grown.getLastInsertIdent (grown : Grown base owner store) {table : MessageTable}
    (found : store.maxIdent table = some owner.ident) {rest : Nat → Sql Int}
    (goesOn : ∀ state, Grown base owner state →
      Grown base owner ((rest owner.ident).run (environment faults) state).2) :
    Grown base owner ((getLastInsertIdent table rest).run (environment faults) store).2 := by
  have selected := grown.counted (.selectMaxIdent table)
  rw [RequiemDB.getLastInsertIdent, Program.run_perform]
  cases fault : faults (.selectMaxIdent table) store.sent with
  | some error =>
      rw [environment_of_refused fault]
      exact selected
  | none =>
      have answer : (store.counted (.selectMaxIdent table)).maxIdent table = some owner.ident :=
        found
      rw [environment_of_accepted fault]
      simp only [Store.accept, answer, Option.elim_some, Program.run_perform]
      cases fetched : faults (.fetchRow table.table 0)
        (store.counted (.selectMaxIdent table)).sent with
      | some error =>
          rw [environment_of_refused fetched]
          exact selected
      | none =>
          rw [environment_of_accepted fetched]
          simp only [counted_fetchRow, Store.accept, Program.run_perform]
          cases field : faults (.fetchField (.number owner.ident))
              (store.counted (.selectMaxIdent table)).sent with
          | some error =>
              rw [environment_of_refused field]
              exact selected
          | none =>
              rw [environment_of_accepted field]
              simpa [Store.accept, Cell.toInt] using goesOn _ selected

/-- The database once the next ident of a table has been given out. -/
def Store.afterIdent (base : Store) (table : MessageTable) : Store :=
  { base with next := Function.update base.next table (base.next table + 1) }

/-- What the transaction of a call finds when it starts. -/
structure Opened (base store : Store) : Prop where
  committed : store.committed = base.committed
  visible : store.visible = base.committed
  next : store.next = base.next

/-- The call has not inserted anything yet, or it has inserted rows of its message only. -/
def Inserting (base : Store) (table : MessageTable) (store : Store) : Prop :=
  Opened base store ∨ Grown (base.afterIdent table) (base.nextOwner table) store

theorem Opened.counted (opened : Opened base store) (op : SqlOp) :
    Opened base (store.counted op) := by
  rw [Store.counted]
  split
  · exact ⟨opened.committed, opened.visible, opened.next⟩
  · exact opened

/-- The ident that is read back behind the insertion is the fresh one. -/
theorem Opened.maxIdent (opened : Opened base store) (sound : base.Sound) (table : MessageTable)
    (cells : List (Column × Cell)) :
    ((store.counted (.insertMessage table cells)).insertMessage table cells).maxIdent table =
      some (base.next table) := by
  have counted := opened.counted (.insertMessage table cells)
  have entries : ∀ entry ∈ (store.counted (.insertMessage table cells)).visible,
      entry.Sound base.next := by
    rw [counted.visible]
    exact sound.entries
  rw [maxIdent_insertMessage_of_sound entries table cells (congrFun counted.next table),
    counted.next]

theorem Opened.insertMessage (opened : Opened base store) (table : MessageTable)
    (cells : List (Column × Cell)) :
    Grown (base.afterIdent table) (base.nextOwner table) (store.insertMessage table cells) := by
  have sameOwner : store.nextOwner table = base.nextOwner table := by
    rw [Store.nextOwner, opened.next, Store.nextOwner]
  refine ⟨opened.committed, ?_, congrArg some sameOwner, ?_⟩
  · simp [Store.insertMessage, Store.afterIdent, opened.next]
  · refine ⟨[⟨some (base.nextOwner table), messageRow (base.nextOwner table) cells⟩], ?_, ?_⟩
    · simp [Store.insertMessage, Store.afterIdent, opened.visible, sameOwner]
    · intro entry present
      rw [List.mem_singleton.mp present]
      exact ⟨rfl, messageRow_belongsTo _ cells⟩

/-- The insertion of a message into a sound database, with any faults. -/
theorem inserting_insertMessage (message : Message E) (sound : base.Sound)
    (opened : Opened base store) :
    Inserting base message.table ((insertMessage message).run (environment faults) store).2 := by
  rw [insertMessage_eq, requiemdbSqlEscape, escapeOr, Program.run_perform]
  cases escaped : faults (.escape message.messageid) store.sent with
  | some error =>
      rw [environment_of_refused escaped]
      exact .inl opened
  | none =>
      rw [environment_of_accepted escaped]
      simp only [counted_escape, Store.accept, run_checked, Program.run_perform]
      generalize (Column.messageid, stringLiteral message.messageid) :: message.cells.tail = cells
      cases inserted : faults (.insertMessage message.table cells) store.sent with
      | some error =>
          simp only [environment_of_refused inserted, refusal, Program.run_done, error.negative,
            if_true]
          exact .inl (opened.counted (.insertMessage message.table cells))
      | none =>
          simp only [environment_of_accepted inserted, Store.accept, Program.run_done,
            Int.lt_irrefl, if_false]
          have counted := opened.counted (.insertMessage message.table cells)
          right
          apply (counted.insertMessage message.table cells).getLastInsertIdent
            (opened.maxIdent sound message.table cells)
          intro state grown
          exact (emits_insertMessageParts _ message).grown
            (allFit_messageScript _ message) faults grown

end Insert

section Close

variable (faults : Faults)

/-- The transaction of a call ends with its rows committed or discarded. -/
theorem run_closeTransaction_cases (ret : Int) (opened : Store) :
    let closed := ((closeTransaction ret).run (environment faults) opened).2
    closed.Idle ∧ closed.next = opened.next ∧
      (closed.committed = opened.committed ∨ closed.committed = opened.visible) := by
  rw [closeTransaction]
  split
  · cases fault : faults .transactionAbort opened.sent with
    | none =>
        rw [Program.run_perform, environment_of_accepted fault]
        exact ⟨rfl, rfl, .inl rfl⟩
    | some error =>
        rw [Program.run_perform, environment_of_refused fault]
        exact ⟨rfl, rfl, .inl rfl⟩
  · cases fault : faults .transactionEnd opened.sent with
    | none =>
        rw [Program.run_perform, environment_of_accepted fault]
        exact ⟨rfl, rfl, .inr rfl⟩
    | some error =>
        rw [Program.run_perform, environment_of_refused fault]
        exact ⟨rfl, rfl, .inl rfl⟩

/-- What is answered with an error has been discarded. -/
theorem closeTransaction_failed (ret : Int) (opened : Store)
    (failed : ((closeTransaction ret).run (environment faults) opened).1 < 0) :
    ((closeTransaction ret).run (environment faults) opened).2.committed = opened.committed := by
  rw [closeTransaction] at failed ⊢
  split at failed
  · rename_i negative
    rw [if_pos negative, Program.run_perform]
    cases fault : faults .transactionAbort opened.sent with
    | none =>
        rw [environment_of_accepted fault]
        rfl
    | some error =>
        rw [environment_of_refused fault]
        rfl
  · rename_i succeeded
    rw [if_neg succeeded]
    rw [Program.run_perform] at failed ⊢
    cases fault : faults .transactionEnd opened.sent with
    | none =>
        rw [environment_of_accepted fault] at failed
        exact absurd failed (Int.lt_irrefl 0)
    | some error =>
        rw [environment_of_refused fault]
        rfl

/-- A call of `classicInsert` adds rows of one message, which has a fresh ident. -/
structure AddsTo (store : Store) (owner : Owner) (result : Store) : Prop where
  idle : result.Idle
  next : ∀ table, store.next table ≤ result.next table
  committed : ∃ added, result.committed = store.committed ++ added ∧
    ∀ entry ∈ added, entry.owner = some owner ∧ entry.row.BelongsTo owner ∧
      owner.ident < result.next owner.table

theorem Inserting.addsTo {base store : Store} {table : MessageTable}
    (inserting : Inserting base table store) (ret : Int) :
    AddsTo base (base.nextOwner table)
      ((closeTransaction ret).run (environment faults) store).2 := by
  rcases run_closeTransaction_cases faults ret store with ⟨idle, next, committed⟩
  rcases inserting with opened | grown
  · refine ⟨idle, fun _ => by rw [next, opened.next], [], ?_, by simp⟩
    rcases committed with same | same
    · rw [same, opened.committed, List.append_nil]
    · rw [same, opened.visible, List.append_nil]
  · rcases grown.visible with ⟨added, visible, ofOwner⟩
    have given : store.next = Function.update base.next table (base.next table + 1) := grown.next
    have mono : ∀ other, base.next other ≤ store.next other := by
      intro other
      rw [given]
      rcases eq_or_ne other table with rfl | different
      · simp
      · simp [different]
    refine ⟨idle, fun other => by rw [next]; exact mono other, ?_⟩
    rcases committed with same | same
    · exact ⟨[], by rw [same, grown.committed, List.append_nil]; rfl, by simp⟩
    · refine ⟨added, by rw [same, visible]; rfl, fun entry present => ?_⟩
      rcases ofOwner entry present with ⟨isOwner, belongs⟩
      exact ⟨isOwner, belongs, by rw [next, given]; simp [Store.nextOwner]⟩

theorem classicInsert_addsTo (message : Message E) {store : Store} (sound : store.Sound) :
    AddsTo store (store.nextOwner message.table)
      ((classicInsert message).run (environment faults) store).2 := by
  rw [classicInsert_eq, run_checked, Program.run_perform]
  cases started : faults .transactionStart store.sent with
  | some error =>
      simp only [environment_of_refused started, refusal, Program.run_done, error.negative,
        if_true]
      exact ⟨sound.idle, fun _ => Nat.le_refl _, [], (List.append_nil _).symm, by simp⟩
  | none =>
      simp only [environment_of_accepted started, Store.accept, Program.run_done, Int.lt_irrefl,
        if_false, Program.run_bind]
      have fresh : Opened store
          { store.counted .transactionStart with
            visible := (store.counted .transactionStart).committed, writing := none } :=
        ⟨rfl, rfl, rfl⟩
      exact (inserting_insertMessage message sound fresh).addsTo faults _

theorem Inserting.committed {base store : Store} {table : MessageTable}
    (inserting : Inserting base table store) : store.committed = base.committed := by
  rcases inserting with opened | grown
  · exact opened.committed
  · exact grown.committed

/-- An insertion that fails leaves nothing. -/
theorem classicInsert_failed (message : Message E) {store : Store} (sound : store.Sound)
    (failed : ((classicInsert message).run (environment faults) store).1 < 0) :
    ((classicInsert message).run (environment faults) store).2.committed = store.committed := by
  rw [classicInsert_eq, run_checked, Program.run_perform] at failed ⊢
  cases started : faults .transactionStart store.sent with
  | some error =>
      simp only [environment_of_refused started, refusal, Program.run_done, error.negative,
        if_true]
      rfl
  | none =>
      simp only [environment_of_accepted started, Store.accept, Program.run_done, Int.lt_irrefl,
        if_false, Program.run_bind] at failed ⊢
      have fresh : Opened store
          { store.counted .transactionStart with
            visible := (store.counted .transactionStart).committed, writing := none } :=
        ⟨rfl, rfl, rfl⟩
      rw [closeTransaction_failed faults _ _ failed]
      exact (inserting_insertMessage message sound fresh).committed

/-- The rows that a sound database has keep sound, and those of a call are. -/
theorem AddsTo.sound {store result : Store} {owner : Owner} (adds : AddsTo store owner result)
    (sound : store.Sound) : result.Sound := by
  rcases adds.committed with ⟨added, committed, ofOwner⟩
  refine ⟨adds.idle, ?_⟩
  rw [committed]
  intro entry present
  rcases List.mem_append.mp present with old | new
  · exact (sound.entries entry old).mono adds.next
  · rcases ofOwner entry new with ⟨isOwner, belongs, given⟩
    exact ⟨owner, isOwner, belongs, given⟩

end Close

section Delete

variable (faults : Faults)

/-- The rows that none of the statements removes. -/
def kept (queries : List Delete) (entries : List Entry) : List Entry :=
  entries.filter fun entry => ∀ query ∈ queries, ¬ query.Matches entry.row

theorem kept_cons (query : Delete) (queries : List Delete) (entries : List Entry) :
    kept queries (entries.filter fun entry => ¬ query.Matches entry.row) =
      kept (query :: queries) entries := by
  simp only [kept, List.filter_filter]
  congr 1
  funext entry
  simp [Bool.and_comm]

/-- A deletion removes what its statements match, or it fails and removes nothing. -/
structure Deleted (queries : List Delete) (store : Store) (result : Int × Store) : Prop where
  idle : result.2.Idle
  next : result.2.next = store.next
  failed : result.1 < 0 → result.2.committed = store.committed
  succeeded : 0 ≤ result.1 → result.2.committed = kept queries store.visible

theorem deleted_of_abort (queries : List Delete) {ret : Int} (negative : ret < 0)
    (store : Store) :
    Deleted queries store ((Program.perform .transactionAbort fun tmp =>
      .done (if tmp < 0 then tmp else ret) : Sql Int).run (environment faults) store) := by
  cases fault : faults .transactionAbort store.sent with
  | none =>
      rw [Program.run_perform, environment_of_accepted fault]
      exact ⟨rfl, rfl, fun _ => rfl, fun succeeded => absurd negative (Int.not_lt.mpr succeeded)⟩
  | some error =>
      have refused : (if error.code < 0 then error.code else ret) < 0 := by
        rw [if_pos error.negative]
        exact error.negative
      rw [Program.run_perform, environment_of_refused fault]
      exact ⟨rfl, rfl, fun _ => rfl, fun succeeded => absurd refused (Int.not_lt.mpr succeeded)⟩

theorem run_deleteEach (queries : List Delete) (store : Store) :
    Deleted queries store ((deleteEach queries).run (environment faults) store) := by
  induction queries generalizing store with
  | nil =>
      rw [deleteEach, Program.run_perform]
      cases fault : faults .transactionEnd store.sent with
      | none =>
          rw [environment_of_accepted fault]
          refine ⟨rfl, rfl, fun negative => absurd negative (Int.lt_irrefl 0), fun _ => ?_⟩
          exact (List.filter_eq_self.mpr (by simp)).symm
      | some error =>
          have negative := error.negative
          rw [environment_of_refused fault]
          exact ⟨rfl, rfl, fun _ => rfl, fun succeeded =>
            absurd negative (Int.not_lt.mpr succeeded)⟩
  | cons query queries ih =>
      rw [deleteEach, Program.run_perform]
      cases fault : faults (.delete query) store.sent with
      | none =>
          simp only [environment_of_accepted fault, Store.accept, Int.lt_irrefl, if_false]
          have later := ih ((store.counted (.delete query)).delete query)
          exact ⟨later.idle, later.next, later.failed, fun succeeded =>
            (later.succeeded succeeded).trans (kept_cons query queries store.visible)⟩
      | some error =>
          simp only [environment_of_refused fault, refusal, error.negative, if_true]
          have aborted := deleted_of_abort faults (query :: queries) error.negative
            (store.counted (.delete query))
          exact ⟨aborted.idle, aborted.next, aborted.failed, aborted.succeeded⟩

theorem run_deleteMessage (queries : IdentTest → List Delete) (idents : IdentTest)
    {store : Store} (idle : store.Idle) :
    Deleted (queries idents) store
      ((deleteMessage queries idents).run (environment faults) store) := by
  rw [deleteMessage, run_checked, Program.run_perform]
  cases started : faults .transactionStart store.sent with
  | some error =>
      have negative := error.negative
      simp only [environment_of_refused started, refusal, Program.run_done, negative, if_true]
      exact ⟨idle, rfl, fun _ => rfl, fun succeeded => absurd negative (Int.not_lt.mpr succeeded)⟩
  | none =>
      simp only [environment_of_accepted started, Store.accept, Program.run_done, Int.lt_irrefl,
        if_false]
      have deleted := run_deleteEach faults (queries idents)
        { store.counted .transactionStart with
          visible := (store.counted .transactionStart).committed, writing := none }
      refine ⟨deleted.idle, deleted.next, deleted.failed, fun succeeded => ?_⟩
      have shown : store.visible = store.committed := idle
      rw [deleted.succeeded succeeded, shown]
      rfl

/-- The answer for a list is negative exactly when the deletion failed. -/
theorem run_deleteFromList (queries : IdentTest → List Delete) (idents : List Nat)
    {store : Store} (idle : store.Idle) :
    Deleted (queries (.among idents)) store
      ((deleteFromList (deleteMessage queries) idents).run (environment faults) store) := by
  have deleted := run_deleteMessage faults queries (.among idents) idle
  rw [deleteFromList, Program.run_bind, Program.run_done]
  generalize (deleteMessage queries (.among idents)).run (environment faults) store = result
    at deleted
  have sign : (if result.1 < 0 then result.1 else (idents.length : Int)) < 0 ↔ result.1 < 0 := by
    split
    · rfl
    · omega
  refine ⟨deleted.idle, deleted.next, fun negative => deleted.failed (sign.mp negative), ?_⟩
  intro succeeded
  exact deleted.succeeded (by omega)

theorem Deleted.sound {queries : List Delete} {store : Store} {result : Int × Store}
    (deleted : Deleted queries store result) (sound : store.Sound) : result.2.Sound := by
  have shown : store.visible = store.committed := sound.idle
  refine ⟨deleted.idle, ?_⟩
  rw [deleted.next]
  intro entry present
  by_cases negative : result.1 < 0
  · rw [deleted.failed negative] at present
    exact sound.entries entry present
  · rw [deleted.succeeded (Int.not_lt.mp negative), shown] at present
    exact sound.entries entry (List.mem_filter.mp present).1

end Delete

/-- A call of the plugin that changes the database. -/
inductive Call (E : EnumKind → Type) where
  | insert (message : Message E)
  | deleteAlert (ident : Nat)
  | deleteAlertFromList (idents : List Nat)
  | deleteHeartbeat (ident : Nat)
  | deleteHeartbeatFromList (idents : List Nat)

def Call.program : Call E → Sql Int
  | .insert message => classicInsert message
  | .deleteAlert ident => classicDeleteAlert ident
  | .deleteAlertFromList idents => classicDeleteAlertFromList idents
  | .deleteHeartbeat ident => classicDeleteHeartbeat ident
  | .deleteHeartbeatFromList idents => classicDeleteHeartbeatFromList idents

/--
The databases that calls of the plugin build from one without rows, whatever fails. A server may
take the ident of an insertion that failed back, as the `AUTOINCREMENT` of SQLite does, which is
rolled back with the transaction.
-/
inductive Reached (E : EnumKind → Type) [Librequiem E] : Store → Prop
  | empty (next : MessageTable → Nat) : Reached E { Store.empty with next := next }
  | call {store : Store} (reached : Reached E store) (call : Call E) (faults : Faults) :
      Reached E (call.program.run (environment faults) store).2
  | takenBack {store : Store} (reached : Reached E store) (call : Call E) (faults : Faults)
      (failed : (call.program.run (environment faults) store).1 < 0) :
      Reached E { (call.program.run (environment faults) store).2 with next := store.next }

/-- A call leaves a sound database, and if it fails the rows as they were. -/
theorem Call.sound {store : Store} (sound : store.Sound) (call : Call E) (faults : Faults) :
    let result := call.program.run (environment faults) store
    result.2.Sound ∧ (result.1 < 0 → result.2.committed = store.committed) := by
  cases call with
  | insert message =>
      exact ⟨(classicInsert_addsTo faults message sound).sound sound,
        classicInsert_failed faults message sound⟩
  | deleteAlert ident | deleteHeartbeat ident =>
      exact ⟨(run_deleteMessage faults _ _ sound.idle).sound sound,
        (run_deleteMessage faults _ _ sound.idle).failed⟩
  | deleteAlertFromList idents | deleteHeartbeatFromList idents =>
      exact ⟨(run_deleteFromList faults _ idents sound.idle).sound sound,
        (run_deleteFromList faults _ idents sound.idle).failed⟩

/-- Every database that the plugin builds is sound. -/
theorem Reached.sound {store : Store} (reached : Reached E store) : store.Sound := by
  induction reached with
  | empty next => exact ⟨rfl, fun entry absent => absurd absent List.not_mem_nil⟩
  | call reached call faults ih => exact (call.sound ih faults).1
  | takenBack reached call faults failed ih =>
      rcases call.sound ih faults with ⟨sound, unchanged⟩
      refine ⟨sound.idle, fun entry present => ih.entries entry ?_⟩
      rw [← unchanged failed]
      exact present

end RequiemDB
