import RequiemDB.Classic.Deletion
import RequiemDB.Classic.RoundTrip
import RequiemDB.Lib.Archive

/-!
# The database as an archive of messages

What the format plugin is for: messages are filed under idents that the server gives out,
read back under them, and discarded. `Holds store archive` says that the rows of a database
are those of the messages of an archive, and no others, in the order in which the messages
were inserted. Every call of the plugin, whether it fails or not, is a step of the archive,
as long as no insertion fails whose result the source does not look at.
-/

namespace RequiemDB

open Lib

variable {E : EnumKind → Type} [Librequiem E]

/-- No insertion fails whose result the source forgets. -/
def Faults.Noticed (faults : Faults) : Prop :=
  ∀ row sent, row.table ∈ untestedTables → faults (.insert row) sent = none

/-- The rows of a message, as they are stored under its ident. -/
def storedRows (entry : ℕ × Message E) : List Entry :=
  ⟨some ⟨entry.2.table, entry.1⟩, messageRow ⟨entry.2.table, entry.1⟩ entry.2.cells⟩ ::
    (messageScript entry.1 entry.2).statements.map (Entry.mk (some ⟨entry.2.table, entry.1⟩))

/-- The messages of a database under their idents, those of each kind with their own. -/
abbrev MessageArchive (E : EnumKind → Type) := Archive (Message.table : Message E → MessageTable)

/-- No transaction is open, and the rows are those of the messages of the archive. -/
structure Holds (store : Store) (archive : MessageArchive E) : Prop where
  idle : store.Idle
  committed : store.committed = archive.entries.flatMap storedRows
  next : store.next = archive.next

theorem storedRows_owned {entry : ℕ × Message E} {stored : Entry}
    (present : stored ∈ storedRows entry) :
    stored.owner = some ⟨entry.2.table, entry.1⟩ ∧
      stored.row.BelongsTo ⟨entry.2.table, entry.1⟩ := by
  rcases List.mem_cons.mp present with rfl | below
  · exact ⟨rfl, messageRow_belongsTo _ _⟩
  · rcases List.mem_map.mp below with ⟨row, inScript, rfl⟩
    rcases List.mem_map.mp inScript with ⟨item, isItem, rfl⟩
    exact ⟨rfl, (allFit_messageScript entry.1 entry.2 item isItem).belongs⟩

theorem Holds.sound {store : Store} {archive : MessageArchive E} (holds : Holds store archive) :
    store.Sound where
  idle := holds.idle
  entries := by
    intro stored present
    rw [holds.committed] at present
    rcases List.mem_flatMap.mp present with ⟨entry, inArchive, isRow⟩
    rcases storedRows_owned isRow with ⟨isOwner, belongs⟩
    refine ⟨_, isOwner, belongs, ?_⟩
    rw [holds.next]
    exact archive.given entry inArchive

section Writing

variable {faults : Faults} {store : Store}

/-- A run that has not ended with an error has added the rows, to what it sees alone. -/
structure Wrote (store : Store) (rows : List Row) (result : Int × Store) : Prop where
  committed : result.2.committed = store.committed
  next : result.2.next = store.next
  visible : 0 ≤ result.1 → result.2.visible = store.visible ++ rows.map (Entry.mk store.writing)

theorem Wrote.failed {program : Sql Int} (givesUp : GivesUp program) {state : Store}
    (committed : state.committed = store.committed) (next : state.next = store.next)
    (rows : List Row) : Wrote store rows (program.run (environment faults) state) := by
  rcases givesUp with ⟨code, negative, rfl⟩
  exact ⟨committed, next, fun succeeded => absurd negative (Int.not_lt.mpr succeeded)⟩

/-- What is written behind the insertion of a row. -/
theorem Wrote.behind {row : Row} {rows : List Row} {result : Int × Store}
    (wrote : Wrote ((store.counted (.insert row)).insert row) rows result) :
    Wrote store (row :: rows) result where
  committed := wrote.committed
  next := wrote.next
  visible := by
    intro succeeded
    rw [wrote.visible succeeded, List.map_cons, ← List.singleton_append, ← List.append_assoc]
    rfl

/-- A program that follows a script of a message writes all of it, or it fails. -/
theorem Emits.wrote {program : Sql Int} {script : Script Row} (emits : Emits program script)
    {owner : Owner} (fits : AllFit owner script) (noticed : faults.Noticed) (store : Store) :
    Wrote store script.statements (program.run (environment faults) store) := by
  induction emits generalizing store with
  | done ret succeeded => exact ⟨rfl, rfl, fun _ => (List.append_nil _).symm⟩
  | @escape input next script failure _ ih =>
      rw [Program.run_perform]
      cases fault : faults (.escape input) store.sent with
      | none =>
          rw [environment_of_accepted fault]
          exact ih fits store
      | some error =>
          rw [environment_of_refused fault]
          exact .failed (failure error) rfl rfl _
  | @escapeBinary input next script failure _ ih =>
      rw [Program.run_perform]
      cases fault : faults (.escapeBinary input) store.sent with
      | none =>
          rw [environment_of_accepted fault]
          exact ih fits store
      | some error =>
          rw [environment_of_refused fault]
          exact .failed (failure error) rfl rfl _
  | @must row next script failure _ ih =>
      rw [Program.run_perform]
      cases fault : faults (.insert row) store.sent with
      | none =>
          rw [environment_of_accepted fault]
          exact (ih 0 (Int.le_refl 0) (List.forall_mem_cons.mp fits).2 _).behind
      | some error =>
          rw [environment_of_refused fault]
          apply Wrote.failed (failure error.code error.negative)
          · rfl
          · rfl
  | @ignore row next script _ ih =>
      rcases List.forall_mem_cons.mp fits with ⟨here, later⟩
      have fault := noticed row store.sent (here.tested (by simp))
      rw [Program.run_perform, environment_of_accepted fault]
      exact (ih 0 later _).behind
  | @«instead» row other next script _ _ _ ih =>
      rcases List.forall_mem_cons.mp fits with ⟨here, later⟩
      have fault := noticed row store.sent (here.tested (by simp))
      rw [Program.run_perform, environment_of_accepted fault]
      exact (ih 0 (Int.le_refl 0) later _).behind

/-- The ident is read back, or the function ends with an error; no row changes. -/
theorem run_getLastInsertIdent_cases (faults : Faults) {table : MessageTable} {ident : Nat}
    (found : store.maxIdent table = some ident) (rest : Nat → Sql Int) :
    ∃ sent,
      (∃ code < 0, (getLastInsertIdent table rest).run (environment faults) store =
        (code, { store with sent := sent })) ∨
      (getLastInsertIdent table rest).run (environment faults) store =
        (rest ident).run (environment faults) { store with sent := sent } := by
  have counted : store.counted (.selectMaxIdent table) = { store with sent := store.sent + 1 } :=
    rfl
  refine ⟨store.sent + 1, ?_⟩
  rw [RequiemDB.getLastInsertIdent, Program.run_perform]
  cases fault : faults (.selectMaxIdent table) store.sent with
  | some error =>
      left
      rw [environment_of_refused fault, counted]
      exact ⟨_, error.negative, rfl⟩
  | none =>
      have answer : ({ store with sent := store.sent + 1 } : Store).maxIdent table = some ident :=
        found
      rw [environment_of_accepted fault, counted]
      simp only [Store.accept, answer, Option.elim_some, Program.run_perform]
      cases fetched : faults (.fetchRow table.table 0) (store.sent + 1) with
      | some error =>
          left
          rw [environment_of_refused fetched]
          exact ⟨_, error.negative, rfl⟩
      | none =>
          rw [environment_of_accepted fetched]
          simp only [counted_fetchRow, Store.accept, Program.run_perform]
          cases field : faults (.fetchField (.number ident)) (store.sent + 1) with
          | some error =>
              left
              rw [environment_of_refused field]
              exact ⟨_, error.negative, rfl⟩
          | none =>
              right
              rw [environment_of_accepted field]
              simp [Store.accept, Cell.toInt]

end Writing

section Insert

variable {faults : Faults} {store : Store}

/-- The counters behind the insertion of a message. -/
def Store.advanced (store : Store) (table : MessageTable) : MessageTable → Nat :=
  Function.update store.next table (store.next table + 1)

theorem Store.le_advanced (store : Store) (table other : MessageTable) :
    store.next other ≤ store.advanced table other := by
  rw [Store.advanced]
  rcases eq_or_ne other table with rfl | differs
  · rw [Function.update_self]
    exact Nat.le_succ _
  · rw [Function.update_of_ne differs]

/-- An insertion before its transaction is closed: it has failed, or it shows the whole message. -/
structure Filing (message : Message E) (store : Store) (result : Int × Store) : Prop where
  committed : result.2.committed = store.committed
  next_le : ∀ table, store.next table ≤ result.2.next table
  visible : 0 ≤ result.1 →
    result.2.visible = store.committed ++ storedRows (store.next message.table, message)
  next : 0 ≤ result.1 → result.2.next = store.advanced message.table

theorem Filing.failed (message : Message E) {code : Int} (negative : code < 0) {state : Store}
    (committed : state.committed = store.committed)
    (next_le : ∀ table, store.next table ≤ state.next table) :
    Filing message store (code, state) :=
  ⟨committed, next_le, fun succeeded => absurd negative (Int.not_lt.mpr succeeded),
    fun succeeded => absurd negative (Int.not_lt.mpr succeeded)⟩

/-- The rows below the message's own row, behind the statements that settle the ident. -/
theorem filing_insertMessageParts (message : Message E) (noticed : faults.Noticed)
    {state : Store} (committed : state.committed = store.committed)
    (next : state.next = store.advanced message.table)
    (writing : state.writing = some (store.nextOwner message.table))
    (visible : state.visible = store.committed ++
      [⟨some (store.nextOwner message.table),
        messageRow (store.nextOwner message.table) message.cells⟩]) :
    Filing message store
      ((insertMessageParts (store.next message.table) message).run (environment faults) state) := by
  have wrote := (emits_insertMessageParts (store.next message.table) message).wrote
    (allFit_messageScript _ message) noticed state
  refine ⟨wrote.committed.trans committed, ?_, fun succeeded => ?_, fun _ => wrote.next.trans next⟩
  · intro table
    rw [wrote.next, next]
    exact store.le_advanced message.table table
  · rw [wrote.visible succeeded, visible, writing, List.append_assoc]
    rfl

theorem filing_insertMessage (message : Message E) (noticed : faults.Noticed) {opened : Store}
    (sound : store.Sound) (opens : Opened store opened) :
    Filing message store ((insertMessage message).run (environment faults) opened) := by
  have unchanged : ∀ table, store.next table ≤ opened.next table := fun table =>
    Nat.le_of_eq (congrFun opens.next table).symm
  rw [insertMessage_eq, requiemdbSqlEscape, escapeOr, Program.run_perform]
  cases escaped : faults (.escape message.messageid) opened.sent with
  | some error =>
      rw [environment_of_refused escaped]
      exact .failed message error.negative opens.committed unchanged
  | none =>
      rw [environment_of_accepted escaped]
      simp only [counted_escape, Store.accept, run_checked, Program.run_perform]
      have cells : (Column.messageid, stringLiteral message.messageid) :: message.cells.tail =
          message.cells := by
        cases message <;> rfl
      rw [cells]
      cases inserted : faults (.insertMessage message.table message.cells) opened.sent with
      | some error =>
          simp only [environment_of_refused inserted, refusal, Program.run_done, error.negative,
            if_true]
          exact .failed message error.negative opens.committed unchanged
      | none =>
          simp only [environment_of_accepted inserted, Store.accept, Program.run_done,
            Int.lt_irrefl, if_false]
          have counted := opens.counted (.insertMessage message.table message.cells)
          have found := opens.maxIdent sound message.table message.cells
          generalize opened.counted (.insertMessage message.table message.cells) = counting
            at counted found
          have sameOwner : counting.nextOwner message.table = store.nextOwner message.table := by
            rw [Store.nextOwner, counted.next, Store.nextOwner]
          rcases run_getLastInsertIdent_cases faults found
              (fun ident => insertMessageParts ident message) with
            ⟨sent, ⟨code, negative, ends⟩ | goesOn⟩
          · rw [ends]
            refine .failed message negative counted.committed fun table => ?_
            rw [← counted.next]
            exact counting.le_advanced message.table table
          · rw [goesOn]
            refine filing_insertMessageParts message noticed counted.committed ?_
              (congrArg some sameOwner) ?_
            · show counting.advanced message.table = _
              rw [Store.advanced, counted.next, Store.advanced]
            · show counting.visible ++ _ = _
              rw [counted.visible, sameOwner]

/-- What a call of `classicInsert` leaves: the whole message behind a success, or nothing. -/
structure Filed (message : Message E) (store : Store) (result : Int × Store) : Prop where
  idle : result.2.Idle
  next_le : ∀ table, store.next table ≤ result.2.next table
  failed : result.1 < 0 → result.2.committed = store.committed
  succeeded : 0 ≤ result.1 →
    result.2.committed = store.committed ++ storedRows (store.next message.table, message) ∧
      result.2.next = store.advanced message.table

theorem Filing.closed {message : Message E} {result : Int × Store}
    (filing : Filing message store result) :
    Filed message store ((closeTransaction result.1).run (environment faults) result.2) := by
  rw [closeTransaction]
  split
  · rename_i negative
    cases fault : faults .transactionAbort result.2.sent with
    | none =>
        rw [Program.run_perform, environment_of_accepted fault]
        exact ⟨rfl, filing.next_le, fun _ => filing.committed,
          fun succeeded => absurd negative (Int.not_lt.mpr succeeded)⟩
    | some error =>
        rw [Program.run_perform, environment_of_refused fault]
        simp only [refusal, error.negative, if_true, Program.run_done]
        exact ⟨rfl, filing.next_le, fun _ => filing.committed,
          fun succeeded => absurd error.negative (Int.not_lt.mpr succeeded)⟩
  · rename_i succeeded
    cases fault : faults .transactionEnd result.2.sent with
    | none =>
        rw [Program.run_perform, environment_of_accepted fault]
        exact ⟨rfl, filing.next_le, fun negative => absurd negative (Int.lt_irrefl 0),
          fun _ => ⟨filing.visible (Int.not_lt.mp succeeded),
            filing.next (Int.not_lt.mp succeeded)⟩⟩
    | some error =>
        rw [Program.run_perform, environment_of_refused fault]
        exact ⟨rfl, filing.next_le, fun _ => filing.committed,
          fun succeeded => absurd error.negative (Int.not_lt.mpr succeeded)⟩

theorem filed_classicInsert (message : Message E) (noticed : faults.Noticed)
    (sound : store.Sound) :
    Filed message store ((classicInsert message).run (environment faults) store) := by
  rw [classicInsert_eq, run_checked, Program.run_perform]
  cases started : faults .transactionStart store.sent with
  | some error =>
      simp only [environment_of_refused started, refusal, Program.run_done, error.negative,
        if_true]
      exact ⟨sound.idle, fun _ => Nat.le_refl _, fun _ => rfl,
        fun succeeded => absurd error.negative (Int.not_lt.mpr succeeded)⟩
  | none =>
      simp only [environment_of_accepted started, Store.accept, Program.run_done, Int.lt_irrefl,
        if_false, Program.run_bind]
      have opens : Opened store
          { store.counted .transactionStart with
            visible := (store.counted .transactionStart).committed, writing := none } :=
        ⟨rfl, rfl, rfl⟩
      exact (filing_insertMessage message noticed sound opens).closed

end Insert

section Calls

/-- What a call asks of the archive. -/
def Call.request : Call E → Archive.Request MessageTable (Message E)
  | .insert message => .file message
  | .deleteAlert ident => .discard .alert [ident]
  | .deleteAlertFromList idents => .discard .alert idents
  | .deleteHeartbeat ident => .discard .heartbeat [ident]
  | .deleteHeartbeatFromList idents => .discard .heartbeat idents

/-- The rows that a deletion spares are those of the other messages. -/
theorem spared_flatMap (kind : MessageTable) (idents : List Nat)
    (entries : List (ℕ × Message E)) :
    spared kind idents (entries.flatMap storedRows) =
      (Archive.others Message.table kind idents entries).flatMap storedRows := by
  induction entries with
  | nil => rfl
  | cons entry entries ih =>
      have doomed : ∀ stored ∈ storedRows entry,
          stored.Doomed kind idents ↔ entry.2.table = kind ∧ entry.1 ∈ idents := by
        intro stored present
        rw [Entry.Doomed, (storedRows_owned present).1]
        constructor
        · rintro ⟨ident, asked, same⟩
          cases same
          exact ⟨rfl, asked⟩
        · rintro ⟨rfl, asked⟩
          exact ⟨entry.1, asked, rfl⟩
      rw [List.flatMap_cons, spared, List.filter_append, ← spared, ← spared, ih,
        Archive.others, Archive.others, List.filter_cons]
      by_cases named : entry.2.table = kind ∧ entry.1 ∈ idents
      · have nothing : spared kind idents (storedRows entry) = [] := by
          refine List.filter_eq_nil_iff.mpr fun stored present => ?_
          simpa using (doomed stored present).mpr named
        rw [nothing, if_neg (by simpa using named), List.nil_append]
      · have all : spared kind idents (storedRows entry) = storedRows entry := by
          refine List.filter_eq_self.mpr fun stored present => ?_
          simpa using fun isDoomed => named ((doomed stored present).mp isDoomed)
        rw [all, if_pos (decide_eq_true named), List.flatMap_cons]

variable {faults : Faults} {store : Store} {archive : MessageArchive E}

theorem Holds.refused (holds : Holds store archive) (request : Archive.Request MessageTable _)
    {result : Int × Store} (negative : result.1 < 0) (idle : result.2.Idle)
    (next_le : ∀ table, store.next table ≤ result.2.next table)
    (committed : result.2.committed = store.committed) :
    ∃ after, Archive.Step archive (request, decide (0 ≤ result.1)) after ∧
      Holds result.2 after := by
  rw [decide_eq_false (Int.not_le.mpr negative)]
  exact ⟨_, .refused archive request result.2.next fun kind => holds.next ▸ next_le kind,
    idle, committed.trans holds.committed, rfl⟩

theorem Holds.insert (holds : Holds store archive) (message : Message E)
    {result : Int × Store} (filed : Filed message store result) :
    ∃ after, Archive.Step archive (.file message, decide (0 ≤ result.1)) after ∧
      Holds result.2 after := by
  rcases Int.lt_or_le result.1 0 with negative | succeeded
  · exact holds.refused (.file message) negative filed.idle filed.next_le
      (filed.failed negative)
  · rcases filed.succeeded succeeded with ⟨committed, next⟩
    rw [decide_eq_true succeeded]
    refine ⟨_, .filed archive message, filed.idle, ?_, ?_⟩
    · rw [committed, holds.committed, holds.next, Archive.file, List.flatMap_append,
        List.flatMap_singleton]
    · rw [next, Store.advanced, holds.next]
      rfl

theorem Holds.delete (holds : Holds store archive) {queries : List Delete} {kind : MessageTable}
    {idents : List Nat} {result : Int × Store} (deleted : Deleted queries store result)
    (exact : 0 ≤ result.1 → result.2.committed = spared kind idents store.committed) :
    ∃ after, Archive.Step archive (.discard kind idents, decide (0 ≤ result.1)) after ∧
      Holds result.2 after := by
  rcases Int.lt_or_le result.1 0 with negative | succeeded
  · exact holds.refused (.discard kind idents) negative deleted.idle
      (fun table => Nat.le_of_eq (congrFun deleted.next table).symm) (deleted.failed negative)
  · rw [decide_eq_true succeeded]
    refine ⟨_, .discarded archive kind idents, deleted.idle, ?_, deleted.next.trans holds.next⟩
    rw [exact succeeded, holds.committed, spared_flatMap]
    rfl

/-- A call inserts a message, or it deletes messages of one kind, or fails to. -/
theorem call_cases (sound : store.Sound) (call : Call E) (faults : Faults) :
    (∃ message, call = .insert message) ∨
      ∃ kind idents queries, call.request = .discard kind idents ∧
        Deleted queries store (call.program.run (environment faults) store) ∧
        (0 ≤ (call.program.run (environment faults) store).1 →
          (call.program.run (environment faults) store).2.committed =
            spared kind idents store.committed) := by
  cases call with
  | insert message => exact .inl ⟨message, rfl⟩
  | deleteAlert ident =>
      exact .inr ⟨_, _, _, rfl, run_deleteMessage faults _ _ sound.idle,
        classicDeleteAlert_exact sound ident faults⟩
  | deleteHeartbeat ident =>
      exact .inr ⟨_, _, _, rfl, run_deleteMessage faults _ _ sound.idle,
        classicDeleteHeartbeat_exact sound ident faults⟩
  | deleteAlertFromList idents =>
      exact .inr ⟨_, _, _, rfl, run_deleteFromList faults _ idents sound.idle,
        classicDeleteAlertFromList_exact sound idents faults⟩
  | deleteHeartbeatFromList idents =>
      exact .inr ⟨_, _, _, rfl, run_deleteFromList faults _ idents sound.idle,
        classicDeleteHeartbeatFromList_exact sound idents faults⟩

/-- Each call of the plugin is a step of the archive, with the answer of the call. -/
theorem Holds.call (holds : Holds store archive) (call : Call E) (noticed : faults.Noticed) :
    let result := call.program.run (environment faults) store
    ∃ after, Archive.Step archive (call.request, decide (0 ≤ result.1)) after ∧
      Holds result.2 after := by
  rcases call_cases holds.sound call faults with
    ⟨message, rfl⟩ | ⟨kind, idents, queries, asks, deleted, exact⟩
  · exact holds.insert message (filed_classicInsert message noticed holds.sound)
  · rw [asks]
    exact holds.delete deleted exact

/--
What a server does with the ident of an insertion that it rolls back: it is lost, or the counter
is taken back with the transaction, as the `AUTOINCREMENT` of SQLite is.
-/
inductive Counting where
  | goesOn | takenBack

/-- The database behind a call. -/
def Counting.behind (counting : Counting) (store : Store) (result : Int × Store) : Store :=
  match counting with
  | .goesOn => result.2
  | .takenBack => if result.1 < 0 then { result.2 with next := store.next } else result.2

/-- Calls made one behind the other, each with what fails of it: the answers, and the database. -/
def serveCalls (counting : Counting) : List (Call E × Faults) → Store → List Int × Store
  | [], store => ([], store)
  | (call, faults) :: calls, store =>
      let result := call.program.run (environment faults) store
      let later := serveCalls counting calls (counting.behind store result)
      (result.1 :: later.1, later.2)

/-- What the calls have asked of the archive, and with what success. -/
def history (calls : List (Call E × Faults)) (answers : List Int) :
    List (Archive.Request MessageTable (Message E) × Bool) :=
  List.zipWith (fun call answer => (call.1.request, decide (0 ≤ answer))) calls answers

/-- Whatever the server does with its counter, the archive has lost numbers, or it has not. -/
theorem Holds.behind (holds : Holds store archive) {request : Archive.Request MessageTable _}
    {result : Int × Store} {after : MessageArchive E}
    (step : Archive.Step archive (request, decide (0 ≤ result.1)) after)
    (holdsAfter : Holds result.2 after) (counting : Counting) :
    ∃ after, Archive.Step archive (request, decide (0 ≤ result.1)) after ∧
      Holds (counting.behind store result) after := by
  cases counting with
  | goesOn => exact ⟨after, step, holdsAfter⟩
  | takenBack =>
      rw [Counting.behind]
      split
      · rename_i failed
        rw [decide_eq_false (Int.not_le.mpr failed)] at step ⊢
        have sameEntries : after.entries = archive.entries := by
          cases step
          rfl
        refine ⟨_, .refused archive request archive.next fun _ => Nat.le_refl _,
          holdsAfter.idle, ?_, holds.next⟩
        exact holdsAfter.committed.trans (congrArg (List.flatMap storedRows) sameEntries)
      · exact ⟨after, step, holdsAfter⟩

theorem Holds.serveCalls (holds : Holds store archive) (counting : Counting)
    (calls : List (Call E × Faults)) (noticed : ∀ call ∈ calls, call.2.Noticed) :
    let result := RequiemDB.serveCalls counting calls store
    ∃ after, Archive.Run archive (history calls result.1) after ∧ Holds result.2 after := by
  induction calls generalizing store archive with
  | nil => exact ⟨archive, .nil archive, holds⟩
  | cons call calls ih =>
      rcases List.forall_mem_cons.mp noticed with ⟨here, later⟩
      rcases holds.call call.1 here with ⟨_, called, holdsCalled⟩
      rcases holds.behind called holdsCalled counting with ⟨between, step, holdsBetween⟩
      rcases ih holdsBetween later with ⟨after, run, holdsAfter⟩
      exact ⟨after, .cons step run, holdsAfter⟩

end Calls

end RequiemDB
