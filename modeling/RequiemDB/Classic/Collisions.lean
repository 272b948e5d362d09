import RequiemDB.Classic.AllOrNothing
import RequiemDB.Classic.PrimaryKeys

/-!
# The rows that an insertion emits

`classicInsert` emits the row of the message and rows of its script, none of which
collides with another one. In a database that the plugin builds they do not collide with
stored rows either: a stored row of the same kind of messages has a smaller ident, and one
of the other kind has a letter of that kind, which is part of the keys of the tables that
both kinds share.
-/

namespace RequiemDB

open Lib

variable {E : EnumKind → Type} [Librequiem E]

/-- The row of an INSERT statement; the server numbers that of a message. -/
def SqlOp.emitted (op : SqlOp) (store : Store) : List Row :=
  match op with
  | .insertMessage table cells => [messageRow (store.nextOwner table) cells]
  | .insert row => [row]
  | _ => []

/-- The rows that a program emits, whether the statements fail or not. -/
def emittedRows (faults : Faults) (program : Sql Int) (store : Store) : List Row :=
  program.trace (environment faults) SqlOp.emitted store

section Emitted

variable (faults : Faults)

@[simp]
theorem emittedRows_done (ret : Int) (store : Store) :
    emittedRows faults (.done ret) store = [] := rfl

theorem emittedRows_perform (op : SqlOp) (next : SqlReply op → Sql Int) (store : Store) :
    emittedRows faults (.perform op next) store =
      op.emitted store ++ emittedRows faults (next (environment faults op store).1)
        (environment faults op store).2 := rfl

theorem emittedRows_bind (program : Sql Int) (rest : Int → Sql Int) (store : Store) :
    emittedRows faults (program >>= rest) store =
      emittedRows faults program store ++
        emittedRows faults (rest (program.run (environment faults) store).1)
          (program.run (environment faults) store).2 :=
  Program.trace_bind _ _ _ _ _

theorem emittedRows_checked (program rest : Sql Int) (store : Store) :
    emittedRows faults (checked program rest) store =
      emittedRows faults program store ++
        if (program.run (environment faults) store).1 < 0 then []
        else emittedRows faults rest (program.run (environment faults) store).2 := by
  rw [checked, emittedRows_bind]
  split <;> rfl

theorem emittedRows_of_givesUp {program : Sql Int} (givesUp : GivesUp program) (store : Store)
    (rows : List Row) : (emittedRows faults program store).Sublist rows := by
  rcases givesUp with ⟨code, _, rfl⟩
  exact List.nil_sublist rows

theorem emittedRows_closeTransaction (ret : Int) (store : Store) :
    emittedRows faults (closeTransaction ret) store = [] := by
  rw [closeTransaction]
  split <;> rfl

/-- A program emits statements of its script, or ones that take their place. -/
theorem Emits.emittedRows_sublist {program : Sql Int} {script : Script Row}
    (emits : Emits program script) (store : Store) :
    (emittedRows faults program store).Sublist script.offered := by
  induction emits generalizing store with
  | done ret succeeded => exact List.Sublist.refl []
  | @escape input next script failure _ ih =>
      simp only [emittedRows_perform, SqlOp.emitted, List.nil_append]
      cases fault : faults (.escape input) store.sent with
      | none =>
          rw [environment_of_accepted fault]
          exact ih store
      | some error =>
          rw [environment_of_refused fault]
          exact emittedRows_of_givesUp faults (failure error) _ _
  | @escapeBinary input next script failure _ ih =>
      simp only [emittedRows_perform, SqlOp.emitted, List.nil_append]
      cases fault : faults (.escapeBinary input) store.sent with
      | none =>
          rw [environment_of_accepted fault]
          exact ih store
      | some error =>
          rw [environment_of_refused fault]
          exact emittedRows_of_givesUp faults (failure error) _ _
  | @must row next script failure _ ih =>
      refine List.Sublist.cons_cons row ?_
      by_cases negative : (environment faults (.insert row) store).1 < 0
      · exact emittedRows_of_givesUp faults (failure _ negative) _ _
      · exact ih _ (Int.not_lt.mp negative) _
  | @ignore row next script _ ih => exact List.Sublist.cons_cons row (ih _ _)
  | @«instead» row other next script _ _ ihFailure ih =>
      refine List.Sublist.cons_cons row ?_
      by_cases negative : (environment faults (.insert row) store).1 < 0
      · exact ihFailure _ negative _
      · exact (ih _ (Int.not_lt.mp negative) _).cons other

theorem emittedRows_getLastInsertIdent {store : Store} {table : MessageTable} {ident : Nat}
    (found : store.maxIdent table = some ident) {rest : Nat → Sql Int} {rows : List Row}
    (goesOn : ∀ state, (emittedRows faults (rest ident) state).Sublist rows) :
    (emittedRows faults (getLastInsertIdent table rest) store).Sublist rows := by
  simp only [getLastInsertIdent, emittedRows_perform, SqlOp.emitted, List.nil_append]
  cases fault : faults (.selectMaxIdent table) store.sent with
  | some error =>
      rw [environment_of_refused fault]
      exact List.nil_sublist rows
  | none =>
      have answer : (store.counted (.selectMaxIdent table)).maxIdent table = some ident := found
      rw [environment_of_accepted fault]
      simp only [Store.accept, answer, Option.elim_some]
      generalize store.counted (.selectMaxIdent table) = selected
      simp only [emittedRows_perform, SqlOp.emitted, List.nil_append]
      cases fetched : faults (.fetchRow table.table 0) selected.sent with
      | some error =>
          rw [environment_of_refused fetched]
          exact List.nil_sublist rows
      | none =>
          rw [environment_of_accepted fetched]
          simp only [counted_fetchRow, Store.accept]
          simp only [emittedRows_perform, SqlOp.emitted, List.nil_append]
          cases field : faults (.fetchField (.number ident)) selected.sent with
          | some error =>
              rw [environment_of_refused field]
              exact List.nil_sublist rows
          | none =>
              rw [environment_of_accepted field]
              simpa [Store.accept, Cell.toInt] using goesOn selected

/-- The rows that may be sent for a message of the ident, its own row first. -/
def offeredRows (message : Message E) (ident : Nat) (cells : List (Column × Cell)) : List Row :=
  messageRow ⟨message.table, ident⟩ cells :: (messageScript ident message).offered

/-- What the insertion of a message emits, once a transaction of a sound database is open. -/
theorem emittedRows_insertMessage (message : Message E) {base store : Store} (sound : base.Sound)
    (opened : Opened base store) :
    ∃ cells, (emittedRows faults (insertMessage message) store).Sublist
      (offeredRows message (base.next message.table) cells) := by
  simp only [insertMessage_eq, requiemdbSqlEscape, escapeOr, emittedRows_perform, SqlOp.emitted,
    List.nil_append]
  cases escaped : faults (.escape message.messageid) store.sent with
  | some error =>
      rw [environment_of_refused escaped]
      exact ⟨[], List.nil_sublist _⟩
  | none =>
      rw [environment_of_accepted escaped]
      simp only [counted_escape, Store.accept]
      generalize (Column.messageid, stringLiteral message.messageid) :: message.cells.tail = cells
      have sameOwner : store.nextOwner message.table =
          ⟨message.table, base.next message.table⟩ := by
        rw [Store.nextOwner, opened.next]
      refine ⟨cells, ?_⟩
      rw [emittedRows_checked, emittedRows_perform, emittedRows_done, List.append_nil,
        SqlOp.emitted, sameOwner, Program.run_perform]
      refine List.Sublist.cons_cons _ ?_
      cases inserted : faults (.insertMessage message.table cells) store.sent with
      | some error =>
          simp only [environment_of_refused inserted, refusal, Program.run_done, error.negative,
            if_true]
          exact List.nil_sublist _
      | none =>
          simp only [environment_of_accepted inserted, Store.accept, Program.run_done,
            Int.lt_irrefl, if_false]
          apply emittedRows_getLastInsertIdent faults (opened.maxIdent sound message.table cells)
          exact (emits_insertMessageParts _ message).emittedRows_sublist faults

/-- What a call emits is among the rows offered for the message under its fresh ident. -/
theorem emittedRows_classicInsert (message : Message E) {store : Store} (sound : store.Sound) :
    ∃ cells, (emittedRows faults (classicInsert message) store).Sublist
      (offeredRows message (store.next message.table) cells) := by
  simp only [classicInsert_eq, emittedRows_checked, emittedRows_perform, emittedRows_done,
    SqlOp.emitted, Program.run_perform, List.nil_append]
  cases started : faults .transactionStart store.sent with
  | some error =>
      simp only [environment_of_refused started, refusal, Program.run_done, error.negative,
        if_true]
      exact ⟨[], List.nil_sublist _⟩
  | none =>
      simp only [environment_of_accepted started, Store.accept, Program.run_done, Int.lt_irrefl,
        if_false]
      rw [emittedRows_bind, emittedRows_closeTransaction, List.append_nil]
      exact emittedRows_insertMessage faults message sound ⟨rfl, rfl, rfl⟩

end Emitted

section Fresh

/-- Every row that may be sent for a message belongs to it. -/
theorem belongsTo_of_offered {owner : Owner} {script : Script Row} (fits : AllFit owner script) :
    ∀ row ∈ script.offered, row.BelongsTo owner := by
  induction script with
  | nil => exact fun _ absent => absurd absent List.not_mem_nil
  | cons item script ih =>
      rcases List.forall_mem_cons.mp fits with ⟨here, later⟩
      rcases item with ⟨statement, _ | _ | other⟩
      · exact List.forall_mem_cons.mpr ⟨here.belongs, ih later⟩
      · exact List.forall_mem_cons.mpr ⟨here.belongs, ih later⟩
      · exact List.forall_mem_cons.mpr ⟨here.belongs,
          List.forall_mem_cons.mpr ⟨(here.replaced other rfl).2, ih later⟩⟩

/-- The ident of the message is part of every primary key. -/
theorem messageIdent_mem_primaryKey (table : Table) : .messageIdent ∈ table.primaryKey := by
  cases table <;> decide

/-- Where both kinds of messages have rows, the letter tells them apart and is part of the key. -/
theorem letters_apart (table : Table) {letter other : Option ParentType}
    (ofAlert : letter ∈ table.letters .alert) (ofHeartbeat : other ∈ table.letters .heartbeat) :
    letter ≠ other ∧ .parentType ∈ table.primaryKey := by
  have apart : ∀ letter ∈ table.letters .alert, ∀ other ∈ table.letters .heartbeat,
      letter ≠ other ∧ .parentType ∈ table.primaryKey := by
    cases table <;> decide
  exact apart letter ofAlert other ofHeartbeat

theorem not_collides_of_owners {row other : Row} {owner stranger : Owner}
    (belongs : row.BelongsTo owner) (ofStranger : other.BelongsTo stranger)
    (differ : owner ≠ stranger) : ¬ row.Collides other := by
  rintro ⟨sameTable, sameKey⟩
  have sameIdent : row.messageIdent = other.messageIdent :=
    sameKey .messageIdent (messageIdent_mem_primaryKey row.table)
  have otherKind : owner.table ≠ stranger.table := by
    intro sameKind
    rw [belongs.ident, ofStranger.ident] at sameIdent
    rcases owner with ⟨kind, ident⟩
    rcases stranger with ⟨strangerKind, strangerIdent⟩
    exact differ (by simp_all)
  have letter := belongs.letter
  have strangerLetter := ofStranger.letter
  rw [← sameTable] at strangerLetter
  cases kind : owner.table with
  | alert =>
      have strangerKind : stranger.table = .heartbeat := by
        cases isKind : stranger.table with
        | alert => exact absurd (kind.trans isKind.symm) otherKind
        | heartbeat => rfl
      rw [kind] at letter
      rw [strangerKind] at strangerLetter
      rcases letters_apart row.table letter strangerLetter with ⟨different, keyed⟩
      exact different (sameKey .parentType keyed)
  | heartbeat =>
      have strangerKind : stranger.table = .alert := by
        cases isKind : stranger.table with
        | heartbeat => exact absurd (kind.trans isKind.symm) otherKind
        | alert => rfl
      rw [kind] at letter
      rw [strangerKind] at strangerLetter
      rcases letters_apart row.table strangerLetter letter with ⟨different, keyed⟩
      exact different (sameKey .parentType keyed).symm

end Fresh

section Offered

variable (message : Message E) (ident : Nat) (cells : List (Column × Cell))

/-- The row of a message and those of its script do not collide. -/
theorem distinct_offeredRows : Distinct (offeredRows message ident cells) := by
  have sent := sent_messageScript ident message
  have apart : KeysApart [(message.table.table, none)] (messageFootprint message.table) := by
    cases message.table <;> decide
  exact .cons (message.table.table, none) rfl sent.within apart sent.distinct

theorem belongsTo_of_offeredRows :
    ∀ row ∈ offeredRows message ident cells, row.BelongsTo ⟨message.table, ident⟩ := by
  refine List.forall_mem_cons.mpr ⟨messageRow_belongsTo _ cells, ?_⟩
  exact belongsTo_of_offered (allFit_messageScript ident message)

end Offered

/--
In every database that the plugin builds, the rows that `classicInsert` emits have pairwise
distinct primary keys, and none of them has that of a stored row, whatever fails.
-/
theorem classicInsert_never_collides {store : Store} (reached : Reached E store)
    (message : Message E) (faults : Faults) :
    Distinct (emittedRows faults (classicInsert message) store) ∧
      ∀ row ∈ emittedRows faults (classicInsert message) store, ∀ stored ∈ store.rows,
        ¬ row.Collides stored := by
  have sound := reached.sound
  rcases emittedRows_classicInsert faults message sound with ⟨cells, among⟩
  refine ⟨(distinct_offeredRows message _ cells).sublist among, ?_⟩
  intro row emitted stored isStored
  rcases List.mem_map.mp isStored with ⟨entry, inStore, rfl⟩
  have shown : store.visible = store.committed := sound.idle
  rw [shown] at inStore
  rcases sound.entries entry inStore with ⟨owner, _, ofOwner, given⟩
  have belongs := belongsTo_of_offeredRows message _ cells row (among.subset emitted)
  apply not_collides_of_owners belongs ofOwner
  rintro rfl
  exact Nat.lt_irrefl _ given

/-- An alert that is inserted twice. -/
theorem classicInsert_never_collides_classified :
    let store := ((classicInsert (.alert classified)).run (environment noFaults) Store.empty).2
    Distinct (emittedRows noFaults (classicInsert (.alert classified)) store) ∧
      ∀ row ∈ emittedRows noFaults (classicInsert (.alert classified)) store,
        ∀ stored ∈ store.rows, ¬ row.Collides stored :=
  classicInsert_never_collides
    ((Reached.empty fun _ => 1).call (Call.insert (.alert classified)) noFaults)
    (.alert classified) noFaults

end RequiemDB
