import RequiemDB.Classic.AllOrNothing
import RequiemDB.Classic.Reachable

/-!
# What a successful insertion commits

A call of `classicInsert` that succeeds has finished the script of its message,
whatever failed on the way: it commits the row of the message and behind it the
rows of the script that took effect.
-/

namespace RequiemDB

open Lib

variable {E : EnumKind → Type} [Librequiem E]

/-- The insertion of a row fails as the statement sent at a position. -/
def Faults.refuses (faults : Faults) (row : Row) (position : Nat) : Bool :=
  (faults (.insert row) position).isSome

section Run

variable {faults : Faults} {store : Store}

theorem GivesUp.not_succeeded {program : Sql Int} (givesUp : GivesUp program) :
    ¬ 0 ≤ (program.run (environment faults) store).1 := by
  rcases givesUp with ⟨code, negative, rfl⟩
  exact Int.not_le.mpr negative

theorem insert_of_accepted {row : Row} (accepted : faults (.insert row) store.sent = none) :
    environment faults (.insert row) store =
      (0, { store.insert row with sent := store.sent + 1 }) :=
  environment_of_accepted accepted

theorem insert_of_refused {row : Row} {error : ErrorCode}
    (refused : faults (.insert row) store.sent = some error) :
    environment faults (.insert row) store = (error.code, { store with sent := store.sent + 1 }) :=
  environment_of_refused refused

/-- The program has finished the script and inserted the rows that took effect. -/
def Inserts (faults : Faults) (script : Script Row) (store : Store) (result : Store) : Prop :=
  ∃ done, script.Finishes faults.refuses store.sent done ∧
    result.visible = store.visible ++ done.map (Entry.mk store.writing)

theorem Inserts.sent {item : Item Row} {script : Script Row} {result : Store}
    (accepted : faults (.insert item.statement) store.sent = none)
    (later : Inserts faults script { store.insert item.statement with sent := store.sent + 1 }
      result) : Inserts faults (item :: script) store result := by
  rcases later with ⟨done, finishes, visible⟩
  refine ⟨item.statement :: done, .sent (by simp [Faults.refuses, accepted]) finishes, ?_⟩
  rw [visible]
  simp [Store.insert]

/-- A program that succeeds has finished its script. -/
theorem Emits.inserts {program : Sql Int} {script : Script Row} (emits : Emits program script)
    (succeeded : 0 ≤ (program.run (environment faults) store).1) :
    Inserts faults script store (program.run (environment faults) store).2 := by
  induction emits generalizing store with
  | done => exact ⟨[], .nil, (List.append_nil _).symm⟩
  | @escape input next script failure _ ih =>
      rw [Program.run_perform] at succeeded ⊢
      cases fault : faults (.escape input) store.sent with
      | none =>
          rw [environment_of_accepted fault] at succeeded ⊢
          exact ih succeeded
      | some error =>
          rw [environment_of_refused fault] at succeeded
          exact absurd succeeded (failure error).not_succeeded
  | @escapeBinary input next script failure _ ih =>
      rw [Program.run_perform] at succeeded ⊢
      cases fault : faults (.escapeBinary input) store.sent with
      | none =>
          rw [environment_of_accepted fault] at succeeded ⊢
          exact ih succeeded
      | some error =>
          rw [environment_of_refused fault] at succeeded
          exact absurd succeeded (failure error).not_succeeded
  | @must row next script failure _ ih =>
      rw [Program.run_perform] at succeeded ⊢
      cases fault : faults (.insert row) store.sent with
      | none =>
          rw [insert_of_accepted fault] at succeeded ⊢
          exact .sent fault (ih 0 (Int.le_refl 0) succeeded)
      | some error =>
          rw [insert_of_refused fault] at succeeded
          exact absurd succeeded (failure error.code error.negative).not_succeeded
  | @ignore row next script _ ih =>
      rw [Program.run_perform] at succeeded ⊢
      cases fault : faults (.insert row) store.sent with
      | none =>
          rw [insert_of_accepted fault] at succeeded ⊢
          exact .sent fault (ih 0 succeeded)
      | some error =>
          rw [insert_of_refused fault] at succeeded ⊢
          rcases ih error.code succeeded with ⟨done, finishes, visible⟩
          exact ⟨done, .ignored (by simp [Faults.refuses, fault]) finishes, visible⟩
  | @«instead» row other next script _ _ ihFailure ih =>
      rw [Program.run_perform] at succeeded ⊢
      cases fault : faults (.insert row) store.sent with
      | none =>
          rw [insert_of_accepted fault] at succeeded ⊢
          exact .sent fault (ih 0 (Int.le_refl 0) succeeded)
      | some error =>
          rw [insert_of_refused fault] at succeeded ⊢
          rcases ihFailure error.code error.negative succeeded with ⟨done, finishes, visible⟩
          have failed : faults.refuses row store.sent = true := by simp [Faults.refuses, fault]
          -- the replacement is tested, so it took effect
          cases finishes with
          | sent accepted later => exact ⟨_, .replaced failed accepted later, visible⟩

end Run

section Message

variable {faults : Faults} {base store : Store} {message : Message E}

/-- The ident is read back behind the insertion of the message's own row. -/
theorem getLastInsertIdent_of_succeeded {table : MessageTable} {ident : Nat}
    (found : store.maxIdent table = some ident) {rest : Nat → Sql Int}
    (succeeded : 0 ≤ ((getLastInsertIdent table rest).run (environment faults) store).1) :
    (getLastInsertIdent table rest).run (environment faults) store =
      (rest ident).run (environment faults) { store with sent := store.sent + 1 } := by
  rw [getLastInsertIdent, Program.run_perform] at succeeded ⊢
  cases fault : faults (.selectMaxIdent table) store.sent with
  | some error =>
      rw [environment_of_refused fault] at succeeded
      exact absurd succeeded (Int.not_le.mpr error.negative)
  | none =>
      have answer : (store.counted (.selectMaxIdent table)).maxIdent table = some ident := found
      rw [environment_of_accepted fault] at succeeded ⊢
      simp only [Store.accept, answer, Option.elim_some, Program.run_perform] at succeeded ⊢
      cases fetched : faults (.fetchRow table.table 0)
          (store.counted (.selectMaxIdent table)).sent with
      | some error =>
          rw [environment_of_refused fetched] at succeeded
          exact absurd succeeded (Int.not_le.mpr error.negative)
      | none =>
          rw [environment_of_accepted fetched] at succeeded ⊢
          simp only [counted_fetchRow, Store.accept, Program.run_perform] at succeeded ⊢
          cases field : faults (.fetchField (.number ident))
              (store.counted (.selectMaxIdent table)).sent with
          | some error =>
              rw [environment_of_refused field] at succeeded
              exact absurd succeeded (Int.not_le.mpr error.negative)
          | none =>
              rw [environment_of_accepted field]
              rfl

/-- The insertion of a message that succeeds: its own row, and its script. -/
theorem insertMessage_inserts (sound : base.Sound) (opened : Opened base store)
    (succeeded : 0 ≤ ((insertMessage message).run (environment faults) store).1) :
    ∃ done, (messageScript (base.next message.table) message).Finishes faults.refuses
        (store.sent + 2) done ∧
      ((insertMessage message).run (environment faults) store).2.visible =
        base.committed ++ ownEntry message base :: done.map (childEntry message base) := by
  rw [insertMessage_eq, requiemdbSqlEscape, escapeOr, Program.run_perform] at succeeded ⊢
  cases escaped : faults (.escape message.messageid) store.sent with
  | some error =>
      rw [environment_of_refused escaped] at succeeded
      exact absurd succeeded (Int.not_le.mpr error.negative)
  | none =>
      have sameCells : (Column.messageid, stringLiteral message.messageid) :: message.cells.tail =
          message.cells := by cases message <;> rfl
      rw [environment_of_accepted escaped] at succeeded ⊢
      simp only [counted_escape, Store.accept, run_checked, Program.run_perform] at succeeded ⊢
      generalize (Column.messageid, stringLiteral message.messageid) :: message.cells.tail = cells
        at sameCells succeeded ⊢
      subst sameCells
      cases inserted : faults (.insertMessage message.table message.cells) store.sent with
      | some error =>
          simp only [environment_of_refused inserted, refusal, Program.run_done, error.negative,
            if_true] at succeeded
          exact absurd succeeded (Int.not_le.mpr error.negative)
      | none =>
          simp only [environment_of_accepted inserted, Store.accept, Program.run_done,
            Int.lt_irrefl, if_false] at succeeded ⊢
          have found := opened.maxIdent sound message.table message.cells
          have readBack := getLastInsertIdent_of_succeeded found succeeded
          rw [readBack] at succeeded ⊢
          rcases (emits_insertMessageParts _ message).inserts succeeded with
            ⟨done, finishes, visible⟩
          refine ⟨done, finishes, visible.trans ?_⟩
          have sameNext := congrFun opened.next message.table
          simp [Store.insertMessage, Store.counted, SqlOp.isStatement, opened.visible, ownEntry,
            childEntry, Store.nextOwner, sameNext]

theorem closeTransaction_of_succeeded {ret : Int}
    (succeeded : 0 ≤ ((closeTransaction ret).run (environment faults) store).1) :
    0 ≤ ret ∧ ((closeTransaction ret).run (environment faults) store).2.committed =
      store.visible := by
  rw [closeTransaction] at succeeded ⊢
  split at succeeded
  case isTrue negative =>
    rw [Program.run_perform] at succeeded
    have both : ∀ tmp : Int, ¬ 0 ≤ if tmp < 0 then tmp else ret := by
      intro tmp
      split <;> omega
    exact absurd succeeded (both _)
  case isFalse notNegative =>
    rw [if_neg notNegative]
    refine ⟨Int.not_lt.mp notNegative, ?_⟩
    rw [Program.run_perform] at succeeded ⊢
    cases fault : faults .transactionEnd store.sent with
    | none =>
        rw [environment_of_accepted fault]
        rfl
    | some error =>
        rw [environment_of_refused fault] at succeeded
        exact absurd succeeded (Int.not_le.mpr error.negative)

/-- A call that succeeds commits the row of its message and the rows that took effect. -/
theorem classicInsert_inserts (message : Message E) (sound : store.Sound)
    (succeeded : 0 ≤ ((classicInsert message).run (environment faults) store).1) :
    ∃ done, (messageScript (store.next message.table) message).Finishes faults.refuses
        (store.sent + 2) done ∧
      ((classicInsert message).run (environment faults) store).2.committed =
        store.committed ++ ownEntry message store :: done.map (childEntry message store) := by
  rw [classicInsert_eq, run_checked, Program.run_perform] at succeeded ⊢
  cases started : faults .transactionStart store.sent with
  | some error =>
      simp only [environment_of_refused started, refusal, Program.run_done, error.negative,
        if_true] at succeeded
      exact absurd succeeded (Int.not_le.mpr error.negative)
  | none =>
      simp only [environment_of_accepted started, Store.accept, Program.run_done, Int.lt_irrefl,
        if_false, Program.run_bind] at succeeded ⊢
      rcases closeTransaction_of_succeeded succeeded with ⟨inserted, committed⟩
      have opened : Opened store
          { store.counted .transactionStart with
            visible := (store.counted .transactionStart).committed, writing := none } :=
        ⟨rfl, rfl, rfl⟩
      rcases insertMessage_inserts sound opened inserted with ⟨done, finishes, visible⟩
      exact ⟨done, finishes, committed.trans visible⟩

end Message

end RequiemDB
