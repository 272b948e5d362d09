import RequiemDB.Classic.Ownership

/-!
# Insertion when statements fail

The run of `classicInsert` against a database whose statements fail in an
arbitrary pattern. The rows below the message's own row follow its script, so a
run ends in one of two ways: the script stops and the transaction is rolled
back, or it is finished and what took effect is committed. What took effect is
the whole message exactly when no statement failed.
-/

namespace RequiemDB

open Lib

variable {E : EnumKind → Type} [Librequiem E]

/-- The pattern of failures as a script reads it. -/
def failed (fails : Nat → Option ErrorCode) : Nat → Bool := fun position =>
  (fails position).isSome

section Environment

variable {fails : Nat → Option ErrorCode} {store : Store}

theorem insert_of_succeeds (row : Row) (succeeds : fails store.sent = none) :
    environment (statementFaults fails) (.insert row) store =
      (0, { store.insert row with sent := store.sent + 1 }) :=
  environment_of_accepted succeeds

theorem insert_of_fails (row : Row) {error : ErrorCode} (fault : fails store.sent = some error) :
    environment (statementFaults fails) (.insert row) store =
      (error.code, { store with sent := store.sent + 1 }) :=
  environment_of_refused fault

theorem insertMessage_of_succeeds (table : MessageTable) (cells : List (Column × Cell))
    (succeeds : fails store.sent = none) :
    environment (statementFaults fails) (.insertMessage table cells) store =
      (0, { store.insertMessage table cells with sent := store.sent + 1 }) :=
  environment_of_accepted succeeds

theorem insertMessage_of_fails (table : MessageTable) (cells : List (Column × Cell))
    {error : ErrorCode} (fault : fails store.sent = some error) :
    environment (statementFaults fails) (.insertMessage table cells) store =
      (error.code, { store with sent := store.sent + 1 }) :=
  environment_of_refused fault

/-- The end of a run whose script was executed as told from `store` on. -/
def Outcome (executed : Option (List Row × Nat)) (store : Store) (result : Int × Store) : Prop :=
  match executed with
  | none => result.1 < 0 ∧ result.2.committed = store.committed
  | some (rows, last) => 0 ≤ result.1 ∧
      result.2 = { store with
        visible := store.visible ++ rows.map (Entry.mk store.writing), sent := last }

/-- The statements counted so far have no part in the outcome. -/
theorem Outcome.ofSent {executed : Option (List Row × Nat)} {result : Int × Store} {sent : Nat}
    (outcome : Outcome executed { store with sent := sent } result) :
    Outcome executed store result := by
  cases executed with
  | none => exact outcome
  | some executed => exact outcome

/-- A row that is inserted comes before those of the rest. -/
theorem Outcome.after {row : Row} {executed : Option (List Row × Nat)} {result : Int × Store}
    {sent : Nat} (outcome : Outcome executed { store.insert row with sent := sent } result) :
    Outcome (executed.map fun (rows, last) => (row :: rows, last)) store result := by
  cases executed with
  | none => exact outcome
  | some executed => simpa [Outcome, Store.insert] using outcome

end Environment

theorem Emits.outcome {program : Sql Int} {script : Script Row} (emits : Emits program script)
    (fails : Nat → Option ErrorCode) (store : Store) :
    Outcome (script.exec (failed fails) store.sent) store
      (program.run (environment (statementFaults fails)) store) := by
  induction emits generalizing store with
  | done ret succeeded => simp [Outcome, Script.exec, succeeded]
  | escape _ _ ih => exact ih store
  | escapeBinary _ _ ih => exact ih store
  | @must row next script failure _ ih =>
      cases fault : fails store.sent with
      | none =>
          rw [Program.run_perform, insert_of_succeeds row fault]
          have later := (ih 0 (by decide) { store.insert row with sent := store.sent + 1 }).after
          simpa [Script.exec, failed, fault, Item.must] using later
      | some error =>
          rw [Program.run_perform, insert_of_fails row fault]
          rcases failure error.code error.negative with ⟨code, negative, ends⟩
          simp [ends, Outcome, Script.exec, failed, fault, Item.must, negative]
  | @ignore row next script _ ih =>
      cases fault : fails store.sent with
      | none =>
          rw [Program.run_perform, insert_of_succeeds row fault]
          have later := (ih 0 { store.insert row with sent := store.sent + 1 }).after
          simpa [Script.exec, failed, fault] using later
      | some error =>
          rw [Program.run_perform, insert_of_fails row fault]
          have later := (ih error.code { store with sent := store.sent + 1 }).ofSent
          simpa [Script.exec, failed, fault] using later
  | @«instead» row other next script _ _ ihFailure ih =>
      cases fault : fails store.sent with
      | none =>
          rw [Program.run_perform, insert_of_succeeds row fault]
          have later := (ih 0 (by decide) { store.insert row with sent := store.sent + 1 }).after
          simpa [Script.exec, failed, fault] using later
      | some error =>
          rw [Program.run_perform, insert_of_fails row fault]
          have later :=
            (ihFailure error.code error.negative { store with sent := store.sent + 1 }).ofSent
          cases again : fails (store.sent + 1) <;>
            simpa [Script.exec, failed, fault, again, Item.must] using later


section Message

variable {fails : Nat → Option ErrorCode}

/-- The ident that `SELECT max(_ident)` gives behind the insertion of the message's row. -/
def settledIdent (message : Message E) (store : Store) : Nat :=
  ((store.insertMessage message.table message.cells).maxIdent message.table).getD 0

omit [Librequiem E] in
theorem maxIdent_insertMessage (message : Message E) (store : Store) :
    (store.insertMessage message.table message.cells).maxIdent message.table =
      some (settledIdent message store) := by
  have nonempty : (store.insertMessage message.table message.cells).maxIdent message.table ≠
      none := by
    simp only [Store.maxIdent, Store.rows, Store.insertMessage, ne_eq, List.max?_eq_none_iff,
      List.map_eq_nil_iff]
    simp [messageRow, Store.nextOwner]
  cases found : (store.insertMessage message.table message.cells).maxIdent message.table with
  | none => exact absurd found nonempty
  | some ident => simp [settledIdent, found]

theorem run_getLastInsertIdent {table : MessageTable} {ident : Nat} (store : Store) (sent : Nat)
    (succeeds : fails sent = none) (found : store.maxIdent table = some ident)
    (rest : Nat → Sql Int) :
    (getLastInsertIdent table rest).run (environment (statementFaults fails))
        { store with sent := sent } =
      (rest ident).run (environment (statementFaults fails))
        { store with sent := sent + 1 } := by
  have answer : ({ store with sent := sent + 1 } : Store).maxIdent table = some ident := found
  have accepted : environment (statementFaults fails) (.selectMaxIdent table)
      { store with sent := sent } = (.ok (.number ident), { store with sent := sent + 1 }) := by
    rw [environment_of_accepted succeeds, Store.accept]
    simp only [Store.counted, SqlOp.isStatement, if_true, answer, Option.elim_some]
  rw [getLastInsertIdent, Program.run_perform, accepted]
  rfl

theorem run_getLastInsertIdent_of_fails {table : MessageTable} {error : ErrorCode}
    (store : Store) (sent : Nat) (fault : fails sent = some error) (rest : Nat → Sql Int) :
    (getLastInsertIdent table rest).run (environment (statementFaults fails))
      { store with sent := sent } = (error.code, { store with sent := sent + 1 }) := by
  have refused : environment (statementFaults fails) (.selectMaxIdent table)
      { store with sent := sent } = (.error error, { store with sent := sent + 1 }) :=
    environment_of_refused fault
  rw [getLastInsertIdent, Program.run_perform, refused]
  rfl

variable (message : Message E) (store : Store)

/-- The program of a message behind the escape of its `messageid`. -/
theorem run_insertMessage (faults : Faults)
    (escapes : ∀ input sent, faults (.escape input) sent = none) :
    (insertMessage message).run (environment faults) store =
      (checked (.perform (.insertMessage message.table message.cells) .done) <|
        getLastInsertIdent message.table fun ident => insertMessageParts ident message).run
          (environment faults) store := by
  rw [insertMessage_eq]
  simp only [requiemdbSqlEscape, escapeOr, Program.run_perform,
    environment_of_accepted (escapes _ _)]
  cases message <;> rfl

/-- When the first two statements succeed, the parts are inserted under the settled ident. -/
theorem run_insertMessage_of_succeeds (inserted : fails store.sent = none)
    (selected : fails (store.sent + 1) = none) :
    (insertMessage message).run (environment (statementFaults fails)) store =
      (insertMessageParts (settledIdent message store) message).run
        (environment (statementFaults fails))
        { store.insertMessage message.table message.cells with sent := store.sent + 2 } := by
  rw [run_insertMessage message store _ fun _ _ => rfl, run_checked, Program.run_perform,
    insertMessage_of_succeeds _ _ inserted]
  simp only [Program.run_done, Int.lt_irrefl, if_false]
  exact run_getLastInsertIdent (store.insertMessage message.table message.cells)
    (store.sent + 1) selected (maxIdent_insertMessage message store) _

/-- When one of the first two statements fails, nothing is committed. -/
theorem run_insertMessage_of_fails
    (fault : fails store.sent ≠ none ∨ fails (store.sent + 1) ≠ none) :
    Outcome none store
      ((insertMessage message).run (environment (statementFaults fails)) store) := by
  rw [run_insertMessage message store _ fun _ _ => rfl, run_checked, Program.run_perform]
  cases first : fails store.sent with
  | some error =>
      rw [insertMessage_of_fails _ _ first]
      simp [error.negative, Outcome]
  | none =>
      cases second : fails (store.sent + 1) with
      | none => simp [first, second] at fault
      | some error =>
          rw [insertMessage_of_succeeds _ _ first]
          simp only [Program.run_done, Int.lt_irrefl, if_false]
          rw [run_getLastInsertIdent_of_fails (store.insertMessage _ _) _ second]
          exact ⟨error.negative, rfl⟩

/-- The statements of an insertion that take effect behind the message's own row. -/
def executed (fails : Nat → Option ErrorCode) : Option (List Row × Nat) :=
  if failed fails store.sent || failed fails (store.sent + 1) then none
  else (messageScript (settledIdent message store) message).exec (failed fails) (store.sent + 2)

/-- The row of the message itself, as it is stored. -/
def ownEntry : Entry :=
  ⟨some (store.nextOwner message.table), messageRow (store.nextOwner message.table) message.cells⟩

/-- A row below the message's own row, as it is stored. -/
def childEntry : Row → Entry := Entry.mk (some (store.nextOwner message.table))

/-- What a call returns and commits, by the rows that were inserted behind its own. -/
def Committed (executed : Option (List Row × Nat)) (result : Int × Store) : Prop :=
  match executed with
  | none => result.1 < 0 ∧ result.2.committed = store.committed
  | some (rows, _) => 0 ≤ result.1 ∧ result.2.committed =
      store.committed ++ ownEntry message store :: rows.map (childEntry message store)

omit [Librequiem E] in
theorem run_closeTransaction_of_failed {result : Int × Store} {opened : Store}
    (same : opened.committed = store.committed) (outcome : Outcome none opened result) :
    Committed message store none
      ((closeTransaction result.1).run (environment (statementFaults fails)) result.2) := by
  rcases outcome with ⟨negative, unchanged⟩
  rw [closeTransaction, if_pos negative]
  exact ⟨negative, unchanged.trans same⟩

omit [Librequiem E] in
theorem run_closeTransaction_of_executed {result : Int × Store} {rows : List Row} {last : Nat}
    {sent : Nat} (idle : store.Idle)
    (outcome : Outcome (some (rows, last))
      { store.insertMessage message.table message.cells with sent := sent } result) :
    Committed message store (some (rows, last))
      ((closeTransaction result.1).run (environment (statementFaults fails)) result.2) := by
  rcases outcome with ⟨succeeded, reached⟩
  have notNegative : ¬ result.1 < 0 := by omega
  have shown : store.visible = store.committed := idle
  rw [closeTransaction, if_neg notNegative, reached]
  refine ⟨Int.le_refl 0, ?_⟩
  show (store.visible ++ [ownEntry message store]) ++ rows.map (childEntry message store) = _
  rw [shown, List.append_assoc]
  rfl

theorem classicInsert_commits (idle : store.Idle) (fails : Nat → Option ErrorCode) :
    Committed message store (executed message store fails)
      ((classicInsert message).run (environment (statementFaults fails)) store) := by
  have shown : store.visible = store.committed := idle
  have start : environment (statementFaults fails) .transactionStart store =
      (0, { store with writing := none }) := by
    rw [environment_of_accepted rfl]
    simp [Store.accept, Store.counted, SqlOp.isStatement, shown]
  rw [classicInsert_eq, run_checked, Program.run_perform, start]
  simp only [Program.run_done, Int.lt_irrefl, if_false, Program.run_bind]
  by_cases fault : fails store.sent ≠ none ∨ fails (store.sent + 1) ≠ none
  · have nothing : executed message store fails = none := by
      rw [executed, if_pos]
      simpa [failed, Option.isSome_iff_ne_none] using fault
    rw [nothing]
    exact run_closeTransaction_of_failed message store rfl
      (run_insertMessage_of_fails message { store with writing := none } fault)
  · simp only [ne_eq, not_or, not_not] at fault
    rcases fault with ⟨inserted, selected⟩
    have rest : executed message store fails =
        (messageScript (settledIdent message store) message).exec (failed fails)
          (store.sent + 2) := by
      simp [executed, failed, inserted, selected]
    have outcome := (emits_insertMessageParts (settledIdent message store) message).outcome fails
      { store.insertMessage message.table message.cells with sent := store.sent + 2 }
    rw [rest, run_insertMessage_of_succeeds message { store with writing := none } inserted
      selected]
    cases finished : (messageScript (settledIdent message store) message).exec (failed fails)
        (store.sent + 2) with
    | none =>
        rw [finished] at outcome
        exact run_closeTransaction_of_failed message store rfl outcome
    | some done =>
        rw [finished] at outcome
        exact run_closeTransaction_of_executed message store idle outcome

end Message

section Outcome

variable (message : Message E) (store : Store)

theorem statementFaults_none : statementFaults (fun _ => none) = noFaults := by
  funext op sent
  simp [statementFaults, noFaults]

/-- Without a fault, a call commits the message's own row and all rows of its script. -/
theorem classicInsert_commits_all (idle : store.Idle) :
    0 ≤ ((classicInsert message).run (environment noFaults) store).1 ∧
    ((classicInsert message).run (environment noFaults) store).2.committed =
      store.committed ++ ownEntry message store ::
        (messageScript (settledIdent message store) message).statements.map
          (childEntry message store) := by
  have finished : executed message store (fun _ => none) =
      some ((messageScript (settledIdent message store) message).statements,
        store.sent + 2 + (messageScript (settledIdent message store) message).length) := by
    rw [executed, if_neg (by simp [failed])]
    exact Script.exec_of_nothingFails fun _ _ => rfl
  have commits := classicInsert_commits message store idle fun _ => none
  rwa [finished, statementFaults_none] at commits

/-- A call commits the whole message and succeeds, or fails and commits nothing. -/
def AllOrNothing (fails : Nat → Option ErrorCode) : Prop :=
  let result := (classicInsert message).run (environment (statementFaults fails)) store
  let full := (classicInsert message).run (environment noFaults) store
  (0 ≤ result.1 → result.2.committed = full.2.committed) ∧
    (result.1 < 0 → result.2.committed = store.committed)

/--
No statement of the call fails, or one does whose result the source tests: the first two
always, then those of the script that are not forgotten.
-/
def FailuresNoticed (fails : Nat → Option ErrorCode) : Prop :=
  let script := messageScript (settledIdent message store) message
  failed fails store.sent ∨ failed fails (store.sent + 1) ∨
    script.Stops (failed fails) (store.sent + 2) ∨
    script.NothingFails (failed fails) (store.sent + 2)

/-- What is executed is the whole script, or nothing at all, exactly when failures are noticed. -/
theorem executed_complete_iff (fails : Nat → Option ErrorCode) :
    (∀ rows last, executed message store fails = some (rows, last) →
      rows = (messageScript (settledIdent message store) message).statements) ↔
    FailuresNoticed message store fails := by
  have others := replacesByOthers_messageScript (settledIdent message store) message
  rw [FailuresNoticed]
  by_cases first : failed fails store.sent
  · simp [executed, first]
  by_cases second : failed fails (store.sent + 1)
  · simp [executed, second]
  rw [← Script.complete_or_stopped_iff others]
  simp [executed, first, second]

/--
All or nothing holds of a call exactly when every failure is noticed, or none strikes: the
insertions into `Requiem_Classification`, `Requiem_WebService` and `Requiem_ToolAlert` are
those whose failure alone lets a message with a missing row be committed.
-/
theorem allOrNothing_iff (idle : store.Idle) (fails : Nat → Option ErrorCode) :
    AllOrNothing message store fails ↔ FailuresNoticed message store fails := by
  have full := (classicInsert_commits_all message store idle).2
  have commits := classicInsert_commits message store idle fails
  rw [← executed_complete_iff, AllOrNothing, full]
  constructor
  · rintro ⟨whole, _⟩ rows last finished
    rw [finished] at commits
    rcases commits with ⟨succeeded, committed⟩
    have same := committed.symm.trans (whole succeeded)
    simp only [List.append_cancel_left_eq, List.cons.injEq, true_and] at same
    exact List.map_injective_iff.mpr (fun _ _ equal => by simpa [childEntry] using equal) same
  · intro complete
    cases outcome : executed message store fails with
    | none =>
        rw [outcome] at commits
        rcases commits with ⟨negative, unchanged⟩
        exact ⟨fun succeeded => absurd negative (by omega), fun _ => unchanged⟩
    | some done =>
        rw [outcome] at commits
        rcases commits with ⟨succeeded, committed⟩
        refine ⟨fun _ => ?_, fun negative => absurd negative (by omega)⟩
        rw [committed, complete done.1 done.2 outcome]

end Outcome

/-- An alert that is classified as a scan. -/
def classified : Alert TextEnum :=
  { Alert.bare TextEnum with classification := some ⟨none, some "scan", []⟩ }

/-- The fourth statement fails, for a classified alert the row of its classification. -/
def failsFourth (position : Nat) : Option ErrorCode :=
  if position = 3 then some ⟨-1, minusOne_negative⟩ else none

/-- The alert is committed without its classification, and the call succeeds. -/
theorem classified_not_allOrNothing :
    ¬ AllOrNothing (.alert classified) Store.empty failsFourth := by
  intro holds
  have succeeded : 0 ≤ ((classicInsert (.alert classified)).run
    (environment (statementFaults failsFourth)) Store.empty).1 := by decide
  have committed := congrArg List.length (holds.1 succeeded)
  exact absurd committed (by decide)

theorem allOrNothing_iff_classified :
    AllOrNothing (.alert classified) Store.empty failsFourth ↔
      FailuresNoticed (.alert classified) Store.empty failsFourth :=
  allOrNothing_iff (.alert classified) Store.empty rfl failsFourth

end RequiemDB
