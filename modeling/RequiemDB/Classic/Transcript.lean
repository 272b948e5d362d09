import RequiemDB.Classic.Script
import RequiemDB.Classic.Shape

/-!
# The statements that an insertion sends

A server that answers each statement by its position, and keeps what it is sent. Messages
of one shape send statements that differ in their texts and binary strings only.
-/

namespace RequiemDB

open Lib

variable {E : EnumKind → Type} [Librequiem E]

/-- What the server answers to the statement at a position. -/
structure Answers where
  query : Nat → Int
  maxIdent : Nat → Except ErrorCode Cell
  fetchRow : Nat → Except ErrorCode Unit
  fetchField : Nat → Except ErrorCode (Option Cell)

/-- The statements that an insertion fails on. -/
def Answers.fails (answers : Answers) (position : Nat) : Bool := decide (answers.query position < 0)

/-- How the plugin writes the contents of a text and of a binary string in its literal. -/
structure Escape where
  text : String → String
  binary : List UInt8 → List UInt8

/-- The contents of a literal are what was escaped. -/
def Escape.plain : Escape := ⟨id, id⟩

/-- A cell, whose text or binary string is escaped. -/
def Cell.escaped (escape : Escape) : Cell → Cell
  | .text value => .text (escape.text value)
  | .blob value => .blob (escape.binary value)
  | cell => cell

@[simp]
theorem escaped_plain (cell : Cell) : cell.escaped .plain = cell := by
  cases cell <;> rfl

/-- The tokens of the statement of a call; an insertion makes no other statements. -/
def SqlOp.tokens : SqlOp → Option SqlTokens
  | .transactionStart => some [.word "BEGIN"]
  | .transactionEnd => some [.word "COMMIT"]
  | .transactionAbort => some [.word "ROLLBACK"]
  | .insertMessage table cells => some (insertTokens table.table (cellTokens cells))
  | .insert row => some row.tokens
  | .selectMaxIdent table => some [.word "SELECT", .word "max", .word "(", .word "_ident",
      .word ")", .word "FROM", .word table.table.sqlName, .word ";"]
  | _ => none

/-- The call, if it sends a statement. -/
def SqlOp.sent (op : SqlOp) : List SqlOp := if op.tokens.isSome then [op] else []

/-- What the plugin escapes is one literal each. -/
def Answers.reply (answers : Answers) (escape : Escape) (position : Nat) :
    (op : SqlOp) → SqlReply op
  | .transactionStart | .transactionEnd | .transactionAbort => answers.query position
  | .escape input => .ok ((stringLiteral input).escaped escape)
  | .escapeBinary input => .ok (.blob (escape.binary input))
  | .unescapeBinary input => .ok input
  | .insertMessage _ _ | .insert _ | .delete _ => answers.query position
  | .selectMaxIdent _ => answers.maxIdent position
  | .select _ => .ok []
  | .fetchRow _ _ => answers.fetchRow position
  | .fetchField _ => answers.fetchField position

/-- The server, whose state is what it was sent. -/
def recording (answers : Answers) (escape : Escape) : Environment SqlReply (List SqlOp) :=
  fun op log => (answers.reply escape log.length op, log ++ op.sent)

section Plain

variable (answers : Answers)

theorem recording_insert (escape : Escape) (row : Row) (log : List SqlOp) :
    recording answers escape (.insert row) log =
      (answers.query log.length, log ++ [.insert row]) := rfl

theorem recording_escape (input : Option String) (log : List SqlOp) :
    recording answers .plain (.escape input) log = (.ok (stringLiteral input), log) := by
  simp [recording, Answers.reply, SqlOp.sent, SqlOp.tokens]

theorem recording_escapeBinary (input : List UInt8) (log : List SqlOp) :
    recording answers .plain (.escapeBinary input) log = (.ok (.blob input), log) := by
  simp [recording, Answers.reply, SqlOp.sent, SqlOp.tokens, Escape.plain]

end Plain

/-- What a run of a program of a script returns and sends. -/
def Recorded (answers : Answers) (script : Script Row) (log : List SqlOp)
    (result : Int × List SqlOp) : Prop :=
  (result.1 < 0 ↔ script.Stops answers.fails log.length) ∧
    result.2 = log ++ (script.sent answers.fails log.length).map SqlOp.insert

/-- A program sends the statements of its script, and fails if the script stops. -/
theorem Emits.recorded {program : Sql Int} {script : Script Row} (emits : Emits program script)
    (answers : Answers) (log : List SqlOp) :
    Recorded answers script log (program.run (recording answers .plain) log) := by
  induction emits generalizing log with
  | done ret succeeded => simp [Recorded, Script.Stops, Script.sent, succeeded]
  | escape _ _ ih =>
      rw [Program.run_perform, recording_escape]
      exact ih log
  | escapeBinary _ _ ih =>
      rw [Program.run_perform, recording_escapeBinary]
      exact ih log
  | @must row next script failure _ ih =>
      rw [Program.run_perform, recording_insert]
      by_cases fails : answers.query log.length < 0
      · rcases failure _ fails with ⟨code, negative, ends⟩
        simp [ends, Recorded, Script.Stops, Script.sent, Item.must, Answers.fails, fails, negative]
      · have later := ih _ (Int.not_lt.mp fails) (log ++ [.insert row])
        simpa [Recorded, Script.Stops, Script.sent, Item.must, Answers.fails, fails] using later
  | @ignore row next script _ ih =>
      rw [Program.run_perform, recording_insert]
      have later := ih (answers.query log.length) (log ++ [.insert row])
      simpa [Recorded, Script.Stops, Script.sent] using later
  | @«instead» row other next script _ _ ihFailure ih =>
      rw [Program.run_perform, recording_insert]
      by_cases fails : answers.query log.length < 0
      · have later := ihFailure _ fails (log ++ [.insert row])
        by_cases again : answers.query (log.length + 1) < 0 <;>
          simpa [Recorded, Script.Stops, Script.sent, Item.must, Answers.fails, fails, again]
            using later
      · have later := ih _ (Int.not_lt.mp fails) (log ++ [.insert row])
        simpa [Recorded, Script.Stops, Script.sent, Answers.fails, fails] using later

/-- A call without the texts and binary strings of its row. -/
def SqlOp.blank : SqlOp → SqlOp
  | .insertMessage table cells =>
      .insertMessage table (cells.map fun (column, cell) => (column, cell.blank))
  | .insert row => .insert row.blank
  | op => op

/-- Statements without their texts and binary strings. -/
def blankLog (log : List SqlOp) : List SqlOp := log.map SqlOp.blank

theorem length_blankLog (log : List SqlOp) : (blankLog log).length = log.length :=
  List.length_map _

/-- Two runs return a failure both or none, and send the same up to texts and binary strings. -/
def Alike (first second : Int × List SqlOp) : Prop :=
  (first.1 < 0 ↔ second.1 < 0) ∧ blankLog first.2 = blankLog second.2

theorem Emits.alike {program other : Sql Int} {script otherScript : Script Row}
    (emits : Emits program script) (otherEmits : Emits other otherScript)
    (same : blankScript script = blankScript otherScript) (answers : Answers)
    {log otherLog : List SqlOp} (sameLog : blankLog log = blankLog otherLog) :
    Alike (program.run (recording answers .plain) log)
      (other.run (recording answers .plain) otherLog) := by
  have sameLength : log.length = otherLog.length := by
    rw [← length_blankLog log, sameLog, length_blankLog]
  rcases emits.recorded answers log with ⟨fails, sends⟩
  rcases otherEmits.recorded answers otherLog with ⟨otherFails, otherSends⟩
  constructor
  · rw [fails, otherFails, ← Script.stops_map Row.blank,
      ← Script.stops_map Row.blank _ _ otherScript, sameLength]
    exact Iff.of_eq (congrArg _ same)
  · have sameSent : (script.sent answers.fails log.length).map Row.blank =
        (otherScript.sent answers.fails otherLog.length).map Row.blank := by
      rw [← Script.sent_map, ← Script.sent_map, sameLength]
      exact congrArg _ same
    have blankInserts : ∀ rows : List Row,
        (rows.map SqlOp.insert).map SqlOp.blank = (rows.map Row.blank).map SqlOp.insert := by
      intro rows
      simp only [List.map_map]
      rfl
    rw [sends, otherSends]
    simp only [blankLog, List.map_append] at sameLog ⊢
    rw [sameLog, blankInserts, blankInserts, sameSent]

section Call

variable (answers : Answers) {log otherLog : List SqlOp}

theorem length_eq_of_blankLog (same : blankLog log = blankLog otherLog) :
    log.length = otherLog.length := by
  rw [← length_blankLog log, same, length_blankLog]

theorem blankLog_append {op other : SqlOp} (same : blankLog log = blankLog otherLog)
    (sameOp : op.blank = other.blank) :
    blankLog (log ++ [op]) = blankLog (otherLog ++ [other]) := by
  simp only [blankLog, List.map_append, List.map_cons, List.map_nil] at same ⊢
  rw [same, sameOp]

/-- Tested programs that run alike, and what follows them. -/
theorem Alike.checked {program other rest otherRest : Sql Int}
    (alike : Alike (program.run (recording answers .plain) log)
      (other.run (recording answers .plain) otherLog))
    (restAlike : ∀ log otherLog, blankLog log = blankLog otherLog →
      Alike (rest.run (recording answers .plain) log)
        (otherRest.run (recording answers .plain) otherLog)) :
    Alike ((checked program rest).run (recording answers .plain) log)
      ((checked other otherRest).run (recording answers .plain) otherLog) := by
  rw [run_checked, run_checked]
  by_cases fails : (program.run (recording answers .plain) log).1 < 0
  · rw [if_pos fails, if_pos (alike.1.mp fails)]
    exact alike
  · rw [if_neg fails, if_neg (fun otherFails => fails (alike.1.mpr otherFails))]
    exact restAlike _ _ alike.2

theorem alike_perform (op : SqlOp) {next otherNext : SqlReply op → Sql Int}
    (nextAlike : ∀ reply log otherLog, blankLog log = blankLog otherLog →
      Alike ((next reply).run (recording answers .plain) log)
        ((otherNext reply).run (recording answers .plain) otherLog))
    (same : blankLog log = blankLog otherLog) :
    Alike ((Program.perform op next).run (recording answers .plain) log)
      ((Program.perform op otherNext).run (recording answers .plain) otherLog) := by
  have sameNext : blankLog (log ++ op.sent) = blankLog (otherLog ++ op.sent) := by
    simp only [blankLog, List.map_append] at same ⊢
    rw [same]
  have alike := nextAlike (answers.reply .plain log.length op) _ _ sameNext
  simp only [Program.run_perform, recording, length_eq_of_blankLog same] at alike ⊢
  exact alike

theorem alike_done (ret : Int) (same : blankLog log = blankLog otherLog) :
    Alike ((Program.done ret : Sql Int).run (recording answers .plain) log)
      ((Program.done ret : Sql Int).run (recording answers .plain) otherLog) :=
  ⟨Iff.rfl, same⟩

theorem alike_getLastInsertIdent (table : MessageTable) {rest otherRest : Nat → Sql Int}
    (restAlike : ∀ ident log otherLog, blankLog log = blankLog otherLog →
      Alike ((rest ident).run (recording answers .plain) log)
        ((otherRest ident).run (recording answers .plain) otherLog))
    (same : blankLog log = blankLog otherLog) :
    Alike ((getLastInsertIdent table rest).run (recording answers .plain) log)
      ((getLastInsertIdent table otherRest).run (recording answers .plain) otherLog) := by
  refine alike_perform answers _ ?_ same
  rintro (error | cell) log otherLog same
  · exact alike_done answers _ same
  · refine alike_perform answers _ ?_ same
    rintro (error | row) log otherLog same
    · exact alike_done answers _ same
    · refine alike_perform answers _ ?_ same
      rintro (error | none | field) log otherLog same
      · exact alike_done answers _ same
      · exact alike_done answers _ same
      · exact restAlike _ log otherLog same

theorem alike_closeTransaction {result other : Int × List SqlOp} (alike : Alike result other) :
    Alike ((closeTransaction result.1).run (recording answers .plain) result.2)
      ((closeTransaction other.1).run (recording answers .plain) other.2) := by
  rcases alike with ⟨fails, same⟩
  by_cases failed : result.1 < 0
  · have otherFailed := fails.mp failed
    rw [closeTransaction, closeTransaction, if_pos failed, if_pos otherFailed]
    refine alike_perform answers _ ?_ same
    intro reply log otherLog same
    refine ⟨?_, same⟩
    by_cases aborted : reply < 0 <;> simp [aborted, failed, otherFailed]
  · have otherFailed := fun otherFails => failed (fails.mpr otherFails)
    rw [closeTransaction, closeTransaction, if_neg failed, if_neg otherFailed]
    refine alike_perform answers _ ?_ same
    intro reply log otherLog same
    exact alike_done answers reply same

variable {first second : Message E}

omit [Librequiem E] in
/-- The rows with the idents of messages of one shape. -/
theorem blank_ownRow (same : first.blank = second.blank) :
    (SqlOp.insertMessage first.table first.cells).blank =
      (SqlOp.insertMessage second.table second.cells).blank := by
  have unblank : ∀ message : Message E,
      (SqlOp.insertMessage message.blank.table message.blank.cells).blank =
        (SqlOp.insertMessage message.table message.cells).blank := by
    intro message
    cases message <;> simp [Message.blank, Message.table, Message.cells, Alert.blank,
      Heartbeat.blank, SqlOp.blank]
  rw [← unblank first, same, unblank second]

/-- The program of a message behind the escape of its `messageid`. -/
theorem recorded_insertMessage (message : Message E) (log : List SqlOp) :
    (insertMessage message).run (recording answers .plain) log =
      (checked (.perform (.insertMessage message.table message.cells) .done) <|
        getLastInsertIdent message.table fun ident => insertMessageParts ident message).run
          (recording answers .plain) log := by
  rw [insertMessage_eq, requiemdbSqlEscape, escapeOr, Program.run_perform, recording_escape]
  cases message <;> rfl

/-- Messages of one shape are inserted with the same statements but for their literals. -/
theorem alike_classicInsert (same : first.blank = second.blank) :
    Alike ((classicInsert first).run (recording answers .plain) [])
      ((classicInsert second).run (recording answers .plain) []) := by
  have sameRow := blank_ownRow same
  have sameTable : first.table = second.table := by
    simp only [SqlOp.blank, SqlOp.insertMessage.injEq] at sameRow
    exact sameRow.1
  rw [classicInsert_eq, classicInsert_eq]
  refine Alike.checked answers (alike_perform answers _ ?_ rfl) ?_
  · intro reply log otherLog sameLog
    exact alike_done answers reply sameLog
  · intro log otherLog sameLog
    rw [Program.run_bind, Program.run_bind]
    apply alike_closeTransaction
    rw [recorded_insertMessage, recorded_insertMessage]
    apply Alike.checked
    · have sent := blankLog_append sameLog sameRow
      have sameLength := length_eq_of_blankLog sameLog
      refine ⟨?_, sent⟩
      simp [recording, Answers.reply, sameLength]
    · intro log otherLog sameLog
      rw [sameTable]
      refine alike_getLastInsertIdent answers second.table ?_ sameLog
      intro ident log otherLog sameLog
      have sameScript := blank_messageScript ident same
      exact (emits_insertMessageParts ident first).alike (emits_insertMessageParts ident second)
        sameScript answers sameLog

end Call

end RequiemDB
