import Mathlib.Data.List.Forall2
import RequiemDB.Classic.Transcript

/-!
# The literals of an insertion

Every text and every binary string of a statement went through the escape of the plugin. A
server whose plugin escapes in another way is therefore sent the same statements, with the
other contents in the literals, and the statements of messages of one shape differ in what was
escaped and in nothing else, however the plugin escapes.
-/

namespace RequiemDB

open Lib

variable {E : EnumKind → Type} [Librequiem E] {α : Type}

section Escaped

variable (escape : Escape)

def escapedCells (cells : List (Column × Cell)) : List (Column × Cell) :=
  cells.map fun (column, cell) => (column, cell.escaped escape)

def Row.escaped (row : Row) : Row := { row with cells := escapedCells escape row.cells }

/-- A statement whose texts and binary strings are escaped. -/
def SqlOp.escaped : SqlOp → SqlOp
  | .insertMessage table cells => .insertMessage table (escapedCells escape cells)
  | .insert row => .insert (row.escaped escape)
  | op => op

/-- The number of a numeric column is not escaped. -/
theorem escaped_optionalNumber (value : Option Int) :
    (optionalNumber value).escaped escape = optionalNumber value := by
  cases value <;> rfl

/-- Neither is an instant, an offset or a number of microseconds. -/
theorem escaped_time (time : Option Time) :
    (requiemdbSqlTimeToTimestamp time).1.escaped escape = (requiemdbSqlTimeToTimestamp time).1 ∧
    (requiemdbSqlTimeToTimestamp time).2.1.escaped escape =
      (requiemdbSqlTimeToTimestamp time).2.1 ∧
    (requiemdbSqlTimeToTimestamp time).2.2.escaped escape =
      (requiemdbSqlTimeToTimestamp time).2.2 := by
  cases time <;> exact ⟨rfl, rfl, rfl⟩

theorem sent_escaped (op : SqlOp) :
    (op.escaped escape).sent = op.sent.map (SqlOp.escaped escape) := by
  cases op <;> rfl

end Escaped

/--
The second program is the first one behind other escapes: it returns the same and sends the
statements of the first, with their texts and binary strings escaped.
-/
def Rewritten (escape : Escape) (program other : Sql Int) : Prop :=
  ∀ (answers : Answers) (log : List SqlOp),
    other.run (recording answers escape) (log.map (SqlOp.escaped escape)) =
      ((program.run (recording answers .plain) log).1,
        (program.run (recording answers .plain) log).2.map (SqlOp.escaped escape))

/-- All literals of a program went through the escape. -/
abbrev Escapes (escape : Escape) (program : Sql Int) : Prop := Rewritten escape program program

namespace Rewritten

variable {escape : Escape}

theorem done (ret : Int) : Escapes escape (.done ret) := fun _ _ => rfl

/-- A call without a text, and what follows it. -/
theorem perform {op : SqlOp} (plain : op.escaped escape = op)
    (answered : ∀ (answers : Answers) position,
      answers.reply escape position op = answers.reply .plain position op)
    {next other : SqlReply op → Sql Int}
    (rest : ∀ reply, Rewritten escape (next reply) (other reply)) :
    Rewritten escape (.perform op next) (.perform op other) := by
  intro answers log
  have sent : op.sent = op.sent.map (SqlOp.escaped escape) := by
    rw [← sent_escaped, plain]
  have later := rest (answers.reply .plain log.length op) answers (log ++ op.sent)
  simp only [Program.run_perform, recording, List.length_map, answered]
  rw [List.map_append, ← sent] at later
  exact later

theorem textOr {onError : ErrorCode → ErrorCode} (input : Option String) {rest : Cell → Sql Int}
    {other : Cell → Sql Int}
    (goesOn : ∀ cell, Rewritten escape (rest cell) (other (cell.escaped escape))) :
    Rewritten escape (escapeOr onError input rest) (RequiemDB.escapeOr onError input other) := by
  intro answers log
  have later := goesOn (stringLiteral input) answers log
  simpa [RequiemDB.escapeOr, recording, Answers.reply, SqlOp.sent, SqlOp.tokens] using later

theorem text (input : Option String) {rest other : Cell → Sql Int}
    (goesOn : ∀ cell, Rewritten escape (rest cell) (other (cell.escaped escape))) :
    Rewritten escape (requiemdbSqlEscape input rest) (requiemdbSqlEscape input other) :=
  textOr input goesOn

theorem enum {kind : EnumKind} (value : E kind) {rest other : Cell → Sql Int}
    (goesOn : ∀ cell, Rewritten escape (rest cell) (other (cell.escaped escape))) :
    Rewritten escape (escapeEnum value rest) (escapeEnum value other) :=
  text _ goesOn

theorem optionalEnum {kind : EnumKind} (value : Option (E kind)) {rest other : Cell → Sql Int}
    (goesOn : ∀ cell, Rewritten escape (rest cell) (other (cell.escaped escape))) :
    Rewritten escape (escapeOptionalEnum value rest) (escapeOptionalEnum value other) :=
  text _ goesOn

theorem binary (input : List UInt8) {rest other : Cell → Sql Int}
    (goesOn : ∀ cell, Rewritten escape (rest cell) (other (cell.escaped escape))) :
    Rewritten escape (requiemdbSqlEscapeBinary input rest)
      (requiemdbSqlEscapeBinary input other) := by
  intro answers log
  have later := goesOn (.blob input) answers log
  simpa [requiemdbSqlEscapeBinary, recording, Answers.reply, SqlOp.sent, SqlOp.tokens,
    Escape.plain, Cell.escaped] using later

theorem insertSent {row other : Row} (same : other = row.escaped escape) :
    Rewritten escape (requiemdbSqlInsert row) (requiemdbSqlInsert other) := by
  intro answers log
  subst same
  simp only [requiemdbSqlInsert, Program.run_perform, recording_insert, Program.run_done,
    List.length_map, List.map_append, List.map_cons, List.map_nil]
  rfl

theorem bind {program other : Sql Int} {rest otherRest : Int → Sql Int}
    (first : Rewritten escape program other)
    (second : ∀ ret, Rewritten escape (rest ret) (otherRest ret)) :
    Rewritten escape (program >>= rest) (other >>= otherRest) := by
  intro answers log
  rw [Program.run_bind, Program.run_bind, first answers log]
  exact second _ answers _

theorem checked {program other rest otherRest : Sql Int}
    (first : Rewritten escape program other) (second : Rewritten escape rest otherRest) :
    Rewritten escape (checked program rest) (RequiemDB.checked other otherRest) := by
  refine first.bind fun ret => ?_
  split
  · exact done ret
  · exact second

theorem eachOf {insertOne : Int → α → Sql Int}
    (each : ∀ index element, Escapes escape (insertOne index element)) (index : Int)
    (elements : List α) {rest other : Sql Int} (last : Rewritten escape rest other) :
    Rewritten escape (insertEach insertOne index elements rest)
      (RequiemDB.insertEach insertOne index elements other) := by
  induction elements generalizing index with
  | nil => exact last
  | cons element elements ih => exact (each index element).checked (ih (index + 1))

theorem listOf {insertOne : Int → α → Sql Int}
    (each : ∀ index element, Escapes escape (insertOne index element)) (elements : List α)
    {rest other : Sql Int} (last : Rewritten escape rest other) :
    Rewritten escape (insertListed insertOne elements rest)
      (RequiemDB.insertListed insertOne elements other) := by
  refine eachOf each 0 elements ?_
  cases elements.getLast? with
  | none => exact last
  | some element => exact (each (-1) element).checked last

theorem optionOf {insertOne : α → Sql Int}
    (each : ∀ element, Escapes escape (insertOne element)) (part : Option α) :
    Escapes escape (insertOptional insertOne part) := by
  cases part with
  | none => exact done 0
  | some element => exact each element

end Rewritten

section Functions

open Rewritten

variable {escape : Escape} (parentType : ParentType) (messageIdent : Nat)

theorem escapes_insertAddress (parentIndex addressIndex : Int) (address : Address E) :
    Escapes escape (insertAddress parentType messageIdent parentIndex addressIndex address) :=
  enum _ fun _ => text _ fun _ => text _ fun _ => text _ fun _ => text _ fun _ =>
    insertSent (by simp [Row.escaped, escapedCells, escaped_optionalNumber])

theorem escapes_insertNode (parentIndex : Int) (node : Node E) :
    Escapes escape (insertNode parentType messageIdent parentIndex node) :=
  enum _ fun _ => text _ fun _ => text _ fun _ => textOr _ fun _ =>
    (insertSent rfl).checked <|
    listOf (escapes_insertAddress parentType messageIdent parentIndex) _ (done 0)

theorem escapes_insertUserId (parentIndex fileIndex fileAccessIndex index : Int)
    (userId : UserId E) :
    Escapes escape
      (insertUserId parentType messageIdent parentIndex fileIndex fileAccessIndex index userId) :=
  text _ fun _ => text _ fun _ => enum _ fun _ => text _ fun _ =>
    insertSent (by simp [Row.escaped, escapedCells, escaped_optionalNumber])

theorem escapes_insertUser (parentIndex : Int) (user : User E) :
    Escapes escape (insertUser parentType messageIdent parentIndex user) :=
  text _ fun _ => enum _ fun _ => (insertSent rfl).checked <|
    listOf (escapes_insertUserId parentType messageIdent parentIndex 0 0) _ (done 1)

theorem escapes_insertStringOf (table : Table) (column : Column) (parentIndex index : Int)
    (string : String) :
    Escapes escape
      (insertStringOf table column parentType messageIdent parentIndex index string) :=
  text _ fun _ => insertSent rfl

theorem escapes_insertProcess (parentIndex : Int) (process : Process) :
    Escapes escape (insertProcess parentType messageIdent parentIndex process) :=
  text _ fun _ => text _ fun _ => text _ fun _ =>
    (insertSent (by simp [Row.escaped, escapedCells, escaped_optionalNumber])).checked <|
    eachOf (escapes_insertStringOf parentType messageIdent _ _ parentIndex) 0 _ <|
    eachOf (escapes_insertStringOf parentType messageIdent _ _ parentIndex) 0 _ (done 1)

theorem escapes_insertSnmpService (parentIndex : Int) (snmpService : SnmpService) :
    Escapes escape (insertSnmpService parentType messageIdent parentIndex snmpService) :=
  text _ fun _ => text _ fun _ => text _ fun _ => text _ fun _ => text _ fun _ =>
    insertSent (by simp [Row.escaped, escapedCells, escaped_optionalNumber])

theorem escapes_insertWebService (parentIndex : Int) (webService : WebService) :
    Escapes escape (insertWebService parentType messageIdent parentIndex webService) :=
  text _ fun _ => textOr _ fun _ => text _ fun _ => (insertSent rfl).bind fun _ =>
    listOf (escapes_insertStringOf parentType messageIdent _ _ parentIndex) _ (done 1)

theorem escapes_insertService (parentIndex : Int) (service : Service) :
    Escapes escape (insertService parentType messageIdent parentIndex service) := by
  refine text _ fun _ => text _ fun _ => text _ fun _ => text _ fun _ => text _ fun _ =>
    (insertSent (by simp [Row.escaped, escapedCells, escaped_optionalNumber])).checked ?_
  cases service.kind with
  | default => exact done 0
  | web webService => exact escapes_insertWebService parentType messageIdent parentIndex webService
  | snmp snmpService =>
      exact escapes_insertSnmpService parentType messageIdent parentIndex snmpService

theorem escapes_insertInode (targetIndex fileIndex : Int) (inode : Inode) :
    Escapes escape (insertInode messageIdent targetIndex fileIndex inode) := by
  have change := escaped_time escape inode.changeTime
  simp only [requiemdbSqlTimeToTimestamp] at change
  exact insertSent
    (by simp [Row.escaped, escapedCells, escaped_optionalNumber, change])

theorem escapes_insertLinkage (targetIndex fileIndex index : Int) (linkage : Linkage E) :
    Escapes escape (insertLinkage messageIdent targetIndex fileIndex index linkage) :=
  enum _ fun _ => text _ fun _ => text _ fun _ => insertSent rfl

theorem escapes_insertFileAccessPermission (targetIndex fileIndex fileAccessIndex permIndex : Int)
    (perm : String) :
    Escapes escape (insertFileAccessPermission messageIdent targetIndex fileIndex fileAccessIndex
      permIndex perm) :=
  text _ fun _ => insertSent rfl

theorem escapes_insertFileAccess (targetIndex fileIndex fileAccessIndex : Int)
    (fileAccess : FileAccess E) :
    Escapes escape
      (insertFileAccess messageIdent targetIndex fileIndex fileAccessIndex fileAccess) :=
  (insertSent rfl).checked <|
    listOf
      (escapes_insertFileAccessPermission messageIdent targetIndex fileIndex fileAccessIndex) _ <|
    escapes_insertUserId .F messageIdent targetIndex fileIndex fileAccessIndex 0 _

theorem escapes_insertChecksum (targetIndex fileIndex checksumIndex : Int)
    (checksum : Checksum E) :
    Escapes escape (insertChecksum messageIdent targetIndex fileIndex checksumIndex checksum) :=
  text _ fun _ => text _ fun _ => enum _ fun _ => insertSent rfl

theorem escapes_insertFile (targetIndex fileIndex : Int) (file : File E) :
    Escapes escape (insertFile messageIdent targetIndex fileIndex file) := by
  have create := escaped_time escape file.createTime
  have modify := escaped_time escape file.modifyTime
  have access := escaped_time escape file.accessTime
  simp only [requiemdbSqlTimeToTimestamp] at create modify access
  exact enum _ fun _ => text _ fun _ => text _ fun _ => text _ fun _ => text _ fun _ =>
    optionalEnum _ fun _ =>
    (insertSent (by simp [Row.escaped, escapedCells, escaped_optionalNumber, create, modify,
      access])).checked <|
    listOf (escapes_insertFileAccess messageIdent targetIndex fileIndex) _ <|
    listOf (escapes_insertLinkage messageIdent targetIndex fileIndex) _ <|
    (optionOf (escapes_insertInode messageIdent targetIndex fileIndex) _).checked <|
    listOf (escapes_insertChecksum messageIdent targetIndex fileIndex) _ (done 0)

theorem escapes_insertSource (index : Int) (source : Source E) :
    Escapes escape (insertSource messageIdent index source) :=
  text _ fun _ => enum _ fun _ => text _ fun _ => (insertSent rfl).checked <|
    (optionOf (escapes_insertNode .S messageIdent index) _).checked <|
    (optionOf (escapes_insertUser .S messageIdent index) _).checked <|
    (optionOf (escapes_insertProcess .S messageIdent index) _).checked <|
    (optionOf (escapes_insertService .S messageIdent index) _).checked (done 1)

theorem escapes_insertTarget (targetIndex : Int) (target : Target E) :
    Escapes escape (insertTarget messageIdent targetIndex target) := by
  refine enum _ fun _ => textOr _ fun _ => textOr _ fun _ => (insertSent rfl).bind fun ret => ?_
  split
  · exact done (-1)
  · exact (optionOf (escapes_insertNode .T messageIdent targetIndex) _).checked <|
      (optionOf (escapes_insertUser .T messageIdent targetIndex) _).checked <|
      (optionOf (escapes_insertProcess .T messageIdent targetIndex) _).checked <|
      (optionOf (escapes_insertService .T messageIdent targetIndex) _).checked <|
      listOf (escapes_insertFile messageIdent targetIndex) _ (done 1)

theorem escapes_insertAnalyzer (analyzerIndex : Int) (analyzer : Analyzer E) :
    Escapes escape (insertAnalyzer parentType messageIdent analyzerIndex analyzer) :=
  text _ fun _ => text _ fun _ => text _ fun _ => text _ fun _ => text _ fun _ => text _ fun _ =>
    text _ fun _ => text _ fun _ => (insertSent rfl).checked <|
    (optionOf (escapes_insertNode parentType messageIdent analyzerIndex) _).checked <|
    optionOf (escapes_insertProcess parentType messageIdent analyzerIndex) _

theorem escapes_insertReference (referenceIndex : Int) (reference : Reference E) :
    Escapes escape (insertReference messageIdent referenceIndex reference) :=
  enum _ fun _ => text _ fun _ => text _ fun _ => text _ fun _ => insertSent rfl

theorem escapes_insertClassification (classification : Classification E) :
    Escapes escape (insertClassification messageIdent classification) :=
  text _ fun _ => text _ fun _ => (insertSent rfl).bind fun _ =>
    listOf (escapes_insertReference messageIdent) _ (done 1)

theorem escapes_insertAdditionalData (adIndex : Int) (additionalData : AdditionalData) :
    Escapes escape (insertAdditionalData E parentType messageIdent adIndex additionalData) :=
  text _ fun _ => text _ fun _ => binary _ fun _ => insertSent rfl

theorem escapes_insertCreatetime (time : Option Time) :
    Escapes escape (insertCreatetime parentType messageIdent time) := by
  have create := escaped_time escape time
  simp only [requiemdbSqlTimeToTimestamp] at create
  exact insertSent (by simp [Row.escaped, escapedCells, create])

theorem escapes_insertDetecttime (time : Time) :
    Escapes escape (insertDetecttime messageIdent time) :=
  insertSent rfl

theorem escapes_insertAnalyzertime (time : Time) :
    Escapes escape (insertAnalyzertime parentType messageIdent time) :=
  insertSent rfl

theorem escapes_insertImpact (impact : Impact E) :
    Escapes escape (insertImpact messageIdent impact) :=
  optionalEnum _ fun _ => enum _ fun _ => optionalEnum _ fun _ => text _ fun _ => insertSent rfl

theorem escapes_insertAction (actionIndex : Int) (action : Action E) :
    Escapes escape (insertAction messageIdent actionIndex action) :=
  enum _ fun _ => text _ fun _ => insertSent rfl

theorem escapes_insertConfidence (confidence : Confidence E) :
    Escapes escape (insertConfidence messageIdent confidence) :=
  enum _ fun _ => insertSent rfl

theorem escapes_insertAssessment (assessment : Assessment E) :
    Escapes escape (insertAssessment messageIdent assessment) :=
  (insertSent rfl).checked <|
    (optionOf (escapes_insertImpact messageIdent) _).checked <|
    (optionOf (escapes_insertConfidence messageIdent) _).checked <|
    listOf (escapes_insertAction messageIdent) _ (done 1)

theorem escapes_insertOverflowAlert (overflowAlert : OverflowAlert) :
    Escapes escape (insertOverflowAlert E messageIdent overflowAlert) :=
  text _ fun _ => binary _ fun _ =>
    insertSent (by simp [Row.escaped, escapedCells, escaped_optionalNumber])

theorem escapes_insertAlertident (alertidentIndex : Int) (alertident : Option Alertident) :
    Escapes escape (insertAlertident parentType messageIdent alertidentIndex alertident) :=
  text _ fun _ => text _ fun _ => insertSent rfl

theorem escapes_insertToolAlert (toolAlert : ToolAlert) :
    Escapes escape (insertToolAlert messageIdent toolAlert) := by
  refine text _ fun _ => text _ fun _ => (insertSent rfl).bind fun ret =>
    eachOf (fun index alertident =>
      escapes_insertAlertident .T messageIdent index (some alertident)) 0 _ ?_
  split
  · exact (escapes_insertAlertident .T messageIdent (-1) none).checked (done 1)
  · exact done 1

theorem escapes_insertCorrelationAlert (correlationAlert : CorrelationAlert) :
    Escapes escape (insertCorrelationAlert messageIdent correlationAlert) :=
  text _ fun _ => (insertSent rfl).checked <|
    listOf (fun index alertident =>
      escapes_insertAlertident .C messageIdent index (some alertident)) _ (done 1)

theorem escapes_insertAlertParts (alert : Alert E) :
    Escapes escape (insertAlertParts messageIdent alert) := by
  refine (escapes_insertCreatetime .A messageIdent _).checked <|
    (optionOf (escapes_insertDetecttime messageIdent) _).checked <|
    (optionOf (escapes_insertAnalyzertime .A messageIdent) _).checked <|
    (optionOf (escapes_insertAssessment messageIdent) _).checked <|
    Rewritten.checked ?_ <|
    listOf (escapes_insertAnalyzer .A messageIdent) _ <|
    listOf (escapes_insertSource messageIdent) _ <|
    listOf (escapes_insertTarget messageIdent) _ <|
    (optionOf (escapes_insertClassification messageIdent) _).checked <|
    listOf (escapes_insertAdditionalData (E := E) .A messageIdent) _ (done 1)
  cases alert.kind with
  | default => exact done 0
  | tool toolAlert => exact escapes_insertToolAlert messageIdent toolAlert
  | overflow overflowAlert => exact escapes_insertOverflowAlert messageIdent overflowAlert
  | correlation correlationAlert =>
      exact escapes_insertCorrelationAlert messageIdent correlationAlert

theorem escapes_insertHeartbeatParts (heartbeat : Heartbeat E) :
    Escapes escape (insertHeartbeatParts messageIdent heartbeat) :=
  listOf (escapes_insertAnalyzer .H messageIdent) _ <|
    (escapes_insertCreatetime .H messageIdent _).checked <|
    (optionOf (escapes_insertAnalyzertime .H messageIdent) _).checked <|
    listOf (escapes_insertAdditionalData (E := E) .H messageIdent) _ (done 1)

theorem escapes_insertMessageParts (message : Message E) :
    Escapes escape (insertMessageParts messageIdent message) := by
  cases message with
  | alert alert => exact escapes_insertAlertParts messageIdent alert
  | heartbeat heartbeat => exact escapes_insertHeartbeatParts messageIdent heartbeat

theorem escapes_getLastInsertIdent (table : MessageTable) {rest : Nat → Sql Int}
    (goesOn : ∀ ident, Escapes escape (rest ident)) :
    Escapes escape (getLastInsertIdent table rest) := by
  rw [getLastInsertIdent]
  apply perform
  · rfl
  · exact fun _ _ => rfl
  rintro (error | cell)
  · exact done error.code
  apply perform
  · rfl
  · exact fun _ _ => rfl
  rintro (error | _)
  · exact done error.code
  apply perform
  · rfl
  · exact fun _ _ => rfl
  rintro (error | _ | field)
  · exact done error.code
  · exact done (-1)
  · exact goesOn _

omit [Librequiem E] in
/-- Behind the `messageid` there is no text in the row of a message. -/
theorem escapedCells_tail (message : Message E) :
    escapedCells escape message.cells.tail = message.cells.tail := by
  cases message with
  | alert alert => rfl
  | heartbeat heartbeat => simp [Message.cells, escapedCells, escaped_optionalNumber]

theorem escapes_insertMessage (message : Message E) :
    Escapes escape (insertMessage message) := by
  rw [insertMessage_eq]
  refine text _ fun cell => Rewritten.checked ?_ <|
    escapes_getLastInsertIdent _ fun ident => escapes_insertMessageParts ident message
  intro answers log
  have row : escapedCells escape ((.messageid, cell) :: message.cells.tail) =
      (.messageid, cell.escaped escape) :: message.cells.tail :=
    congrArg (_ :: ·) (escapedCells_tail message)
  simp [recording, Answers.reply, SqlOp.sent, SqlOp.tokens, SqlOp.escaped, row]

/-- BEGIN, COMMIT and ROLLBACK hold no literal. -/
theorem escapes_perform {op : SqlOp} (plain : op.escaped escape = op)
    (answered : ∀ (answers : Answers) position,
      answers.reply escape position op = answers.reply .plain position op)
    {next : SqlReply op → Int} :
    Escapes escape (.perform op fun reply => .done (next reply)) :=
  perform plain answered fun reply => done (next reply)

theorem escapes_classicInsert (message : Message E) :
    Escapes escape (classicInsert message) := by
  rw [classicInsert_eq]
  have starts : Escapes escape (.perform .transactionStart .done) :=
    escapes_perform (show SqlOp.escaped escape _ = _ from rfl) fun _ _ => rfl
  refine starts.checked <| (escapes_insertMessage message).bind fun ret => ?_
  rw [closeTransaction]
  split
  · exact escapes_perform (show SqlOp.escaped escape _ = _ from rfl) fun _ _ => rfl
  · exact escapes_perform (show SqlOp.escaped escape _ = _ from rfl) fun _ _ => rfl

end Functions

section Shape

variable (escape : Escape)

/-- The tokens are the same, or two literals, each with something that was escaped. -/
def SameButLiterals (first second : SqlToken) : Prop :=
  first = second ∨
    (∃ text other, first = .text (escape.text text) ∧ second = .text (escape.text other)) ∨
    ∃ bytes other, first = .blob (escape.binary bytes) ∧ second = .blob (escape.binary other)

variable {escape}

theorem sameButLiterals_refl (tokens : SqlTokens) :
    List.Forall₂ (SameButLiterals escape) tokens tokens :=
  List.forall₂_same.mpr fun _ _ => .inl rfl

theorem sameButLiterals_cell {cell other : Cell} (same : cell.blank = other.blank) :
    SameButLiterals escape (cell.escaped escape).token (other.escaped escape).token := by
  cases cell with
  | text value =>
      cases other <;> simp only [Cell.blank, reduceCtorEq] at same
      exact .inr (.inl ⟨_, _, rfl, rfl⟩)
  | blob value =>
      cases other <;> simp only [Cell.blank, reduceCtorEq] at same
      exact .inr (.inr ⟨_, _, rfl, rfl⟩)
  | null | number | decimal | timestamp =>
      cases other <;> simp only [Cell.blank, reduceCtorEq] at same
      all_goals
        cases same
        exact .inl rfl

theorem sameButLiterals_intersperse {values others : SqlTokens}
    (same : List.Forall₂ (SameButLiterals escape) values others) (separator : SqlToken) :
    List.Forall₂ (SameButLiterals escape) (values.intersperse separator)
      (others.intersperse separator) := by
  induction same with
  | nil => exact .nil
  | cons here later ih =>
      cases later with
      | nil => exact .cons here .nil
      | cons next rest => exact .cons here (.cons (.inl rfl) ih)

/-- A statement with other values, whose names are the same. -/
theorem sameButLiterals_insertTokens (table : Table) (key : List (SqlToken × SqlToken))
    {cells others : List (Column × Cell)}
    (same : (cells.map fun (column, cell) => (column, cell.blank)) =
      others.map fun (column, cell) => (column, cell.blank)) :
    List.Forall₂ (SameButLiterals escape)
      (insertTokens table (key ++ cellTokens (escapedCells escape cells)))
      (insertTokens table (key ++ cellTokens (escapedCells escape others))) := by
  have names : (cellTokens (escapedCells escape cells)).map Prod.fst =
      (cellTokens (escapedCells escape others)).map Prod.fst := by
    have columns := congrArg (List.map fun entry : Column × Cell => SqlToken.column entry.1) same
    simpa [cellTokens, escapedCells, Function.comp_def] using columns
  have values : List.Forall₂ (SameButLiterals escape)
      ((cellTokens (escapedCells escape cells)).map Prod.snd)
      ((cellTokens (escapedCells escape others)).map Prod.snd) := by
    have blanks := List.forall₂_eq_eq_eq ▸ same
    rw [List.forall₂_map_left_iff, List.forall₂_map_right_iff] at blanks
    simp only [cellTokens, escapedCells, List.map_map, List.forall₂_map_left_iff,
      List.forall₂_map_right_iff]
    exact blanks.imp fun _ _ pair => sameButLiterals_cell (congrArg Prod.snd pair)
  have refl : ∀ tokens : SqlTokens, List.Forall₂ (SameButLiterals escape) tokens tokens :=
    sameButLiterals_refl
  simp only [insertTokens, List.map_append, names]
  exact List.rel_append (List.rel_append (refl _) (sameButLiterals_intersperse
    (List.rel_append (refl _) values) _)) (refl _)

/-- The tokens of the statements that were sent. -/
def sentTokens (log : List SqlOp) : List SqlTokens := log.filterMap SqlOp.tokens

theorem sameButLiterals_tokens {op other : SqlOp} (same : op.blank = other.blank) :
    (op.escaped escape).tokens = none ∧ (other.escaped escape).tokens = none ∨
      ∃ tokens otherTokens, (op.escaped escape).tokens = some tokens ∧
        (other.escaped escape).tokens = some otherTokens ∧
        List.Forall₂ (SameButLiterals escape) tokens otherTokens := by
  cases op with
  | insertMessage table cells =>
      cases other <;> simp only [SqlOp.blank, reduceCtorEq, SqlOp.insertMessage.injEq] at same
      rcases same with ⟨rfl, sameCells⟩
      exact .inr ⟨_, _, rfl, rfl, sameButLiterals_insertTokens _ [] sameCells⟩
  | insert row =>
      cases other <;> simp only [SqlOp.blank, reduceCtorEq, SqlOp.insert.injEq] at same
      rename_i other
      rcases row with ⟨table, parentType, messageIdent, parents, index, cells⟩
      rcases other with ⟨table', parentType', messageIdent', parents', index', cells'⟩
      simp only [Row.blank, Row.mk.injEq] at same
      rcases same with ⟨rfl, rfl, rfl, rfl, rfl, sameCells⟩
      exact .inr ⟨_, _, rfl, rfl, sameButLiterals_insertTokens _ _ sameCells⟩
  | _ =>
      cases other <;> simp only [SqlOp.blank, reduceCtorEq] at same
      all_goals
        cases same
        first
          | exact .inl ⟨rfl, rfl⟩
          | exact .inr ⟨_, _, rfl, rfl, sameButLiterals_refl _⟩

theorem sameButLiterals_sentTokens {log other : List SqlOp} (same : blankLog log = blankLog other) :
    List.Forall₂ (List.Forall₂ (SameButLiterals escape))
      (sentTokens (log.map (SqlOp.escaped escape)))
      (sentTokens (other.map (SqlOp.escaped escape))) := by
  rw [blankLog, blankLog, ← List.forall₂_eq_eq_eq, List.forall₂_map_left_iff,
    List.forall₂_map_right_iff] at same
  induction same with
  | nil => exact .nil
  | cons here later ih =>
      rcases sameButLiterals_tokens here with
        ⟨nothing, otherNothing⟩ | ⟨tokens, otherTokens, sends, otherSends, alike⟩
      · rw [List.map_cons, List.map_cons, sentTokens, sentTokens,
          List.filterMap_cons_none nothing, List.filterMap_cons_none otherNothing]
        exact ih
      · rw [List.map_cons, List.map_cons, sentTokens, sentTokens,
          List.filterMap_cons_some sends, List.filterMap_cons_some otherSends]
        exact .cons alike ih

/-- The statements of messages of one shape differ in what was escaped, and in nothing else. -/
theorem sameButLiterals_classicInsert (answers : Answers) {first second : Message E}
    (same : first.blank = second.blank) :
    List.Forall₂ (List.Forall₂ (SameButLiterals escape))
      (sentTokens ((classicInsert first).run (recording answers escape) []).2)
      (sentTokens ((classicInsert second).run (recording answers escape) []).2) := by
  have firstSends : Escapes escape (classicInsert first) := escapes_classicInsert first
  have secondSends : Escapes escape (classicInsert second) := escapes_classicInsert second
  have firstRun := firstSends answers []
  have secondRun := secondSends answers []
  rw [List.map_nil] at firstRun secondRun
  rw [firstRun, secondRun]
  exact sameButLiterals_sentTokens (alike_classicInsert answers same).2

end Shape

end RequiemDB
