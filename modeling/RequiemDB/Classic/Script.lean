import RequiemDB.Classic.Rows

/-!
# Insertion follows the rows of a message

`Emits program script` says that a program carries out a script: it escapes, it
inserts the rows of the script in order, it handles a failure of each as the
script says, and it ends early with a negative value on every other failure. The
relation is closed under the combinators the insert functions are written with,
so that each function needs one short lemma.
-/

namespace RequiemDB

open Lib

variable {E : EnumKind → Type} [Librequiem E] {α : Type}

/-- The program ends at once with a negative value. -/
def GivesUp (program : Sql Int) : Prop := ∃ code < 0, program = .done code

/-- A program that inserts the rows of a script and handles failures as the script says. -/
inductive Emits : Sql Int → Script Row → Prop
  | done (ret : Int) (succeeded : 0 ≤ ret) : Emits (.done ret) []
  | escape {input : Option String} {next : Except ErrorCode Cell → Sql Int} {script : Script Row}
      (failure : ∀ error, GivesUp (next (.error error)))
      (success : Emits (next (.ok (stringLiteral input))) script) :
      Emits (.perform (.escape input) next) script
  | escapeBinary {input : List UInt8} {next : Except ErrorCode Cell → Sql Int}
      {script : Script Row}
      (failure : ∀ error, GivesUp (next (.error error)))
      (success : Emits (next (.ok (.blob input))) script) :
      Emits (.perform (.escapeBinary input) next) script
  | must {row : Row} {next : Int → Sql Int} {script : Script Row}
      (failure : ∀ ret < 0, GivesUp (next ret))
      (success : ∀ ret, 0 ≤ ret → Emits (next ret) script) :
      Emits (.perform (.insert row) next) (.must row :: script)
  | ignore {row : Row} {next : Int → Sql Int} {script : Script Row}
      (goesOn : ∀ ret, Emits (next ret) script) :
      Emits (.perform (.insert row) next) (⟨row, .ignore⟩ :: script)
  | instead {row other : Row} {next : Int → Sql Int} {script : Script Row}
      (failure : ∀ ret < 0, Emits (next ret) (.must other :: script))
      (success : ∀ ret, 0 ≤ ret → Emits (next ret) script) :
      Emits (.perform (.insert row) next) (⟨row, .instead other⟩ :: script)

namespace Emits

/-- Two programs in sequence, the second one only behind a success. -/
theorem checked {program rest : Sql Int} {first second : Script Row}
    (emits : Emits program first) (emitsRest : Emits rest second) :
    Emits (checked program rest) (first ++ second) := by
  have givesUp : ∀ {failing : Sql Int}, GivesUp failing →
      GivesUp (RequiemDB.checked failing rest) := by
    rintro failing ⟨code, negative, rfl⟩
    exact ⟨code, negative, by simp [RequiemDB.checked, negative]⟩
  induction emits with
  | done ret succeeded =>
      have notNegative : ¬ ret < 0 := by omega
      simpa [RequiemDB.checked, notNegative] using emitsRest
  | escape failure _ ih => exact .escape (fun error => givesUp (failure error)) ih
  | escapeBinary failure _ ih => exact .escapeBinary (fun error => givesUp (failure error)) ih
  | must failure _ ih => exact .must (fun ret negative => givesUp (failure ret negative)) ih
  | ignore _ ih => exact .ignore ih
  | instead _ _ ihFailure ih => exact .instead ihFailure ih

theorem escapeOr {onError : ErrorCode → ErrorCode} {input : Option String}
    {rest : Cell → Sql Int} {script : Script Row}
    (emits : Emits (rest (stringLiteral input)) script) :
    Emits (escapeOr onError input rest) script :=
  .escape (fun error => ⟨_, (onError error).negative, rfl⟩) emits

theorem requiemdbSqlEscape {input : Option String} {rest : Cell → Sql Int} {script : Script Row}
    (emits : Emits (rest (stringLiteral input)) script) :
    Emits (requiemdbSqlEscape input rest) script :=
  .escapeOr emits

theorem escapeEnum {kind : EnumKind} {value : E kind} {rest : Cell → Sql Int}
    {script : Script Row} (emits : Emits (rest (enumLiteral value)) script) :
    Emits (escapeEnum value rest) script :=
  .escapeOr emits

theorem escapeOptionalEnum {kind : EnumKind} {value : Option (E kind)} {rest : Cell → Sql Int}
    {script : Script Row} (emits : Emits (rest (optionalEnumLiteral value)) script) :
    Emits (escapeOptionalEnum value rest) script :=
  .escapeOr emits

theorem requiemdbSqlEscapeBinary {input : List UInt8} {rest : Cell → Sql Int}
    {script : Script Row} (emits : Emits (rest (.blob input)) script) :
    Emits (requiemdbSqlEscapeBinary input rest) script :=
  .escapeBinary (fun error => ⟨_, error.negative, rfl⟩) emits

theorem requiemdbSqlInsert (row : Row) : Emits (requiemdbSqlInsert row) [.must row] :=
  .must (fun ret negative => ⟨ret, negative, rfl⟩) (fun ret succeeded => .done ret succeeded)

theorem insertThen {row : Row} {rest : Sql Int} {script : Script Row} (emits : Emits rest script) :
    Emits (RequiemDB.checked (RequiemDB.requiemdbSqlInsert row) rest) (.must row :: script) :=
  (requiemdbSqlInsert row).checked emits

section Bind

variable {row : Row} {rest : Int → Sql Int} {script : Script Row}

theorem insertBind (failure : ∀ ret < 0, GivesUp (rest ret))
    (success : ∀ ret, 0 ≤ ret → Emits (rest ret) script) :
    Emits (RequiemDB.requiemdbSqlInsert row >>= rest) (.must row :: script) :=
  .must failure success

/-- An insertion whose result is forgotten, and what follows it. -/
theorem insertForgotten (goesOn : ∀ ret, Emits (rest ret) script) :
    Emits (RequiemDB.requiemdbSqlInsert row >>= rest) (⟨row, .ignore⟩ :: script) :=
  .ignore goesOn

/-- An insertion that is replaced by another one when it fails. -/
theorem insertInstead {other : Row}
    (failure : ∀ ret < 0, Emits (rest ret) (.must other :: script))
    (success : ∀ ret, 0 ≤ ret → Emits (rest ret) script) :
    Emits (RequiemDB.requiemdbSqlInsert row >>= rest) (⟨row, .instead other⟩ :: script) :=
  .instead failure success

end Bind

theorem insertOptional {insertOne : α → Sql Int} {script : α → Script Row}
    (emits : ∀ element, Emits (insertOne element) (script element)) (part : Option α) :
    Emits (insertOptional insertOne part) (optionalScript script part) := by
  cases part with
  | none => exact .done 0 (by decide)
  | some element => exact emits element

theorem insertEach {insertOne : Int → α → Sql Int} {part : Int → α → Script Row}
    (emits : ∀ index element, Emits (insertOne index element) (part index element))
    {start : Int} {elements : List α} {rest : Sql Int} {script : Script Row}
    (emitsRest : Emits rest script) :
    Emits (insertEach insertOne start elements rest) (each part start elements ++ script) := by
  induction elements generalizing start with
  | nil => exact emitsRest
  | cons element elements ih =>
      rw [each_cons, List.append_assoc]
      exact (emits start element).checked ih

theorem insertListed {insertOne : Int → α → Sql Int} {part : Int → α → Script Row}
    (emits : ∀ index element, Emits (insertOne index element) (part index element))
    {elements : List α} {rest : Sql Int} {script : Script Row} (emitsRest : Emits rest script) :
    Emits (insertListed insertOne elements rest) (listed part elements ++ script) := by
  simp only [RequiemDB.insertListed, listed, List.append_assoc]
  apply insertEach emits
  cases elements.getLast? with
  | none => exact emitsRest
  | some last => exact (emits (-1) last).checked emitsRest

theorem insertEachDone {insertOne : Int → α → Sql Int} {part : Int → α → Script Row}
    (emits : ∀ index element, Emits (insertOne index element) (part index element))
    {start : Int} {elements : List α} {ret : Int} (succeeded : 0 ≤ ret) :
    Emits (RequiemDB.insertEach insertOne start elements (.done ret))
      (each part start elements) := by
  rw [← List.append_nil (each part start elements)]
  exact insertEach emits (.done ret succeeded)

theorem insertListedDone {insertOne : Int → α → Sql Int} {part : Int → α → Script Row}
    (emits : ∀ index element, Emits (insertOne index element) (part index element))
    {elements : List α} {ret : Int} (succeeded : 0 ≤ ret) :
    Emits (RequiemDB.insertListed insertOne elements (.done ret)) (listed part elements) := by
  rw [← List.append_nil (listed part elements)]
  exact insertListed emits (.done ret succeeded)

end Emits

section Functions

variable (parentType : ParentType) (messageIdent : Nat) (parentIndex : Int)

theorem emits_insertAddress (addressIndex : Int) (address : Address E) :
    Emits (insertAddress parentType messageIdent parentIndex addressIndex address)
      [.must (addressRow parentType messageIdent parentIndex addressIndex address)] := by
  apply Emits.escapeEnum
  iterate 4 apply Emits.requiemdbSqlEscape
  exact .requiemdbSqlInsert _

theorem emits_insertNode (node : Node E) :
    Emits (insertNode parentType messageIdent parentIndex node)
      (nodeScript parentType messageIdent parentIndex node) := by
  apply Emits.escapeEnum
  iterate 2 apply Emits.requiemdbSqlEscape
  apply Emits.escapeOr
  apply Emits.insertThen
  exact .insertListedDone (emits_insertAddress parentType messageIdent parentIndex) (by decide)

theorem emits_insertUserId (fileIndex fileAccessIndex index : Int) (userId : UserId E) :
    Emits (insertUserId parentType messageIdent parentIndex fileIndex fileAccessIndex index userId)
      [.must (userIdRow parentType messageIdent parentIndex fileIndex fileAccessIndex index
        userId)] := by
  iterate 2 apply Emits.requiemdbSqlEscape
  apply Emits.escapeEnum
  apply Emits.requiemdbSqlEscape
  exact .requiemdbSqlInsert _

theorem emits_insertUser (user : User E) :
    Emits (insertUser parentType messageIdent parentIndex user)
      (userScript parentType messageIdent parentIndex user) := by
  apply Emits.requiemdbSqlEscape
  apply Emits.escapeEnum
  apply Emits.insertThen
  exact .insertListedDone (emits_insertUserId parentType messageIdent parentIndex 0 0) (by decide)

theorem emits_insertStringOf (table : Table) (column : Column) (index : Int) (string : String) :
    Emits (insertStringOf table column parentType messageIdent parentIndex index string)
      [.must (stringRow parentType messageIdent parentIndex table column index string)] := by
  apply Emits.requiemdbSqlEscape
  exact .requiemdbSqlInsert _

theorem emits_insertProcess (process : Process) :
    Emits (insertProcess parentType messageIdent parentIndex process)
      (processScript parentType messageIdent parentIndex process) := by
  iterate 3 apply Emits.requiemdbSqlEscape
  apply Emits.insertThen
  apply Emits.insertEach (emits_insertStringOf parentType messageIdent parentIndex _ _)
  exact .insertEachDone (emits_insertStringOf parentType messageIdent parentIndex _ _)
    (by decide)

theorem emits_insertSnmpService (snmpService : SnmpService) :
    Emits (insertSnmpService parentType messageIdent parentIndex snmpService)
      [.must (snmpServiceRow parentType messageIdent parentIndex snmpService)] := by
  iterate 5 apply Emits.requiemdbSqlEscape
  exact .requiemdbSqlInsert _

theorem emits_insertWebService (webService : WebService) :
    Emits (insertWebService parentType messageIdent parentIndex webService)
      (webServiceScript parentType messageIdent parentIndex webService) := by
  apply Emits.requiemdbSqlEscape
  apply Emits.escapeOr
  apply Emits.requiemdbSqlEscape
  apply Emits.insertForgotten
  intro _
  exact .insertListedDone (emits_insertStringOf parentType messageIdent parentIndex _ _)
    (by decide)

theorem emits_insertService (service : Service) :
    Emits (insertService parentType messageIdent parentIndex service)
      (serviceScript parentType messageIdent parentIndex service) := by
  iterate 5 apply Emits.requiemdbSqlEscape
  apply Emits.insertThen
  cases service.kind with
  | default => exact .done 0 (by decide)
  | web webService => exact emits_insertWebService parentType messageIdent parentIndex webService
  | snmp snmpService =>
      exact emits_insertSnmpService parentType messageIdent parentIndex snmpService

theorem emits_insertAnalyzer (analyzerIndex : Int) (analyzer : Analyzer E) :
    Emits (insertAnalyzer parentType messageIdent analyzerIndex analyzer)
      (analyzerScript parentType messageIdent analyzerIndex analyzer) := by
  iterate 8 apply Emits.requiemdbSqlEscape
  apply Emits.insertThen
  apply Emits.checked
  · exact .insertOptional (emits_insertNode parentType messageIdent analyzerIndex) _
  · exact .insertOptional (emits_insertProcess parentType messageIdent analyzerIndex) _

theorem emits_insertAdditionalData (adIndex : Int) (additionalData : AdditionalData) :
    Emits (insertAdditionalData E parentType messageIdent adIndex additionalData)
      [.must (additionalDataRow parentType messageIdent E adIndex additionalData)] := by
  iterate 2 apply Emits.requiemdbSqlEscape
  apply Emits.requiemdbSqlEscapeBinary
  exact .requiemdbSqlInsert _

theorem emits_insertDetecttime (time : Time) :
    Emits (insertDetecttime messageIdent time)
      [.must (messageTimeRow messageIdent .detectTime none (some time))] :=
  .requiemdbSqlInsert _

theorem emits_insertAnalyzertime (time : Time) :
    Emits (insertAnalyzertime parentType messageIdent time)
      [.must (messageTimeRow messageIdent .analyzerTime (some parentType) (some time))] :=
  .requiemdbSqlInsert _

theorem emits_insertAlertident (alertidentIndex : Int) (alertident : Option Alertident) :
    Emits (insertAlertident parentType messageIdent alertidentIndex alertident)
      [.must (alertidentRow parentType messageIdent alertidentIndex alertident)] := by
  iterate 2 apply Emits.requiemdbSqlEscape
  exact .requiemdbSqlInsert _

end Functions

section Files

variable (messageIdent : Nat) (targetIndex fileIndex : Int)

theorem emits_insertInode (inode : Inode) :
    Emits (insertInode messageIdent targetIndex fileIndex inode)
      [.must (inodeRow messageIdent targetIndex fileIndex inode)] :=
  .requiemdbSqlInsert _

theorem emits_insertLinkage (index : Int) (linkage : Linkage E) :
    Emits (insertLinkage messageIdent targetIndex fileIndex index linkage)
      [.must (linkageRow messageIdent targetIndex fileIndex index linkage)] := by
  apply Emits.escapeEnum
  iterate 2 apply Emits.requiemdbSqlEscape
  exact .requiemdbSqlInsert _

theorem emits_insertFileAccessPermission (fileAccessIndex permIndex : Int) (perm : String) :
    Emits (insertFileAccessPermission messageIdent targetIndex fileIndex fileAccessIndex permIndex
        perm)
      [.must (fileAccessPermissionRow messageIdent targetIndex fileIndex fileAccessIndex permIndex
        perm)] := by
  apply Emits.requiemdbSqlEscape
  exact .requiemdbSqlInsert _

theorem emits_insertFileAccess (fileAccessIndex : Int) (fileAccess : FileAccess E) :
    Emits (insertFileAccess messageIdent targetIndex fileIndex fileAccessIndex fileAccess)
      (fileAccessScript messageIdent targetIndex fileIndex fileAccessIndex fileAccess) := by
  apply Emits.insertThen
  apply Emits.insertListed
    (emits_insertFileAccessPermission messageIdent targetIndex fileIndex fileAccessIndex)
  exact emits_insertUserId .F messageIdent targetIndex fileIndex fileAccessIndex 0 _

theorem emits_insertChecksum (checksumIndex : Int) (checksum : Checksum E) :
    Emits (insertChecksum messageIdent targetIndex fileIndex checksumIndex checksum)
      [.must (checksumRow messageIdent targetIndex fileIndex checksumIndex checksum)] := by
  iterate 2 apply Emits.requiemdbSqlEscape
  apply Emits.escapeEnum
  exact .requiemdbSqlInsert _

theorem emits_insertFile (file : File E) :
    Emits (insertFile messageIdent targetIndex fileIndex file)
      (fileScript messageIdent targetIndex fileIndex file) := by
  apply Emits.escapeEnum
  iterate 4 apply Emits.requiemdbSqlEscape
  apply Emits.escapeOptionalEnum
  apply Emits.insertThen
  apply Emits.insertListed (emits_insertFileAccess messageIdent targetIndex fileIndex)
  apply Emits.insertListed (emits_insertLinkage messageIdent targetIndex fileIndex)
  apply Emits.checked
  · exact .insertOptional (emits_insertInode messageIdent targetIndex fileIndex) _
  · exact .insertListedDone (emits_insertChecksum messageIdent targetIndex fileIndex) (by decide)

end Files

section AlertParts

variable (messageIdent : Nat)

theorem emits_insertSource (index : Int) (source : Source E) :
    Emits (insertSource messageIdent index source) (sourceScript messageIdent index source) := by
  apply Emits.requiemdbSqlEscape
  apply Emits.escapeEnum
  apply Emits.requiemdbSqlEscape
  apply Emits.insertThen
  apply Emits.checked (.insertOptional (emits_insertNode .S messageIdent index) _)
  apply Emits.checked (.insertOptional (emits_insertUser .S messageIdent index) _)
  apply Emits.checked (.insertOptional (emits_insertProcess .S messageIdent index) _)
  simpa using Emits.checked (.insertOptional (emits_insertService .S messageIdent index) _)
    (.done 1 (by decide))

theorem emits_insertTarget (targetIndex : Int) (target : Target E) :
    Emits (insertTarget messageIdent targetIndex target)
      (targetScript messageIdent targetIndex target) := by
  apply Emits.escapeEnum
  iterate 2 apply Emits.escapeOr
  refine .insertBind (fun ret negative => ⟨-1, by decide, if_pos negative⟩)
    fun ret succeeded => ?_
  have notNegative : ¬ ret < 0 := by omega
  rw [if_neg notNegative]
  apply Emits.checked (.insertOptional (emits_insertNode .T messageIdent targetIndex) _)
  apply Emits.checked (.insertOptional (emits_insertUser .T messageIdent targetIndex) _)
  apply Emits.checked (.insertOptional (emits_insertProcess .T messageIdent targetIndex) _)
  apply Emits.checked (.insertOptional (emits_insertService .T messageIdent targetIndex) _)
  exact .insertListedDone (emits_insertFile messageIdent targetIndex) (by decide)

theorem emits_insertReference (referenceIndex : Int) (reference : Reference E) :
    Emits (insertReference messageIdent referenceIndex reference)
      [.must (referenceRow messageIdent referenceIndex reference)] := by
  apply Emits.escapeEnum
  iterate 3 apply Emits.requiemdbSqlEscape
  exact .requiemdbSqlInsert _

theorem emits_insertClassification (classification : Classification E) :
    Emits (insertClassification messageIdent classification)
      (classificationScript messageIdent classification) := by
  iterate 2 apply Emits.requiemdbSqlEscape
  apply Emits.insertForgotten
  intro _
  exact .insertListedDone (emits_insertReference messageIdent) (by decide)

theorem emits_insertImpact (impact : Impact E) :
    Emits (insertImpact messageIdent impact) [.must (impactRow messageIdent impact)] := by
  apply Emits.escapeOptionalEnum
  apply Emits.escapeEnum
  apply Emits.escapeOptionalEnum
  apply Emits.requiemdbSqlEscape
  exact .requiemdbSqlInsert _

theorem emits_insertAction (actionIndex : Int) (action : Action E) :
    Emits (insertAction messageIdent actionIndex action)
      [.must (actionRow messageIdent actionIndex action)] := by
  apply Emits.escapeEnum
  apply Emits.requiemdbSqlEscape
  exact .requiemdbSqlInsert _

theorem emits_insertConfidence (confidence : Confidence E) :
    Emits (insertConfidence messageIdent confidence)
      [.must (confidenceRow messageIdent confidence)] := by
  apply Emits.escapeEnum
  exact .requiemdbSqlInsert _

theorem emits_insertAssessment (assessment : Assessment E) :
    Emits (insertAssessment messageIdent assessment)
      (assessmentScript messageIdent assessment) := by
  apply Emits.insertThen
  apply Emits.checked (.insertOptional (emits_insertImpact messageIdent) _)
  apply Emits.checked (.insertOptional (emits_insertConfidence messageIdent) _)
  exact .insertListedDone (emits_insertAction messageIdent) (by decide)

theorem emits_insertOverflowAlert (overflowAlert : OverflowAlert) :
    Emits (insertOverflowAlert E messageIdent overflowAlert)
      [.must (overflowAlertRow messageIdent E overflowAlert)] := by
  apply Emits.requiemdbSqlEscape
  apply Emits.requiemdbSqlEscapeBinary
  exact .requiemdbSqlInsert _

theorem emits_insertToolAlert (toolAlert : ToolAlert) :
    Emits (insertToolAlert messageIdent toolAlert) (toolAlertScript messageIdent toolAlert) := by
  iterate 2 apply Emits.requiemdbSqlEscape
  simp only [toolAlertScript]
  cases toolAlert.alertidents with
  | nil =>
      refine .insertInstead (fun ret negative => ?_) (fun ret succeeded => ?_)
      · simpa [insertEach, negative] using
          (emits_insertAlertident .T messageIdent (-1) none).checked (.done 1 (by decide))
      · have notNegative : ¬ ret < 0 := by omega
        simpa [insertEach, notNegative] using Emits.done 1 (by decide)
  | cons alertident alertidents =>
      refine .insertForgotten fun ret => ?_
      exact .insertEachDone
        (fun index alertident => emits_insertAlertident .T messageIdent index (some alertident))
        (by decide)

theorem emits_insertCorrelationAlert (correlationAlert : CorrelationAlert) :
    Emits (insertCorrelationAlert messageIdent correlationAlert)
      (correlationAlertScript messageIdent correlationAlert) := by
  apply Emits.requiemdbSqlEscape
  apply Emits.insertThen
  exact .insertListedDone
    (fun index alertident => emits_insertAlertident .C messageIdent index (some alertident))
    (by decide)

end AlertParts

theorem emits_insertAlertParts (ident : Nat) (alert : Alert E) :
    Emits (insertAlertParts ident alert) (alertScript ident alert) := by
  apply Emits.insertThen
  apply Emits.checked (.insertOptional (emits_insertDetecttime ident) _)
  apply Emits.checked (.insertOptional (emits_insertAnalyzertime .A ident) _)
  apply Emits.checked (.insertOptional (emits_insertAssessment ident) _)
  apply Emits.checked
  · cases alert.kind with
    | default => exact .done 0 (by decide)
    | tool toolAlert => exact emits_insertToolAlert ident toolAlert
    | overflow overflowAlert => exact emits_insertOverflowAlert ident overflowAlert
    | correlation correlationAlert => exact emits_insertCorrelationAlert ident correlationAlert
  apply Emits.insertListed (emits_insertAnalyzer .A ident)
  apply Emits.insertListed (emits_insertSource ident)
  apply Emits.insertListed (emits_insertTarget ident)
  apply Emits.checked (.insertOptional (emits_insertClassification ident) _)
  exact .insertListedDone (emits_insertAdditionalData .A ident) (by decide)

theorem emits_insertHeartbeatParts (ident : Nat) (heartbeat : Heartbeat E) :
    Emits (insertHeartbeatParts ident heartbeat) (heartbeatScript ident heartbeat) := by
  apply Emits.insertListed (emits_insertAnalyzer .H ident)
  apply Emits.insertThen
  apply Emits.checked (.insertOptional (emits_insertAnalyzertime .H ident) _)
  exact .insertListedDone (emits_insertAdditionalData .H ident) (by decide)

/-- The insertions of a message behind the statements that settle its ident. -/
def insertMessageParts (ident : Nat) : Message E → Sql Int
  | .alert alert => insertAlertParts ident alert
  | .heartbeat heartbeat => insertHeartbeatParts ident heartbeat

/-- Every insertion of a message below its own row follows the message's script. -/
theorem emits_insertMessageParts (ident : Nat) (message : Message E) :
    Emits (insertMessageParts ident message) (messageScript ident message) := by
  cases message with
  | alert alert => exact emits_insertAlertParts ident alert
  | heartbeat heartbeat => exact emits_insertHeartbeatParts ident heartbeat

/-- Alerts and heartbeats are inserted alike: the row of the ident, the ident, the parts. -/
theorem insertMessage_eq (message : Message E) :
    insertMessage message =
      requiemdbSqlEscape message.messageid fun tmp =>
      checked (.perform (.insertMessage message.table ((.messageid, tmp) :: message.cells.tail))
        .done) <|
      getLastInsertIdent message.table fun ident => insertMessageParts ident message := by
  cases message <;> rfl

/-- The end of `classic_insert`: ROLLBACK behind an error, COMMIT otherwise. -/
def closeTransaction (ret : Int) : Sql Int :=
  if ret < 0 then .perform .transactionAbort fun tmp => .done (if tmp < 0 then tmp else ret)
  else .perform .transactionEnd .done

theorem classicInsert_eq (message : Message E) :
    classicInsert message =
      checked (.perform .transactionStart .done) (insertMessage message >>= closeTransaction) :=
  rfl

end RequiemDB
