import RequiemDB.Sql.Operation

/-!
# Inserting a message

The functions of `classic-insert.c`, in the order of the source. A pointer that a
function tests for NULL is an `Option`; the escapes of a function, its statement
and its loops come in the order of the source. The results that the source
forgets, in `insertWebService`, `insertClassification` and `insertToolAlert`, are
forgotten here.
-/

namespace RequiemDB

open Lib

variable {E : EnumKind → Type} [Librequiem E] {α : Type}

/--
The loop over a list: each element is inserted under its position and the first error ends
the function.
-/
def insertEach (insertOne : Int → α → Sql Int) : Int → List α → Sql Int → Sql Int
  | _, [], rest => rest
  | index, element :: elements, rest =>
      checked (insertOne index element) (insertEach insertOne (index + 1) elements rest)

/-- The loop over a list whose last element is inserted once more, under index -1. -/
def insertListed (insertOne : Int → α → Sql Int) (elements : List α) (rest : Sql Int) : Sql Int :=
  insertEach insertOne 0 elements <|
    match elements.getLast? with
    | none => rest
    | some last => checked (insertOne (-1) last) rest

/-- The functions that return 0 for a NULL pointer. -/
def insertOptional (insertOne : α → Sql Int) : Option α → Sql Int
  | none => .done 0
  | some element => insertOne element

/-- `get_data`: the bytes of a data that are escaped. -/
def getData (E : EnumKind → Type) [Librequiem E] : Data → List UInt8
  | .byte value | .char value => [value]
  | .byteString value | .charString value => value
  | data => Librequiem.dataToString E data

/-- `requiemdb_sql_escape` on the text of an enumeration. -/
def escapeEnum {kind : EnumKind} (value : E kind) (rest : Cell → Sql Int) : Sql Int :=
  requiemdbSqlEscape (some (Librequiem.toString value)) rest

/-- `requiemdb_sql_escape` on `get_optional_enum`. -/
def escapeOptionalEnum {kind : EnumKind} (value : Option (E kind)) (rest : Cell → Sql Int) :
    Sql Int :=
  requiemdbSqlEscape (value.map Librequiem.toString) rest

/--
`requiemdb_sql_time_to_timestamp`: the cells of the instant, the offset and the
microseconds. The conversion of a 32-bit instant to UTC does not fail.
-/
def requiemdbSqlTimeToTimestamp : Option Time → Cell × Cell × Cell
  | none => (.null, .null, .null)
  | some time =>
      -- the microseconds are printed with `%d`
      (.timestamp time.sec, .number time.gmtOffset.toInt, .number time.usec.toInt32.toInt)

/-- `-1` in place of the error at hand. -/
def minusOne (_error : ErrorCode) : ErrorCode := ⟨-1, minusOne_negative⟩

/-- `-2` in place of the error at hand. -/
def minusTwo (_error : ErrorCode) : ErrorCode := ⟨-2, by decide⟩

def insertAddress (parentType : ParentType) (messageIdent : Nat) (parentIndex : Int)
    (addressIndex : Int) (address : Address E) : Sql Int :=
  escapeEnum address.category fun category =>
  requiemdbSqlEscape address.ident fun ident =>
  requiemdbSqlEscape address.address fun addr =>
  requiemdbSqlEscape address.netmask fun netmask =>
  requiemdbSqlEscape address.vlanName fun vlanName =>
  requiemdbSqlInsert {
    table := .address, parentType := some parentType, messageIdent
    parents := [parentIndex], index := some addressIndex
    cells := [(.ident, ident), (.category, category), (.vlanName, vlanName),
      (.vlanNum, optionalNumber (address.vlanNum.map (·.toInt))), (.address, addr),
      (.netmask, netmask)] }

def insertNode (parentType : ParentType) (messageIdent : Nat) (parentIndex : Int)
    (node : Node E) : Sql Int :=
  escapeEnum node.category fun category =>
  requiemdbSqlEscape node.ident fun ident =>
  requiemdbSqlEscape node.name fun name =>
  escapeOr minusOne node.location fun location =>
  checked (requiemdbSqlInsert {
    table := .node, parentType := some parentType, messageIdent
    parents := [parentIndex], index := none
    cells := [(.ident, ident), (.category, category), (.location, location), (.name, name)] }) <|
  insertListed (insertAddress parentType messageIdent parentIndex) node.addresses <|
  .done 0

def insertUserId (parentType : ParentType) (messageIdent : Nat) (parentIndex fileIndex : Int)
    (fileAccessIndex index : Int) (userId : UserId E) : Sql Int :=
  requiemdbSqlEscape userId.ident fun ident =>
  requiemdbSqlEscape userId.tty fun tty =>
  escapeEnum userId.type fun type =>
  requiemdbSqlEscape userId.name fun name =>
  requiemdbSqlInsert {
    table := .userId, parentType := some parentType, messageIdent
    parents := [parentIndex, fileIndex, fileAccessIndex], index := some index
    cells := [(.ident, ident), (.type, type), (.name, name),
      (.number, optionalNumber (userId.number.map (·.toNat))), (.tty, tty)] }

def insertUser (parentType : ParentType) (messageIdent : Nat) (parentIndex : Int)
    (user : User E) : Sql Int :=
  requiemdbSqlEscape user.ident fun ident =>
  escapeEnum user.category fun category =>
  checked (requiemdbSqlInsert {
    table := .user, parentType := some parentType, messageIdent
    parents := [parentIndex], index := none
    cells := [(.ident, ident), (.category, category)] }) <|
  insertListed (insertUserId parentType messageIdent parentIndex 0 0) user.userIds <|
  .done 1

/-- `insert_process_arg`, `insert_process_env` and `insert_web_service_arg`. -/
def insertStringOf (table : Table) (column : Column) (parentType : ParentType)
    (messageIdent : Nat) (parentIndex : Int) (index : Int) (string : String) : Sql Int :=
  requiemdbSqlEscape (some string) fun tmp =>
  requiemdbSqlInsert {
    table, parentType := some parentType, messageIdent
    parents := [parentIndex], index := some index, cells := [(column, tmp)] }

def insertProcessArg : ParentType → Nat → Int → Int → String → Sql Int :=
  insertStringOf .processArg .arg

def insertProcessEnv : ParentType → Nat → Int → Int → String → Sql Int :=
  insertStringOf .processEnv .env

/-- The arguments and the environment have no row under index -1. -/
def insertProcess (parentType : ParentType) (messageIdent : Nat) (parentIndex : Int)
    (process : Process) : Sql Int :=
  requiemdbSqlEscape process.ident fun ident =>
  requiemdbSqlEscape process.name fun name =>
  requiemdbSqlEscape process.path fun path =>
  checked (requiemdbSqlInsert {
    table := .process, parentType := some parentType, messageIdent
    parents := [parentIndex], index := none
    cells := [(.ident, ident), (.name, name),
      (.pid, optionalNumber (process.pid.map (·.toNat))), (.path, path)] }) <|
  insertEach (insertProcessArg parentType messageIdent parentIndex) 0 process.args <|
  insertEach (insertProcessEnv parentType messageIdent parentIndex) 0 process.envs <|
  .done 1

def insertSnmpService (parentType : ParentType) (messageIdent : Nat) (parentIndex : Int)
    (snmpService : SnmpService) : Sql Int :=
  requiemdbSqlEscape snmpService.oid fun oid =>
  requiemdbSqlEscape snmpService.securityName fun securityName =>
  requiemdbSqlEscape snmpService.contextName fun contextName =>
  requiemdbSqlEscape snmpService.contextEngineId fun contextEngineId =>
  requiemdbSqlEscape snmpService.command fun command =>
  requiemdbSqlInsert {
    table := .snmpService, parentType := some parentType, messageIdent
    parents := [parentIndex], index := none
    cells := [(.snmpOid, oid),
      (.messageProcessingModel,
        optionalNumber (snmpService.messageProcessingModel.map (·.toNat))),
      (.securityModel, optionalNumber (snmpService.securityModel.map (·.toNat))),
      (.securityName, securityName),
      (.securityLevel, optionalNumber (snmpService.securityLevel.map (·.toNat))),
      (.contextName, contextName), (.contextEngineId, contextEngineId), (.command, command)] }

def insertWebServiceArg : ParentType → Nat → Int → Int → String → Sql Int :=
  insertStringOf .webServiceArg .arg

/-- The result of the insertion into `Requiem_WebService` is forgotten. -/
def insertWebService (parentType : ParentType) (messageIdent : Nat) (parentIndex : Int)
    (webService : WebService) : Sql Int :=
  requiemdbSqlEscape webService.url fun url =>
  escapeOr minusOne webService.cgi fun cgi =>
  requiemdbSqlEscape webService.httpMethod fun method =>
  requiemdbSqlInsert {
    table := .webService, parentType := some parentType, messageIdent
    parents := [parentIndex], index := none
    cells := [(.url, url), (.cgi, cgi), (.httpMethod, method)] } >>= fun _ =>
  insertListed (insertWebServiceArg parentType messageIdent parentIndex) webService.args <|
  .done 1

def insertService (parentType : ParentType) (messageIdent : Nat) (parentIndex : Int)
    (service : Service) : Sql Int :=
  requiemdbSqlEscape service.ident fun ident =>
  requiemdbSqlEscape service.name fun name =>
  requiemdbSqlEscape service.ianaProtocolName fun ianaProtocolName =>
  requiemdbSqlEscape service.portlist fun portlist =>
  requiemdbSqlEscape service.protocol fun protocol =>
  checked (requiemdbSqlInsert {
    table := .service, parentType := some parentType, messageIdent
    parents := [parentIndex], index := none
    cells := [(.ident, ident),
      (.ipVersion, optionalNumber (service.ipVersion.map (·.toNat))), (.name, name),
      (.port, optionalNumber (service.port.map (·.toNat))),
      (.ianaProtocolNumber, optionalNumber (service.ianaProtocolNumber.map (·.toNat))),
      (.ianaProtocolName, ianaProtocolName), (.portlist, portlist),
      (.protocol, protocol)] }) <|
  match service.kind with
  | .default => .done 0
  | .web webService => insertWebService parentType messageIdent parentIndex webService
  | .snmp snmpService => insertSnmpService parentType messageIdent parentIndex snmpService

def insertInode (messageIdent : Nat) (targetIndex fileIndex : Int) (inode : Inode) : Sql Int :=
  let (ctime, ctimeGmtoff, _) := requiemdbSqlTimeToTimestamp inode.changeTime
  requiemdbSqlInsert {
    table := .inode, parentType := none, messageIdent
    parents := [targetIndex, fileIndex], index := none
    cells := [(.changeTime, ctime), (.changeTimeGmtoff, ctimeGmtoff),
      (.number, optionalNumber (inode.number.map (·.toNat))),
      (.majorDevice, optionalNumber (inode.majorDevice.map (·.toNat))),
      (.minorDevice, optionalNumber (inode.minorDevice.map (·.toNat))),
      (.cMajorDevice, optionalNumber (inode.cMajorDevice.map (·.toNat))),
      (.cMinorDevice, optionalNumber (inode.cMinorDevice.map (·.toNat)))] }

def insertLinkage (messageIdent : Nat) (targetIndex fileIndex : Int) (index : Int)
    (linkage : Linkage E) : Sql Int :=
  escapeEnum linkage.category fun category =>
  requiemdbSqlEscape linkage.name fun name =>
  requiemdbSqlEscape linkage.path fun path =>
  requiemdbSqlInsert {
    table := .linkage, parentType := none, messageIdent
    parents := [targetIndex, fileIndex], index := some index
    cells := [(.category, category), (.name, name), (.path, path)] }

def insertFileAccessPermission (messageIdent : Nat) (targetIndex fileIndex fileAccessIndex : Int)
    (permIndex : Int) (perm : String) : Sql Int :=
  requiemdbSqlEscape (some perm) fun tmp =>
  requiemdbSqlInsert {
    table := .fileAccessPermission, parentType := none, messageIdent
    parents := [targetIndex, fileIndex, fileAccessIndex], index := some permIndex
    cells := [(.permission, tmp)] }

def insertFileAccess (messageIdent : Nat) (targetIndex fileIndex : Int) (fileAccessIndex : Int)
    (fileAccess : FileAccess E) : Sql Int :=
  checked (requiemdbSqlInsert {
    table := .fileAccess, parentType := none, messageIdent
    parents := [targetIndex, fileIndex], index := some fileAccessIndex, cells := [] }) <|
  insertListed (insertFileAccessPermission messageIdent targetIndex fileIndex fileAccessIndex)
    fileAccess.permissions <|
  insertUserId .F messageIdent targetIndex fileIndex fileAccessIndex 0 fileAccess.userId

def insertChecksum (messageIdent : Nat) (targetIndex fileIndex : Int) (checksumIndex : Int)
    (checksum : Checksum E) : Sql Int :=
  requiemdbSqlEscape checksum.value fun value =>
  requiemdbSqlEscape checksum.key fun key =>
  escapeEnum checksum.algorithm fun algorithm =>
  requiemdbSqlInsert {
    table := .checksum, parentType := none, messageIdent
    parents := [targetIndex, fileIndex], index := some checksumIndex
    cells := [(.value, value), (.checksumKey, key), (.algorithm, algorithm)] }

/-- The value returned is that of the last insertion, which is not negative. -/
def insertFile (messageIdent : Nat) (targetIndex : Int) (fileIndex : Int) (file : File E) :
    Sql Int :=
  let (ctime, ctimeGmtoff, _) := requiemdbSqlTimeToTimestamp file.createTime
  let (mtime, mtimeGmtoff, _) := requiemdbSqlTimeToTimestamp file.modifyTime
  let (atime, atimeGmtoff, _) := requiemdbSqlTimeToTimestamp file.accessTime
  escapeEnum file.category fun category =>
  requiemdbSqlEscape file.ident fun ident =>
  requiemdbSqlEscape file.name fun name =>
  requiemdbSqlEscape file.path fun path =>
  requiemdbSqlEscape file.fileType fun fileType =>
  escapeOptionalEnum file.fstype fun fstype =>
  checked (requiemdbSqlInsert {
    table := .file, parentType := none, messageIdent
    parents := [targetIndex], index := some fileIndex
    cells := [(.ident, ident), (.category, category), (.name, name), (.path, path),
      (.createTime, ctime), (.createTimeGmtoff, ctimeGmtoff),
      (.modifyTime, mtime), (.modifyTimeGmtoff, mtimeGmtoff),
      (.accessTime, atime), (.accessTimeGmtoff, atimeGmtoff),
      (.dataSize, optionalNumber (file.dataSize.map (·.toNat))),
      (.diskSize, optionalNumber (file.diskSize.map (·.toNat))),
      (.fstype, fstype), (.fileType, fileType)] }) <|
  insertListed (insertFileAccess messageIdent targetIndex fileIndex) file.fileAccesses <|
  insertListed (insertLinkage messageIdent targetIndex fileIndex) file.linkages <|
  checked (insertOptional (insertInode messageIdent targetIndex fileIndex) file.inode) <|
  insertListed (insertChecksum messageIdent targetIndex fileIndex) file.checksums <|
  .done 0

def insertSource (messageIdent : Nat) (index : Int) (source : Source E) : Sql Int :=
  requiemdbSqlEscape source.ident fun ident =>
  escapeEnum source.spoofed fun spoofed =>
  requiemdbSqlEscape source.interface fun interface =>
  checked (requiemdbSqlInsert {
    table := .source, parentType := none, messageIdent, parents := [], index := some index
    cells := [(.ident, ident), (.spoofed, spoofed), (.interface, interface)] }) <|
  checked (insertOptional (insertNode .S messageIdent index) source.node) <|
  checked (insertOptional (insertUser .S messageIdent index) source.user) <|
  checked (insertOptional (insertProcess .S messageIdent index) source.process) <|
  checked (insertOptional (insertService .S messageIdent index) source.service) <|
  .done 1

def insertTarget (messageIdent : Nat) (targetIndex : Int) (target : Target E) : Sql Int :=
  escapeEnum target.decoy fun decoy =>
  escapeOr minusTwo target.ident fun ident =>
  escapeOr minusTwo target.interface fun interface =>
  requiemdbSqlInsert {
    table := .target, parentType := none, messageIdent, parents := [], index := some targetIndex
    cells := [(.ident, ident), (.decoy, decoy), (.interface, interface)] } >>= fun ret =>
  if ret < 0 then .done (-1) else
  checked (insertOptional (insertNode .T messageIdent targetIndex) target.node) <|
  checked (insertOptional (insertUser .T messageIdent targetIndex) target.user) <|
  checked (insertOptional (insertProcess .T messageIdent targetIndex) target.process) <|
  checked (insertOptional (insertService .T messageIdent targetIndex) target.service) <|
  insertListed (insertFile messageIdent targetIndex) target.files <|
  .done 1

def insertAnalyzer (parentType : ParentType) (messageIdent : Nat) (analyzerIndex : Int)
    (analyzer : Analyzer E) : Sql Int :=
  requiemdbSqlEscape analyzer.analyzerid fun analyzerid =>
  requiemdbSqlEscape analyzer.class_ fun class_ =>
  requiemdbSqlEscape analyzer.name fun name =>
  requiemdbSqlEscape analyzer.model fun model =>
  requiemdbSqlEscape analyzer.version fun version =>
  requiemdbSqlEscape analyzer.manufacturer fun manufacturer =>
  requiemdbSqlEscape analyzer.ostype fun ostype =>
  requiemdbSqlEscape analyzer.osversion fun osversion =>
  checked (requiemdbSqlInsert {
    table := .analyzer, parentType := some parentType, messageIdent
    parents := [], index := some analyzerIndex
    cells := [(.analyzerid, analyzerid), (.name, name), (.manufacturer, manufacturer),
      (.model, model), (.version, version), (.class_, class_), (.ostype, ostype),
      (.osversion, osversion)] }) <|
  checked (insertOptional (insertNode parentType messageIdent analyzerIndex) analyzer.node) <|
  insertOptional (insertProcess parentType messageIdent analyzerIndex) analyzer.process

def insertReference (messageIdent : Nat) (referenceIndex : Int) (reference : Reference E) :
    Sql Int :=
  escapeEnum reference.origin fun origin =>
  requiemdbSqlEscape reference.url fun url =>
  requiemdbSqlEscape reference.name fun name =>
  requiemdbSqlEscape reference.meaning fun meaning =>
  requiemdbSqlInsert {
    table := .reference, parentType := none, messageIdent
    parents := [], index := some referenceIndex
    cells := [(.origin, origin), (.name, name), (.url, url), (.meaning, meaning)] }

/-- The result of the insertion into `Requiem_Classification` is forgotten. -/
def insertClassification (messageIdent : Nat) (classification : Classification E) : Sql Int :=
  requiemdbSqlEscape classification.ident fun ident =>
  requiemdbSqlEscape classification.text fun text =>
  requiemdbSqlInsert {
    table := .classification, parentType := none, messageIdent, parents := [], index := none
    cells := [(.ident, ident), (.text, text)] } >>= fun _ =>
  insertListed (insertReference messageIdent) classification.references <|
  .done 1

def insertAdditionalData (E : EnumKind → Type) [Librequiem E] (parentType : ParentType)
    (messageIdent : Nat) (adIndex : Int) (additionalData : AdditionalData) : Sql Int :=
  requiemdbSqlEscape (some (Librequiem.dataTypeToString E additionalData.type)) fun type =>
  requiemdbSqlEscape additionalData.meaning fun meaning =>
  requiemdbSqlEscapeBinary (getData E additionalData.data) fun data =>
  requiemdbSqlInsert {
    table := .additionalData, parentType := some parentType, messageIdent
    parents := [], index := some adIndex
    cells := [(.type, type), (.meaning, meaning), (.data, data)] }

def insertCreatetime (parentType : ParentType) (messageIdent : Nat) (time : Option Time) :
    Sql Int :=
  let (utcTime, utcTimeGmtoff, utcTimeUsec) := requiemdbSqlTimeToTimestamp time
  requiemdbSqlInsert {
    table := .createTime, parentType := some parentType, messageIdent, parents := [], index := none
    cells := [(.time, utcTime), (.gmtoff, utcTimeGmtoff), (.usec, utcTimeUsec)] }

def insertDetecttime (messageIdent : Nat) (time : Time) : Sql Int :=
  let (utcTime, utcTimeGmtoff, utcTimeUsec) := requiemdbSqlTimeToTimestamp (some time)
  requiemdbSqlInsert {
    table := .detectTime, parentType := none, messageIdent, parents := [], index := none
    cells := [(.time, utcTime), (.gmtoff, utcTimeGmtoff), (.usec, utcTimeUsec)] }

def insertAnalyzertime (parentType : ParentType) (messageIdent : Nat) (time : Time) : Sql Int :=
  let (utcTime, utcTimeGmtoff, utcTimeUsec) := requiemdbSqlTimeToTimestamp (some time)
  requiemdbSqlInsert {
    table := .analyzerTime, parentType := some parentType, messageIdent
    parents := [], index := none
    cells := [(.time, utcTime), (.gmtoff, utcTimeGmtoff), (.usec, utcTimeUsec)] }

def insertImpact (messageIdent : Nat) (impact : Impact E) : Sql Int :=
  escapeOptionalEnum impact.completion fun completion =>
  escapeEnum impact.type fun type =>
  escapeOptionalEnum impact.severity fun severity =>
  requiemdbSqlEscape impact.description fun description =>
  requiemdbSqlInsert {
    table := .impact, parentType := none, messageIdent, parents := [], index := none
    cells := [(.severity, severity), (.completion, completion), (.type, type),
      (.description, description)] }

def insertAction (messageIdent : Nat) (actionIndex : Int) (action : Action E) : Sql Int :=
  escapeEnum action.category fun category =>
  requiemdbSqlEscape action.description fun description =>
  requiemdbSqlInsert {
    table := .action, parentType := none, messageIdent, parents := [], index := some actionIndex
    cells := [(.category, category), (.description, description)] }

def insertConfidence (messageIdent : Nat) (confidence : Confidence E) : Sql Int :=
  escapeEnum confidence.rating fun rating =>
  requiemdbSqlInsert {
    table := .confidence, parentType := none, messageIdent, parents := [], index := none
    cells := [(.rating, rating), (.confidence, .decimal confidence.confidence)] }

def insertAssessment (messageIdent : Nat) (assessment : Assessment E) : Sql Int :=
  checked (requiemdbSqlInsert {
    table := .assessment, parentType := none, messageIdent, parents := [], index := none
    cells := [] }) <|
  checked (insertOptional (insertImpact messageIdent) assessment.impact) <|
  checked (insertOptional (insertConfidence messageIdent) assessment.confidence) <|
  insertListed (insertAction messageIdent) assessment.actions <|
  .done 1

def insertOverflowAlert (E : EnumKind → Type) [Librequiem E] (messageIdent : Nat)
    (overflowAlert : OverflowAlert) : Sql Int :=
  requiemdbSqlEscape overflowAlert.program fun program =>
  requiemdbSqlEscapeBinary (getData E overflowAlert.buffer) fun buffer =>
  requiemdbSqlInsert {
    table := .overflowAlert, parentType := none, messageIdent, parents := [], index := none
    cells := [(.program, program),
      (.size, optionalNumber (overflowAlert.size.map (·.toNat))), (.buffer, buffer)] }

/-- The accessors of librequiem answer NULL for a NULL alertident. -/
def insertAlertident (parentType : ParentType) (messageIdent : Nat) (alertidentIndex : Int)
    (alertident : Option Alertident) : Sql Int :=
  requiemdbSqlEscape (alertident.bind (·.analyzerid)) fun analyzerid =>
  requiemdbSqlEscape (alertident.bind (·.alertident)) fun messageid =>
  requiemdbSqlInsert {
    table := .alertident, parentType := some parentType, messageIdent
    parents := [], index := some alertidentIndex
    cells := [(.alertident, messageid), (.analyzerid, analyzerid)] }

/--
The function tests `ret` where it means `last_alertident`. Behind a loop that ran, `ret` is
not negative; without one it is still the result of the insertion into `Requiem_ToolAlert`,
and the alertident handed to the extra insertion is NULL.
-/
def insertToolAlert (messageIdent : Nat) (toolAlert : ToolAlert) : Sql Int :=
  requiemdbSqlEscape toolAlert.name fun name =>
  requiemdbSqlEscape toolAlert.command fun command =>
  requiemdbSqlInsert {
    table := .toolAlert, parentType := none, messageIdent, parents := [], index := none
    cells := [(.name, name), (.command, command)] } >>= fun ret =>
  insertEach (fun index alertident => insertAlertident .T messageIdent index (some alertident)) 0
    toolAlert.alertidents <|
  if toolAlert.alertidents.isEmpty ∧ ret < 0 then
    checked (insertAlertident .T messageIdent (-1) none) (.done 1)
  else .done 1

def insertCorrelationAlert (messageIdent : Nat) (correlationAlert : CorrelationAlert) : Sql Int :=
  requiemdbSqlEscape correlationAlert.name fun name =>
  checked (requiemdbSqlInsert {
    table := .correlationAlert, parentType := none, messageIdent, parents := [], index := none
    cells := [(.name, name)] }) <|
  insertListed
    (fun index alertident => insertAlertident .C messageIdent index (some alertident))
    correlationAlert.alertidents <|
  .done 1

/-- The number of a cell; the columns it is used on hold numbers. -/
def Cell.toInt : Cell → Int
  | .number value => value
  | _ => 0

/--
`get_last_insert_ident`: `SELECT max(_ident)`, and its single cell as a number. The cell is
NULL for an empty table only, where the source uses an unset field; the callers have just
inserted a row.
-/
def getLastInsertIdent (table : MessageTable) (rest : Nat → Sql Int) : Sql Int :=
  .perform (.selectMaxIdent table) fun
    | .error error => .done error.code
    | .ok cell => .perform (.fetchRow table.table 0) fun
      | .error error => .done error.code
      | .ok () => .perform (.fetchField cell) fun
        | .error error => .done error.code
        | .ok none => .done (-1)
        | .ok (some field) => rest field.toInt.toNat

def insertMessageMessageid (table : MessageTable) (messageid : Option String)
    (rest : Nat → Sql Int) : Sql Int :=
  requiemdbSqlEscape messageid fun tmp =>
  checked (.perform (.insertMessage table [(.messageid, tmp)]) .done) <|
  getLastInsertIdent table rest

/-- The insertions of an alert below its row in `Requiem_Alert`. -/
def insertAlertParts (ident : Nat) (alert : Alert E) : Sql Int :=
  checked (insertCreatetime .A ident alert.createTime) <|
  checked (insertOptional (insertDetecttime ident) alert.detectTime) <|
  checked (insertOptional (insertAnalyzertime .A ident) alert.analyzerTime) <|
  checked (insertOptional (insertAssessment ident) alert.assessment) <|
  checked (match alert.kind with
    | .default => .done 0
    | .tool toolAlert => insertToolAlert ident toolAlert
    | .overflow overflowAlert => insertOverflowAlert E ident overflowAlert
    | .correlation correlationAlert => insertCorrelationAlert ident correlationAlert) <|
  insertListed (insertAnalyzer .A ident) alert.analyzers <|
  insertListed (insertSource ident) alert.sources <|
  insertListed (insertTarget ident) alert.targets <|
  checked (insertOptional (insertClassification ident) alert.classification) <|
  insertListed (insertAdditionalData E .A ident) alert.additionalData <|
  .done 1

def insertAlert (alert : Alert E) : Sql Int :=
  insertMessageMessageid .alert alert.messageid fun ident => insertAlertParts ident alert

/-- The insertions of a heartbeat below its row in `Requiem_Heartbeat`. -/
def insertHeartbeatParts (ident : Nat) (heartbeat : Heartbeat E) : Sql Int :=
  insertListed (insertAnalyzer .H ident) heartbeat.analyzers <|
  checked (insertCreatetime .H ident heartbeat.createTime) <|
  checked (insertOptional (insertAnalyzertime .H ident) heartbeat.analyzerTime) <|
  insertListed (insertAdditionalData E .H ident) heartbeat.additionalData <|
  .done 1

def insertHeartbeat (heartbeat : Heartbeat E) : Sql Int :=
  requiemdbSqlEscape heartbeat.messageid fun messageid =>
  checked (.perform (.insertMessage .heartbeat [(.messageid, messageid),
    (.heartbeatInterval, optionalNumber (heartbeat.heartbeatInterval.map (·.toNat)))]) .done) <|
  getLastInsertIdent .heartbeat fun ident => insertHeartbeatParts ident heartbeat

/-- The call of `classic_insert` by the type of the message. -/
def insertMessage : Message E → Sql Int
  | .alert alert => insertAlert alert
  | .heartbeat heartbeat => insertHeartbeat heartbeat

def classicInsert (message : Message E) : Sql Int :=
  checked (.perform .transactionStart .done) <|
  insertMessage message >>= fun ret =>
  if ret < 0 then
    .perform .transactionAbort fun tmp => .done (if tmp < 0 then tmp else ret)
  else .perform .transactionEnd .done

end RequiemDB
