import RequiemDB.Lib.Indexed
import RequiemDB.Lib.Script
import RequiemDB.Classic.Insert

/-!
# The rows of a message

The rows that each part of a message is written to, as a `Script`: the rows in
the order of their insertion, each with the way the source handles a failure of
that insertion. A script depends on the message and on the ident of its row
alone; `RequiemDB.Classic.Script` shows that the functions of
`RequiemDB.Classic.Insert` follow these scripts.
-/

namespace RequiemDB

open Lib

variable {E : EnumKind → Type} [Librequiem E] {α : Type}

/-- The literal of a value of an enumeration. -/
def enumLiteral {kind : EnumKind} (value : E kind) : Cell :=
  stringLiteral (some (Librequiem.toString value))

/-- The literal of an optional value of an enumeration. -/
def optionalEnumLiteral {kind : EnumKind} (value : Option (E kind)) : Cell :=
  stringLiteral (value.map Librequiem.toString)

/-- The cells of an instant that is stored without its microseconds. -/
def timeCells (instant offset : Column) (value : Option Time) : List (Column × Cell) :=
  [(instant, (requiemdbSqlTimeToTimestamp value).1),
    (offset, (requiemdbSqlTimeToTimestamp value).2.1)]

/-- The cells of an instant in the tables of message times. -/
def messageTimeCells (value : Option Time) : List (Column × Cell) :=
  timeCells .time .gmtoff value ++ [(.usec, (requiemdbSqlTimeToTimestamp value).2.2)]

/-- The script of an optional part. -/
def optionalScript (script : α → Script Row) (part : Option α) : Script Row :=
  part.elim [] script

section Parts

variable (parentType : ParentType) (messageIdent : Nat) (parentIndex : Int)

def addressRow (addressIndex : Int) (address : Address E) : Row where
  table := .address
  parentType := some parentType
  messageIdent := messageIdent
  parents := [parentIndex]
  index := some addressIndex
  cells := [(.ident, stringLiteral address.ident), (.category, enumLiteral address.category),
    (.vlanName, stringLiteral address.vlanName),
    (.vlanNum, optionalNumber (address.vlanNum.map (·.toInt))),
    (.address, stringLiteral address.address), (.netmask, stringLiteral address.netmask)]

def nodeRow (node : Node E) : Row where
  table := .node
  parentType := some parentType
  messageIdent := messageIdent
  parents := [parentIndex]
  index := none
  cells := [(.ident, stringLiteral node.ident), (.category, enumLiteral node.category),
    (.location, stringLiteral node.location), (.name, stringLiteral node.name)]

def nodeScript (node : Node E) : Script Row :=
  .must (nodeRow parentType messageIdent parentIndex node) ::
    listed (fun index address =>
      [.must (addressRow parentType messageIdent parentIndex index address)]) node.addresses

def userIdRow (fileIndex fileAccessIndex index : Int) (userId : UserId E) : Row where
  table := .userId
  parentType := some parentType
  messageIdent := messageIdent
  parents := [parentIndex, fileIndex, fileAccessIndex]
  index := some index
  cells := [(.ident, stringLiteral userId.ident), (.type, enumLiteral userId.type),
    (.name, stringLiteral userId.name),
    (.number, optionalNumber (userId.number.map (·.toNat))), (.tty, stringLiteral userId.tty)]

def userRow (user : User E) : Row where
  table := .user
  parentType := some parentType
  messageIdent := messageIdent
  parents := [parentIndex]
  index := none
  cells := [(.ident, stringLiteral user.ident), (.category, enumLiteral user.category)]

def userScript (user : User E) : Script Row :=
  .must (userRow parentType messageIdent parentIndex user) ::
    listed (fun index userId =>
      [.must (userIdRow parentType messageIdent parentIndex 0 0 index userId)]) user.userIds

def stringRow (table : Table) (column : Column) (index : Int) (string : String) : Row where
  table := table
  parentType := some parentType
  messageIdent := messageIdent
  parents := [parentIndex]
  index := some index
  cells := [(column, stringLiteral (some string))]

def processRow (process : Process) : Row where
  table := .process
  parentType := some parentType
  messageIdent := messageIdent
  parents := [parentIndex]
  index := none
  cells := [(.ident, stringLiteral process.ident), (.name, stringLiteral process.name),
    (.pid, optionalNumber (process.pid.map (·.toNat))), (.path, stringLiteral process.path)]

def processScript (process : Process) : Script Row :=
  .must (processRow parentType messageIdent parentIndex process) ::
    (each (fun index arg =>
        [.must (stringRow parentType messageIdent parentIndex .processArg .arg index arg)])
      0 process.args ++
    each (fun index env =>
        [.must (stringRow parentType messageIdent parentIndex .processEnv .env index env)])
      0 process.envs)

def snmpServiceRow (snmpService : SnmpService) : Row where
  table := .snmpService
  parentType := some parentType
  messageIdent := messageIdent
  parents := [parentIndex]
  index := none
  cells := [(.snmpOid, stringLiteral snmpService.oid),
    (.messageProcessingModel,
      optionalNumber (snmpService.messageProcessingModel.map (·.toNat))),
    (.securityModel, optionalNumber (snmpService.securityModel.map (·.toNat))),
    (.securityName, stringLiteral snmpService.securityName),
    (.securityLevel, optionalNumber (snmpService.securityLevel.map (·.toNat))),
    (.contextName, stringLiteral snmpService.contextName),
    (.contextEngineId, stringLiteral snmpService.contextEngineId),
    (.command, stringLiteral snmpService.command)]

def webServiceRow (webService : WebService) : Row where
  table := .webService
  parentType := some parentType
  messageIdent := messageIdent
  parents := [parentIndex]
  index := none
  cells := [(.url, stringLiteral webService.url), (.cgi, stringLiteral webService.cgi),
    (.httpMethod, stringLiteral webService.httpMethod)]

/-- A failure to insert the row of the web service goes unnoticed. -/
def webServiceScript (webService : WebService) : Script Row :=
  ⟨webServiceRow parentType messageIdent parentIndex webService, .ignore⟩ ::
    listed (fun index arg =>
      [.must (stringRow parentType messageIdent parentIndex .webServiceArg .arg index arg)])
      webService.args

def serviceRow (service : Service) : Row where
  table := .service
  parentType := some parentType
  messageIdent := messageIdent
  parents := [parentIndex]
  index := none
  cells := [(.ident, stringLiteral service.ident),
    (.ipVersion, optionalNumber (service.ipVersion.map (·.toNat))),
    (.name, stringLiteral service.name),
    (.port, optionalNumber (service.port.map (·.toNat))),
    (.ianaProtocolNumber, optionalNumber (service.ianaProtocolNumber.map (·.toNat))),
    (.ianaProtocolName, stringLiteral service.ianaProtocolName),
    (.portlist, stringLiteral service.portlist), (.protocol, stringLiteral service.protocol)]

def serviceKindScript : ServiceKind → Script Row
  | .default => []
  | .web webService => webServiceScript parentType messageIdent parentIndex webService
  | .snmp snmpService => [.must (snmpServiceRow parentType messageIdent parentIndex snmpService)]

def serviceScript (service : Service) : Script Row :=
  .must (serviceRow parentType messageIdent parentIndex service) ::
    serviceKindScript parentType messageIdent parentIndex service.kind

def analyzerRow (analyzerIndex : Int) (analyzer : Analyzer E) : Row where
  table := .analyzer
  parentType := some parentType
  messageIdent := messageIdent
  parents := []
  index := some analyzerIndex
  cells := [(.analyzerid, stringLiteral analyzer.analyzerid),
    (.name, stringLiteral analyzer.name), (.manufacturer, stringLiteral analyzer.manufacturer),
    (.model, stringLiteral analyzer.model), (.version, stringLiteral analyzer.version),
    (.class_, stringLiteral analyzer.class_), (.ostype, stringLiteral analyzer.ostype),
    (.osversion, stringLiteral analyzer.osversion)]

def analyzerScript (analyzerIndex : Int) (analyzer : Analyzer E) : Script Row :=
  .must (analyzerRow parentType messageIdent analyzerIndex analyzer) ::
    (optionalScript (nodeScript parentType messageIdent analyzerIndex) analyzer.node ++
      optionalScript (processScript parentType messageIdent analyzerIndex) analyzer.process)

def additionalDataRow (E : EnumKind → Type) [Librequiem E] (adIndex : Int)
    (additionalData : AdditionalData) : Row where
  table := .additionalData
  parentType := some parentType
  messageIdent := messageIdent
  parents := []
  index := some adIndex
  cells := [(.type, stringLiteral (some (Librequiem.dataTypeToString E additionalData.type))),
    (.meaning, stringLiteral additionalData.meaning),
    (.data, .blob (getData E additionalData.data))]

/-- A time of a message; the detect time has no parent letter. -/
def messageTimeRow (table : Table) (letter : Option ParentType) (time : Option Time) : Row where
  table := table
  parentType := letter
  messageIdent := messageIdent
  parents := []
  index := none
  cells := messageTimeCells time

def alertidentRow (alertidentIndex : Int) (alertident : Option Alertident) : Row where
  table := .alertident
  parentType := some parentType
  messageIdent := messageIdent
  parents := []
  index := some alertidentIndex
  cells := [(.alertident, stringLiteral (alertident.bind (·.alertident))),
    (.analyzerid, stringLiteral (alertident.bind (·.analyzerid)))]

end Parts

section Files

variable (messageIdent : Nat) (targetIndex fileIndex : Int)

def inodeRow (inode : Inode) : Row where
  table := .inode
  parentType := none
  messageIdent := messageIdent
  parents := [targetIndex, fileIndex]
  index := none
  cells := timeCells .changeTime .changeTimeGmtoff inode.changeTime ++
    [(.number, optionalNumber (inode.number.map (·.toNat))),
    (.majorDevice, optionalNumber (inode.majorDevice.map (·.toNat))),
    (.minorDevice, optionalNumber (inode.minorDevice.map (·.toNat))),
    (.cMajorDevice, optionalNumber (inode.cMajorDevice.map (·.toNat))),
    (.cMinorDevice, optionalNumber (inode.cMinorDevice.map (·.toNat)))]

def linkageRow (index : Int) (linkage : Linkage E) : Row where
  table := .linkage
  parentType := none
  messageIdent := messageIdent
  parents := [targetIndex, fileIndex]
  index := some index
  cells := [(.category, enumLiteral linkage.category), (.name, stringLiteral linkage.name),
    (.path, stringLiteral linkage.path)]

def fileAccessPermissionRow (fileAccessIndex permIndex : Int) (perm : String) : Row where
  table := .fileAccessPermission
  parentType := none
  messageIdent := messageIdent
  parents := [targetIndex, fileIndex, fileAccessIndex]
  index := some permIndex
  cells := [(.permission, stringLiteral (some perm))]

def fileAccessRow (fileAccessIndex : Int) : Row where
  table := .fileAccess
  parentType := none
  messageIdent := messageIdent
  parents := [targetIndex, fileIndex]
  index := some fileAccessIndex
  cells := []

def fileAccessScript (fileAccessIndex : Int) (fileAccess : FileAccess E) : Script Row :=
  .must (fileAccessRow messageIdent targetIndex fileIndex fileAccessIndex) ::
    (listed (fun index perm =>
        [.must (fileAccessPermissionRow messageIdent targetIndex fileIndex fileAccessIndex
          index perm)]) fileAccess.permissions ++
      [.must (userIdRow .F messageIdent targetIndex fileIndex fileAccessIndex 0
        fileAccess.userId)])

def checksumRow (checksumIndex : Int) (checksum : Checksum E) : Row where
  table := .checksum
  parentType := none
  messageIdent := messageIdent
  parents := [targetIndex, fileIndex]
  index := some checksumIndex
  cells := [(.value, stringLiteral checksum.value), (.checksumKey, stringLiteral checksum.key),
    (.algorithm, enumLiteral checksum.algorithm)]

def fileRow (file : File E) : Row where
  table := .file
  parentType := none
  messageIdent := messageIdent
  parents := [targetIndex]
  index := some fileIndex
  cells := [(.ident, stringLiteral file.ident), (.category, enumLiteral file.category),
      (.name, stringLiteral file.name), (.path, stringLiteral file.path)] ++
    timeCells .createTime .createTimeGmtoff file.createTime ++
    timeCells .modifyTime .modifyTimeGmtoff file.modifyTime ++
    timeCells .accessTime .accessTimeGmtoff file.accessTime ++
    [(.dataSize, optionalNumber (file.dataSize.map (·.toNat))),
      (.diskSize, optionalNumber (file.diskSize.map (·.toNat))),
      (.fstype, optionalEnumLiteral file.fstype), (.fileType, stringLiteral file.fileType)]

def fileScript (file : File E) : Script Row :=
  .must (fileRow messageIdent targetIndex fileIndex file) ::
    (listed (fileAccessScript messageIdent targetIndex fileIndex) file.fileAccesses ++
    (listed (fun index linkage => [.must (linkageRow messageIdent targetIndex fileIndex index
        linkage)]) file.linkages ++
    (optionalScript (fun inode => [.must (inodeRow messageIdent targetIndex fileIndex inode)])
        file.inode ++
      listed (fun index checksum => [.must (checksumRow messageIdent targetIndex fileIndex index
        checksum)]) file.checksums)))

end Files

section AlertParts

variable (messageIdent : Nat)

def sourceRow (index : Int) (source : Source E) : Row where
  table := .source
  parentType := none
  messageIdent := messageIdent
  parents := []
  index := some index
  cells := [(.ident, stringLiteral source.ident), (.spoofed, enumLiteral source.spoofed),
    (.interface, stringLiteral source.interface)]

def sourceScript (index : Int) (source : Source E) : Script Row :=
  .must (sourceRow messageIdent index source) ::
    (optionalScript (nodeScript .S messageIdent index) source.node ++
    (optionalScript (userScript .S messageIdent index) source.user ++
    (optionalScript (processScript .S messageIdent index) source.process ++
      optionalScript (serviceScript .S messageIdent index) source.service)))

def targetRow (targetIndex : Int) (target : Target E) : Row where
  table := .target
  parentType := none
  messageIdent := messageIdent
  parents := []
  index := some targetIndex
  cells := [(.ident, stringLiteral target.ident), (.decoy, enumLiteral target.decoy),
    (.interface, stringLiteral target.interface)]

def targetScript (targetIndex : Int) (target : Target E) : Script Row :=
  .must (targetRow messageIdent targetIndex target) ::
    (optionalScript (nodeScript .T messageIdent targetIndex) target.node ++
    (optionalScript (userScript .T messageIdent targetIndex) target.user ++
    (optionalScript (processScript .T messageIdent targetIndex) target.process ++
    (optionalScript (serviceScript .T messageIdent targetIndex) target.service ++
      listed (fileScript messageIdent targetIndex) target.files))))

def referenceRow (referenceIndex : Int) (reference : Reference E) : Row where
  table := .reference
  parentType := none
  messageIdent := messageIdent
  parents := []
  index := some referenceIndex
  cells := [(.origin, enumLiteral reference.origin), (.name, stringLiteral reference.name),
    (.url, stringLiteral reference.url), (.meaning, stringLiteral reference.meaning)]

def classificationRow (classification : Classification E) : Row where
  table := .classification
  parentType := none
  messageIdent := messageIdent
  parents := []
  index := none
  cells := [(.ident, stringLiteral classification.ident),
    (.text, stringLiteral classification.text)]

/-- A failure to insert the row of the classification goes unnoticed. -/
def classificationScript (classification : Classification E) : Script Row :=
  ⟨classificationRow messageIdent classification, .ignore⟩ ::
    listed (fun index reference => [.must (referenceRow messageIdent index reference)])
      classification.references

def impactRow (impact : Impact E) : Row where
  table := .impact
  parentType := none
  messageIdent := messageIdent
  parents := []
  index := none
  cells := [(.severity, optionalEnumLiteral impact.severity),
    (.completion, optionalEnumLiteral impact.completion), (.type, enumLiteral impact.type),
    (.description, stringLiteral impact.description)]

def actionRow (actionIndex : Int) (action : Action E) : Row where
  table := .action
  parentType := none
  messageIdent := messageIdent
  parents := []
  index := some actionIndex
  cells := [(.category, enumLiteral action.category),
    (.description, stringLiteral action.description)]

def confidenceRow (confidence : Confidence E) : Row where
  table := .confidence
  parentType := none
  messageIdent := messageIdent
  parents := []
  index := none
  cells := [(.rating, enumLiteral confidence.rating),
    (.confidence, .decimal confidence.confidence)]

def assessmentRow : Row where
  table := .assessment
  parentType := none
  messageIdent := messageIdent
  parents := []
  index := none
  cells := []

def assessmentScript (assessment : Assessment E) : Script Row :=
  .must (assessmentRow messageIdent) ::
    (optionalScript (fun impact => [.must (impactRow messageIdent impact)]) assessment.impact ++
    (optionalScript (fun confidence => [.must (confidenceRow messageIdent confidence)])
        assessment.confidence ++
      listed (fun index action => [.must (actionRow messageIdent index action)])
        assessment.actions))

def overflowAlertRow (E : EnumKind → Type) [Librequiem E] (overflowAlert : OverflowAlert) :
    Row where
  table := .overflowAlert
  parentType := none
  messageIdent := messageIdent
  parents := []
  index := none
  cells := [(.program, stringLiteral overflowAlert.program),
    (.size, optionalNumber (overflowAlert.size.map (·.toNat))),
    (.buffer, .blob (getData E overflowAlert.buffer))]

def toolAlertRow (toolAlert : ToolAlert) : Row where
  table := .toolAlert
  parentType := none
  messageIdent := messageIdent
  parents := []
  index := none
  cells := [(.name, stringLiteral toolAlert.name), (.command, stringLiteral toolAlert.command)]

/--
With alertidents, a failure to insert the row of the tool alert goes unnoticed. Without,
the row of an alertident with no content is inserted in its place.
-/
def toolAlertScript (toolAlert : ToolAlert) : Script Row :=
  ⟨toolAlertRow messageIdent toolAlert,
    if toolAlert.alertidents.isEmpty then .instead (alertidentRow .T messageIdent (-1) none)
    else .ignore⟩ ::
    each (fun index alertident => [.must (alertidentRow .T messageIdent index (some alertident))])
      0 toolAlert.alertidents

def correlationAlertRow (correlationAlert : CorrelationAlert) : Row where
  table := .correlationAlert
  parentType := none
  messageIdent := messageIdent
  parents := []
  index := none
  cells := [(.name, stringLiteral correlationAlert.name)]

def correlationAlertScript (correlationAlert : CorrelationAlert) : Script Row :=
  .must (correlationAlertRow messageIdent correlationAlert) ::
    listed (fun index alertident =>
      [.must (alertidentRow .C messageIdent index (some alertident))])
      correlationAlert.alertidents

def alertKindScript (E : EnumKind → Type) [Librequiem E] : AlertKind → Script Row
  | .default => []
  | .tool toolAlert => toolAlertScript messageIdent toolAlert
  | .overflow overflowAlert => [.must (overflowAlertRow messageIdent E overflowAlert)]
  | .correlation correlationAlert => correlationAlertScript messageIdent correlationAlert

end AlertParts

/-- The rows of an alert below its row in `Requiem_Alert`. -/
def alertScript (ident : Nat) (alert : Alert E) : Script Row :=
  .must (messageTimeRow ident .createTime (some .A) alert.createTime) ::
    (optionalScript (fun time => [.must (messageTimeRow ident .detectTime none (some time))])
        alert.detectTime ++
    (optionalScript
        (fun time => [.must (messageTimeRow ident .analyzerTime (some .A) (some time))])
        alert.analyzerTime ++
    (optionalScript (assessmentScript ident) alert.assessment ++
    (alertKindScript ident E alert.kind ++
    (listed (analyzerScript .A ident) alert.analyzers ++
    (listed (sourceScript ident) alert.sources ++
    (listed (targetScript ident) alert.targets ++
    (optionalScript (classificationScript ident) alert.classification ++
      listed (fun index data => [.must (additionalDataRow .A ident E index data)])
        alert.additionalData))))))))

/-- The rows of a heartbeat below its row in `Requiem_Heartbeat`. -/
def heartbeatScript (ident : Nat) (heartbeat : Heartbeat E) : Script Row :=
  listed (analyzerScript .H ident) heartbeat.analyzers ++
    .must (messageTimeRow ident .createTime (some .H) heartbeat.createTime) ::
    (optionalScript
        (fun time => [.must (messageTimeRow ident .analyzerTime (some .H) (some time))])
        heartbeat.analyzerTime ++
      listed (fun index data => [.must (additionalDataRow .H ident E index data)])
        heartbeat.additionalData)

/-- The script of a message behind the statements that settle its ident. -/
def messageScript (ident : Nat) : Message E → Script Row
  | .alert alert => alertScript ident alert
  | .heartbeat heartbeat => heartbeatScript ident heartbeat

/-- The table of the row that carries a message's ident. -/
def Message.table : Message E → MessageTable
  | .alert _ => .alert
  | .heartbeat _ => .heartbeat

/-- `idmef_alert_get_messageid` or `idmef_heartbeat_get_messageid`. -/
def Message.messageid : Message E → Option String
  | .alert message => message.messageid
  | .heartbeat message => message.messageid

/-- The cells of the row that carries a message's ident. -/
def Message.cells : Message E → List (Column × Cell)
  | .alert message => [(.messageid, stringLiteral message.messageid)]
  | .heartbeat message => [(.messageid, stringLiteral message.messageid),
      (.heartbeatInterval, optionalNumber (message.heartbeatInterval.map (·.toNat)))]

end RequiemDB
