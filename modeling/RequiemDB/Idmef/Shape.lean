import RequiemDB.Idmef.Message

/-!
# The shape of a message

`blank` takes the texts and bytes out of a message and leaves the rest: the parts
that are present, the lengths of the lists, the numbers and the enumerations. Two
messages of one shape are those with the same `blank`.
-/

namespace RequiemDB

variable {E : EnumKind → Type}

/-- A text that is there, without its content. -/
def blankText (text : Option String) : Option String := text.map fun _ => ""

/-- The texts of a list, without their contents. -/
def blankTexts (texts : List String) : List String := texts.map fun _ => ""

def Data.blank : Data → Data
  | .charString _ => .charString []
  | .byteString _ => .byteString []
  | data => data

def Address.blank (address : Address E) : Address E :=
  { address with
    ident := blankText address.ident
    vlanName := blankText address.vlanName
    address := blankText address.address
    netmask := blankText address.netmask }

def Node.blank (node : Node E) : Node E :=
  { node with
    ident := blankText node.ident
    location := blankText node.location
    name := blankText node.name
    addresses := node.addresses.map Address.blank }

def UserId.blank (userId : UserId E) : UserId E :=
  { userId with
    ident := blankText userId.ident
    tty := blankText userId.tty
    name := blankText userId.name }

def User.blank (user : User E) : User E :=
  { user with
    ident := blankText user.ident
    userIds := user.userIds.map UserId.blank }

def Process.blank (process : Process) : Process :=
  { process with
    ident := blankText process.ident
    name := blankText process.name
    path := blankText process.path
    args := blankTexts process.args
    envs := blankTexts process.envs }

def WebService.blank (webService : WebService) : WebService where
  url := blankText webService.url
  cgi := blankText webService.cgi
  httpMethod := blankText webService.httpMethod
  args := blankTexts webService.args

def SnmpService.blank (snmpService : SnmpService) : SnmpService :=
  { snmpService with
    oid := blankText snmpService.oid
    securityName := blankText snmpService.securityName
    contextName := blankText snmpService.contextName
    contextEngineId := blankText snmpService.contextEngineId
    command := blankText snmpService.command }

def ServiceKind.blank : ServiceKind → ServiceKind
  | .default => .default
  | .web webService => .web webService.blank
  | .snmp snmpService => .snmp snmpService.blank

def Service.blank (service : Service) : Service :=
  { service with
    ident := blankText service.ident
    name := blankText service.name
    ianaProtocolName := blankText service.ianaProtocolName
    portlist := blankText service.portlist
    protocol := blankText service.protocol
    kind := service.kind.blank }

def Linkage.blank (linkage : Linkage E) : Linkage E :=
  { linkage with
    name := blankText linkage.name
    path := blankText linkage.path }

def FileAccess.blank (fileAccess : FileAccess E) : FileAccess E where
  userId := fileAccess.userId.blank
  permissions := blankTexts fileAccess.permissions

def Checksum.blank (checksum : Checksum E) : Checksum E :=
  { checksum with
    value := blankText checksum.value
    key := blankText checksum.key }

def File.blank (file : File E) : File E :=
  { file with
    ident := blankText file.ident
    name := blankText file.name
    path := blankText file.path
    fileType := blankText file.fileType
    fileAccesses := file.fileAccesses.map FileAccess.blank
    linkages := file.linkages.map Linkage.blank
    checksums := file.checksums.map Checksum.blank }

def Source.blank (source : Source E) : Source E :=
  { source with
    ident := blankText source.ident
    interface := blankText source.interface
    node := source.node.map Node.blank
    user := source.user.map User.blank
    process := source.process.map Process.blank
    service := source.service.map Service.blank }

def Target.blank (target : Target E) : Target E :=
  { target with
    ident := blankText target.ident
    interface := blankText target.interface
    node := target.node.map Node.blank
    user := target.user.map User.blank
    process := target.process.map Process.blank
    service := target.service.map Service.blank
    files := target.files.map File.blank }

def Analyzer.blank (analyzer : Analyzer E) : Analyzer E where
  analyzerid := blankText analyzer.analyzerid
  name := blankText analyzer.name
  manufacturer := blankText analyzer.manufacturer
  model := blankText analyzer.model
  version := blankText analyzer.version
  class_ := blankText analyzer.class_
  ostype := blankText analyzer.ostype
  osversion := blankText analyzer.osversion
  node := analyzer.node.map Node.blank
  process := analyzer.process.map Process.blank

def Reference.blank (reference : Reference E) : Reference E :=
  { reference with
    name := blankText reference.name
    url := blankText reference.url
    meaning := blankText reference.meaning }

def Classification.blank (classification : Classification E) : Classification E where
  ident := blankText classification.ident
  text := blankText classification.text
  references := classification.references.map Reference.blank

def Impact.blank (impact : Impact E) : Impact E :=
  { impact with description := blankText impact.description }

def Action.blank (action : Action E) : Action E :=
  { action with description := blankText action.description }

def Assessment.blank (assessment : Assessment E) : Assessment E :=
  { assessment with
    impact := assessment.impact.map Impact.blank
    actions := assessment.actions.map Action.blank }

def Alertident.blank (alertident : Alertident) : Alertident where
  alertident := blankText alertident.alertident
  analyzerid := blankText alertident.analyzerid

def ToolAlert.blank (toolAlert : ToolAlert) : ToolAlert where
  name := blankText toolAlert.name
  command := blankText toolAlert.command
  alertidents := toolAlert.alertidents.map Alertident.blank

def CorrelationAlert.blank (correlationAlert : CorrelationAlert) : CorrelationAlert where
  name := blankText correlationAlert.name
  alertidents := correlationAlert.alertidents.map Alertident.blank

def OverflowAlert.blank (overflowAlert : OverflowAlert) : OverflowAlert :=
  { overflowAlert with
    program := blankText overflowAlert.program
    buffer := overflowAlert.buffer.blank }

def AlertKind.blank : AlertKind → AlertKind
  | .default => .default
  | .tool toolAlert => .tool toolAlert.blank
  | .overflow overflowAlert => .overflow overflowAlert.blank
  | .correlation correlationAlert => .correlation correlationAlert.blank

def AdditionalData.blank (additionalData : AdditionalData) : AdditionalData :=
  { additionalData with
    meaning := blankText additionalData.meaning
    data := additionalData.data.blank }

def Alert.blank (alert : Alert E) : Alert E :=
  { alert with
    messageid := blankText alert.messageid
    assessment := alert.assessment.map Assessment.blank
    kind := alert.kind.blank
    analyzers := alert.analyzers.map Analyzer.blank
    sources := alert.sources.map Source.blank
    targets := alert.targets.map Target.blank
    classification := alert.classification.map Classification.blank
    additionalData := alert.additionalData.map AdditionalData.blank }

def Heartbeat.blank (heartbeat : Heartbeat E) : Heartbeat E :=
  { heartbeat with
    messageid := blankText heartbeat.messageid
    analyzers := heartbeat.analyzers.map Analyzer.blank
    additionalData := heartbeat.additionalData.map AdditionalData.blank }

def Message.blank : Message E → Message E
  | .alert message => .alert message.blank
  | .heartbeat message => .heartbeat message.blank

end RequiemDB
