import Mathlib.Data.Option.Basic
import RequiemDB.Idmef.Shape

/-!
# The texts of a message

`mapTexts` changes every text of a part and every list of texts, and leaves the
rest; `AllTexts` says that all of them pass a test. A map that changes what is
left of a part behind another map changes what is left of one of its texts.
-/

namespace RequiemDB

variable {E : EnumKind → Type}

/-- What becomes of a text that may be absent, and of the texts of a list. -/
structure TextMap where
  one : Option String → Option String
  many : List String → List String

/-- A test of a text that may be absent, and of the texts of a list. -/
structure TextTest where
  one : Option String → Prop
  many : List String → Prop

namespace TextMap

protected def id : TextMap := ⟨id, id⟩

/-- The texts without their contents, as `blank` leaves them. -/
def blank : TextMap := ⟨blankText, blankTexts⟩

/-- The map changes nothing of what the map behind it leaves. -/
def keeps (map view : TextMap) : TextTest where
  one text := view.one (map.one text) = view.one text
  many texts := view.many (map.many texts) = view.many texts

@[simp]
theorem id_one (text : Option String) : TextMap.id.one text = text := rfl

@[simp]
theorem id_many (texts : List String) : TextMap.id.many texts = texts := rfl

@[simp]
theorem keeps_one (map view : TextMap) (text : Option String) :
    (map.keeps view).one text ↔ view.one (map.one text) = view.one text := .rfl

@[simp]
theorem keeps_many (map view : TextMap) (texts : List String) :
    (map.keeps view).many texts ↔ view.many (map.many texts) = view.many texts := .rfl

end TextMap

section Maps

variable (map : TextMap)

def Address.mapTexts (address : Address E) : Address E :=
  { address with
    ident := map.one address.ident
    vlanName := map.one address.vlanName
    address := map.one address.address
    netmask := map.one address.netmask }

def Node.mapTexts (node : Node E) : Node E :=
  { node with
    ident := map.one node.ident
    location := map.one node.location
    name := map.one node.name
    addresses := node.addresses.map (Address.mapTexts map) }

def UserId.mapTexts (userId : UserId E) : UserId E :=
  { userId with
    ident := map.one userId.ident
    tty := map.one userId.tty
    name := map.one userId.name }

def User.mapTexts (user : User E) : User E :=
  { user with
    ident := map.one user.ident
    userIds := user.userIds.map (UserId.mapTexts map) }

def Process.mapTexts (process : Process) : Process :=
  { process with
    ident := map.one process.ident
    name := map.one process.name
    path := map.one process.path
    args := map.many process.args
    envs := map.many process.envs }

def WebService.mapTexts (webService : WebService) : WebService where
  url := map.one webService.url
  cgi := map.one webService.cgi
  httpMethod := map.one webService.httpMethod
  args := map.many webService.args

def SnmpService.mapTexts (snmpService : SnmpService) : SnmpService :=
  { snmpService with
    oid := map.one snmpService.oid
    securityName := map.one snmpService.securityName
    contextName := map.one snmpService.contextName
    contextEngineId := map.one snmpService.contextEngineId
    command := map.one snmpService.command }

def ServiceKind.mapTexts : ServiceKind → ServiceKind
  | .default => .default
  | .web webService => .web (webService.mapTexts map)
  | .snmp snmpService => .snmp (snmpService.mapTexts map)

def Service.mapTexts (service : Service) : Service :=
  { service with
    ident := map.one service.ident
    name := map.one service.name
    ianaProtocolName := map.one service.ianaProtocolName
    portlist := map.one service.portlist
    protocol := map.one service.protocol
    kind := service.kind.mapTexts map }

def Linkage.mapTexts (linkage : Linkage E) : Linkage E :=
  { linkage with
    name := map.one linkage.name
    path := map.one linkage.path }

def FileAccess.mapTexts (fileAccess : FileAccess E) : FileAccess E where
  userId := fileAccess.userId.mapTexts map
  permissions := map.many fileAccess.permissions

def Checksum.mapTexts (checksum : Checksum E) : Checksum E :=
  { checksum with
    value := map.one checksum.value
    key := map.one checksum.key }

def File.mapTexts (file : File E) : File E :=
  { file with
    ident := map.one file.ident
    name := map.one file.name
    path := map.one file.path
    fileType := map.one file.fileType
    fileAccesses := file.fileAccesses.map (FileAccess.mapTexts map)
    linkages := file.linkages.map (Linkage.mapTexts map)
    checksums := file.checksums.map (Checksum.mapTexts map) }

def Source.mapTexts (source : Source E) : Source E :=
  { source with
    ident := map.one source.ident
    interface := map.one source.interface
    node := source.node.map (Node.mapTexts map)
    user := source.user.map (User.mapTexts map)
    process := source.process.map (Process.mapTexts map)
    service := source.service.map (Service.mapTexts map) }

def Target.mapTexts (target : Target E) : Target E :=
  { target with
    ident := map.one target.ident
    interface := map.one target.interface
    node := target.node.map (Node.mapTexts map)
    user := target.user.map (User.mapTexts map)
    process := target.process.map (Process.mapTexts map)
    service := target.service.map (Service.mapTexts map)
    files := target.files.map (File.mapTexts map) }

def Analyzer.mapTexts (analyzer : Analyzer E) : Analyzer E where
  analyzerid := map.one analyzer.analyzerid
  name := map.one analyzer.name
  manufacturer := map.one analyzer.manufacturer
  model := map.one analyzer.model
  version := map.one analyzer.version
  class_ := map.one analyzer.class_
  ostype := map.one analyzer.ostype
  osversion := map.one analyzer.osversion
  node := analyzer.node.map (Node.mapTexts map)
  process := analyzer.process.map (Process.mapTexts map)

def Reference.mapTexts (reference : Reference E) : Reference E :=
  { reference with
    name := map.one reference.name
    url := map.one reference.url
    meaning := map.one reference.meaning }

def Classification.mapTexts (classification : Classification E) : Classification E where
  ident := map.one classification.ident
  text := map.one classification.text
  references := classification.references.map (Reference.mapTexts map)

def Impact.mapTexts (impact : Impact E) : Impact E :=
  { impact with
    description := map.one impact.description }

def Action.mapTexts (action : Action E) : Action E :=
  { action with
    description := map.one action.description }

def Assessment.mapTexts (assessment : Assessment E) : Assessment E :=
  { assessment with
    impact := assessment.impact.map (Impact.mapTexts map)
    actions := assessment.actions.map (Action.mapTexts map) }

def Alertident.mapTexts (alertident : Alertident) : Alertident where
  alertident := map.one alertident.alertident
  analyzerid := map.one alertident.analyzerid

def ToolAlert.mapTexts (toolAlert : ToolAlert) : ToolAlert where
  name := map.one toolAlert.name
  command := map.one toolAlert.command
  alertidents := toolAlert.alertidents.map (Alertident.mapTexts map)

def CorrelationAlert.mapTexts (correlationAlert : CorrelationAlert) : CorrelationAlert where
  name := map.one correlationAlert.name
  alertidents := correlationAlert.alertidents.map (Alertident.mapTexts map)

end Maps

section Tests

variable (test : TextTest)

def Address.AllTexts (address : Address E) : Prop :=
  test.one address.ident ∧ test.one address.vlanName ∧ test.one address.address ∧
  test.one address.netmask

def Node.AllTexts (node : Node E) : Prop :=
  test.one node.ident ∧ test.one node.location ∧ test.one node.name ∧
  (∀ address ∈ node.addresses, address.AllTexts test)

def UserId.AllTexts (userId : UserId E) : Prop :=
  test.one userId.ident ∧ test.one userId.tty ∧ test.one userId.name

def User.AllTexts (user : User E) : Prop :=
  test.one user.ident ∧ (∀ userId ∈ user.userIds, userId.AllTexts test)

def Process.AllTexts (process : Process) : Prop :=
  test.one process.ident ∧ test.one process.name ∧ test.one process.path ∧
  test.many process.args ∧ test.many process.envs

def WebService.AllTexts (webService : WebService) : Prop :=
  test.one webService.url ∧ test.one webService.cgi ∧ test.one webService.httpMethod ∧
  test.many webService.args

def SnmpService.AllTexts (snmpService : SnmpService) : Prop :=
  test.one snmpService.oid ∧ test.one snmpService.securityName ∧
  test.one snmpService.contextName ∧ test.one snmpService.contextEngineId ∧
  test.one snmpService.command

def ServiceKind.AllTexts : ServiceKind → Prop
  | .default => True
  | .web webService => webService.AllTexts test
  | .snmp snmpService => snmpService.AllTexts test

def Service.AllTexts (service : Service) : Prop :=
  test.one service.ident ∧ test.one service.name ∧ test.one service.ianaProtocolName ∧
  test.one service.portlist ∧ test.one service.protocol ∧ service.kind.AllTexts test

def Linkage.AllTexts (linkage : Linkage E) : Prop :=
  test.one linkage.name ∧ test.one linkage.path

def FileAccess.AllTexts (fileAccess : FileAccess E) : Prop :=
  fileAccess.userId.AllTexts test ∧ test.many fileAccess.permissions

def Checksum.AllTexts (checksum : Checksum E) : Prop :=
  test.one checksum.value ∧ test.one checksum.key

def File.AllTexts (file : File E) : Prop :=
  test.one file.ident ∧ test.one file.name ∧ test.one file.path ∧ test.one file.fileType ∧
  (∀ fileAccess ∈ file.fileAccesses, fileAccess.AllTexts test) ∧
  (∀ linkage ∈ file.linkages, linkage.AllTexts test) ∧
  (∀ checksum ∈ file.checksums, checksum.AllTexts test)

def Source.AllTexts (source : Source E) : Prop :=
  test.one source.ident ∧ test.one source.interface ∧
  (∀ node ∈ source.node, node.AllTexts test) ∧ (∀ user ∈ source.user, user.AllTexts test) ∧
  (∀ process ∈ source.process, process.AllTexts test) ∧
  (∀ service ∈ source.service, service.AllTexts test)

def Target.AllTexts (target : Target E) : Prop :=
  test.one target.ident ∧ test.one target.interface ∧
  (∀ node ∈ target.node, node.AllTexts test) ∧ (∀ user ∈ target.user, user.AllTexts test) ∧
  (∀ process ∈ target.process, process.AllTexts test) ∧
  (∀ service ∈ target.service, service.AllTexts test) ∧
  (∀ file ∈ target.files, file.AllTexts test)

def Analyzer.AllTexts (analyzer : Analyzer E) : Prop :=
  test.one analyzer.analyzerid ∧ test.one analyzer.name ∧ test.one analyzer.manufacturer ∧
  test.one analyzer.model ∧ test.one analyzer.version ∧ test.one analyzer.class_ ∧
  test.one analyzer.ostype ∧ test.one analyzer.osversion ∧
  (∀ node ∈ analyzer.node, node.AllTexts test) ∧
  (∀ process ∈ analyzer.process, process.AllTexts test)

def Reference.AllTexts (reference : Reference E) : Prop :=
  test.one reference.name ∧ test.one reference.url ∧ test.one reference.meaning

def Classification.AllTexts (classification : Classification E) : Prop :=
  test.one classification.ident ∧ test.one classification.text ∧
  (∀ reference ∈ classification.references, reference.AllTexts test)

def Impact.AllTexts (impact : Impact E) : Prop :=
  test.one impact.description

def Action.AllTexts (action : Action E) : Prop :=
  test.one action.description

def Assessment.AllTexts (assessment : Assessment E) : Prop :=
  (∀ impact ∈ assessment.impact, impact.AllTexts test) ∧
  (∀ action ∈ assessment.actions, action.AllTexts test)

def Alertident.AllTexts (alertident : Alertident) : Prop :=
  test.one alertident.alertident ∧ test.one alertident.analyzerid

def ToolAlert.AllTexts (toolAlert : ToolAlert) : Prop :=
  test.one toolAlert.name ∧ test.one toolAlert.command ∧
  (∀ alertident ∈ toolAlert.alertidents, alertident.AllTexts test)

def CorrelationAlert.AllTexts (correlationAlert : CorrelationAlert) : Prop :=
  test.one correlationAlert.name ∧
  (∀ alertident ∈ correlationAlert.alertidents, alertident.AllTexts test)

end Tests

section Laws

variable (map view : TextMap)

@[simp]
theorem option_map_eq_map_iff {α β : Type} (f g : α → β) (part : Option α) :
    part.map f = part.map g ↔ ∀ element ∈ part, f element = g element := by
  cases part <;> simp

@[simp]
theorem Address.mapTexts_id : (Address.mapTexts .id : Address E → Address E) = id := rfl

@[simp]
theorem Address.mapTexts_eq_iff (address : Address E) :
    (address.mapTexts map).mapTexts view = address.mapTexts view ↔
      address.AllTexts (map.keeps view) := by
  simp [Address.mapTexts, Address.AllTexts]

@[simp]
theorem Node.mapTexts_id : (Node.mapTexts .id : Node E → Node E) = id := by
  funext node
  simp [Node.mapTexts]

@[simp]
theorem Node.mapTexts_eq_iff (node : Node E) :
    (node.mapTexts map).mapTexts view = node.mapTexts view ↔ node.AllTexts (map.keeps view) := by
  simp [Node.mapTexts, Node.AllTexts]

@[simp]
theorem UserId.mapTexts_id : (UserId.mapTexts .id : UserId E → UserId E) = id := rfl

@[simp]
theorem UserId.mapTexts_eq_iff (userId : UserId E) :
    (userId.mapTexts map).mapTexts view = userId.mapTexts view ↔
      userId.AllTexts (map.keeps view) := by
  simp [UserId.mapTexts, UserId.AllTexts]

@[simp]
theorem User.mapTexts_id : (User.mapTexts .id : User E → User E) = id := by
  funext user
  simp [User.mapTexts]

@[simp]
theorem User.mapTexts_eq_iff (user : User E) :
    (user.mapTexts map).mapTexts view = user.mapTexts view ↔ user.AllTexts (map.keeps view) := by
  simp [User.mapTexts, User.AllTexts]

@[simp]
theorem Process.mapTexts_id : Process.mapTexts .id = id := rfl

@[simp]
theorem Process.mapTexts_eq_iff (process : Process) :
    (process.mapTexts map).mapTexts view = process.mapTexts view ↔
      process.AllTexts (map.keeps view) := by
  simp [Process.mapTexts, Process.AllTexts]

@[simp]
theorem WebService.mapTexts_id : WebService.mapTexts .id = id := rfl

@[simp]
theorem WebService.mapTexts_eq_iff (webService : WebService) :
    (webService.mapTexts map).mapTexts view = webService.mapTexts view ↔
      webService.AllTexts (map.keeps view) := by
  simp [WebService.mapTexts, WebService.AllTexts]

@[simp]
theorem SnmpService.mapTexts_id : SnmpService.mapTexts .id = id := rfl

@[simp]
theorem SnmpService.mapTexts_eq_iff (snmpService : SnmpService) :
    (snmpService.mapTexts map).mapTexts view = snmpService.mapTexts view ↔
      snmpService.AllTexts (map.keeps view) := by
  simp [SnmpService.mapTexts, SnmpService.AllTexts]

@[simp]
theorem ServiceKind.mapTexts_id : ServiceKind.mapTexts .id = id := by
  funext kind
  cases kind <;> simp [ServiceKind.mapTexts]

@[simp]
theorem ServiceKind.mapTexts_eq_iff (kind : ServiceKind) :
    (kind.mapTexts map).mapTexts view = kind.mapTexts view ↔ kind.AllTexts (map.keeps view) := by
  cases kind <;> simp [ServiceKind.mapTexts, ServiceKind.AllTexts]

@[simp]
theorem Service.mapTexts_id : Service.mapTexts .id = id := by
  funext service
  simp [Service.mapTexts]

@[simp]
theorem Service.mapTexts_eq_iff (service : Service) :
    (service.mapTexts map).mapTexts view = service.mapTexts view ↔
      service.AllTexts (map.keeps view) := by
  simp [Service.mapTexts, Service.AllTexts]

@[simp]
theorem Linkage.mapTexts_id : (Linkage.mapTexts .id : Linkage E → Linkage E) = id := rfl

@[simp]
theorem Linkage.mapTexts_eq_iff (linkage : Linkage E) :
    (linkage.mapTexts map).mapTexts view = linkage.mapTexts view ↔
      linkage.AllTexts (map.keeps view) := by
  simp [Linkage.mapTexts, Linkage.AllTexts]

@[simp]
theorem FileAccess.mapTexts_id : (FileAccess.mapTexts .id : FileAccess E → FileAccess E) = id := by
  funext fileAccess
  simp [FileAccess.mapTexts]

@[simp]
theorem FileAccess.mapTexts_eq_iff (fileAccess : FileAccess E) :
    (fileAccess.mapTexts map).mapTexts view = fileAccess.mapTexts view ↔
      fileAccess.AllTexts (map.keeps view) := by
  simp [FileAccess.mapTexts, FileAccess.AllTexts]

@[simp]
theorem Checksum.mapTexts_id : (Checksum.mapTexts .id : Checksum E → Checksum E) = id := rfl

@[simp]
theorem Checksum.mapTexts_eq_iff (checksum : Checksum E) :
    (checksum.mapTexts map).mapTexts view = checksum.mapTexts view ↔
      checksum.AllTexts (map.keeps view) := by
  simp [Checksum.mapTexts, Checksum.AllTexts]

@[simp]
theorem File.mapTexts_id : (File.mapTexts .id : File E → File E) = id := by
  funext file
  simp [File.mapTexts]

@[simp]
theorem File.mapTexts_eq_iff (file : File E) :
    (file.mapTexts map).mapTexts view = file.mapTexts view ↔ file.AllTexts (map.keeps view) := by
  simp [File.mapTexts, File.AllTexts]

@[simp]
theorem Source.mapTexts_id : (Source.mapTexts .id : Source E → Source E) = id := by
  funext source
  simp [Source.mapTexts]

@[simp]
theorem Source.mapTexts_eq_iff (source : Source E) :
    (source.mapTexts map).mapTexts view = source.mapTexts view ↔
      source.AllTexts (map.keeps view) := by
  simp [Source.mapTexts, Source.AllTexts]

@[simp]
theorem Target.mapTexts_id : (Target.mapTexts .id : Target E → Target E) = id := by
  funext target
  simp [Target.mapTexts]

@[simp]
theorem Target.mapTexts_eq_iff (target : Target E) :
    (target.mapTexts map).mapTexts view = target.mapTexts view ↔
      target.AllTexts (map.keeps view) := by
  simp [Target.mapTexts, Target.AllTexts]

@[simp]
theorem Analyzer.mapTexts_id : (Analyzer.mapTexts .id : Analyzer E → Analyzer E) = id := by
  funext analyzer
  simp [Analyzer.mapTexts]

@[simp]
theorem Analyzer.mapTexts_eq_iff (analyzer : Analyzer E) :
    (analyzer.mapTexts map).mapTexts view = analyzer.mapTexts view ↔
      analyzer.AllTexts (map.keeps view) := by
  simp [Analyzer.mapTexts, Analyzer.AllTexts]

@[simp]
theorem Reference.mapTexts_id : (Reference.mapTexts .id : Reference E → Reference E) = id := rfl

@[simp]
theorem Reference.mapTexts_eq_iff (reference : Reference E) :
    (reference.mapTexts map).mapTexts view = reference.mapTexts view ↔
      reference.AllTexts (map.keeps view) := by
  simp [Reference.mapTexts, Reference.AllTexts]

@[simp]
theorem Classification.mapTexts_id :
    (Classification.mapTexts .id : Classification E → Classification E) = id := by
  funext classification
  simp [Classification.mapTexts]

@[simp]
theorem Classification.mapTexts_eq_iff (classification : Classification E) :
    (classification.mapTexts map).mapTexts view = classification.mapTexts view ↔
      classification.AllTexts (map.keeps view) := by
  simp [Classification.mapTexts, Classification.AllTexts]

@[simp]
theorem Impact.mapTexts_id : (Impact.mapTexts .id : Impact E → Impact E) = id := rfl

@[simp]
theorem Impact.mapTexts_eq_iff (impact : Impact E) :
    (impact.mapTexts map).mapTexts view = impact.mapTexts view ↔
      impact.AllTexts (map.keeps view) := by
  simp [Impact.mapTexts, Impact.AllTexts]

@[simp]
theorem Action.mapTexts_id : (Action.mapTexts .id : Action E → Action E) = id := rfl

@[simp]
theorem Action.mapTexts_eq_iff (action : Action E) :
    (action.mapTexts map).mapTexts view = action.mapTexts view ↔
      action.AllTexts (map.keeps view) := by
  simp [Action.mapTexts, Action.AllTexts]

@[simp]
theorem Assessment.mapTexts_id : (Assessment.mapTexts .id : Assessment E → Assessment E) = id := by
  funext assessment
  simp [Assessment.mapTexts]

@[simp]
theorem Assessment.mapTexts_eq_iff (assessment : Assessment E) :
    (assessment.mapTexts map).mapTexts view = assessment.mapTexts view ↔
      assessment.AllTexts (map.keeps view) := by
  simp [Assessment.mapTexts, Assessment.AllTexts]

@[simp]
theorem Alertident.mapTexts_id : Alertident.mapTexts .id = id := rfl

@[simp]
theorem Alertident.mapTexts_eq_iff (alertident : Alertident) :
    (alertident.mapTexts map).mapTexts view = alertident.mapTexts view ↔
      alertident.AllTexts (map.keeps view) := by
  simp [Alertident.mapTexts, Alertident.AllTexts]

@[simp]
theorem ToolAlert.mapTexts_id : ToolAlert.mapTexts .id = id := by
  funext toolAlert
  simp [ToolAlert.mapTexts]

@[simp]
theorem ToolAlert.mapTexts_eq_iff (toolAlert : ToolAlert) :
    (toolAlert.mapTexts map).mapTexts view = toolAlert.mapTexts view ↔
      toolAlert.AllTexts (map.keeps view) := by
  simp [ToolAlert.mapTexts, ToolAlert.AllTexts]

@[simp]
theorem CorrelationAlert.mapTexts_id : CorrelationAlert.mapTexts .id = id := by
  funext correlationAlert
  simp [CorrelationAlert.mapTexts]

@[simp]
theorem CorrelationAlert.mapTexts_eq_iff (correlationAlert : CorrelationAlert) :
    (correlationAlert.mapTexts map).mapTexts view = correlationAlert.mapTexts view ↔
      correlationAlert.AllTexts (map.keeps view) := by
  simp [CorrelationAlert.mapTexts, CorrelationAlert.AllTexts]

end Laws

end RequiemDB
