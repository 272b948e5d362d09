import Mathlib.Data.Int.Notation

/-!
# IDMEF messages

The part of the IDMEF tree that the classic format stores. A pointer that may be
NULL is an `Option`; a list of the tree is a `List`; a union with a type tag
(the kind of an alert, of a service) is an inductive type, so that a tag without
its part cannot be built. A string is what `requiem_string_get_string` gives up
to its terminator.

The enumerations of the tree belong to librequiem. They are a parameter `E` of
the model, one carrier for each kind of enumeration, and `Librequiem` gives their
conversions to text and back.
-/

namespace RequiemDB

/-- The enumerations whose values the classic format stores as text. -/
inductive EnumKind where
  | addressCategory | nodeCategory | userIdType | userCategory | fileCategory | fileFstype
  | linkageCategory | checksumAlgorithm | sourceSpoofed | targetDecoy | referenceOrigin
  | impactSeverity | impactCompletion | impactType | actionCategory | confidenceRating
deriving DecidableEq

/-- `idmef_additional_data_type_t` without its error value. -/
inductive AdditionalDataType where
  | boolean | byte | character | dateTime | integer | ntpstamp | portlist | real | string
  | byteString | xml
deriving DecidableEq

/-- `idmef_time_t`: the instant, its microseconds and the offset to UTC. -/
structure Time where
  sec : UInt32
  usec : UInt32
  gmtOffset : Int32
deriving DecidableEq

/-- `idmef_data_t` by its type tag; a float is kept in the millionths that `%f` writes. -/
inductive Data where
  | char (value : UInt8)
  | byte (value : UInt8)
  | uint32 (value : UInt32)
  | uint64 (value : UInt64)
  | float (millionths : Int)
  | time (value : Time)
  | charString (value : List UInt8)
  | byteString (value : List UInt8)
deriving DecidableEq

/--
What the format uses of librequiem: `idmef_*_to_string` and `idmef_*_to_numeric`, which are
inverse on the values of a kind, and `idmef_data_to_string`. The type of an additional
data is the one enumeration the format branches on, so its values are known here; its
`to_numeric` answers an error for an unknown text.
-/
class Librequiem (E : EnumKind → Type) where
  toString : {kind : EnumKind} → E kind → String
  toNumeric : {kind : EnumKind} → String → E kind
  toNumeric_toString : ∀ {kind : EnumKind} (value : E kind), toNumeric (toString value) = value
  dataTypeToString : AdditionalDataType → String
  dataTypeToNumeric : String → Option AdditionalDataType
  dataTypeToNumeric_toString : ∀ type, dataTypeToNumeric (dataTypeToString type) = some type
  dataToString : Data → List UInt8

/-- The enumerations with each value kept as the text that names it. -/
abbrev TextEnum : EnumKind → Type := fun _ => String

/-- `idmef_additional_data_type_to_string`. -/
def AdditionalDataType.text : AdditionalDataType → String
  | .boolean => "boolean"
  | .byte => "byte"
  | .character => "character"
  | .dateTime => "date-time"
  | .integer => "integer"
  | .ntpstamp => "ntpstamp"
  | .portlist => "portlist"
  | .real => "real"
  | .string => "string"
  | .byteString => "byte-string"
  | .xml => "xml"

def AdditionalDataType.all : List AdditionalDataType :=
  [.boolean, .byte, .character, .dateTime, .integer, .ntpstamp, .portlist, .real, .string,
    .byteString, .xml]

/-- `idmef_data_to_string` on the integers; the other texts are left empty. -/
def Data.integerText : Data → List UInt8
  | .uint32 value => value.toNat.repr.toUTF8.toList
  | .uint64 value => value.toNat.repr.toUTF8.toList
  | _ => []

theorem AdditionalDataType.find_text (type : AdditionalDataType) :
    (AdditionalDataType.all.find? fun other => other.text = type.text) = some type := by
  cases type <;> decide

instance : Librequiem TextEnum where
  toString := id
  toNumeric := id
  toNumeric_toString _ := rfl
  dataTypeToString := AdditionalDataType.text
  dataTypeToNumeric text := AdditionalDataType.all.find? fun type => type.text = text
  dataTypeToNumeric_toString := AdditionalDataType.find_text
  dataToString := Data.integerText

variable (E : EnumKind → Type)

structure Address where
  ident : Option String
  category : E .addressCategory
  vlanName : Option String
  vlanNum : Option Int32
  address : Option String
  netmask : Option String

structure Node where
  ident : Option String
  category : E .nodeCategory
  location : Option String
  name : Option String
  addresses : List (Address E)

structure UserId where
  ident : Option String
  type : E .userIdType
  tty : Option String
  name : Option String
  number : Option UInt32

structure User where
  ident : Option String
  category : E .userCategory
  userIds : List (UserId E)

structure Process where
  ident : Option String
  name : Option String
  pid : Option UInt32
  path : Option String
  args : List String
  envs : List String

structure WebService where
  url : Option String
  cgi : Option String
  httpMethod : Option String
  args : List String

structure SnmpService where
  oid : Option String
  messageProcessingModel : Option UInt32
  securityModel : Option UInt32
  securityName : Option String
  securityLevel : Option UInt32
  contextName : Option String
  contextEngineId : Option String
  command : Option String

/-- `idmef_service_get_type` together with the part it announces. -/
inductive ServiceKind where
  | default
  | web (webService : WebService)
  | snmp (snmpService : SnmpService)

structure Service where
  ident : Option String
  ipVersion : Option UInt8
  name : Option String
  port : Option UInt16
  ianaProtocolNumber : Option UInt8
  ianaProtocolName : Option String
  portlist : Option String
  protocol : Option String
  kind : ServiceKind

structure Inode where
  changeTime : Option Time
  number : Option UInt32
  majorDevice : Option UInt32
  minorDevice : Option UInt32
  cMajorDevice : Option UInt32
  cMinorDevice : Option UInt32

/-- `idmef_linkage_t` without its file, which the schema has no column for. -/
structure Linkage where
  category : E .linkageCategory
  name : Option String
  path : Option String

/-- `idmef_file_access_t`; its user is a mandatory part. -/
structure FileAccess where
  userId : UserId E
  permissions : List String

structure Checksum where
  value : Option String
  key : Option String
  algorithm : E .checksumAlgorithm

structure File where
  ident : Option String
  category : E .fileCategory
  name : Option String
  path : Option String
  createTime : Option Time
  modifyTime : Option Time
  accessTime : Option Time
  dataSize : Option UInt64
  diskSize : Option UInt64
  fstype : Option (E .fileFstype)
  fileType : Option String
  fileAccesses : List (FileAccess E)
  linkages : List (Linkage E)
  inode : Option Inode
  checksums : List (Checksum E)

structure Source where
  ident : Option String
  spoofed : E .sourceSpoofed
  interface : Option String
  node : Option (Node E)
  user : Option (User E)
  process : Option Process
  service : Option Service

structure Target where
  ident : Option String
  decoy : E .targetDecoy
  interface : Option String
  node : Option (Node E)
  user : Option (User E)
  process : Option Process
  service : Option Service
  files : List (File E)

structure Analyzer where
  analyzerid : Option String
  name : Option String
  manufacturer : Option String
  model : Option String
  version : Option String
  class_ : Option String
  ostype : Option String
  osversion : Option String
  node : Option (Node E)
  process : Option Process

structure Reference where
  origin : E .referenceOrigin
  name : Option String
  url : Option String
  meaning : Option String

structure Classification where
  ident : Option String
  text : Option String
  references : List (Reference E)

structure Impact where
  severity : Option (E .impactSeverity)
  completion : Option (E .impactCompletion)
  type : E .impactType
  description : Option String

structure Action where
  category : E .actionCategory
  description : Option String

/-- `idmef_confidence_t`; the number is kept in the millionths that `%f` writes. -/
structure Confidence where
  rating : E .confidenceRating
  confidence : Int

structure Assessment where
  impact : Option (Impact E)
  confidence : Option (Confidence E)
  actions : List (Action E)

structure Alertident where
  alertident : Option String
  analyzerid : Option String

structure ToolAlert where
  name : Option String
  command : Option String
  alertidents : List Alertident

structure CorrelationAlert where
  name : Option String
  alertidents : List Alertident

structure OverflowAlert where
  program : Option String
  size : Option UInt32
  buffer : Data

/-- `idmef_alert_get_type` together with the part it announces. -/
inductive AlertKind where
  | default
  | tool (toolAlert : ToolAlert)
  | overflow (overflowAlert : OverflowAlert)
  | correlation (correlationAlert : CorrelationAlert)

structure AdditionalData where
  type : AdditionalDataType
  meaning : Option String
  data : Data

structure Alert where
  messageid : Option String
  createTime : Option Time
  detectTime : Option Time
  analyzerTime : Option Time
  assessment : Option (Assessment E)
  kind : AlertKind
  analyzers : List (Analyzer E)
  sources : List (Source E)
  targets : List (Target E)
  classification : Option (Classification E)
  additionalData : List AdditionalData

structure Heartbeat where
  messageid : Option String
  heartbeatInterval : Option UInt32
  analyzers : List (Analyzer E)
  createTime : Option Time
  analyzerTime : Option Time
  additionalData : List AdditionalData

/-- An alert of the first second, without any of its optional parts. -/
def Alert.bare : Alert E where
  messageid := none
  createTime := some ⟨0, 0, 0⟩
  detectTime := none
  analyzerTime := none
  assessment := none
  kind := .default
  analyzers := []
  sources := []
  targets := []
  classification := none
  additionalData := []

/-- A heartbeat of the first second, without any of its optional parts. -/
def Heartbeat.bare : Heartbeat E where
  messageid := none
  heartbeatInterval := none
  analyzers := []
  createTime := some ⟨0, 0, 0⟩
  analyzerTime := none
  additionalData := []

/-- `idmef_message_t` by its type tag. -/
inductive Message where
  | alert (alert : Alert E)
  | heartbeat (heartbeat : Heartbeat E)

end RequiemDB
