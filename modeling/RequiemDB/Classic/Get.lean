import RequiemDB.Classic.Insert
import RequiemDB.Sql.Field

/-!
# Reading a message

The functions of `classic-get.c`, in the order of the source. A reader answers the
part of the tree it builds, or the error that ends the reading of the message. A
part is absent where the source finds no row or no field for it. An enumeration
that is not optional keeps its initial value where its field is absent.
-/

namespace RequiemDB

open Lib

/-- A function that reads: an error, or what was read. -/
abbrev Get (α : Type) := ExceptT ErrorCode Sql α

namespace Get

variable {α β : Type}

/-- A call of the plugin that answers an error or data. -/
def perform (op : SqlOp) (reply : SqlReply op → Except ErrorCode α) : Get α :=
  ExceptT.mk (.perform op fun answer => .done (reply answer))

/-- The result of a conversion. -/
def convert (result : Except ErrorCode α) : Get α := ExceptT.mk (.done result)

end Get

/-- A fetched row, its cells in the order of the `SELECT` list. -/
abbrev Fetched := List Cell

/-- `requiemdb_sql_query_sprintf` on a `SELECT`, with all rows it finds. -/
def requiemdbSqlQuery (columns : List Column) (query : Select) : Get (List Fetched) :=
  .perform (.select query) fun rows => rows.map fun rows => rows.map fun row => columns.map row.cell

def requiemdbSqlTableFetchRow (table : Table) (fetched : Nat) : Get Unit :=
  .perform (.fetchRow table fetched) id

def requiemdbSqlRowFetchField (row : Fetched) (column : Nat) : Get (Option Cell) :=
  .perform (.fetchField (row.getD column .null)) id

def requiemdbSqlUnescapeBinary (input : List UInt8) : Get (List UInt8) :=
  .perform (.unescapeBinary input) id

/-- The `-1` of `get_timestamp` for an offset that is missing. -/
def missingOffset : ErrorCode := ⟨-1, minusOne_negative⟩

/-- The `-1` of `get_additional_data` for a type without a name. -/
def unknownDataType : ErrorCode := ⟨-1, minusOne_negative⟩

/-- `REQUIEMDB_ERROR_INVALID_MESSAGE_IDENT`. -/
def invalidMessageIdent : ErrorCode := ⟨-1, minusOne_negative⟩

/-- The end of a reader that goes on with a variable that was never set. -/
def unsetField : ErrorCode := ⟨-1, minusOne_negative⟩

section Loops

variable {α β : Type}

/--
`while ( (ret = requiemdb_sql_table_fetch_row(table, &row)) > 0 )`: the body for each row, under
its position. The last fetch finds no row.
-/
def fetchRows (table : Table) (body : Int → Fetched → Get α) : Int → List Fetched → Get (List α)
  | index, [] => do
      requiemdbSqlTableFetchRow table index.toNat
      return []
  | index, row :: rows => do
      requiemdbSqlTableFetchRow table index.toNat
      let element ← body index row
      let elements ← fetchRows table body (index + 1) rows
      return element :: elements

/-- The readers of a list: no row is fetched of a query that finds none. -/
def getListed (columns : List Column) (query : Select) (body : Int → Fetched → Get α) :
    Get (List α) := do
  match ← requiemdbSqlQuery columns query with
  | [] => return []
  | rows => fetchRows query.table body 0 rows

/-- The readers of a single part. -/
def getSingle (columns : List Column) (query : Select) (body : Fetched → Get α) :
    Get (Option α) := do
  match ← requiemdbSqlQuery columns query with
  | [] => return none
  | row :: _ =>
      requiemdbSqlTableFetchRow query.table 0
      return some (← body row)

/-- The test for another row, where an error is overwritten behind the loop. -/
def fetchesRow (table : Table) (fetched : Nat) : Get Bool :=
  tryCatch (do requiemdbSqlTableFetchRow table fetched; return true) fun _ => return false

/-- The loop of `getElements` behind the first row. -/
def fetchLater (table : Table) (body : Int → Fetched → Get α) : Int → List Fetched → Get (List α)
  | index, [] => do
      let _ ← fetchesRow table index.toNat
      return []
  | index, row :: rows => do
      if ← fetchesRow table index.toNat then
        let element ← body index row
        let elements ← fetchLater table body (index + 1) rows
        return element :: elements
      else return []

/--
The first loop of a reader with a second one over the elements read. An error of a fetch ends the
loop, and the second loop overwrites it unless there are no elements.
-/
def getElements (columns : List Column) (query : Select) (body : Int → Fetched → Get α) :
    Get (List α) := do
  match ← requiemdbSqlQuery columns query with
  | [] => return []
  | row :: rows =>
      requiemdbSqlTableFetchRow query.table 0
      let element ← body 0 row
      let elements ← fetchLater query.table body 1 rows
      return element :: elements

/-- The loop over the elements read so far, each under its position `cnt`. -/
def getNested (body : Int → α → Get β) : Int → List α → Get (List β)
  | _, [] => return []
  | cnt, element :: elements => do
      let nested ← body cnt element
      let later ← getNested body (cnt + 1) elements
      return nested :: later

end Loops

section Fields

variable {E : EnumKind → Type} [Librequiem E] {kind : EnumKind} (row : Fetched) (index : Nat)

/-- `get_uint8`; the new value is assigned or the reader fails. -/
def getUint8 : Get (Option UInt8) := do
  let some field ← requiemdbSqlRowFetchField row index | return none
  return some (← .convert (requiemdbSqlFieldToUint8 field))

/-- The other `get_` functions: a new value is zero before its field is converted. -/
def getNumber {α : Type} (conversion : Cell → Except ErrorCode (Option α)) (zero : α) :
    Get (Option α) := do
  let some field ← requiemdbSqlRowFetchField row index | return none
  return some ((← .convert (conversion field)).getD zero)

def getUint16 : Get (Option UInt16) := getNumber row index requiemdbSqlFieldToUint16 0

def getUint32 : Get (Option UInt32) := getNumber row index requiemdbSqlFieldToUint32 0

def getFloat : Get (Option Int) := getNumber row index requiemdbSqlFieldToFloat 0

def getString : Get (Option String) := do
  let some field ← requiemdbSqlRowFetchField row index | return none
  return some field.value

def getEnum : Get (Option (E kind)) := do
  let some field ← requiemdbSqlRowFetchField row index | return none
  return some (Librequiem.toNumeric field.value)

/-- An enumeration that is not optional. -/
def getMandatoryEnum [Inhabited (E kind)] : Get (E kind) := do
  return (← getEnum row index).getD default

/-- `get_string_listed` for each row: an absent string is no element of the list. -/
def getStringListed (columns : List Column) (query : Select) : Get (List String) := do
  return (← getListed columns query fun _ row => getString row 0).filterMap id

/-- `unassigned` is what the local variable `gmtoff` holds before it is assigned. -/
def getTimestamp (unassigned : Int) (timeIndex gmtoffIndex : Nat) (usecIndex : Option Nat) :
    Get (Option Time) := do
  let some timeField ← requiemdbSqlRowFetchField row timeIndex | return none
  let some gmtoffField ← requiemdbSqlRowFetchField row gmtoffIndex | throw missingOffset
  let usec ← match usecIndex with
    | none => pure 0
    | some usecIndex => do
        let some usecField ← requiemdbSqlRowFetchField row usecIndex | throw missingOffset
        pure ((← .convert (requiemdbSqlFieldToUint32 usecField)).getD 0)
  let gmtoff := (← .convert (requiemdbSqlFieldToInt32 gmtoffField)).getD (.ofInt unassigned)
  return some (← .convert (requiemdbSqlTimeFromTimestamp timeField gmtoff usec))

end Fields

section Readers

variable {E : EnumKind → Type} [Librequiem E] [∀ kind, Inhabited (E kind)]
variable (unassigned : Int) (messageIdent : Nat) (parentType : ParentType) (parentIndex : Int)

/-- The three readers of a time of the message. -/
def getMessageTime (table : Table) (letter : ParentTypeTest) : Get (Option Time) := do
  let time ← getSingle [.time, .gmtoff, .usec]
    { table, parentType := letter, messageIdent, parents := [], listed := false }
    fun row => getTimestamp row unassigned 0 1 (some 2)
  return time.join

def getAnalyzerTime : Get (Option Time) :=
  getMessageTime unassigned messageIdent .analyzerTime (.is parentType)

def getDetectTime : Get (Option Time) :=
  getMessageTime unassigned messageIdent .detectTime .any

def getCreateTime : Get (Option Time) :=
  getMessageTime unassigned messageIdent .createTime (.is parentType)

/-- The rows of `get_user_id`; a parent that is not `listed` keeps the last of them. -/
def getUserId (fileIndex fileAccessIndex : Int) : Get (List (UserId E)) :=
  getListed [.ident, .type, .name, .number, .tty]
    { table := .userId, parentType := .is parentType, messageIdent
      parents := [parentIndex, fileIndex, fileAccessIndex], listed := true }
    fun _ row => do
      let ident ← getString row 0
      let type ← getMandatoryEnum row 1
      let name ← getString row 2
      let number ← getUint32 row 3
      let tty ← getString row 4
      return { ident, type, name, number, tty }

def getUser : Get (Option (User E)) :=
  getSingle [.ident, .category]
    { table := .user, parentType := .is parentType, messageIdent, parents := [parentIndex]
      listed := false }
    fun row => do
      let ident ← getString row 0
      let category ← getMandatoryEnum row 1
      let userIds ← getUserId messageIdent parentType parentIndex 0 0
      return { ident, category, userIds }

/-- The `char` that an index is passed in. -/
def charIndex (index : Int) : Int := (Int8.ofInt index).toInt

/-- The parameter `parent_index` is a `char`. -/
def getProcessArg : Get (List String) :=
  getStringListed [.arg]
    { table := .processArg, parentType := .is parentType, messageIdent
      parents := [charIndex parentIndex], listed := true }

def getProcessEnv : Get (List String) :=
  getStringListed [.env]
    { table := .processEnv, parentType := .is parentType, messageIdent, parents := [parentIndex]
      listed := true }

def getProcess : Get (Option Process) :=
  getSingle [.ident, .name, .pid, .path]
    { table := .process, parentType := .is parentType, messageIdent, parents := [parentIndex]
      listed := false }
    fun row => do
      let ident ← getString row 0
      let name ← getString row 1
      let pid ← getUint32 row 2
      let path ← getString row 3
      let args ← getProcessArg messageIdent parentType parentIndex
      let envs ← getProcessEnv messageIdent parentType parentIndex
      return { ident, name, pid, path, args, envs }

def getWebServiceArg : Get (List String) :=
  getStringListed [.arg]
    { table := .webServiceArg, parentType := .is parentType, messageIdent
      parents := [parentIndex], listed := true }

def getWebService : Get (Option WebService) :=
  getSingle [.url, .cgi, .httpMethod]
    { table := .webService, parentType := .is parentType, messageIdent, parents := [parentIndex]
      listed := false }
    fun row => do
      let url ← getString row 0
      let cgi ← getString row 1
      let httpMethod ← getString row 2
      let args ← getWebServiceArg messageIdent parentType parentIndex
      return { url, cgi, httpMethod, args }

def getSnmpService : Get (Option SnmpService) :=
  getSingle [.snmpOid, .messageProcessingModel, .securityModel, .securityName, .securityLevel,
      .contextName, .contextEngineId, .command]
    { table := .snmpService, parentType := .is parentType, messageIdent, parents := [parentIndex]
      listed := false }
    fun row => do
      let oid ← getString row 0
      let messageProcessingModel ← getUint32 row 1
      let securityModel ← getUint32 row 2
      let securityName ← getString row 3
      let securityLevel ← getUint32 row 4
      let contextName ← getString row 5
      let contextEngineId ← getString row 6
      let command ← getString row 7
      return { oid, messageProcessingModel, securityModel, securityName, securityLevel
               contextName, contextEngineId, command }

/-- A new part of a service takes the place of the one before. -/
def serviceKind (webService : Option WebService) (snmpService : Option SnmpService) :
    ServiceKind :=
  ((snmpService.map .snmp).or (webService.map .web)).getD .default

/-- A query that fails is taken for one that finds no service. -/
def getService : Get (Option Service) := do
  let columns := [.ident, .ipVersion, .name, .port, .ianaProtocolNumber, .ianaProtocolName,
    .portlist, .protocol]
  let query : Select := { table := .service, parentType := .is parentType, messageIdent
                          parents := [parentIndex], listed := false }
  match ← tryCatch (requiemdbSqlQuery columns query) fun _ => return [] with
  | [] => return none
  | row :: _ =>
      requiemdbSqlTableFetchRow .service 0
      let ident ← getString row 0
      let ipVersion ← getUint8 row 1
      let name ← getString row 2
      let port ← getUint16 row 3
      let ianaProtocolNumber ← getUint8 row 4
      let ianaProtocolName ← getString row 5
      let portlist ← getString row 6
      let protocol ← getString row 7
      let webService ← getWebService messageIdent parentType parentIndex
      let snmpService ← getSnmpService messageIdent parentType parentIndex
      return some { ident, ipVersion, name, port, ianaProtocolNumber, ianaProtocolName, portlist
                    protocol, kind := serviceKind webService snmpService }

/-- `get_uint32` assigns the bits of the signed `vlan_num`. -/
def getAddress : Get (List (Address E)) :=
  getListed [.ident, .category, .vlanName, .vlanNum, .address, .netmask]
    { table := .address, parentType := .is parentType, messageIdent, parents := [parentIndex]
      listed := true }
    fun _ row => do
      let ident ← getString row 0
      let category ← getMandatoryEnum row 1
      let vlanName ← getString row 2
      let vlanNum ← getUint32 row 3
      let address ← getString row 4
      let netmask ← getString row 5
      return { ident, category, vlanName, vlanNum := vlanNum.map (·.toInt32), address, netmask }

def getNode : Get (Option (Node E)) :=
  getSingle [.ident, .category, .location, .name]
    { table := .node, parentType := .is parentType, messageIdent, parents := [parentIndex]
      listed := false }
    fun row => do
      let ident ← getString row 0
      let category ← getMandatoryEnum row 1
      let location ← getString row 2
      let name ← getString row 3
      let addresses ← getAddress messageIdent parentType parentIndex
      return { ident, category, location, name, addresses }

def getAnalyzer : Get (List (Analyzer E)) :=
  getListed [.analyzerid, .name, .manufacturer, .model, .version, .class_, .ostype, .osversion]
    { table := .analyzer, parentType := .is parentType, messageIdent, parents := []
      listed := true }
    fun index row => do
      let analyzerid ← getString row 0
      let name ← getString row 1
      let manufacturer ← getString row 2
      let model ← getString row 3
      let version ← getString row 4
      let class_ ← getString row 5
      let ostype ← getString row 6
      let osversion ← getString row 7
      let node ← getNode messageIdent parentType index
      let process ← getProcess messageIdent parentType index
      return { analyzerid, name, manufacturer, model, version, class_, ostype, osversion, node
               process }

def getAction : Get (List (Action E)) :=
  getListed [.category, .description]
    { table := .action, parentType := .any, messageIdent, parents := [], listed := true }
    fun _ row => do
      let category ← getMandatoryEnum row 0
      let description ← getString row 1
      return { category, description }

/-- A number that is not read stays zero. -/
def getConfidence : Get (Option (Confidence E)) :=
  getSingle [.rating, .confidence]
    { table := .confidence, parentType := .any, messageIdent, parents := [], listed := false }
    fun row => do
      let rating ← getMandatoryEnum row 0
      let confidence ← getFloat row 1
      return { rating, confidence := confidence.getD 0 }

def getImpact : Get (Option (Impact E)) :=
  getSingle [.severity, .completion, .type, .description]
    { table := .impact, parentType := .any, messageIdent, parents := [], listed := false }
    fun row => do
      let severity ← getEnum row 0
      let completion ← getEnum row 1
      let type ← getMandatoryEnum row 2
      let description ← getString row 3
      return { severity, completion, type, description }

/-- The row of the assessment is looked for and not fetched. -/
def getAssessment : Get (Option (Assessment E)) := do
  match ← requiemdbSqlQuery []
    { table := .assessment, parentType := .any, messageIdent, parents := [], listed := false } with
  | [] => return none
  | _ :: _ =>
      let impact ← getImpact messageIdent
      let confidence ← getConfidence messageIdent
      let actions ← getAction messageIdent
      return some { impact, confidence, actions }

section Files

variable (targetIndex fileIndex : Int)

def getFileAccessPermission (fileAccessIndex : Int) : Get (List String) :=
  getStringListed [.permission]
    { table := .fileAccessPermission, parentType := .any, messageIdent
      parents := [targetIndex, fileIndex, fileAccessIndex], listed := true }

/-- The user of a file access whose row was not found. -/
def initialUserId : UserId E where
  ident := none
  type := default
  tty := none
  name := none
  number := none

/-- `COUNT(*)` answers one row, whose field is the number of the rows found. -/
def countField (columns : List Column) (query : Select) : Get Fetched := do
  return [.number (← requiemdbSqlQuery columns query).length]

def getFileAccess : Get (List (FileAccess E)) := do
  let row ← countField []
    { table := .fileAccess, parentType := .any, messageIdent, parents := [targetIndex, fileIndex]
      listed := true }
  requiemdbSqlTableFetchRow .fileAccess 0
  let some field ← requiemdbSqlRowFetchField row 0 | return []
  let fileAccessCount :=
    (← .convert (requiemdbSqlFieldToUint32 field)).getD (.ofInt unassigned)
  getNested (fun cnt _ => do
      let userIds ← getUserId messageIdent .F targetIndex fileIndex cnt
      let permissions ← getFileAccessPermission messageIdent targetIndex fileIndex cnt
      return { userId := userIds.getLast?.getD initialUserId, permissions })
    0 (List.replicate fileAccessCount.toNat ())

def getLinkage : Get (List (Linkage E)) :=
  getListed [.category, .name, .path]
    { table := .linkage, parentType := .any, messageIdent, parents := [targetIndex, fileIndex]
      listed := true }
    fun _ row => do
      let category ← getMandatoryEnum row 0
      let name ← getString row 1
      let path ← getString row 2
      return { category, name, path }

def getInode : Get (Option Inode) :=
  getSingle [.changeTime, .changeTimeGmtoff, .number, .majorDevice, .minorDevice, .cMajorDevice,
      .cMinorDevice]
    { table := .inode, parentType := .any, messageIdent, parents := [targetIndex, fileIndex]
      listed := false }
    fun row => do
      let changeTime ← getTimestamp row unassigned 0 1 none
      let number ← getUint32 row 2
      let majorDevice ← getUint32 row 3
      let minorDevice ← getUint32 row 4
      let cMajorDevice ← getUint32 row 5
      let cMinorDevice ← getUint32 row 6
      return { changeTime, number, majorDevice, minorDevice, cMajorDevice, cMinorDevice }

def getChecksum : Get (List (Checksum E)) :=
  getListed [.value, .checksumKey, .algorithm]
    { table := .checksum, parentType := .any, messageIdent, parents := [targetIndex, fileIndex]
      listed := true }
    fun _ row => do
      let value ← getString row 0
      let key ← getString row 1
      let algorithm ← getMandatoryEnum row 2
      return { value, key, algorithm }

/-- The columns of a file. `get_uint32` assigns the low half of the 64-bit sizes. -/
def getFileRow (row : Fetched) : Get (File E) := do
  let ident ← getString row 0
  let category ← getMandatoryEnum row 1
  let name ← getString row 2
  let path ← getString row 3
  let createTime ← getTimestamp row unassigned 4 5 none
  let modifyTime ← getTimestamp row unassigned 6 7 none
  let accessTime ← getTimestamp row unassigned 8 9 none
  let dataSize ← getUint32 row 10
  let diskSize ← getUint32 row 11
  let fstype ← getEnum row 12
  let fileType ← getString row 13
  return { ident, category, name, path, createTime, modifyTime, accessTime
           dataSize := dataSize.map (·.toUInt64), diskSize := diskSize.map (·.toUInt64)
           fstype, fileType, fileAccesses := [], linkages := [], inode := none, checksums := [] }

/-- All files of the target are read before the parts of each. -/
def getFile : Get (List (File E)) := do
  let files ← getElements [.ident, .category, .name, .path, .createTime, .createTimeGmtoff,
      .modifyTime, .modifyTimeGmtoff, .accessTime, .accessTimeGmtoff, .dataSize, .diskSize,
      .fstype, .fileType]
    { table := .file, parentType := .any, messageIdent, parents := [targetIndex], listed := true }
    fun _ row => getFileRow unassigned row
  getNested (fun cnt file => do
      let fileAccesses ← getFileAccess unassigned messageIdent targetIndex cnt
      let linkages ← getLinkage messageIdent targetIndex cnt
      let inode ← getInode unassigned messageIdent targetIndex cnt
      let checksums ← getChecksum messageIdent targetIndex cnt
      return { file with fileAccesses, linkages, inode, checksums }) 0 files

end Files

/-- All sources are read before the parts of each. -/
def getSource : Get (List (Source E)) := do
  let sources : List (Source E) ← getElements [.ident, .spoofed, .interface]
    { table := .source, parentType := .any, messageIdent, parents := [], listed := true }
    fun _ row => do
      let ident ← getString row 0
      let spoofed ← getMandatoryEnum row 1
      let interface ← getString row 2
      return { ident, spoofed, interface, node := none, user := none, process := none
               service := none }
  getNested (fun cnt source => do
      let node ← getNode messageIdent .S cnt
      let user ← getUser messageIdent .S cnt
      let process ← getProcess messageIdent .S cnt
      let service ← getService messageIdent .S cnt
      return { source with node, user, process, service }) 0 sources

/-- All targets are read before the parts of each. -/
def getTarget : Get (List (Target E)) := do
  let targets : List (Target E) ← getElements [.ident, .decoy, .interface]
    { table := .target, parentType := .any, messageIdent, parents := [], listed := true }
    fun _ row => do
      let ident ← getString row 0
      let decoy ← getMandatoryEnum row 1
      let interface ← getString row 2
      return { ident, decoy, interface, node := none, user := none, process := none
               service := none, files := [] }
  getNested (fun cnt target => do
      let node ← getNode messageIdent .T cnt
      let user ← getUser messageIdent .T cnt
      let process ← getProcess messageIdent .T cnt
      let service ← getService messageIdent .T cnt
      let files ← getFile unassigned messageIdent cnt
      return { target with node, user, process, service, files }) 0 targets

/-- A field that does not convert is kept as a text. -/
def dataOrText {α : Type} (field : Cell) (conversion : Except ErrorCode α) (set : α → Data) :
    Data :=
  match conversion with
  | .error _ => .charString (cString field.bytes)
  | .ok value => set value

/--
The `switch` on the type of an additional data. A variable that a conversion does not assign
holds `unassigned`.
-/
def getPayload (field : Cell) : AdditionalDataType → Get Data
  | .boolean | .byte => pure <| dataOrText field (requiemdbSqlFieldToUint8 field) .byte
  | .character => pure <| dataOrText field (requiemdbSqlFieldToUint8 field) .char
  | .dateTime | .portlist | .string | .xml => pure <| .charString (cString field.bytes)
  | .real => pure <| dataOrText field (requiemdbSqlFieldToFloat field) fun value =>
      .float (value.getD unassigned)
  | .integer => pure <| dataOrText field (requiemdbSqlFieldToUint32 field) fun value =>
      .uint32 (value.getD (.ofInt unassigned))
  | .byteString => .byteString <$> requiemdbSqlUnescapeBinary field.bytes
  | .ntpstamp => pure <| dataOrText field (requiemdbSqlFieldToUint64 field) fun value =>
      .uint64 (value.getD (.ofInt unassigned))

/--
What is read of the additional data: the elements, and the type and meaning of an element
whose data is absent. The type may be the error value of its enumeration.
-/
structure DataRead where
  elements : List AdditionalData
  dataless : Option (Option AdditionalDataType × Option String)

variable (E) in
/-- The type of an element; a new element is a string. -/
def getDataType (row : Fetched) : Get (Option AdditionalDataType) := do
  let some field ← requiemdbSqlRowFetchField row 0 | return some .string
  return Librequiem.dataTypeToNumeric E field.value

variable (E) in
/-- The loop of `get_additional_data`, which ends without an error at an element without data. -/
def fetchData : Nat → List Fetched → Get DataRead
  | fetched, [] => do
      requiemdbSqlTableFetchRow .additionalData fetched
      return ⟨[], none⟩
  | fetched, row :: rows => do
      requiemdbSqlTableFetchRow .additionalData fetched
      let type ← getDataType E row
      let meaning ← getString row 1
      let some field ← requiemdbSqlRowFetchField row 2 | return ⟨[], some (type, meaning)⟩
      let some type := type | throw unknownDataType
      let data ← getPayload unassigned field type
      let later ← fetchData (fetched + 1) rows
      return ⟨{ type, meaning, data } :: later.elements, later.dataless⟩

variable (E) in
def getAdditionalData : Get DataRead := do
  match ← requiemdbSqlQuery [.type, .meaning, .data]
    { table := .additionalData, parentType := .is parentType, messageIdent, parents := []
      listed := true } with
  | [] => return ⟨[], none⟩
  | rows => fetchData E unassigned 0 rows

def getReference : Get (List (Reference E)) :=
  getListed [.origin, .name, .url, .meaning]
    { table := .reference, parentType := .any, messageIdent, parents := [], listed := true }
    fun _ row => do
      let origin ← getMandatoryEnum row 0
      let name ← getString row 1
      let url ← getString row 2
      let meaning ← getString row 3
      return { origin, name, url, meaning }

def getClassification : Get (Option (Classification E)) :=
  getSingle [.ident, .text]
    { table := .classification, parentType := .any, messageIdent, parents := [], listed := false }
    fun row => do
      let ident ← getString row 0
      let text ← getString row 1
      let references ← getReference messageIdent
      return { ident, text, references }

def getAlertident : Get (List Alertident) :=
  getListed [.alertident, .analyzerid]
    { table := .alertident, parentType := .is parentType, messageIdent, parents := []
      listed := true }
    fun _ row => do
      let alertident ← getString row 0
      let analyzerid ← getString row 1
      return { alertident, analyzerid }

def getToolAlert : Get (Option ToolAlert) :=
  getSingle [.name, .command]
    { table := .toolAlert, parentType := .any, messageIdent, parents := [], listed := false }
    fun row => do
      let name ← getString row 0
      let command ← getString row 1
      let alertidents ← getAlertident messageIdent .T
      return { name, command, alertidents }

def getCorrelationAlert : Get (Option CorrelationAlert) :=
  getSingle [.name]
    { table := .correlationAlert, parentType := .any, messageIdent, parents := []
      listed := false }
    fun row => do
      let name ← getString row 0
      let alertidents ← getAlertident messageIdent .C
      return { name, alertidents }

/-- The source tests the fetch of the buffer for an error alone. -/
def getOverflowAlert : Get (Option OverflowAlert) :=
  getSingle [.program, .size, .buffer]
    { table := .overflowAlert, parentType := .any, messageIdent, parents := [], listed := false }
    fun row => do
      let program ← getString row 0
      let size ← getUint32 row 1
      let some field ← requiemdbSqlRowFetchField row 2 | throw unsetField
      let buffer ← requiemdbSqlUnescapeBinary field.bytes
      return { program, size, buffer := .byteString buffer }

/-- A new kind of an alert takes the place of the one before. -/
def alertKind (toolAlert : Option ToolAlert) (correlationAlert : Option CorrelationAlert)
    (overflowAlert : Option OverflowAlert) : AlertKind :=
  ((overflowAlert.map .overflow).or
    ((correlationAlert.map .correlation).or (toolAlert.map .tool))).getD .default

/-- The row of the message itself. -/
def getMessageRow {α : Type} (columns : List Column) (table : MessageTable) (ident : Nat)
    (body : Fetched → Get α) : Get α := do
  match ← requiemdbSqlQuery columns
    { table := table.table, parentType := .any, messageIdent := ident, parents := []
      listed := false } with
  | [] => throw invalidMessageIdent
  | row :: _ =>
      requiemdbSqlTableFetchRow table.table 0
      body row

def getAlertMessageid (ident : Nat) : Get (Option String) :=
  getMessageRow [.messageid] .alert ident fun row => getString row 0

/-- A message as it is read, with an element of its additional data whose data is absent. -/
structure MessageRead (E : EnumKind → Type) where
  message : Message E
  dataless : Option (Option AdditionalDataType × Option String)

def classicGetAlert (ident : Nat) : Get (MessageRead E) := do
  let messageid ← getAlertMessageid ident
  let assessment ← getAssessment ident
  let analyzers ← getAnalyzer ident .A
  let createTime ← getCreateTime unassigned ident .A
  let detectTime ← getDetectTime unassigned ident
  let analyzerTime ← getAnalyzerTime unassigned ident .A
  let sources ← getSource ident
  let targets ← getTarget unassigned ident
  let classification ← getClassification ident
  let data ← getAdditionalData E unassigned ident .A
  let toolAlert ← getToolAlert ident
  let correlationAlert ← getCorrelationAlert ident
  let overflowAlert ← getOverflowAlert ident
  return ⟨.alert { messageid, assessment, analyzers, createTime, detectTime, analyzerTime, sources
                   targets, classification, additionalData := data.elements
                   kind := alertKind toolAlert correlationAlert overflowAlert }, data.dataless⟩

/-- `_get_heartbeat`. -/
def getHeartbeat (ident : Nat) : Get (Option String × Option UInt32) :=
  getMessageRow [.messageid, .heartbeatInterval] .heartbeat ident fun row => do
    let messageid ← getString row 0
    let heartbeatInterval ← getUint32 row 1
    return (messageid, heartbeatInterval)

def classicGetHeartbeat (ident : Nat) : Get (MessageRead E) := do
  let (messageid, heartbeatInterval) ← getHeartbeat ident
  let analyzers ← getAnalyzer ident .H
  let createTime ← getCreateTime unassigned ident .H
  let analyzerTime ← getAnalyzerTime unassigned ident .H
  let data ← getAdditionalData E unassigned ident .H
  return ⟨.heartbeat { messageid, heartbeatInterval, analyzers, createTime, analyzerTime
                       additionalData := data.elements }, data.dataless⟩

end Readers

end RequiemDB
