import RequiemDB.Classic.Payload
import RequiemDB.Idmef.Texts

/-!
# What comes back of a message

`answered` is a message as the queries of its reader find it: the arguments of a
process are those below the index that the reader asks for, and the schema or the
width of a conversion has cut some numbers. `returned` is what the reader makes of
it, where the plugin decides which texts and payloads are there at all.
-/

namespace RequiemDB

open Lib

variable {E : EnumKind → Type} {α : Type}

section Queries

/-- The process of the element at an index. -/
def processAt (process : α → Option Process) (elements : List α) (index : Int) : Option Process :=
  (atIndex elements index).bind process

/-- The arguments that are asked for at an index, which is passed in a `char`. -/
def argsAsked (processes : Int → Option Process) (index : Int) : List String :=
  (processes (charIndex index)).elim [] Process.args

def Process.answered (processes : Int → Option Process) (index : Int) (process : Process) :
    Process :=
  { process with args := argsAsked processes index }

def Analyzer.answered (analyzers : List (Analyzer E)) (index : Int) (analyzer : Analyzer E) :
    Analyzer E :=
  { analyzer with
    process := analyzer.process.map
      (Process.answered (processAt Analyzer.process analyzers) index) }

def Inode.answered (inode : Inode) : Inode :=
  { inode with changeTime := inode.changeTime.map Time.wholeSeconds }

/--
The number of the file accesses is read into 32 bits, and so are the sizes (`read_dataSize`).
-/
def File.answered (file : File E) : File E :=
  { file with
    createTime := file.createTime.map Time.wholeSeconds
    modifyTime := file.modifyTime.map Time.wholeSeconds
    accessTime := file.accessTime.map Time.wholeSeconds
    dataSize := file.dataSize.map fun size => size.toUInt32.toUInt64
    diskSize := file.diskSize.map fun size => size.toUInt32.toUInt64
    fileAccesses := file.fileAccesses.take (file.fileAccesses.length % 2 ^ 32)
    inode := file.inode.map Inode.answered }

def Source.answered (sources : List (Source E)) (index : Int) (source : Source E) : Source E :=
  { source with
    process := source.process.map (Process.answered (processAt Source.process sources) index) }

def Target.answered (targets : List (Target E)) (index : Int) (target : Target E) : Target E :=
  { target with
    process := target.process.map (Process.answered (processAt Target.process targets) index)
    files := target.files.map File.answered }

/-- Each element of a list, answered under its position. -/
def answeredUnder (answer : List α → Int → α → α) (elements : List α) : List α :=
  each (fun index element => [answer elements index element]) 0 elements

def Alert.answered (alert : Alert E) : Alert E :=
  { alert with
    analyzers := answeredUnder Analyzer.answered alert.analyzers
    sources := answeredUnder Source.answered alert.sources
    targets := answeredUnder Target.answered alert.targets }

def Heartbeat.answered (heartbeat : Heartbeat E) : Heartbeat E :=
  { heartbeat with analyzers := answeredUnder Analyzer.answered heartbeat.analyzers }

end Queries

section Plugin

variable (retrieval : Retrieval) (unassigned : Int)

/-- The texts of a message as the plugin returns them. -/
def Retrieval.textMap : TextMap := ⟨retrieval.text, retrieval.texts⟩

@[simp]
theorem textMap_one (text : Option String) : retrieval.textMap.one text = retrieval.text text :=
  rfl

@[simp]
theorem textMap_many (texts : List String) :
    retrieval.textMap.many texts = retrieval.texts texts := rfl

/-- What `getPayload` makes of a field. -/
def Retrieval.payload (field : Cell) : AdditionalDataType → Data
  | .boolean | .byte => dataOrText field (requiemdbSqlFieldToUint8 field) .byte
  | .character => dataOrText field (requiemdbSqlFieldToUint8 field) .char
  | .dateTime | .portlist | .string | .xml => .charString (cString field.bytes)
  | .real => dataOrText field (requiemdbSqlFieldToFloat field) fun value =>
      .float (value.getD unassigned)
  | .integer => dataOrText field (requiemdbSqlFieldToUint32 field) fun value =>
      .uint32 (value.getD (.ofInt unassigned))
  | .byteString => .byteString (retrieval.unescapeBinary field.bytes)
  | .ntpstamp => dataOrText field (requiemdbSqlFieldToUint64 field) fun value =>
      .uint64 (value.getD (.ofInt unassigned))

variable (E) [Librequiem E]

/-- The elements up to the first one whose data is absent. -/
def Retrieval.dataReturned : List AdditionalData → DataRead
  | [] => ⟨[], none⟩
  | ⟨type, meaning, data⟩ :: elements =>
      match retrieval.fetchField (.blob (getData E data)) with
      | none => ⟨[], some (some type, retrieval.text meaning)⟩
      | some field =>
          let later := dataReturned elements
          let data := retrieval.payload unassigned field type
          ⟨⟨type, retrieval.text meaning, data⟩ :: later.elements, later.dataless⟩

def OverflowAlert.returned (overflowAlert : OverflowAlert) : Except ErrorCode OverflowAlert :=
  match retrieval.fetchField (.blob (getData E overflowAlert.buffer)) with
  | none => .error unsetField
  | some field => .ok
      { overflowAlert with
        program := retrieval.text overflowAlert.program
        buffer := .byteString (retrieval.unescapeBinary field.bytes) }

def AlertKind.returned : AlertKind → Except ErrorCode AlertKind
  | .default => .ok .default
  | .tool toolAlert => .ok (.tool (toolAlert.mapTexts retrieval.textMap))
  | .overflow overflowAlert => .overflow <$> overflowAlert.returned E retrieval
  | .correlation correlationAlert =>
      .ok (.correlation (correlationAlert.mapTexts retrieval.textMap))

variable {E}

def Alert.returned (alert : Alert E) : Except ErrorCode (MessageRead E) := do
  let kind ← alert.kind.returned E retrieval
  let data := retrieval.dataReturned E unassigned alert.additionalData
  return ⟨.alert
    { alert with
      messageid := retrieval.text alert.messageid
      assessment := alert.assessment.map (Assessment.mapTexts retrieval.textMap)
      analyzers := alert.analyzers.map (Analyzer.mapTexts retrieval.textMap)
      sources := alert.sources.map (Source.mapTexts retrieval.textMap)
      targets := alert.targets.map (Target.mapTexts retrieval.textMap)
      classification := alert.classification.map (Classification.mapTexts retrieval.textMap)
      additionalData := data.elements
      kind }, data.dataless⟩

def Heartbeat.returned (heartbeat : Heartbeat E) : MessageRead E :=
  let data := retrieval.dataReturned E unassigned heartbeat.additionalData
  ⟨.heartbeat
    { heartbeat with
      messageid := retrieval.text heartbeat.messageid
      analyzers := heartbeat.analyzers.map (Analyzer.mapTexts retrieval.textMap)
      additionalData := data.elements }, data.dataless⟩

end Plugin

end RequiemDB
