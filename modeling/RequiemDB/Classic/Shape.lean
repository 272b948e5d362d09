import RequiemDB.Classic.Rows
import RequiemDB.Idmef.Shape
import RequiemDB.Sql.Token

/-!
# The rows of messages of one shape

The script of a message without its texts is its script, with the texts left out of
the cells. Each function of `RequiemDB.Classic.Rows` hands a text to a cell and does
nothing else with it.
-/

namespace RequiemDB

open Lib

variable {E : EnumKind → Type} [Librequiem E] {α : Type}

/-- A script of rows without their texts and binary strings. -/
def blankScript (script : Script Row) : Script Row := script.map (Item.map Row.blank)

@[simp]
theorem blankScript_nil : blankScript [] = [] := rfl

@[simp]
theorem blankScript_cons (item : Item Row) (script : Script Row) :
    blankScript (item :: script) = item.map Row.blank :: blankScript script := rfl

@[simp]
theorem blankScript_append (first second : Script Row) :
    blankScript (first ++ second) = blankScript first ++ blankScript second :=
  List.map_append

@[simp]
theorem map_must (row : Row) : (Item.must row).map Row.blank = .must row.blank := rfl

section Cells

@[simp]
theorem blank_stringLiteral (text : Option String) :
    (stringLiteral (blankText text)).blank = (stringLiteral text).blank := by
  cases text <;> rfl

@[simp]
theorem blank_stringLiteral_some (text : String) : (stringLiteral (some text)).blank = .text "" :=
  rfl

@[simp]
theorem blank_blob (bytes : List UInt8) : (Cell.blob bytes).blank = .blob [] := rfl

end Cells

section Lists

/-- The parts of elements without texts, where each part is that of the element. -/
theorem blankScript_each {part : Int → α → Script Row} {blank : α → α}
    (same : ∀ index element, blankScript (part index (blank element)) =
      blankScript (part index element)) (start : Int) (elements : List α) :
    blankScript (each part start (elements.map blank)) =
      blankScript (each part start elements) := by
  induction elements generalizing start with
  | nil => rfl
  | cons element elements ih => simp [same, ih]

theorem blankScript_listed {part : Int → α → Script Row} {blank : α → α}
    (same : ∀ index element, blankScript (part index (blank element)) =
      blankScript (part index element)) (elements : List α) :
    blankScript (listed part (elements.map blank)) = blankScript (listed part elements) := by
  have last : blankScript ((elements.map blank).getLast?.elim [] (part (-1))) =
      blankScript (elements.getLast?.elim [] (part (-1))) := by
    rw [List.getLast?_map]
    cases elements.getLast? with
    | none => rfl
    | some element => exact same (-1) element
  simp only [listed, blankScript_append, blankScript_each same, last]

theorem blankScript_optional {script : α → Script Row} {blank : α → α}
    (same : ∀ element, blankScript (script (blank element)) = blankScript (script element))
    (part : Option α) :
    blankScript (optionalScript script (part.map blank)) =
      blankScript (optionalScript script part) := by
  cases part with
  | none => rfl
  | some element => exact same element

end Lists

section Parts

variable (parentType : ParentType) (messageIdent : Nat) (parentIndex : Int)

theorem blank_nodeScript (node : Node E) :
    blankScript (nodeScript parentType messageIdent parentIndex node.blank) =
      blankScript (nodeScript parentType messageIdent parentIndex node) := by
  simp only [nodeScript, blankScript_cons, Node.blank]
  rw [blankScript_listed]
  · simp [nodeRow, Row.blank]
  · intro index address
    simp [addressRow, Address.blank, Row.blank]

theorem blank_userIdRow (fileIndex fileAccessIndex index : Int) (userId : UserId E) :
    (userIdRow parentType messageIdent parentIndex fileIndex fileAccessIndex index
        userId.blank).blank =
      (userIdRow parentType messageIdent parentIndex fileIndex fileAccessIndex index
        userId).blank := by
  simp [userIdRow, UserId.blank, Row.blank]

theorem blank_userScript (user : User E) :
    blankScript (userScript parentType messageIdent parentIndex user.blank) =
      blankScript (userScript parentType messageIdent parentIndex user) := by
  simp only [userScript, blankScript_cons, User.blank]
  rw [blankScript_listed]
  · simp [userRow, Row.blank]
  · intro index userId
    simp [blank_userIdRow]

theorem blank_stringRow (table : Table) (column : Column) (index : Int) (string other : String) :
    (stringRow parentType messageIdent parentIndex table column index string).blank =
      (stringRow parentType messageIdent parentIndex table column index other).blank := by
  simp [stringRow, Row.blank]

theorem blank_processScript (process : Process) :
    blankScript (processScript parentType messageIdent parentIndex process.blank) =
      blankScript (processScript parentType messageIdent parentIndex process) := by
  simp only [processScript, blankScript_cons, blankScript_append, Process.blank, blankTexts]
  rw [blankScript_each, blankScript_each]
  · simp [processRow, Row.blank]
  · intro index env
    simp [blank_stringRow _ _ _ _ _ _ "" env]
  · intro index arg
    simp [blank_stringRow _ _ _ _ _ _ "" arg]

theorem blank_webServiceScript (webService : WebService) :
    blankScript (webServiceScript parentType messageIdent parentIndex webService.blank) =
      blankScript (webServiceScript parentType messageIdent parentIndex webService) := by
  simp only [webServiceScript, blankScript_cons, WebService.blank, blankTexts]
  rw [blankScript_listed]
  · simp [webServiceRow, Row.blank, Item.map]
  · intro index arg
    simp [blank_stringRow _ _ _ _ _ _ "" arg]

theorem blank_serviceScript (service : Service) :
    blankScript (serviceScript parentType messageIdent parentIndex service.blank) =
      blankScript (serviceScript parentType messageIdent parentIndex service) := by
  have kind : blankScript (serviceKindScript parentType messageIdent parentIndex
      service.kind.blank) =
        blankScript (serviceKindScript parentType messageIdent parentIndex service.kind) := by
    cases service.kind with
    | default => rfl
    | web webService => exact blank_webServiceScript parentType messageIdent parentIndex webService
    | snmp snmpService =>
        simp [ServiceKind.blank, serviceKindScript, snmpServiceRow, SnmpService.blank, Row.blank]
  simp only [serviceScript, blankScript_cons, Service.blank, kind]
  simp [serviceRow, Row.blank]

theorem blank_analyzerScript (analyzerIndex : Int) (analyzer : Analyzer E) :
    blankScript (analyzerScript parentType messageIdent analyzerIndex analyzer.blank) =
      blankScript (analyzerScript parentType messageIdent analyzerIndex analyzer) := by
  simp only [analyzerScript, blankScript_cons, blankScript_append, Analyzer.blank,
    blankScript_optional (blank_nodeScript parentType messageIdent analyzerIndex),
    blankScript_optional (blank_processScript parentType messageIdent analyzerIndex)]
  simp [analyzerRow, Row.blank]

theorem blank_additionalDataRow (adIndex : Int) (additionalData : AdditionalData) :
    (additionalDataRow parentType messageIdent E adIndex additionalData.blank).blank =
      (additionalDataRow parentType messageIdent E adIndex additionalData).blank := by
  simp [additionalDataRow, AdditionalData.blank, Row.blank]

theorem blank_alertidentRow (alertidentIndex : Int) (alertident : Alertident) :
    (alertidentRow parentType messageIdent alertidentIndex (some alertident.blank)).blank =
      (alertidentRow parentType messageIdent alertidentIndex (some alertident)).blank := by
  simp [alertidentRow, Alertident.blank, Row.blank]

end Parts

section Files

variable (messageIdent : Nat) (targetIndex fileIndex : Int)

theorem blank_fileAccessScript (fileAccessIndex : Int) (fileAccess : FileAccess E) :
    blankScript (fileAccessScript messageIdent targetIndex fileIndex fileAccessIndex
        fileAccess.blank) =
      blankScript (fileAccessScript messageIdent targetIndex fileIndex fileAccessIndex
        fileAccess) := by
  simp only [fileAccessScript, blankScript_cons, blankScript_append, FileAccess.blank, blankTexts]
  rw [blankScript_listed]
  · simp [blank_userIdRow]
  · intro index perm
    simp [fileAccessPermissionRow, Row.blank]

theorem blank_fileScript (file : File E) :
    blankScript (fileScript messageIdent targetIndex fileIndex file.blank) =
      blankScript (fileScript messageIdent targetIndex fileIndex file) := by
  simp only [fileScript, blankScript_cons, blankScript_append, File.blank,
    blankScript_listed (blank_fileAccessScript messageIdent targetIndex fileIndex)]
  rw [blankScript_listed, blankScript_listed]
  · simp [fileRow, Row.blank]
  · intro index checksum
    simp [checksumRow, Checksum.blank, Row.blank]
  · intro index linkage
    simp [linkageRow, Linkage.blank, Row.blank]

end Files

section AlertParts

variable (messageIdent : Nat)

theorem blank_sourceScript (index : Int) (source : Source E) :
    blankScript (sourceScript messageIdent index source.blank) =
      blankScript (sourceScript messageIdent index source) := by
  simp only [sourceScript, blankScript_cons, blankScript_append, Source.blank,
    blankScript_optional (blank_nodeScript .S messageIdent index),
    blankScript_optional (blank_userScript .S messageIdent index),
    blankScript_optional (blank_processScript .S messageIdent index),
    blankScript_optional (blank_serviceScript .S messageIdent index)]
  simp [sourceRow, Row.blank]

theorem blank_targetScript (targetIndex : Int) (target : Target E) :
    blankScript (targetScript messageIdent targetIndex target.blank) =
      blankScript (targetScript messageIdent targetIndex target) := by
  simp only [targetScript, blankScript_cons, blankScript_append, Target.blank,
    blankScript_optional (blank_nodeScript .T messageIdent targetIndex),
    blankScript_optional (blank_userScript .T messageIdent targetIndex),
    blankScript_optional (blank_processScript .T messageIdent targetIndex),
    blankScript_optional (blank_serviceScript .T messageIdent targetIndex),
    blankScript_listed (blank_fileScript messageIdent targetIndex)]
  simp [targetRow, Row.blank]

theorem blank_classificationScript (classification : Classification E) :
    blankScript (classificationScript messageIdent classification.blank) =
      blankScript (classificationScript messageIdent classification) := by
  simp only [classificationScript, blankScript_cons, Classification.blank]
  rw [blankScript_listed]
  · simp [classificationRow, Row.blank, Item.map]
  · intro index reference
    simp [referenceRow, Reference.blank, Row.blank]

theorem blank_assessmentScript (assessment : Assessment E) :
    blankScript (assessmentScript messageIdent assessment.blank) =
      blankScript (assessmentScript messageIdent assessment) := by
  simp only [assessmentScript, blankScript_cons, blankScript_append, Assessment.blank]
  rw [blankScript_listed, blankScript_optional]
  · intro impact
    simp [impactRow, Impact.blank, Row.blank]
  · intro index action
    simp [actionRow, Action.blank, Row.blank]

theorem blank_toolAlertScript (toolAlert : ToolAlert) :
    blankScript (toolAlertScript messageIdent toolAlert.blank) =
      blankScript (toolAlertScript messageIdent toolAlert) := by
  simp only [toolAlertScript, blankScript_cons, ToolAlert.blank, List.isEmpty_map]
  rw [blankScript_each]
  · simp [toolAlertRow, Row.blank, Item.map]
  · intro index alertident
    simp [blank_alertidentRow]

theorem blank_correlationAlertScript (correlationAlert : CorrelationAlert) :
    blankScript (correlationAlertScript messageIdent correlationAlert.blank) =
      blankScript (correlationAlertScript messageIdent correlationAlert) := by
  simp only [correlationAlertScript, blankScript_cons, CorrelationAlert.blank]
  rw [blankScript_listed]
  · simp [correlationAlertRow, Row.blank]
  · intro index alertident
    simp [blank_alertidentRow]

theorem blank_alertKindScript (kind : AlertKind) :
    blankScript (alertKindScript messageIdent E kind.blank) =
      blankScript (alertKindScript messageIdent E kind) := by
  cases kind with
  | default => rfl
  | tool toolAlert => exact blank_toolAlertScript messageIdent toolAlert
  | overflow overflowAlert =>
      simp [AlertKind.blank, alertKindScript, overflowAlertRow, OverflowAlert.blank, Row.blank]
  | correlation correlationAlert => exact blank_correlationAlertScript messageIdent correlationAlert

theorem blank_alertScript (alert : Alert E) :
    blankScript (alertScript messageIdent alert.blank) =
      blankScript (alertScript messageIdent alert) := by
  simp only [alertScript, blankScript_cons, blankScript_append, Alert.blank,
    blankScript_optional (blank_assessmentScript messageIdent),
    blank_alertKindScript, blankScript_listed (blank_analyzerScript .A messageIdent),
    blankScript_listed (blank_sourceScript messageIdent),
    blankScript_listed (blank_targetScript messageIdent),
    blankScript_optional (blank_classificationScript messageIdent)]
  rw [blankScript_listed]
  intro index additionalData
  simp [blank_additionalDataRow]

theorem blank_heartbeatScript (heartbeat : Heartbeat E) :
    blankScript (heartbeatScript messageIdent heartbeat.blank) =
      blankScript (heartbeatScript messageIdent heartbeat) := by
  simp only [heartbeatScript, blankScript_cons, blankScript_append, Heartbeat.blank,
    blankScript_listed (blank_analyzerScript .H messageIdent)]
  rw [blankScript_listed]
  intro index additionalData
  simp [blank_additionalDataRow]

theorem blank_messageScript {first second : Message E} (same : first.blank = second.blank) :
    blankScript (messageScript messageIdent first) =
      blankScript (messageScript messageIdent second) := by
  have blank : ∀ message : Message E, blankScript (messageScript messageIdent message.blank) =
      blankScript (messageScript messageIdent message) := by
    intro message
    cases message with
    | alert alert => exact blank_alertScript messageIdent alert
    | heartbeat heartbeat => exact blank_heartbeatScript messageIdent heartbeat
  rw [← blank first, same, blank second]

end AlertParts

end RequiemDB
