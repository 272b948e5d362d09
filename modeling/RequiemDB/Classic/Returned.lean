import RequiemDB.Classic.Rebuild

/-!
# The readers rebuild a message

The sources and targets of an alert, its other parts, and the message as a whole:
a database that shows the script of a message lets its reader return what the
queries answer of it.
-/

namespace RequiemDB

open Lib

variable {E : EnumKind → Type} [Librequiem E]
variable {retrieval : Retrieval} {store : Store} {ident : Nat} {letter : ParentType}
variable {unassigned : Int} (names : retrieval.emptyIsNull → NamesGiven E)

section Endpoints

variable [∀ kind, Inhabited (E kind)]
include names

theorem read_getSource {sources : List (Source E)}
    (shows : Shows store ident sourceFootprint.asked [] (listed (sourceScript ident) sources)) :
    (getSource ident).read retrieval store =
      .ok ((answeredUnder Source.answered sources).map (Source.mapTexts retrieval.textMap)) := by
  rw [sourceScript_eq] at shows
  have heads : Shows store ident [(.source, .any)] []
      (listed (fun index source => [.must (sourceRow ident index source)]) sources) :=
    (shows.narrow (by decide) List.prefix_rfl).heads _ _ (fun index source =>
      Within.flatten (within_sourceParts ident index source)) (by decide)
  have rows : (getElements [.ident, .spoofed, .interface]
      { table := .source, parentType := .any, messageIdent := ident, parents := [], listed := true }
      fun _ row => do
        let ident ← getString row 0
        let spoofed ← getMandatoryEnum row 1
        let interface ← getString row 2
        return ({ ident, spoofed, interface, node := none, user := none, process := none
                  service := none } : Source E)).read retrieval store =
      .ok (sources.map fun source => { source.mapTexts retrieval.textMap with
        node := none, user := none, process := none, service := none }) := by
    rw [read_getElements]
    apply read_getListed_map
    · apply heads.selectListed (.head _) rfl _ fun _ _ => rfl
      simp [Select.Matches, sourceRow, ParentTypeTest.Holds]
    · intro index source
      simp [sourceRow, Row.cell, map_enumLiteral names, Source.mapTexts]
  have parts : ∀ (asked : Asked) (part : Nat) {script : Int → Source E → Script Row},
      asked ⊆ sourceFootprint.asked →
      (∀ index source, (sourceParts ident index source)[part]? = some (script index source)) →
      (∀ footprint ∈ [(.source, none)] :: sourceFootprints.eraseIdx part,
        TablesApart asked footprint) →
      ∀ index, Shows store ident asked [index]
        (optionalScript (script index) (atIndex sources index)) := by
    intro asked part script subset found apart
    exact (shows.narrow subset List.prefix_rfl).partBelow (sourceRow ident) _ (.source, none)
      (fun _ _ => rfl) (within_sourceParts ident) part found apart
  have nodes := parts (nodeFootprint .S).asked 0 (by decide) (fun _ _ => rfl) (by decide)
  have users := parts (userFootprint .S).asked 1 (by decide) (fun _ _ => rfl) (by decide)
  have processes := parts (processFootprint .S).asked 2 (by decide) (fun _ _ => rfl) (by decide)
  have services := parts (serviceFootprint .S).asked 3 (by decide) (fun _ _ => rfl) (by decide)
  simp only [optionalScript_bind] at nodes users processes services
  rw [getSource, Get.read_bind, rows, ok_bind, getNested_map, answeredUnder, map_each]
  apply read_getNested
  intro position source found
  have node := read_getNode names (nodes position)
  have user := read_getUser names (users position)
  have process := @read_getProcess retrieval store ident .S position
    (processAt Source.process sources) processes
  have service := @read_getService retrieval store ident .S position _ (services position)
  simp [node, user, process, service, found, processAt, Source.answered, Source.mapTexts,
    Function.comp_def]

theorem read_getTarget {targets : List (Target E)}
    (shows : Shows store ident targetFootprint.asked [] (listed (targetScript ident) targets)) :
    (getTarget unassigned ident).read retrieval store =
      .ok ((answeredUnder Target.answered targets).map (Target.mapTexts retrieval.textMap)) := by
  rw [targetScript_eq] at shows
  have heads : Shows store ident [(.target, .any)] []
      (listed (fun index target => [.must (targetRow ident index target)]) targets) :=
    (shows.narrow (by decide) List.prefix_rfl).heads _ _ (fun index target =>
      Within.flatten (within_targetParts ident index target)) (by decide)
  have rows : (getElements [.ident, .decoy, .interface]
      { table := .target, parentType := .any, messageIdent := ident, parents := [], listed := true }
      fun _ row => do
        let ident ← getString row 0
        let decoy ← getMandatoryEnum row 1
        let interface ← getString row 2
        return ({ ident, decoy, interface, node := none, user := none, process := none
                  service := none, files := [] } : Target E)).read retrieval store =
      .ok (targets.map fun target => { target.mapTexts retrieval.textMap with
        node := none, user := none, process := none, service := none, files := [] }) := by
    rw [read_getElements]
    apply read_getListed_map
    · apply heads.selectListed (.head _) rfl _ fun _ _ => rfl
      simp [Select.Matches, targetRow, ParentTypeTest.Holds]
    · intro index target
      simp [targetRow, Row.cell, map_enumLiteral names, Target.mapTexts]
  have parts : ∀ (asked : Asked) (part : Nat) {script : Int → Target E → Script Row},
      asked ⊆ targetFootprint.asked →
      (∀ index target, (targetParts ident index target)[part]? = some (script index target)) →
      (∀ footprint ∈ [(.target, none)] :: targetFootprints.eraseIdx part,
        TablesApart asked footprint) →
      ∀ index, Shows store ident asked [index]
        (optionalScript (script index) (atIndex targets index)) := by
    intro asked part script subset found apart
    exact (shows.narrow subset List.prefix_rfl).partBelow (targetRow ident) _ (.target, none)
      (fun _ _ => rfl) (within_targetParts ident) part found apart
  have nodes := parts (nodeFootprint .T).asked 0 (by decide) (fun _ _ => rfl) (by decide)
  have users := parts (userFootprint .T).asked 1 (by decide) (fun _ _ => rfl) (by decide)
  have processes := parts (processFootprint .T).asked 2 (by decide) (fun _ _ => rfl) (by decide)
  have services := parts (serviceFootprint .T).asked 3 (by decide) (fun _ _ => rfl) (by decide)
  have files := parts fileFootprint.asked 4 (by decide) (fun _ _ => rfl) (by decide)
  simp only [optionalScript_bind] at nodes users processes services
  rw [getTarget, Get.read_bind, rows, ok_bind, getNested_map, answeredUnder, map_each]
  apply read_getNested
  intro position target found
  have node := read_getNode names (nodes position)
  have user := read_getUser names (users position)
  have process := @read_getProcess retrieval store ident .T position
    (processAt Target.process targets) processes
  have service := @read_getService retrieval store ident .T position _ (services position)
  have file := files position
  rw [atIndex_natCast, found] at file
  simp [node, user, process, service, read_getFile names file, found, processAt, Target.answered,
    Target.mapTexts, Function.comp_def]

end Endpoints

section Assessment

variable [∀ kind, Inhabited (E kind)]
include names

theorem read_getImpact {impact : Option (Impact E)}
    (shows : Shows store ident [(.impact, .any)] []
      (optionalScript (fun impact => [.must (impactRow ident impact)]) impact)) :
    (getImpact ident).read retrieval store =
      .ok (impact.map (Impact.mapTexts retrieval.textMap)) := by
  cases impact with
  | none => exact read_getSingle_none retrieval (shows.selectNothing (.head _) rfl)
  | some impact =>
      rw [getImpact, read_getSingle_some retrieval (shows.selectFirst (.head _) rfl
        (by simp [Select.Matches, impactRow, ParentTypeTest.Holds]) rfl)]
      simp [impactRow, Row.cell, map_enumLiteral names, map_optionalEnumLiteral names,
        Impact.mapTexts]

theorem read_getConfidence {confidence : Option (Confidence E)}
    (shows : Shows store ident [(.confidence, .any)] []
      (optionalScript (fun confidence => [.must (confidenceRow ident confidence)]) confidence)) :
    (getConfidence ident).read retrieval store = .ok confidence := by
  cases confidence with
  | none => exact read_getSingle_none retrieval (shows.selectNothing (.head _) rfl)
  | some confidence =>
      rw [getConfidence, read_getSingle_some retrieval (shows.selectFirst (.head _) rfl
        (by simp [Select.Matches, confidenceRow, ParentTypeTest.Holds]) rfl)]
      simp [confidenceRow, Row.cell, map_enumLiteral names]

theorem read_getAction {actions : List (Action E)}
    (shows : Shows store ident [(.action, .any)] []
      (listed (fun index action => [.must (actionRow ident index action)]) actions)) :
    (getAction ident).read retrieval store =
      .ok (actions.map (Action.mapTexts retrieval.textMap)) := by
  apply read_getListed_map
  · apply shows.selectListed (.head _) rfl _ fun _ _ => rfl
    simp [Select.Matches, actionRow, ParentTypeTest.Holds]
  · intro index action
    simp [actionRow, Row.cell, map_enumLiteral names, Action.mapTexts]

theorem read_getAssessment {assessment : Option (Assessment E)}
    (shows : Shows store ident assessmentFootprint.asked []
      (optionalScript (assessmentScript ident) assessment)) :
    (getAssessment ident).read retrieval store =
      .ok (assessment.map (Assessment.mapTexts retrieval.textMap)) := by
  cases assessment with
  | none =>
      have none : store.select { table := .assessment, parentType := .any, messageIdent := ident
                                 parents := [], listed := false } = [] :=
        shows.selectNothing (.head _) rfl
      simp [getAssessment, none]
  | some assessment =>
      rw [optionalScript, Option.elim_some, assessmentScript_eq] at shows
      have one : store.select { table := .assessment, parentType := .any, messageIdent := ident
                                parents := [], listed := false } = [assessmentRow ident] := by
        apply shows.selectFirst (.head _) rfl
        · simp [Select.Matches, assessmentRow, ParentTypeTest.Holds]
        · have apart : TablesApart [(.assessment, .any)] assessmentFootprints.flatten := by decide
          exact Misses.found_eq_nil (Within.flatten (within_assessmentParts ident assessment)) apart
      have apart : TablesApart (Footprint.asked assessmentFootprints.flatten)
          [(.assessment, none)] := by decide
      have parts := shows.tail (List.subset_cons_self _ _) apart
      have impact := read_getImpact names ((parts.narrow (by decide) List.prefix_rfl).part
        (within_assessmentParts ident assessment) 0 rfl (by decide))
      have confidence := read_getConfidence names ((parts.narrow (by decide) List.prefix_rfl).part
        (within_assessmentParts ident assessment) 1 rfl (by decide))
      have actions := read_getAction names ((parts.narrow (by decide) List.prefix_rfl).part
        (within_assessmentParts ident assessment) 2 rfl (by decide))
      simp [getAssessment, one, impact, confidence, actions, Assessment.mapTexts]

end Assessment

section Classification

variable [∀ kind, Inhabited (E kind)]
include names

theorem read_getReference {references : List (Reference E)}
    (shows : Shows store ident [(.reference, .any)] []
      (listed (fun index reference => [.must (referenceRow ident index reference)]) references)) :
    (getReference ident).read retrieval store =
      .ok (references.map (Reference.mapTexts retrieval.textMap)) := by
  apply read_getListed_map
  · apply shows.selectListed (.head _) rfl _ fun _ _ => rfl
    simp [Select.Matches, referenceRow, ParentTypeTest.Holds]
  · intro index reference
    simp [referenceRow, Row.cell, map_enumLiteral names, Reference.mapTexts]

theorem read_getClassification {classification : Option (Classification E)}
    (shows : Shows store ident classificationFootprint.asked []
      (optionalScript (classificationScript ident) classification)) :
    (getClassification ident).read retrieval store =
      .ok (classification.map (Classification.mapTexts retrieval.textMap)) := by
  cases classification with
  | none => exact read_getSingle_none retrieval (shows.selectNothing (.head _) rfl)
  | some classification =>
      have references := read_getReference names
        (shows.tail (List.subset_cons_self _ _) (by simp [TablesApart, classificationRow]))
      rw [getClassification, read_getSingle_some retrieval (shows.selectFirst (.head _) rfl
        (by simp [Select.Matches, classificationRow, ParentTypeTest.Holds])
        (by simp [found_listed, found_must, Select.Matches, referenceRow]))]
      simp [classificationRow, Row.cell, references, Classification.mapTexts]

end Classification

section Kinds

/-- The tool alert that a kind announces. -/
def AlertKind.toolPart : AlertKind → Option ToolAlert
  | .tool toolAlert => some toolAlert
  | _ => none

/-- The correlation alert that a kind announces. -/
def AlertKind.correlationPart : AlertKind → Option CorrelationAlert
  | .correlation correlationAlert => some correlationAlert
  | _ => none

/-- The overflow alert that a kind announces. -/
def AlertKind.overflowPart : AlertKind → Option OverflowAlert
  | .overflow overflowAlert => some overflowAlert
  | _ => none

theorem read_getAlertident {alertidents : List Alertident}
    (rows : store.select { table := .alertident, parentType := .is letter, messageIdent := ident
                           parents := [], listed := true } =
      each (fun index alertident => [alertidentRow letter ident index (some alertident)]) 0
        alertidents) :
    (getAlertident ident letter).read retrieval store =
      .ok (alertidents.map (Alertident.mapTexts retrieval.textMap)) := by
  apply read_getListed_map rows
  intro index alertident
  simp [alertidentRow, Row.cell, Alertident.mapTexts]

variable {kind : AlertKind}
  (shows : Shows store ident alertKindFootprint.asked [] (alertKindScript ident E kind))
include shows

theorem read_getToolAlert :
    (getToolAlert ident).read retrieval store =
      .ok (kind.toolPart.map (ToolAlert.mapTexts retrieval.textMap)) := by
  cases kind with
  | default => exact read_getSingle_none retrieval (shows.selectNothing (.head _) rfl)
  | overflow overflowAlert =>
      apply read_getSingle_none
      rw [shows.select (.head _) rfl]
      simp [alertKindScript, found_must, Select.Matches, overflowAlertRow]
  | correlation correlationAlert =>
      apply read_getSingle_none
      rw [shows.select (.head _) rfl]
      simp [alertKindScript, correlationAlertScript, Item.must, found_cons, found_listed,
        Select.Matches, correlationAlertRow, alertidentRow]
  | tool toolAlert =>
      have alertidents : (getAlertident ident .T).read retrieval store =
          .ok (toolAlert.alertidents.map (Alertident.mapTexts retrieval.textMap)) := by
        have apart : TablesApart [(.alertident, .is .T)] [(.toolAlert, none)] := by decide
        apply read_getAlertident
        apply (shows.tail (by decide) apart).selectEach (.head _) rfl _ fun _ _ => rfl
        simp [Select.Matches, alertidentRow, ParentTypeTest.Holds]
      rw [getToolAlert, read_getSingle_some retrieval (shows.selectFirst (.head _) rfl
        (by simp [Select.Matches, toolAlertRow, ParentTypeTest.Holds])
        (by simp [found_each, found_must, Select.Matches, alertidentRow]))]
      simp [toolAlertRow, Row.cell, alertidents, ToolAlert.mapTexts, AlertKind.toolPart]

theorem read_getCorrelationAlert :
    (getCorrelationAlert ident).read retrieval store =
      .ok (kind.correlationPart.map (CorrelationAlert.mapTexts retrieval.textMap)) := by
  cases kind with
  | default => exact read_getSingle_none retrieval (shows.selectNothing (.tail _ (.head _)) rfl)
  | overflow overflowAlert =>
      apply read_getSingle_none
      rw [shows.select (.tail _ (.head _)) rfl]
      simp [alertKindScript, found_must, Select.Matches, overflowAlertRow]
  | tool toolAlert =>
      apply read_getSingle_none
      rw [shows.select (.tail _ (.head _)) rfl]
      simp [alertKindScript, toolAlertScript, found_cons, found_each, found_must, Select.Matches,
        toolAlertRow, alertidentRow]
  | correlation correlationAlert =>
      have alertidents : (getAlertident ident .C).read retrieval store =
          .ok (correlationAlert.alertidents.map (Alertident.mapTexts retrieval.textMap)) := by
        have apart : TablesApart [(.alertident, .is .C)] [(.correlationAlert, none)] := by decide
        apply read_getAlertident
        apply (shows.tail (by decide) apart).selectListed (.head _) rfl _ fun _ _ => rfl
        simp [Select.Matches, alertidentRow, ParentTypeTest.Holds]
      rw [getCorrelationAlert, read_getSingle_some retrieval (shows.selectFirst
        (.tail _ (.head _)) rfl
        (by simp [Select.Matches, correlationAlertRow, ParentTypeTest.Holds])
        (by simp [found_listed, found_must, Select.Matches, alertidentRow]))]
      simp [correlationAlertRow, Row.cell, alertidents, CorrelationAlert.mapTexts,
        AlertKind.correlationPart]

theorem read_getOverflowAlert :
    (getOverflowAlert ident).read retrieval store =
      match kind.overflowPart with
      | none => .ok none
      | some overflowAlert => some <$> overflowAlert.returned E retrieval := by
  cases kind with
  | default =>
      exact read_getSingle_none retrieval (shows.selectNothing (.tail _ (.tail _ (.head _))) rfl)
  | tool toolAlert =>
      apply read_getSingle_none
      rw [shows.select (.tail _ (.tail _ (.head _))) rfl]
      simp [alertKindScript, toolAlertScript, found_cons, found_each, found_must, Select.Matches,
        toolAlertRow, alertidentRow]
  | correlation correlationAlert =>
      apply read_getSingle_none
      rw [shows.select (.tail _ (.tail _ (.head _))) rfl]
      simp [alertKindScript, correlationAlertScript, Item.must, found_cons, found_listed,
        Select.Matches, correlationAlertRow, alertidentRow]
  | overflow overflowAlert =>
      rw [getOverflowAlert, read_getSingle_some retrieval (shows.selectFirst
        (.tail _ (.tail _ (.head _))) rfl
        (by simp [Select.Matches, overflowAlertRow, ParentTypeTest.Holds]) rfl)]
      cases field : retrieval.fetchField (.blob (getData E overflowAlert.buffer)) <;>
        simp [overflowAlertRow, Row.cell, field, OverflowAlert.returned, AlertKind.overflowPart]

end Kinds

section Times

variable {table : Table} {test : ParentTypeTest} {row : Option ParentType}

theorem read_getMessageTime {time : Option Time}
    (one : store.select { table, parentType := test, messageIdent := ident, parents := []
                          listed := false } = [messageTimeRow ident table row time]) :
    (getMessageTime unassigned ident table test).read retrieval store = .ok time := by
  rw [getMessageTime, Get.read_bind, read_getSingle_some retrieval one,
    read_getTimestamp_usec retrieval store unassigned time]
  · rfl
  all_goals simp [messageTimeRow, messageTimeCells, timeCells, Row.cell]

theorem read_getMessageTime_optional {time : Option Time}
    (shows : Shows store ident [(table, test)] []
      (optionalScript (fun time => [.must (messageTimeRow ident table row (some time))]) time))
    (letter : test.Holds row) :
    (getMessageTime unassigned ident table test).read retrieval store = .ok time := by
  cases time with
  | none =>
      have none : store.select { table, parentType := test, messageIdent := ident, parents := []
                                 listed := false } = [] := shows.selectNothing (.head _) rfl
      rw [getMessageTime, Get.read_bind, read_getSingle_none retrieval none]
      rfl
  | some time =>
      apply read_getMessageTime
      exact shows.selectFirst (.head _) rfl ⟨rfl, letter, rfl, rfl, by simp⟩ rfl

end Times

section Data

theorem read_getPayload (field : Cell) (type : AdditionalDataType) :
    (getPayload unassigned field type).read retrieval store =
      .ok (retrieval.payload unassigned field type) := by
  cases type <;> simp [getPayload, Retrieval.payload]

include names

theorem read_fetchData (fetched : Nat) (elements : List AdditionalData) :
    (fetchData E unassigned fetched (elements.map (dataCells E))).read retrieval store =
      .ok (retrieval.dataReturned E unassigned elements) := by
  induction elements generalizing fetched with
  | nil => simp [fetchData, Retrieval.dataReturned]
  | cons element elements ih =>
      have type : retrieval.fetchField
          (stringLiteral (some (Librequiem.dataTypeToString E element.type))) =
            some (.text (Librequiem.dataTypeToString E element.type)) :=
        fetchField_text fun isNull => (names isNull).dataType element.type
      cases field : retrieval.fetchField (.blob (getData E element.data)) <;>
        simp [fetchData, getDataType, dataCells, type, field, Cell.value, ih, read_getPayload,
          Librequiem.dataTypeToNumeric_toString, Retrieval.dataReturned]

theorem read_getAdditionalData {elements : List AdditionalData}
    (shows : Shows store ident [(.additionalData, .is letter)] []
      (listed (fun index data => [.must (additionalDataRow letter ident E index data)])
        elements)) :
    (getAdditionalData E unassigned ident letter).read retrieval store =
      .ok (retrieval.dataReturned E unassigned elements) := by
  have rows : store.select { table := .additionalData, parentType := .is letter
                             messageIdent := ident, parents := [], listed := true } =
      each (fun index data => [additionalDataRow letter ident E index data]) 0 elements := by
    apply shows.selectListed (.head _) rfl _ fun _ _ => rfl
    simp [Select.Matches, additionalDataRow, ParentTypeTest.Holds]
  have cells : (each (fun index data => [additionalDataRow letter ident E index data]) 0
      elements).map (fun row => [Column.type, .meaning, .data].map row.cell) =
        elements.map (dataCells E) :=
    map_each_row 0 elements fun _ _ => rfl
  rw [getAdditionalData, Get.read_bind, read_requiemdbSqlQuery, rows, cells, ok_bind,
    ← read_fetchData names 0 elements]
  cases elements with
  | nil => simp [fetchData]
  | cons element elements => rfl

end Data

section Messages

/-- The kind of an alert, whose overflow alert may end the reading. -/
theorem returned_kind (kind : AlertKind) :
    (match kind.overflowPart with
      | none => .ok none
      | some overflowAlert => some <$> overflowAlert.returned E retrieval : Except ErrorCode _) >>=
        (fun overflowAlert =>
          .ok (alertKind (kind.toolPart.map (ToolAlert.mapTexts retrieval.textMap))
            (kind.correlationPart.map (CorrelationAlert.mapTexts retrieval.textMap))
            overflowAlert)) =
      kind.returned E retrieval := by
  cases kind with
  | overflow overflowAlert =>
      simp only [AlertKind.overflowPart, AlertKind.returned]
      cases overflowAlert.returned E retrieval <;> rfl
  | _ => rfl

variable [∀ kind, Inhabited (E kind)]
include names

/-- The row of the alert, and the rows of its parts, let the reader return the alert. -/
theorem read_classicGetAlert {alert : Alert E} {row : Row}
    (own : store.select { table := .alert, parentType := .any, messageIdent := ident, parents := []
                          listed := false } = [row])
    (messageid : row.cell .messageid = stringLiteral alert.messageid)
    (shows : Shows store ident (Footprint.asked alertFootprints.flatten) []
      (alertScript ident alert)) :
    (classicGetAlert unassigned ident).read retrieval store =
      alert.answered.returned retrieval unassigned := by
  rw [alertScript_eq] at shows
  have parts : ∀ (asked : Asked) (part : Nat) {script : Script Row},
      asked ⊆ Footprint.asked alertFootprints.flatten →
      (alertParts ident alert)[part]? = some script →
      (∀ footprint ∈ alertFootprints.eraseIdx part, TablesApart asked footprint) →
      Shows store ident asked [] script := by
    intro asked part script subset found apart
    exact (shows.narrow subset List.prefix_rfl).part (within_alertParts ident alert) part found
      apart
  have ofCreateTime := parts [(.createTime, .is .A)] 0 (by decide) rfl (by decide)
  have ofDetectTime := parts [(.detectTime, .any)] 1 (by decide) rfl (by decide)
  have ofAnalyzerTime := parts [(.analyzerTime, .is .A)] 2 (by decide) rfl (by decide)
  have ofAssessment := parts assessmentFootprint.asked 3 (by decide) rfl (by decide)
  have ofKind := parts alertKindFootprint.asked 4 (by decide) rfl (by decide)
  have ofAnalyzers := parts (analyzerFootprint .A).asked 5 (by decide) rfl (by decide)
  have ofSources := parts sourceFootprint.asked 6 (by decide) rfl (by decide)
  have ofTargets := parts targetFootprint.asked 7 (by decide) rfl (by decide)
  have ofClassification := parts classificationFootprint.asked 8 (by decide) rfl (by decide)
  have ofData := parts [(.additionalData, .is .A)] 9 (by decide) rfl (by decide)
  have createTime : (getCreateTime unassigned ident .A).read retrieval store =
      .ok alert.createTime := by
    have one : store.select { table := .createTime, parentType := .is .A, messageIdent := ident
                              parents := [], listed := false } =
        [messageTimeRow ident .createTime (some .A) alert.createTime] :=
      ofCreateTime.selectFirst (.head _) rfl ⟨rfl, rfl, rfl, rfl, by simp⟩ rfl
    exact read_getMessageTime one
  have detectTime : (getDetectTime unassigned ident).read retrieval store = .ok alert.detectTime :=
    read_getMessageTime_optional ofDetectTime trivial
  have analyzerTime : (getAnalyzerTime unassigned ident .A).read retrieval store =
      .ok alert.analyzerTime :=
    read_getMessageTime_optional ofAnalyzerTime rfl
  have ownId : (getAlertMessageid ident).read retrieval store =
      .ok (retrieval.text alert.messageid) := by
    rw [getAlertMessageid, getMessageRow, Get.read_bind, read_requiemdbSqlQuery, ok_bind]
    simp [MessageTable.table, own, messageid]
  rw [classicGetAlert, Alert.returned, ← returned_kind]
  simp only [Get.read_bind, ownId, ok_bind, read_getAssessment names ofAssessment,
    read_getAnalyzer names ofAnalyzers, createTime, detectTime, analyzerTime,
    read_getSource names ofSources, read_getTarget names ofTargets,
    read_getClassification names ofClassification, read_getAdditionalData names ofData,
    read_getToolAlert ofKind, read_getCorrelationAlert ofKind, read_getOverflowAlert ofKind,
    Alert.answered]
  cases alert.kind with
  | overflow overflowAlert =>
      simp only [AlertKind.overflowPart]
      cases overflowAlert.returned E retrieval <;> rfl
  | _ => rfl

theorem read_classicGetHeartbeat {heartbeat : Heartbeat E} {row : Row}
    (own : store.select { table := .heartbeat, parentType := .any, messageIdent := ident
                          parents := [], listed := false } = [row])
    (messageid : row.cell .messageid = stringLiteral heartbeat.messageid)
    (interval : row.cell .heartbeatInterval =
      optionalNumber (heartbeat.heartbeatInterval.map (·.toNat)))
    (shows : Shows store ident (Footprint.asked heartbeatFootprints.flatten) []
      (heartbeatScript ident heartbeat)) :
    (classicGetHeartbeat unassigned ident).read retrieval store =
      .ok (heartbeat.answered.returned retrieval unassigned) := by
  rw [heartbeatScript_eq] at shows
  have parts : ∀ (asked : Asked) (part : Nat) {script : Script Row},
      asked ⊆ Footprint.asked heartbeatFootprints.flatten →
      (heartbeatParts ident heartbeat)[part]? = some script →
      (∀ footprint ∈ heartbeatFootprints.eraseIdx part, TablesApart asked footprint) →
      Shows store ident asked [] script := by
    intro asked part script subset found apart
    exact (shows.narrow subset List.prefix_rfl).part (within_heartbeatParts ident heartbeat) part
      found apart
  have ofAnalyzers := parts (analyzerFootprint .H).asked 0 (by decide) rfl (by decide)
  have ofCreateTime := parts [(.createTime, .is .H)] 1 (by decide) rfl (by decide)
  have ofAnalyzerTime := parts [(.analyzerTime, .is .H)] 2 (by decide) rfl (by decide)
  have ofData := parts [(.additionalData, .is .H)] 3 (by decide) rfl (by decide)
  have createTime : (getCreateTime unassigned ident .H).read retrieval store =
      .ok heartbeat.createTime := by
    have one : store.select { table := .createTime, parentType := .is .H, messageIdent := ident
                              parents := [], listed := false } =
        [messageTimeRow ident .createTime (some .H) heartbeat.createTime] :=
      ofCreateTime.selectFirst (.head _) rfl ⟨rfl, rfl, rfl, rfl, by simp⟩ rfl
    exact read_getMessageTime one
  have analyzerTime : (getAnalyzerTime unassigned ident .H).read retrieval store =
      .ok heartbeat.analyzerTime :=
    read_getMessageTime_optional ofAnalyzerTime rfl
  have ownFields : (getHeartbeat ident).read retrieval store =
      .ok (retrieval.text heartbeat.messageid, heartbeat.heartbeatInterval) := by
    rw [getHeartbeat, getMessageRow, Get.read_bind, read_requiemdbSqlQuery, ok_bind]
    simp [MessageTable.table, own, messageid, interval]
  rw [classicGetHeartbeat]
  simp only [Get.read_bind, ownFields, ok_bind, read_getAnalyzer names ofAnalyzers, createTime,
    analyzerTime, read_getAdditionalData names ofData]
  rfl

end Messages

end RequiemDB
