import RequiemDB.Classic.AllOrNothing
import RequiemDB.Classic.Reachable

/-!
# The elements that rows are written for

Every row that is written for a message belongs to one element of its tree, which
is told by the way from the message down to it: the names, and the positions in
lists. The last element of a list is written twice, the second time at position
-1. `placedRows` tells for each row of a message its element; without the elements
these are the rows that a call of `classicInsert` commits.
-/

namespace RequiemDB

open Lib

variable {E : EnumKind → Type} [Librequiem E] {α : Type}

/-- The names on the way from a message to an element, each with its position if it is a list. -/
abbrev Place := List (String × Option Int)

/-- The place of a child. -/
def Place.child (place : Place) (name : String) : Place := place ++ [(name, none)]

/-- The place of an element of a list. -/
def Place.item (place : Place) (name : String) (position : Int) : Place :=
  place ++ [(name, some position)]

/-- Rows, each with the place of the element it is written for. -/
abbrev PlacedRows := List (Place × Row)

/-- The rows of an optional part. -/
def placedOptional (placed : α → PlacedRows) (part : Option α) : PlacedRows :=
  part.elim [] placed

section Parts

variable (place : Place) (parentType : ParentType) (messageIdent : Nat) (parentIndex : Int)

def placedNode (node : Node E) : PlacedRows :=
  (place, nodeRow parentType messageIdent parentIndex node) ::
    listed (fun index address => [(place.item "address" index,
      addressRow parentType messageIdent parentIndex index address)]) node.addresses

def placedUser (user : User E) : PlacedRows :=
  (place, userRow parentType messageIdent parentIndex user) ::
    listed (fun index userId => [(place.item "user_id" index,
      userIdRow parentType messageIdent parentIndex 0 0 index userId)]) user.userIds

def placedProcess (process : Process) : PlacedRows :=
  (place, processRow parentType messageIdent parentIndex process) ::
    (each (fun index arg => [(place.item "arg" index,
        stringRow parentType messageIdent parentIndex .processArg .arg index arg)])
      0 process.args ++
    each (fun index env => [(place.item "env" index,
        stringRow parentType messageIdent parentIndex .processEnv .env index env)])
      0 process.envs)

def placedWebService (webService : WebService) : PlacedRows :=
  (place, webServiceRow parentType messageIdent parentIndex webService) ::
    listed (fun index arg => [(place.item "arg" index,
      stringRow parentType messageIdent parentIndex .webServiceArg .arg index arg)])
      webService.args

def placedServiceKind : ServiceKind → PlacedRows
  | .default => []
  | .web webService =>
      placedWebService (place.child "web_service") parentType messageIdent parentIndex webService
  | .snmp snmpService => [(place.child "snmp_service",
      snmpServiceRow parentType messageIdent parentIndex snmpService)]

def placedService (service : Service) : PlacedRows :=
  (place, serviceRow parentType messageIdent parentIndex service) ::
    placedServiceKind place parentType messageIdent parentIndex service.kind

def placedAnalyzer (analyzerIndex : Int) (analyzer : Analyzer E) : PlacedRows :=
  let place := Place.item [] "analyzer" analyzerIndex
  (place, analyzerRow parentType messageIdent analyzerIndex analyzer) ::
    (placedOptional (placedNode (place.child "node") parentType messageIdent analyzerIndex)
        analyzer.node ++
      placedOptional (placedProcess (place.child "process") parentType messageIdent analyzerIndex)
        analyzer.process)

def placedAdditionalData (E : EnumKind → Type) [Librequiem E]
    (additionalData : List AdditionalData) : PlacedRows :=
  listed (fun index data => [(Place.item [] "additional_data" index,
    additionalDataRow parentType messageIdent E index data)]) additionalData

end Parts

section AlertParts

variable (messageIdent : Nat)

def placedFileAccess (place : Place) (targetIndex fileIndex fileAccessIndex : Int)
    (fileAccess : FileAccess E) : PlacedRows :=
  let place := place.item "file_access" fileAccessIndex
  (place, fileAccessRow messageIdent targetIndex fileIndex fileAccessIndex) ::
    (listed (fun index perm => [(place.item "permission" index,
        fileAccessPermissionRow messageIdent targetIndex fileIndex fileAccessIndex index perm)])
        fileAccess.permissions ++
      [(place.child "user_id",
        userIdRow .F messageIdent targetIndex fileIndex fileAccessIndex 0 fileAccess.userId)])

def placedFile (place : Place) (targetIndex fileIndex : Int) (file : File E) : PlacedRows :=
  let place := place.item "file" fileIndex
  (place, fileRow messageIdent targetIndex fileIndex file) ::
    (listed (placedFileAccess messageIdent place targetIndex fileIndex) file.fileAccesses ++
    (listed (fun index linkage => [(place.item "linkage" index,
        linkageRow messageIdent targetIndex fileIndex index linkage)]) file.linkages ++
    (placedOptional (fun inode => [(place.child "inode",
        inodeRow messageIdent targetIndex fileIndex inode)]) file.inode ++
      listed (fun index checksum => [(place.item "checksum" index,
        checksumRow messageIdent targetIndex fileIndex index checksum)]) file.checksums)))

def placedSource (index : Int) (source : Source E) : PlacedRows :=
  let place := Place.item [] "source" index
  (place, sourceRow messageIdent index source) ::
    (placedOptional (placedNode (place.child "node") .S messageIdent index) source.node ++
    (placedOptional (placedUser (place.child "user") .S messageIdent index) source.user ++
    (placedOptional (placedProcess (place.child "process") .S messageIdent index)
        source.process ++
      placedOptional (placedService (place.child "service") .S messageIdent index)
        source.service)))

def placedTarget (index : Int) (target : Target E) : PlacedRows :=
  let place := Place.item [] "target" index
  (place, targetRow messageIdent index target) ::
    (placedOptional (placedNode (place.child "node") .T messageIdent index) target.node ++
    (placedOptional (placedUser (place.child "user") .T messageIdent index) target.user ++
    (placedOptional (placedProcess (place.child "process") .T messageIdent index)
        target.process ++
    (placedOptional (placedService (place.child "service") .T messageIdent index)
        target.service ++
      listed (placedFile messageIdent place index) target.files))))

def placedClassification (classification : Classification E) : PlacedRows :=
  let place := Place.child [] "classification"
  (place, classificationRow messageIdent classification) ::
    listed (fun index reference => [(place.item "reference" index,
      referenceRow messageIdent index reference)]) classification.references

def placedAssessment (assessment : Assessment E) : PlacedRows :=
  let place := Place.child [] "assessment"
  (place, assessmentRow messageIdent) ::
    (placedOptional (fun impact => [(place.child "impact", impactRow messageIdent impact)])
        assessment.impact ++
    (placedOptional
        (fun confidence => [(place.child "confidence", confidenceRow messageIdent confidence)])
        assessment.confidence ++
      listed (fun index action => [(place.item "action" index,
        actionRow messageIdent index action)]) assessment.actions))

def placedAlertKind (E : EnumKind → Type) [Librequiem E] : AlertKind → PlacedRows
  | .default => []
  | .tool toolAlert =>
      let place := Place.child [] "tool_alert"
      (place, toolAlertRow messageIdent toolAlert) ::
        each (fun index alertident => [(place.item "alertident" index,
          alertidentRow .T messageIdent index (some alertident))]) 0 toolAlert.alertidents
  | .overflow overflowAlert =>
      [(Place.child [] "overflow_alert", overflowAlertRow messageIdent E overflowAlert)]
  | .correlation correlationAlert =>
      let place := Place.child [] "correlation_alert"
      (place, correlationAlertRow messageIdent correlationAlert) ::
        listed (fun index alertident => [(place.item "alertident" index,
          alertidentRow .C messageIdent index (some alertident))]) correlationAlert.alertidents

end AlertParts

/-- The row of a time of a message. -/
def placedTime (messageIdent : Nat) (name : String) (table : Table) (letter : Option ParentType)
    (time : Option Time) : Place × Row :=
  (Place.child [] name, messageTimeRow messageIdent table letter time)

/-- The rows of an alert below its row in `Requiem_Alert`. -/
def placedAlert (ident : Nat) (alert : Alert E) : PlacedRows :=
  placedTime ident "create_time" .createTime (some .A) alert.createTime ::
    (placedOptional (fun time => [placedTime ident "detect_time" .detectTime none (some time)])
        alert.detectTime ++
    (placedOptional
        (fun time => [placedTime ident "analyzer_time" .analyzerTime (some .A) (some time)])
        alert.analyzerTime ++
    (placedOptional (placedAssessment ident) alert.assessment ++
    (placedAlertKind ident E alert.kind ++
    (listed (placedAnalyzer .A ident) alert.analyzers ++
    (listed (placedSource ident) alert.sources ++
    (listed (placedTarget ident) alert.targets ++
    (placedOptional (placedClassification ident) alert.classification ++
      placedAdditionalData .A ident E alert.additionalData))))))))

/-- The rows of a heartbeat below its row in `Requiem_Heartbeat`. -/
def placedHeartbeat (ident : Nat) (heartbeat : Heartbeat E) : PlacedRows :=
  listed (placedAnalyzer .H ident) heartbeat.analyzers ++
    placedTime ident "create_time" .createTime (some .H) heartbeat.createTime ::
    (placedOptional
        (fun time => [placedTime ident "analyzer_time" .analyzerTime (some .H) (some time)])
        heartbeat.analyzerTime ++
      placedAdditionalData .H ident E heartbeat.additionalData)

/-- The rows below the message's own row. -/
def placedParts (ident : Nat) : Message E → PlacedRows
  | .alert alert => placedAlert ident alert
  | .heartbeat heartbeat => placedHeartbeat ident heartbeat

/-- All rows of a message, its own row first. -/
def placedRows (ident : Nat) (message : Message E) : PlacedRows :=
  ([], messageRow ⟨message.table, ident⟩ message.cells) :: placedParts ident message

/-- The placed rows are those of a script. -/
def Places (placed : PlacedRows) (script : Script Row) : Prop :=
  placed.map Prod.snd = script.statements

namespace Places

theorem nil : Places [] [] := rfl

theorem cons {place : Place} {row : Row} {onFailure : OnFailure Row} {placed : PlacedRows}
    {script : Script Row} (places : Places placed script) :
    Places ((place, row) :: placed) (⟨row, onFailure⟩ :: script) := by
  rw [Places, List.map_cons, Script.statements_cons, places]

theorem append {left right : PlacedRows} {first second : Script Row} (inLeft : Places left first)
    (inRight : Places right second) : Places (left ++ right) (first ++ second) := by
  rw [Places, List.map_append, Script.statements_append, inLeft, inRight]

theorem single {place : Place} {row : Row} : Places [(place, row)] [.must row] := cons nil

theorem optional {placed : α → PlacedRows} {script : α → Script Row}
    (places : ∀ element, Places (placed element) (script element)) (part : Option α) :
    Places (placedOptional placed part) (optionalScript script part) := by
  cases part with
  | none => exact nil
  | some element => exact places element

theorem each {placed : Int → α → PlacedRows} {part : Int → α → Script Row}
    (places : ∀ index element, Places (placed index element) (part index element)) (start : Int)
    (elements : List α) :
    Places (Lib.each placed start elements) (Lib.each part start elements) := by
  simp only [Places, Script.statements, map_each] at places ⊢
  simp only [places]

theorem listed {placed : Int → α → PlacedRows} {part : Int → α → Script Row}
    (places : ∀ index element, Places (placed index element) (part index element))
    (elements : List α) : Places (Lib.listed placed elements) (Lib.listed part elements) := by
  simp only [Places, Script.statements, map_listed] at places ⊢
  simp only [places]

end Places

section Parts

variable (place : Place) (parentType : ParentType) (messageIdent : Nat) (parentIndex : Int)

theorem places_node (node : Node E) :
    Places (placedNode place parentType messageIdent parentIndex node)
      (nodeScript parentType messageIdent parentIndex node) :=
  .cons (.listed (fun _ _ => .single) _)

theorem places_user (user : User E) :
    Places (placedUser place parentType messageIdent parentIndex user)
      (userScript parentType messageIdent parentIndex user) :=
  .cons (.listed (fun _ _ => .single) _)

theorem places_process (process : Process) :
    Places (placedProcess place parentType messageIdent parentIndex process)
      (processScript parentType messageIdent parentIndex process) :=
  .cons (.append (.each (fun _ _ => .single) _ _) (.each (fun _ _ => .single) _ _))

theorem places_service (service : Service) :
    Places (placedService place parentType messageIdent parentIndex service)
      (serviceScript parentType messageIdent parentIndex service) := by
  refine .cons ?_
  cases service.kind with
  | default => exact .nil
  | web webService => exact .cons (.listed (fun _ _ => .single) _)
  | snmp snmpService => exact .single

theorem places_analyzer (analyzerIndex : Int) (analyzer : Analyzer E) :
    Places (placedAnalyzer parentType messageIdent analyzerIndex analyzer)
      (analyzerScript parentType messageIdent analyzerIndex analyzer) :=
  .cons (.append (.optional (places_node _ _ _ _) _) (.optional (places_process _ _ _ _) _))

theorem places_additionalData (additionalData : List AdditionalData) :
    Places (placedAdditionalData parentType messageIdent E additionalData)
      (Lib.listed
        (fun index data => [.must (additionalDataRow parentType messageIdent E index data)])
        additionalData) :=
  .listed (fun _ _ => .single) _

end Parts

section AlertParts

variable (messageIdent : Nat)

theorem places_file (place : Place) (targetIndex fileIndex : Int) (file : File E) :
    Places (placedFile messageIdent place targetIndex fileIndex file)
      (fileScript messageIdent targetIndex fileIndex file) := by
  refine .cons (.append (.listed (fun _ _ => ?_) _)
    (.append (.listed (fun _ _ => .single) _)
    (.append (.optional (fun _ => .single) _) (.listed (fun _ _ => .single) _))))
  exact .cons (.append (.listed (fun _ _ => .single) _) .single)

theorem places_source (index : Int) (source : Source E) :
    Places (placedSource messageIdent index source) (sourceScript messageIdent index source) :=
  .cons (.append (.optional (places_node _ _ _ _) _)
    (.append (.optional (places_user _ _ _ _) _)
    (.append (.optional (places_process _ _ _ _) _) (.optional (places_service _ _ _ _) _))))

theorem places_target (index : Int) (target : Target E) :
    Places (placedTarget messageIdent index target) (targetScript messageIdent index target) :=
  .cons (.append (.optional (places_node _ _ _ _) _)
    (.append (.optional (places_user _ _ _ _) _)
    (.append (.optional (places_process _ _ _ _) _)
    (.append (.optional (places_service _ _ _ _) _) (.listed (places_file _ _ _) _)))))

theorem places_classification (classification : Classification E) :
    Places (placedClassification messageIdent classification)
      (classificationScript messageIdent classification) :=
  .cons (.listed (fun _ _ => .single) _)

theorem places_assessment (assessment : Assessment E) :
    Places (placedAssessment messageIdent assessment)
      (assessmentScript messageIdent assessment) :=
  .cons (.append (.optional (fun _ => .single) _)
    (.append (.optional (fun _ => .single) _) (.listed (fun _ _ => .single) _)))

theorem places_alertKind (kind : AlertKind) :
    Places (placedAlertKind messageIdent E kind) (alertKindScript messageIdent E kind) := by
  cases kind with
  | default => exact .nil
  | tool toolAlert => exact .cons (.each (fun _ _ => .single) _ _)
  | overflow overflowAlert => exact .single
  | correlation correlationAlert => exact .cons (.listed (fun _ _ => .single) _)

end AlertParts

theorem places_alert (ident : Nat) (alert : Alert E) :
    Places (placedAlert ident alert) (alertScript ident alert) :=
  .cons (.append (.optional (fun _ => .single) _)
    (.append (.optional (fun _ => .single) _)
    (.append (.optional (places_assessment _) _)
    (.append (places_alertKind _ _)
    (.append (.listed (places_analyzer _ _) _)
    (.append (.listed (places_source _) _)
    (.append (.listed (places_target _) _)
    (.append (.optional (places_classification _) _) (places_additionalData _ _ _)))))))))

theorem places_heartbeat (ident : Nat) (heartbeat : Heartbeat E) :
    Places (placedHeartbeat ident heartbeat) (heartbeatScript ident heartbeat) :=
  .append (.listed (places_analyzer _ _) _)
    (.cons (.append (.optional (fun _ => .single) _) (places_additionalData _ _ _)))

theorem places_message (ident : Nat) (message : Message E) :
    Places (placedParts ident message) (messageScript ident message) := by
  cases message with
  | alert alert => exact places_alert ident alert
  | heartbeat heartbeat => exact places_heartbeat ident heartbeat

/-- The rows that a call of `classicInsert` adds to the committed ones. -/
def rowsWritten (message : Message E) (store : Store) : List Row :=
  (((classicInsert message).run (environment noFaults) store).2.committed.drop
    store.committed.length).map Entry.row

omit [Librequiem E] in
/-- In a sound database the row of a message is found by its ident. -/
theorem settledIdent_of_sound (message : Message E) {store : Store} (sound : store.Sound) :
    settledIdent message store = store.next message.table := by
  have visible : ∀ entry ∈ store.visible, entry.Sound store.next := by
    rw [sound.idle]
    exact sound.entries
  have max := maxIdent_insertMessage message store
  rw [maxIdent_insertMessage_of_sound visible message.table message.cells rfl] at max
  exact (Option.some.inj max).symm

/-- In a sound database the placed rows of a message are the ones that are written for it. -/
theorem map_placedRows (message : Message E) {store : Store} (sound : store.Sound) :
    (placedRows (store.next message.table) message).map Prod.snd = rowsWritten message store := by
  have commits := (classicInsert_commits_all message store sound.idle).2
  rw [rowsWritten, commits, List.drop_left, settledIdent_of_sound message sound, List.map_cons,
    List.map_map, placedRows, List.map_cons, ← places_message, ownEntry, Store.nextOwner]
  simp [childEntry, Function.comp_def]

end RequiemDB
