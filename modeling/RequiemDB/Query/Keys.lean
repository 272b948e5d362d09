import RequiemDB.Classic.Places
import RequiemDB.Query.Chain

/-!
# The keys of rows

`RowOf` tells the key of a row by the place of its element: the table by the last
of its classes, the letter by the chain of classes, the parent indexes and the
index by the positions. All rows that are written for a message are keyed so, but
for its own row and those of its times.
-/

namespace RequiemDB

open Lib

/-- The row of an element is keyed by its message, its classes and its positions. -/
structure RowOf (top : MessageTable) (ident : Nat) (chain : List ClassId) (list : Option String)
    (entry : Place × Row) : Prop where
  inChains : chain ∈ top.chains
  table : ElementTable (top.classId.last chain) list entry.2.table
  letter : entry.2.parentType = chainLetter top chain
  ident : entry.2.messageIdent = ident
  steps : entry.1.map (fun step => (step.1, step.2.isSome)) =
    top.classId.steps chain ++ list.toList.map (·, true)
  parents : ∃ more, entry.2.parents = entry.1.dropLast.filterMap Prod.snd ++ more
  index : entry.1.getLast?.bind Prod.snd = none ∨ entry.1.getLast?.bind Prod.snd = entry.2.index

/-- The tables of messages and of their times, which no stored path is answered from. -/
def asideTables : List Table := [.alert, .heartbeat, .createTime, .detectTime, .analyzerTime]

/-- A row of the message itself or of one of its times. -/
structure Aside (entry : Place × Row) : Prop where
  table : entry.2.table ∈ asideTables
  place : entry.1.map Prod.fst ∈ [[], ["create_time"], ["detect_time"], ["analyzer_time"]]

namespace ElementTable

theorem processArg : ElementTable .process (some "arg") .processArg := .list (by decide)

theorem processEnv : ElementTable .process (some "env") .processEnv := .list (by decide)

theorem webServiceArg : ElementTable .webService (some "arg") .webServiceArg :=
  .list (by decide)

theorem permission : ElementTable .fileAccess (some "permission") .fileAccessPermission :=
  .list (by decide)

end ElementTable

/-- Every row is that of an element, or of the message itself. -/
def AllPlaced (top : MessageTable) (ident : Nat) (entries : PlacedRows) : Prop :=
  ∀ entry ∈ entries, Aside entry ∨ ∃ chain list, RowOf top ident chain list entry

namespace AllPlaced

variable {E : EnumKind → Type} [Librequiem E] {α : Type} {top : MessageTable} {ident : Nat}

theorem nil : AllPlaced top ident [] := fun _ absent => absurd absent List.not_mem_nil

theorem cons {entry : Place × Row} {entries : PlacedRows} {chain : List ClassId}
    {list : Option String} (rowOf : RowOf top ident chain list entry)
    (later : AllPlaced top ident entries) : AllPlaced top ident (entry :: entries) :=
  List.forall_mem_cons.mpr ⟨.inr ⟨chain, list, rowOf⟩, later⟩

theorem aside {entry : Place × Row} {entries : PlacedRows} (isAside : Aside entry)
    (later : AllPlaced top ident entries) : AllPlaced top ident (entry :: entries) :=
  List.forall_mem_cons.mpr ⟨.inl isAside, later⟩

theorem append {left right : PlacedRows} (inLeft : AllPlaced top ident left)
    (inRight : AllPlaced top ident right) : AllPlaced top ident (left ++ right) :=
  List.forall_mem_append.mpr ⟨inLeft, inRight⟩

theorem optional {placed : α → PlacedRows} (each : ∀ element, AllPlaced top ident (placed element))
    (part : Option α) : AllPlaced top ident (placedOptional placed part) := by
  cases part with
  | none => exact nil
  | some element => exact each element

theorem each {placed : Int → α → PlacedRows}
    (all : ∀ index element, AllPlaced top ident (placed index element)) (start : Int)
    (elements : List α) : AllPlaced top ident (Lib.each placed start elements) :=
  forall_mem_each placed start elements fun index element _ => all index element

theorem listed {placed : Int → α → PlacedRows}
    (all : ∀ index element, AllPlaced top ident (placed index element)) (elements : List α) :
    AllPlaced top ident (Lib.listed placed elements) :=
  forall_mem_listed placed elements fun index element _ => all index element

/-- A class whose parts have a letter, with the letter. -/
inductive Outer : MessageTable → ParentType → ClassId → Prop
  | analyzer : Outer .alert .A .analyzer
  | heartbeatAnalyzer : Outer .heartbeat .H .analyzer
  | source : Outer .alert .S .source
  | target : Outer .alert .T .target

theorem node {letter : ParentType} {outer : ClassId} (isOuter : Outer top letter outer)
    (index : Int) (node : Node E) :
    AllPlaced top ident
      (placedNode ((Place.item [] outer.name index).child "node") letter ident index node) := by
  have row : RowOf top ident [outer, .node] none
      ((Place.item [] outer.name index).child "node", nodeRow letter ident index node) := by
    cases isOuter <;> exact ⟨by decide, .cls .node, rfl, rfl, rfl, ⟨[], rfl⟩, .inl rfl⟩
  have addressRow : ∀ position (address : Address E), RowOf top ident [outer, .node, .address] none
      (((Place.item [] outer.name index).child "node").item "address" position,
        addressRow letter ident index position address) := by
    intro position address
    cases isOuter <;> exact ⟨by decide, .cls .address, rfl, rfl, rfl, ⟨[], rfl⟩, .inr rfl⟩
  exact .cons row (.listed (fun position address => .cons (addressRow position address) .nil) _)

theorem process {letter : ParentType} {outer : ClassId} (isOuter : Outer top letter outer)
    (index : Int) (process : Process) :
    AllPlaced top ident
      (placedProcess ((Place.item [] outer.name index).child "process") letter ident index
        process) := by
  have row : RowOf top ident [outer, .process] none
      ((Place.item [] outer.name index).child "process",
        processRow letter ident index process) := by
    cases isOuter <;> exact ⟨by decide, .cls .process, rfl, rfl, rfl, ⟨[], rfl⟩, .inl rfl⟩
  have argRow : ∀ position arg, RowOf top ident [outer, .process] (some "arg")
      (((Place.item [] outer.name index).child "process").item "arg" position,
        stringRow letter ident index .processArg .arg position arg) := by
    intro position arg
    cases isOuter <;>
      exact ⟨by decide, .processArg, rfl, rfl, rfl, ⟨[], rfl⟩, .inr rfl⟩
  have envRow : ∀ position env, RowOf top ident [outer, .process] (some "env")
      (((Place.item [] outer.name index).child "process").item "env" position,
        stringRow letter ident index .processEnv .env position env) := by
    intro position env
    cases isOuter <;>
      exact ⟨by decide, .processEnv, rfl, rfl, rfl, ⟨[], rfl⟩, .inr rfl⟩
  exact .cons row (.append
    (.each (fun position arg => .cons (argRow position arg) .nil) _ _)
    (.each (fun position env => .cons (envRow position env) .nil) _ _))

theorem analyzer {letter : ParentType} (isOuter : Outer top letter .analyzer) (index : Int)
    (analyzer : Analyzer E) :
    AllPlaced top ident (placedAnalyzer letter ident index analyzer) := by
  have row : RowOf top ident [.analyzer] none
      (Place.item [] "analyzer" index, analyzerRow letter ident index analyzer) := by
    cases isOuter <;> exact ⟨by decide, .cls .analyzer, rfl, rfl, rfl, ⟨[], rfl⟩, .inr rfl⟩
  exact .cons row (.append (.optional (node isOuter index) _)
    (.optional (process isOuter index) _))

theorem additionalData {letter : ParentType} (isOuter : Outer top letter .analyzer)
    (additionalData : List AdditionalData) :
    AllPlaced top ident (placedAdditionalData letter ident E additionalData) := by
  have row : ∀ index data, RowOf top ident [.additionalData] none
      (Place.item [] "additional_data" index, additionalDataRow letter ident E index data) := by
    intro index data
    cases isOuter <;> exact ⟨by decide, .cls .additionalData, rfl, rfl, rfl, ⟨[], rfl⟩, .inr rfl⟩
  exact .listed (fun index data => .cons (row index data) .nil) _

/-- The classes that have users and services. -/
inductive Endpoint : ParentType → ClassId → Prop
  | source : Endpoint .S .source
  | target : Endpoint .T .target

theorem user {letter : ParentType} {outer : ClassId} (endpoint : Endpoint letter outer)
    (index : Int) (user : User E) :
    AllPlaced .alert ident
      (placedUser ((Place.item [] outer.name index).child "user") letter ident index user) := by
  have row : RowOf .alert ident [outer, .user] none
      ((Place.item [] outer.name index).child "user", userRow letter ident index user) := by
    cases endpoint <;> exact ⟨by decide, .cls .user, rfl, rfl, rfl, ⟨[], rfl⟩, .inl rfl⟩
  have userIdRow : ∀ position (userId : UserId E), RowOf .alert ident [outer, .user, .userId] none
      (((Place.item [] outer.name index).child "user").item "user_id" position,
        userIdRow letter ident index 0 0 position userId) := by
    intro position userId
    cases endpoint <;> exact ⟨by decide, .cls .userId, rfl, rfl, rfl, ⟨[0, 0], rfl⟩, .inr rfl⟩
  exact .cons row (.listed (fun position userId => .cons (userIdRow position userId) .nil) _)

theorem service {letter : ParentType} {outer : ClassId} (endpoint : Endpoint letter outer)
    (index : Int) (service : Service) :
    AllPlaced .alert ident
      (placedService ((Place.item [] outer.name index).child "service") letter ident index
        service) := by
  have row : RowOf .alert ident [outer, .service] none
      ((Place.item [] outer.name index).child "service",
        serviceRow letter ident index service) := by
    cases endpoint <;> exact ⟨by decide, .cls .service, rfl, rfl, rfl, ⟨[], rfl⟩, .inl rfl⟩
  refine .cons row ?_
  cases service.kind with
  | default => exact .nil
  | web webService =>
      have webRow : RowOf .alert ident [outer, .service, .webService] none
          (((Place.item [] outer.name index).child "service").child "web_service",
            webServiceRow letter ident index webService) := by
        cases endpoint <;> exact ⟨by decide, .cls .webService, rfl, rfl, rfl, ⟨[], rfl⟩, .inl rfl⟩
      have argRow : ∀ position arg, RowOf .alert ident [outer, .service, .webService] (some "arg")
          ((((Place.item [] outer.name index).child "service").child "web_service").item "arg"
            position, stringRow letter ident index .webServiceArg .arg position arg) := by
        intro position arg
        cases endpoint <;>
          exact ⟨by decide, .webServiceArg, rfl, rfl, rfl, ⟨[], rfl⟩, .inr rfl⟩
      exact .cons webRow (.listed (fun position arg => .cons (argRow position arg) .nil) _)
  | snmp snmpService =>
      have snmpRow : RowOf .alert ident [outer, .service, .snmpService] none
          (((Place.item [] outer.name index).child "service").child "snmp_service",
            snmpServiceRow letter ident index snmpService) := by
        cases endpoint <;> exact ⟨by decide, .cls .snmpService, rfl, rfl, rfl, ⟨[], rfl⟩, .inl rfl⟩
      exact .cons snmpRow .nil

/-- The place of a file. -/
def filePlace (target file : Int) : Place := (Place.item [] "target" target).item "file" file

theorem fileAccess (target file access : Int) (fileAccess : FileAccess E) :
    AllPlaced .alert ident
      (placedFileAccess ident (filePlace target file) target file access fileAccess) := by
  have permissionRow : ∀ position perm,
      RowOf .alert ident [.target, .file, .fileAccess] (some "permission")
        (((filePlace target file).item "file_access" access).item "permission" position,
          fileAccessPermissionRow ident target file access position perm) :=
    fun position perm => ⟨by decide, .permission, rfl, rfl, rfl, ⟨[], rfl⟩, .inr rfl⟩
  have row : RowOf .alert ident [.target, .file, .fileAccess] none
      ((filePlace target file).item "file_access" access,
        fileAccessRow ident target file access) :=
    ⟨by decide, .cls .fileAccess, rfl, rfl, rfl, ⟨[], rfl⟩, .inr rfl⟩
  have userIdRow : RowOf .alert ident [.target, .file, .fileAccess, .userId] none
      (((filePlace target file).item "file_access" access).child "user_id",
        userIdRow .F ident target file access 0 fileAccess.userId) :=
    ⟨by decide, .cls .userId, rfl, rfl, rfl, ⟨[], rfl⟩, .inl rfl⟩
  exact .cons row
    (.append (.listed (fun position perm => .cons (permissionRow position perm) .nil) _)
      (.cons userIdRow .nil))

theorem file (target index : Int) (file : File E) :
    AllPlaced .alert ident
      (placedFile ident (Place.item [] "target" target) target index file) := by
  have linkageRow : ∀ position (linkage : Linkage E),
      RowOf .alert ident [.target, .file, .linkage] none
        ((filePlace target index).item "linkage" position,
          linkageRow ident target index position linkage) :=
    fun position linkage => ⟨by decide, .cls .linkage, rfl, rfl, rfl, ⟨[], rfl⟩, .inr rfl⟩
  have checksumRow : ∀ position (checksum : Checksum E),
      RowOf .alert ident [.target, .file, .checksum] none
        ((filePlace target index).item "checksum" position,
          checksumRow ident target index position checksum) :=
    fun position checksum => ⟨by decide, .cls .checksum, rfl, rfl, rfl, ⟨[], rfl⟩, .inr rfl⟩
  have inodeRow : ∀ inode, RowOf .alert ident [.target, .file, .inode] none
      ((filePlace target index).child "inode", inodeRow ident target index inode) :=
    fun inode => ⟨by decide, .cls .inode, rfl, rfl, rfl, ⟨[], rfl⟩, .inl rfl⟩
  have row : RowOf .alert ident [.target, .file] none
      (filePlace target index, fileRow ident target index file) :=
    ⟨by decide, .cls .file, rfl, rfl, rfl, ⟨[], rfl⟩, .inr rfl⟩
  exact .cons row
    (.append (.listed (fileAccess target index) _)
    (.append (.listed (fun position linkage => .cons (linkageRow position linkage) .nil) _)
    (.append (.optional (fun inode => .cons (inodeRow inode) .nil) _)
      (.listed (fun position checksum => .cons (checksumRow position checksum) .nil) _))))

theorem source (index : Int) (source : Source E) :
    AllPlaced .alert ident (placedSource ident index source) := by
  have row : RowOf .alert ident [.source] none
      (Place.item [] "source" index, sourceRow ident index source) :=
    ⟨by decide, .cls .source, rfl, rfl, rfl, ⟨[], rfl⟩, .inr rfl⟩
  exact .cons row
    (.append (.optional (node .source index) _)
    (.append (.optional (user .source index) _)
    (.append (.optional (process .source index) _) (.optional (service .source index) _))))

theorem target (index : Int) (target : Target E) :
    AllPlaced .alert ident (placedTarget ident index target) := by
  have row : RowOf .alert ident [.target] none
      (Place.item [] "target" index, targetRow ident index target) :=
    ⟨by decide, .cls .target, rfl, rfl, rfl, ⟨[], rfl⟩, .inr rfl⟩
  exact .cons row
    (.append (.optional (node .target index) _)
    (.append (.optional (user .target index) _)
    (.append (.optional (process .target index) _)
    (.append (.optional (service .target index) _) (.listed (file index) _)))))

theorem classification (classification : Classification E) :
    AllPlaced .alert ident (placedClassification ident classification) := by
  have referenceRow : ∀ position (reference : Reference E),
      RowOf .alert ident [.classification, .reference] none
        ((Place.child [] "classification").item "reference" position,
          referenceRow ident position reference) :=
    fun position reference => ⟨by decide, .cls .reference, rfl, rfl, rfl, ⟨[], rfl⟩, .inr rfl⟩
  have row : RowOf .alert ident [.classification] none
      (Place.child [] "classification", classificationRow ident classification) :=
    ⟨by decide, .cls .classification, rfl, rfl, rfl, ⟨[], rfl⟩, .inl rfl⟩
  exact .cons row
    (.listed (fun position reference => .cons (referenceRow position reference) .nil) _)

theorem assessment (assessment : Assessment E) :
    AllPlaced .alert ident (placedAssessment ident assessment) := by
  have impactRow : ∀ impact : Impact E, RowOf .alert ident [.assessment, .impact] none
      ((Place.child [] "assessment").child "impact", impactRow ident impact) :=
    fun impact => ⟨by decide, .cls .impact, rfl, rfl, rfl, ⟨[], rfl⟩, .inl rfl⟩
  have confidenceRow : ∀ confidence : Confidence E,
      RowOf .alert ident [.assessment, .confidence] none
        ((Place.child [] "assessment").child "confidence", confidenceRow ident confidence) :=
    fun confidence => ⟨by decide, .cls .confidence, rfl, rfl, rfl, ⟨[], rfl⟩, .inl rfl⟩
  have actionRow : ∀ position (action : Action E),
      RowOf .alert ident [.assessment, .action] none
        ((Place.child [] "assessment").item "action" position, actionRow ident position action) :=
    fun position action => ⟨by decide, .cls .action, rfl, rfl, rfl, ⟨[], rfl⟩, .inr rfl⟩
  have row : RowOf .alert ident [.assessment] none
      (Place.child [] "assessment", assessmentRow ident) :=
    ⟨by decide, .cls .assessment, rfl, rfl, rfl, ⟨[], rfl⟩, .inl rfl⟩
  exact .cons row
    (.append (.optional (fun impact => .cons (impactRow impact) .nil) _)
    (.append (.optional (fun confidence => .cons (confidenceRow confidence) .nil) _)
      (.listed (fun position action => .cons (actionRow position action) .nil) _)))

theorem alertKind (kind : AlertKind) :
    AllPlaced .alert ident (placedAlertKind ident E kind) := by
  cases kind with
  | default => exact .nil
  | tool toolAlert =>
      have alertidentRow : ∀ position alertident,
          RowOf .alert ident [.toolAlert, .alertident] none
            ((Place.child [] "tool_alert").item "alertident" position,
              alertidentRow .T ident position (some alertident)) :=
        fun position alertident =>
          ⟨by decide, .cls .alertident, rfl, rfl, rfl, ⟨[], rfl⟩, .inr rfl⟩
      have row : RowOf .alert ident [.toolAlert] none
          (Place.child [] "tool_alert", toolAlertRow ident toolAlert) :=
        ⟨by decide, .cls .toolAlert, rfl, rfl, rfl, ⟨[], rfl⟩, .inl rfl⟩
      exact .cons row
        (.each (fun position alertident => .cons (alertidentRow position alertident) .nil) _ _)
  | overflow overflowAlert =>
      have row : RowOf .alert ident [.overflowAlert] none
          (Place.child [] "overflow_alert", overflowAlertRow ident E overflowAlert) :=
        ⟨by decide, .cls .overflowAlert, rfl, rfl, rfl, ⟨[], rfl⟩, .inl rfl⟩
      exact .cons row .nil
  | correlation correlationAlert =>
      have alertidentRow : ∀ position alertident,
          RowOf .alert ident [.correlationAlert, .alertident] none
            ((Place.child [] "correlation_alert").item "alertident" position,
              alertidentRow .C ident position (some alertident)) :=
        fun position alertident =>
          ⟨by decide, .cls .alertident, rfl, rfl, rfl, ⟨[], rfl⟩, .inr rfl⟩
      have row : RowOf .alert ident [.correlationAlert] none
          (Place.child [] "correlation_alert", correlationAlertRow ident correlationAlert) :=
        ⟨by decide, .cls .correlationAlert, rfl, rfl, rfl, ⟨[], rfl⟩, .inl rfl⟩
      exact .cons row
        (.listed (fun position alertident => .cons (alertidentRow position alertident) .nil) _)

theorem messageRow_aside (table : MessageTable) (cells : List (Column × Cell)) :
    Aside ([], messageRow ⟨table, ident⟩ cells) := by
  refine ⟨?_, by simp⟩
  cases table <;> simp [messageRow, asideTables, MessageTable.table]

/-- The times of a message with their tables. -/
def timeTables : List (String × Table) :=
  [("create_time", .createTime), ("detect_time", .detectTime), ("analyzer_time", .analyzerTime)]

theorem time_aside {name : String} {table : Table} (isTime : (name, table) ∈ timeTables)
    (letter : Option ParentType) (time : Option Time) :
    Aside (placedTime ident name table letter time) := by
  have all : ∀ entry ∈ timeTables, entry.2 ∈ asideTables ∧
      [entry.1] ∈ [[], ["create_time"], ["detect_time"], ["analyzer_time"]] := by
    decide
  exact ⟨(all _ isTime).1, (all _ isTime).2⟩

theorem message (ident : Nat) (message : Message E) :
    AllPlaced message.table ident (placedRows ident message) := by
  refine .aside (messageRow_aside _ _) ?_
  cases message with
  | alert alert =>
      exact .aside (time_aside (by decide) _ _)
        (.append (.optional (fun time => .aside (time_aside (by decide) _ _) .nil) _)
        (.append (.optional (fun time => .aside (time_aside (by decide) _ _) .nil) _)
        (.append (.optional assessment _)
        (.append (alertKind _)
        (.append (.listed (analyzer .analyzer) _)
        (.append (.listed source _)
        (.append (.listed target _)
        (.append (.optional classification _) (additionalData .analyzer _)))))))))
  | heartbeat heartbeat =>
      exact .append (.listed (analyzer .heartbeatAnalyzer) _)
        (.aside (time_aside (by decide) _ _)
        (.append (.optional (fun time => .aside (time_aside (by decide) _ _) .nil) _)
          (additionalData .heartbeatAnalyzer _)))

end AllPlaced

end RequiemDB
