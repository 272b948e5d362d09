import RequiemDB.Classic.Footprint
import RequiemDB.Classic.Ownership

/-!
# The lists of a message, by the keys of their rows

A table with a column `_index` holds, below each parent key, the elements of one
list of a message. `ListKey` names these tables with their parent keys, where an
index of -1 stands for the last element of the list above. `listAt` is the list
that belongs to a key, each element as the row it is written to under an index.
A database that shows the script of a message has below each key the rows of that
list; three lists are written without the copy of their last element.
-/

namespace RequiemDB

open Lib

variable {E : EnumKind → Type} [Librequiem E] {α β : Type}

section Keys

/-- The parts of a message that carry nodes, users, processes and services. -/
inductive Holder where
  | analyzer (kind : MessageTable)
  | source
  | target
deriving DecidableEq

def Holder.letter : Holder → ParentType
  | .analyzer kind => messageLetter kind
  | .source => .S
  | .target => .T

def Holder.kind : Holder → MessageTable
  | .analyzer kind => kind
  | .source | .target => .alert

/-- A table that is filled from lists, with a parent key of its rows. -/
inductive ListKey where
  | analyzers (kind : MessageTable)
  | additionalData (kind : MessageTable)
  | sources
  | targets
  | references
  | actions
  | toolAlertidents
  | correlationAlertidents
  | addresses (holder : Holder) (index : Int)
  | processArgs (holder : Holder) (index : Int)
  | processEnvs (holder : Holder) (index : Int)
  | userIds (holder : Holder) (index : Int)
  | webServiceArgs (holder : Holder) (index : Int)
  | files (target : Int)
  | fileAccesses (target file : Int)
  | linkages (target file : Int)
  | checksums (target file : Int)
  | permissions (target file fileAccess : Int)

namespace ListKey

/-- The table, and the parent letter of the rows. -/
def asked : ListKey → Table × ParentTypeTest
  | .analyzers kind => (.analyzer, .is (messageLetter kind))
  | .additionalData kind => (.additionalData, .is (messageLetter kind))
  | .sources => (.source, .any)
  | .targets => (.target, .any)
  | .references => (.reference, .any)
  | .actions => (.action, .any)
  | .toolAlertidents => (.alertident, .is .T)
  | .correlationAlertidents => (.alertident, .is .C)
  | .addresses holder _ => (.address, .is holder.letter)
  | .processArgs holder _ => (.processArg, .is holder.letter)
  | .processEnvs holder _ => (.processEnv, .is holder.letter)
  | .userIds holder _ => (.userId, .is holder.letter)
  | .webServiceArgs holder _ => (.webServiceArg, .is holder.letter)
  | .files _ => (.file, .any)
  | .fileAccesses _ _ => (.fileAccess, .any)
  | .linkages _ _ => (.linkage, .any)
  | .checksums _ _ => (.checksum, .any)
  | .permissions _ _ _ => (.fileAccessPermission, .any)

def parents : ListKey → List Int
  | .addresses _ index | .processArgs _ index | .processEnvs _ index | .webServiceArgs _ index =>
      [index]
  | .userIds _ index => [index, 0, 0]
  | .files target => [target]
  | .fileAccesses target file | .linkages target file | .checksums target file => [target, file]
  | .permissions target file fileAccess => [target, file, fileAccess]
  | _ => []

/-- The kind of message whose rows have the key. -/
def kind : ListKey → MessageTable
  | .analyzers kind | .additionalData kind => kind
  | .addresses holder _ | .processArgs holder _ | .processEnvs holder _ | .userIds holder _
  | .webServiceArgs holder _ => holder.kind
  | _ => .alert

/-- The rows below a key of a message; those under index -1 are among them. -/
def select (key : ListKey) (ident : Nat) : Select where
  table := key.asked.1
  parentType := key.asked.2
  messageIdent := ident
  parents := key.parents
  listed := false

theorem select_matches {key : ListKey} {ident : Nat} {row : Row}
    (table : row.table = key.asked.1) (letter : key.asked.2.Holds row.parentType)
    (isIdent : row.messageIdent = ident) (below : row.parents = key.parents) :
    (key.select ident).Matches row :=
  ⟨table, letter, isIdent, below, fun absent => absurd absent Bool.false_ne_true⟩

/-- The last element of the list is inserted once more, under index -1. -/
def copied : ListKey → Bool
  | .toolAlertidents | .processArgs _ _ | .processEnvs _ _ => false
  | _ => true

end ListKey

end Keys

section Lists

/-- A part of the analyzer, source or target at an index. -/
def Message.heldAt (ofAnalyzer : Analyzer E → Option β) (ofSource : Source E → Option β)
    (ofTarget : Target E → Option β) : Message E → Holder → Int → Option β
  | .alert message, .analyzer .alert, index => (atIndex message.analyzers index).bind ofAnalyzer
  | .alert message, .source, index => (atIndex message.sources index).bind ofSource
  | .alert message, .target, index => (atIndex message.targets index).bind ofTarget
  | .heartbeat message, .analyzer .heartbeat, index =>
      (atIndex message.analyzers index).bind ofAnalyzer
  | _, _, _ => none

variable (message : Message E)

def Message.nodeAt : Holder → Int → Option (Node E) :=
  message.heldAt Analyzer.node Source.node Target.node

def Message.processAt : Holder → Int → Option Process :=
  message.heldAt Analyzer.process Source.process Target.process

/-- An analyzer has no user. -/
def Message.userAt : Holder → Int → Option (User E) :=
  message.heldAt (fun _ => none) Source.user Target.user

def Message.serviceAt : Holder → Int → Option Service :=
  message.heldAt (fun _ => none) Source.service Target.service

def ServiceKind.webArgs : ServiceKind → List String
  | .web webService => webService.args
  | _ => []

/-- A list of an alert; a heartbeat has none. -/
def Message.ofAlert (list : Alert E → List α) : Message E → List α
  | .alert message => list message
  | .heartbeat _ => []

def Message.analyzers : Message E → List (Analyzer E)
  | .alert message => message.analyzers
  | .heartbeat message => message.analyzers

def Message.additionalData : Message E → List AdditionalData
  | .alert message => message.additionalData
  | .heartbeat message => message.additionalData

def AlertKind.toolAlertidents : AlertKind → List Alertident
  | .tool toolAlert => toolAlert.alertidents
  | _ => []

def AlertKind.correlationAlertidents : AlertKind → List Alertident
  | .correlation correlationAlert => correlationAlert.alertidents
  | _ => []

def Message.filesAt (target : Int) : List (File E) :=
  (atIndex (message.ofAlert Alert.targets) target).elim [] Target.files

def Message.fileAt (target file : Int) : Option (File E) :=
  atIndex (message.filesAt target) file

def Message.accessesAt (target file : Int) : List (FileAccess E) :=
  (message.fileAt target file).elim [] File.fileAccesses

/-- The elements of a list, each as the row that is written for it under an index. -/
def asRows (row : Int → α → Row) (elements : List α) : List (Int → Row) :=
  elements.map fun element index => row index element

/-- The list whose elements are written below a key. -/
def Message.listAt (ident : Nat) : ListKey → List (Int → Row)
  | .analyzers kind => asRows (analyzerRow (messageLetter kind) ident) message.analyzers
  | .additionalData kind =>
      asRows (additionalDataRow (messageLetter kind) ident E) message.additionalData
  | .sources => asRows (sourceRow ident) (message.ofAlert Alert.sources)
  | .targets => asRows (targetRow ident) (message.ofAlert Alert.targets)
  | .references => asRows (referenceRow ident)
      (message.ofAlert fun alert => alert.classification.elim [] Classification.references)
  | .actions => asRows (actionRow ident)
      (message.ofAlert fun alert => alert.assessment.elim [] Assessment.actions)
  | .toolAlertidents =>
      asRows (fun index alertident => alertidentRow .T ident index (some alertident))
      (message.ofAlert fun alert => alert.kind.toolAlertidents)
  | .correlationAlertidents =>
      asRows (fun index alertident => alertidentRow .C ident index (some alertident))
        (message.ofAlert fun alert => alert.kind.correlationAlertidents)
  | .addresses holder index => asRows (addressRow holder.letter ident index)
      ((message.nodeAt holder index).elim [] Node.addresses)
  | .processArgs holder index => asRows (stringRow holder.letter ident index .processArg .arg)
      ((message.processAt holder index).elim [] Process.args)
  | .processEnvs holder index => asRows (stringRow holder.letter ident index .processEnv .env)
      ((message.processAt holder index).elim [] Process.envs)
  | .userIds holder index => asRows (userIdRow holder.letter ident index 0 0)
      ((message.userAt holder index).elim [] User.userIds)
  | .webServiceArgs holder index =>
      asRows (stringRow holder.letter ident index .webServiceArg .arg)
        ((message.serviceAt holder index).elim [] fun service => service.kind.webArgs)
  | .files target => asRows (fileRow ident target) (message.filesAt target)
  | .fileAccesses target file => asRows (fun index _ => fileAccessRow ident target file index)
      (message.accessesAt target file)
  | .linkages target file => asRows (linkageRow ident target file)
      ((message.fileAt target file).elim [] File.linkages)
  | .checksums target file => asRows (checksumRow ident target file)
      ((message.fileAt target file).elim [] File.checksums)
  | .permissions target file fileAccess =>
      asRows (fileAccessPermissionRow ident target file fileAccess)
        ((atIndex (message.accessesAt target file) fileAccess).elim [] FileAccess.permissions)

end Lists

section Parts

variable {store : Store} {ident : Nat} {asked : Asked}

theorem Shows.alertPart {alert : Alert E} {script : Script Row}
    (shows : Shows store ident asked [] (alertScript ident alert)) (position : Nat)
    (found : (alertParts ident alert)[position]? = some script)
    (apart : ∀ footprint ∈ alertFootprints.eraseIdx position, TablesApart asked footprint) :
    Shows store ident asked [] script := by
  rw [alertScript_eq] at shows
  exact shows.part (within_alertParts ident alert) position found apart

theorem Shows.heartbeatPart {heartbeat : Heartbeat E} {script : Script Row}
    (shows : Shows store ident asked [] (heartbeatScript ident heartbeat)) (position : Nat)
    (found : (heartbeatParts ident heartbeat)[position]? = some script)
    (apart : ∀ footprint ∈ heartbeatFootprints.eraseIdx position, TablesApart asked footprint) :
    Shows store ident asked [] script := by
  rw [heartbeatScript_eq] at shows
  exact shows.part (within_heartbeatParts ident heartbeat) position found apart

section Elements

variable {script : Int → β → Script Row} (index : Int)

theorem Shows.analyzerPart {letter : ParentType} {analyzers : List (Analyzer E)}
    (field : Analyzer E → Option β)
    (shows : Shows store ident asked [] (listed (analyzerScript letter ident) analyzers))
    (position : Nat)
    (found : ∀ index analyzer, (analyzerParts letter ident index analyzer)[position]? =
      some (optionalScript (script index) (field analyzer)))
    (apart : ∀ footprint ∈ [(.analyzer, some letter)] ::
      (analyzerFootprints letter).eraseIdx position, TablesApart asked footprint) :
    Shows store ident asked [index]
      (optionalScript (script index) ((atIndex analyzers index).bind field)) := by
  rw [analyzerScript_eq] at shows
  rw [← optionalScript_bind]
  exact shows.partBelow (analyzerRow letter ident) _ (.analyzer, some letter) (fun _ _ => rfl)
    (within_analyzerParts letter ident) position found apart index

theorem Shows.sourcePart {sources : List (Source E)} (field : Source E → Option β)
    (shows : Shows store ident asked [] (listed (sourceScript ident) sources))
    (position : Nat)
    (found : ∀ index source, (sourceParts ident index source)[position]? =
      some (optionalScript (script index) (field source)))
    (apart : ∀ footprint ∈ [(.source, none)] :: sourceFootprints.eraseIdx position,
      TablesApart asked footprint) :
    Shows store ident asked [index]
      (optionalScript (script index) ((atIndex sources index).bind field)) := by
  rw [sourceScript_eq] at shows
  rw [← optionalScript_bind]
  exact shows.partBelow (sourceRow ident) _ (.source, none) (fun _ _ => rfl)
    (within_sourceParts ident) position found apart index

theorem Shows.targetPart {targets : List (Target E)} (field : Target E → Option β)
    (shows : Shows store ident asked [] (listed (targetScript ident) targets))
    (position : Nat)
    (found : ∀ index target, (targetParts ident index target)[position]? =
      some (optionalScript (script index) (field target)))
    (apart : ∀ footprint ∈ [(.target, none)] :: targetFootprints.eraseIdx position,
      TablesApart asked footprint) :
    Shows store ident asked [index]
      (optionalScript (script index) ((atIndex targets index).bind field)) := by
  rw [targetScript_eq] at shows
  rw [← optionalScript_bind]
  exact shows.partBelow (targetRow ident) _ (.target, none) (fun _ _ => rfl)
    (within_targetParts ident) position found apart index

end Elements

end Parts

section Held

/-- The tables with lists below the parts of analyzers, sources and targets. -/
def heldTables : List Table := [.address, .userId, .processArg, .processEnv, .webServiceArg]

theorem heldTables_apart : ∀ table ∈ heldTables,
    (∀ footprint ∈ alertFootprints.eraseIdx 5, TablesApart [(table, .is .A)] footprint) ∧
    (∀ footprint ∈ alertFootprints.eraseIdx 6, TablesApart [(table, .is .S)] footprint) ∧
    (∀ footprint ∈ alertFootprints.eraseIdx 7, TablesApart [(table, .is .T)] footprint) ∧
    ∀ footprint ∈ heartbeatFootprints.eraseIdx 0, TablesApart [(table, .is .H)] footprint := by
  decide

variable {store : Store} {ident : Nat} (message : Message E) (holder : Holder) (index : Int)
  (sameKind : holder.kind = message.table)
include sameKind

/-- A part of the analyzer, source or target at an index, found in the list of those. -/
theorem shows_heldAt {table : Table} (script : ParentType → Int → β → Script Row)
    {ofAnalyzer : Analyzer E → Option β} {ofSource : Source E → Option β}
    {ofTarget : Target E → Option β}
    (shows : Shows store ident [(table, .is holder.letter)] [] (messageScript ident message))
    (nested : table ∈ heldTables)
    (inAnalyzer : ∀ kind analyzers, Shows store ident [(table, .is (messageLetter kind))] []
        (listed (analyzerScript (messageLetter kind) ident) analyzers) →
      Shows store ident [(table, .is (messageLetter kind))] [index]
        (optionalScript (script (messageLetter kind) index)
          ((atIndex analyzers index).bind ofAnalyzer)))
    (inSource : ∀ sources, Shows store ident [(table, .is .S)] []
        (listed (sourceScript ident) sources) →
      Shows store ident [(table, .is .S)] [index]
        (optionalScript (script .S index) ((atIndex sources index).bind ofSource)))
    (inTarget : ∀ targets, Shows store ident [(table, .is .T)] []
        (listed (targetScript ident) targets) →
      Shows store ident [(table, .is .T)] [index]
        (optionalScript (script .T index) ((atIndex targets index).bind ofTarget))) :
    Shows store ident [(table, .is holder.letter)] [index]
      (optionalScript (script holder.letter index)
        (message.heldAt ofAnalyzer ofSource ofTarget holder index)) := by
  rcases heldTables_apart table nested with
    ⟨apartAnalyzers, apartSources, apartTargets, apartHeartbeats⟩
  cases message with
  | alert alert =>
      cases holder with
      | analyzer kind =>
          cases sameKind
          exact inAnalyzer .alert _ (Shows.alertPart shows 5 rfl apartAnalyzers)
      | source => exact inSource _ (Shows.alertPart shows 6 rfl apartSources)
      | target => exact inTarget _ (Shows.alertPart shows 7 rfl apartTargets)
  | heartbeat heartbeat =>
      cases holder with
      | analyzer kind =>
          cases sameKind
          exact inAnalyzer .heartbeat _ (Shows.heartbeatPart shows 0 rfl apartHeartbeats)
      | source => exact nomatch sameKind
      | target => exact nomatch sameKind

theorem shows_nodeAt
    (shows : Shows store ident [(.address, .is holder.letter)] [] (messageScript ident message)) :
    Shows store ident [(.address, .is holder.letter)] [index]
      (optionalScript (nodeScript holder.letter ident index) (message.nodeAt holder index)) := by
  refine shows_heldAt message holder index sameKind (fun letter => nodeScript letter ident) shows
    (by decide) (fun kind analyzers shown => ?_) (fun sources shown => ?_) fun targets shown => ?_
  · exact shown.analyzerPart index _ 0 (fun _ _ => rfl) (by cases kind <;> decide)
  · exact shown.sourcePart index _ 0 (fun _ _ => rfl) (by decide)
  · exact shown.targetPart index _ 0 (fun _ _ => rfl) (by decide)

theorem shows_processAt {table : Table} (ofProcess : table = .processArg ∨ table = .processEnv)
    (shows : Shows store ident [(table, .is holder.letter)] [] (messageScript ident message)) :
    Shows store ident [(table, .is holder.letter)] [index]
      (optionalScript (processScript holder.letter ident index)
        (message.processAt holder index)) := by
  have nested : table ∈ heldTables := by rcases ofProcess with rfl | rfl <;> decide
  refine shows_heldAt message holder index sameKind (fun letter => processScript letter ident)
    shows nested (fun kind analyzers shown => ?_) (fun sources shown => ?_) fun targets shown => ?_
  · refine shown.analyzerPart index _ 1 (fun _ _ => rfl) ?_
    rcases ofProcess with rfl | rfl <;> cases kind <;> decide
  · refine shown.sourcePart index _ 2 (fun _ _ => rfl) ?_
    rcases ofProcess with rfl | rfl <;> decide
  · refine shown.targetPart index _ 2 (fun _ _ => rfl) ?_
    rcases ofProcess with rfl | rfl <;> decide

theorem shows_userAt
    (shows : Shows store ident [(.userId, .is holder.letter)] [] (messageScript ident message)) :
    Shows store ident [(.userId, .is holder.letter)] [index]
      (optionalScript (userScript holder.letter ident index) (message.userAt holder index)) := by
  refine shows_heldAt message holder index sameKind (fun letter => userScript letter ident) shows
    (by decide) (fun kind analyzers shown => ?_) (fun sources shown => ?_) fun targets shown => ?_
  · rw [Option.bind_fun_none]
    exact shown.nothing (within_analyzers ident _ _) (by cases kind <;> decide) List.nil_prefix
  · exact shown.sourcePart index _ 1 (fun _ _ => rfl) (by decide)
  · exact shown.targetPart index _ 1 (fun _ _ => rfl) (by decide)

theorem shows_serviceAt
    (shows : Shows store ident [(.webServiceArg, .is holder.letter)] []
      (messageScript ident message)) :
    Shows store ident [(.webServiceArg, .is holder.letter)] [index]
      (optionalScript (serviceScript holder.letter ident index)
        (message.serviceAt holder index)) := by
  refine shows_heldAt message holder index sameKind (fun letter => serviceScript letter ident)
    shows (by decide) (fun kind analyzers shown => ?_) (fun sources shown => ?_)
    fun targets shown => ?_
  · rw [Option.bind_fun_none]
    exact shown.nothing (within_analyzers ident _ _) (by cases kind <;> decide) List.nil_prefix
  · exact shown.sourcePart index _ 3 (fun _ _ => rfl) (by decide)
  · exact shown.targetPart index _ 3 (fun _ _ => rfl) (by decide)

end Held

section Files

variable {store : Store} {ident : Nat} {asked : Asked} {alert : Alert E} (target file : Int)

theorem shows_filesAt (table : Table)
    (shows : Shows store ident [(table, .any)] [] (alertScript ident alert))
    (apart : ∀ footprint ∈
      alertFootprints.eraseIdx 7 ++ [(.target, none)] :: targetFootprints.eraseIdx 4,
      TablesApart [(table, .any)] footprint) :
    Shows store ident [(table, .any)] [target]
      (listed (fileScript ident target) ((Message.alert alert).filesAt target)) := by
  rw [List.forall_mem_append] at apart
  have targets := shows.alertPart 7 rfl apart.1
  rw [targetScript_eq] at targets
  have files := targets.partBelow (targetRow ident) _ (.target, none) (fun _ _ => rfl)
    (within_targetParts ident) 4 (fun _ _ => rfl) apart.2 target
  rwa [optionalScript_listed] at files

theorem shows_fileAt {script : Int → Int → β → Script Row} (field : File E → List β)
    {files : List (File E)}
    (shows : Shows store ident asked [target] (listed (fileScript ident target) files))
    (position : Nat)
    (found : ∀ index file, (fileParts ident target index file)[position]? =
      some (listed (script index) (field file)))
    (apart : ∀ footprint ∈ [(.file, none)] :: fileFootprints.eraseIdx position,
      TablesApart asked footprint) :
    Shows store ident asked [target, file]
      (listed (script file) ((atIndex files file).elim [] field)) := by
  rw [fileScript_eq] at shows
  have lists := shows.partBelow (fileRow ident target) _ (.file, none) (fun _ _ => rfl)
    (within_fileParts ident target) position found apart file
  rwa [optionalScript_listed] at lists

end Files

section Rows

variable {store : Store} {ident : Nat}

theorem Shows.webServiceArgs {letter : ParentType} {index : Int} {service : Option Service}
    (shows : Shows store ident [(.webServiceArg, .is letter)] [index]
      (optionalScript (serviceScript letter ident index) service)) :
    Shows store ident [(.webServiceArg, .is letter)] [index]
      (listed (fun position arg =>
          [.must (stringRow letter ident index .webServiceArg .arg position arg)])
        (service.elim [] fun service => service.kind.webArgs)) := by
  cases service with
  | none => exact shows
  | some service =>
      have below := shows.tail (List.Subset.refl _) (by simp [TablesApart, serviceRow])
      rw [Option.elim_some]
      cases isKind : service.kind with
      | default =>
          rw [isKind] at below
          exact below
      | web webService =>
          rw [isKind] at below
          exact below.tail (List.Subset.refl _) (by simp [TablesApart, webServiceRow])
      | snmp snmpService =>
          rw [isKind] at below
          exact below.tail (List.Subset.refl _) (by simp [TablesApart, snmpServiceRow])

/-- The rows that a list is written to. -/
def written (copied : Bool) (elements : List (Int → Row)) : List Row :=
  if copied then listed (fun index row => [row index]) elements
  else each (fun index row => [row index]) 0 elements

theorem Shows.written {key : ListKey} {above : List Int} {row : Int → α → Row} {elements : List α}
    (shows : Shows store ident [key.asked] above
      (listed (fun index element => [.must (row index element)]) elements))
    (isCopied : key.copied = true) (below : above <+: key.parents)
    (isMatch : ∀ index element, (key.select ident).Matches (row index element)) :
    store.rows.filter (fun row => (key.select ident).Matches row) =
      RequiemDB.written key.copied (asRows row elements) := by
  rw [shows (key.select ident) ⟨.head _, rfl, below⟩, found_listed, RequiemDB.written, isCopied,
    if_pos rfl, asRows, listed_of_map]
  simp [found_must, isMatch]

theorem Shows.writtenOnce {key : ListKey} {above : List Int} {row : Int → α → Row}
    {elements : List α}
    (shows : Shows store ident [key.asked] above
      (each (fun index element => [.must (row index element)]) 0 elements))
    (uncopied : key.copied = false) (below : above <+: key.parents)
    (isMatch : ∀ index element, (key.select ident).Matches (row index element)) :
    store.rows.filter (fun row => (key.select ident).Matches row) =
      RequiemDB.written key.copied (asRows row elements) := by
  rw [shows (key.select ident) ⟨.head _, rfl, below⟩, found_each, RequiemDB.written, uncopied,
    if_neg (by decide), asRows, each_of_map]
  simp [found_must, isMatch]

theorem Shows.actions {assessment : Option (Assessment E)}
    (shows : Shows store ident [(.action, .any)] []
      (optionalScript (assessmentScript ident) assessment)) :
    Shows store ident [(.action, .any)] []
      (listed (fun index action => [.must (actionRow ident index action)])
        (assessment.elim [] Assessment.actions)) := by
  cases assessment with
  | none => exact shows
  | some assessment =>
      rw [optionalScript, Option.elim_some, assessmentScript_eq] at shows
      have parts := shows.tail (List.Subset.refl _) (by simp [TablesApart, assessmentRow])
      exact parts.part (within_assessmentParts ident assessment) 2 rfl (by decide)

section AlertKinds

variable {kind : AlertKind}

theorem Shows.toolAlertidents
    (shows : Shows store ident [(.alertident, .is .T)] [] (alertKindScript ident E kind)) :
    Shows store ident [(.alertident, .is .T)] []
      (each (fun index alertident => [.must (alertidentRow .T ident index (some alertident))]) 0
        kind.toolAlertidents) := by
  cases kind with
  | default => exact shows
  | tool toolAlert =>
      exact shows.tail (List.Subset.refl _) (by simp [TablesApart, toolAlertRow])
  | overflow overflowAlert =>
      exact shows.tail (List.Subset.refl _) (by simp [TablesApart, overflowAlertRow])
  | correlation correlationAlert =>
      have other : Within [(.correlationAlert, none), (.alertident, some .C)] []
          (correlationAlertScript ident correlationAlert) :=
        .cons ⟨.head _, List.prefix_rfl⟩
          (.listed fun _ _ => .single ⟨.tail _ (.head _), List.prefix_rfl⟩)
      exact shows.nothing other (by decide) List.prefix_rfl

theorem Shows.correlationAlertidents
    (shows : Shows store ident [(.alertident, .is .C)] [] (alertKindScript ident E kind)) :
    Shows store ident [(.alertident, .is .C)] []
      (listed (fun index alertident => [.must (alertidentRow .C ident index (some alertident))])
        kind.correlationAlertidents) := by
  cases kind with
  | default => exact shows
  | tool toolAlert =>
      have other : Within [(.toolAlert, none), (.alertident, some .T)] []
          (toolAlertScript ident toolAlert) :=
        .cons ⟨.head _, List.prefix_rfl⟩
          (.each fun _ _ => .single ⟨.tail _ (.head _), List.prefix_rfl⟩)
      exact shows.nothing other (by decide) List.prefix_rfl
  | overflow overflowAlert =>
      exact shows.tail (List.Subset.refl _) (by simp [TablesApart, overflowAlertRow])
  | correlation correlationAlert =>
      exact shows.tail (List.Subset.refl _) (by simp [TablesApart, correlationAlertRow])

end AlertKinds

omit [Librequiem E] in
theorem eq_alert_of_table {message : Message E} (isAlert : .alert = message.table) :
    ∃ alert, message = .alert alert := by
  cases message with
  | alert alert => exact ⟨alert, rfl⟩
  | heartbeat heartbeat => exact nomatch isAlert

/-- Below each key of a message stand the rows of its list. -/
theorem rows_below_key (message : Message E) (key : ListKey) (sameKind : key.kind = message.table)
    (shows : Shows store ident [key.asked] [] (messageScript ident message)) :
    store.rows.filter (fun row => (key.select ident).Matches row) =
      written key.copied (message.listAt ident key) := by
  have isMatch : ∀ {row : Row}, row.table = key.asked.1 → key.asked.2.Holds row.parentType →
      row.messageIdent = ident → row.parents = key.parents → (key.select ident).Matches row :=
    ListKey.select_matches
  cases key with
  | addresses holder index =>
      have addresses := (shows_nodeAt message holder index sameKind shows).listOf
        (nodeRow holder.letter ident index) Node.addresses (by simp [TablesApart, nodeRow])
      exact addresses.written rfl List.prefix_rfl fun _ _ => isMatch rfl rfl rfl rfl
  | userIds holder index =>
      have userIds := (shows_userAt message holder index sameKind shows).listOf
        (userRow holder.letter ident index) User.userIds (by simp [TablesApart, userRow])
      exact userIds.written rfl (List.prefix_append [index] [0, 0]) fun _ _ =>
        isMatch rfl rfl rfl rfl
  | processArgs holder index =>
      have args := (shows_processAt message holder index sameKind (.inl rfl) shows).args
      exact args.writtenOnce rfl List.prefix_rfl fun _ _ => isMatch rfl rfl rfl rfl
  | processEnvs holder index =>
      have envs := (shows_processAt message holder index sameKind (.inr rfl) shows).envs
      exact envs.writtenOnce rfl List.prefix_rfl fun _ _ => isMatch rfl rfl rfl rfl
  | webServiceArgs holder index =>
      have args := (shows_serviceAt message holder index sameKind shows).webServiceArgs
      exact args.written rfl List.prefix_rfl fun _ _ => isMatch rfl rfl rfl rfl
  | analyzers kind =>
      have analyzers : Shows store ident [(.analyzer, .is (messageLetter kind))] []
          (listed (analyzerScript (messageLetter kind) ident) message.analyzers) := by
        cases message <;> cases sameKind
        · exact shows.alertPart 5 rfl (by decide)
        · exact shows.heartbeatPart 0 rfl (by decide)
      rw [analyzerScript_eq] at analyzers
      have heads := analyzers.heads _ _ (fun index analyzer => Within.flatten
        (within_analyzerParts (messageLetter kind) ident index analyzer)) (by cases kind <;> decide)
      exact heads.written rfl List.prefix_rfl fun _ _ => isMatch rfl rfl rfl rfl
  | additionalData kind =>
      have data : Shows store ident [(.additionalData, .is (messageLetter kind))] []
          (listed (fun index data =>
              [.must (additionalDataRow (messageLetter kind) ident E index data)])
            message.additionalData) := by
        cases message <;> cases sameKind
        · exact shows.alertPart 9 rfl (by decide)
        · exact shows.heartbeatPart 3 rfl (by decide)
      exact data.written rfl List.prefix_rfl fun _ _ => isMatch rfl rfl rfl rfl
  | sources =>
      rcases eq_alert_of_table sameKind with ⟨alert, rfl⟩
      have sources := Shows.alertPart shows 6 rfl (by decide)
      rw [sourceScript_eq] at sources
      have heads := sources.heads _ _ (fun index source => Within.flatten
        (within_sourceParts ident index source)) (by decide)
      exact heads.written rfl List.prefix_rfl fun _ _ => isMatch rfl trivial rfl rfl
  | targets =>
      rcases eq_alert_of_table sameKind with ⟨alert, rfl⟩
      have targets := Shows.alertPart shows 7 rfl (by decide)
      rw [targetScript_eq] at targets
      have heads := targets.heads _ _ (fun index target => Within.flatten
        (within_targetParts ident index target)) (by decide)
      exact heads.written rfl List.prefix_rfl fun _ _ => isMatch rfl trivial rfl rfl
  | references =>
      rcases eq_alert_of_table sameKind with ⟨alert, rfl⟩
      have classification := Shows.alertPart shows 8 rfl (by decide)
      have references := classification.listOf (classificationRow ident)
        Classification.references (by simp [TablesApart, ListKey.asked, classificationRow])
      exact references.written rfl List.prefix_rfl fun _ _ => isMatch rfl trivial rfl rfl
  | actions =>
      rcases eq_alert_of_table sameKind with ⟨alert, rfl⟩
      have assessment := Shows.alertPart shows 3 rfl (by decide)
      exact assessment.actions.written rfl List.prefix_rfl fun _ _ => isMatch rfl trivial rfl rfl
  | toolAlertidents =>
      rcases eq_alert_of_table sameKind with ⟨alert, rfl⟩
      have alertidents := (Shows.alertPart shows 4 rfl (by decide)).toolAlertidents
      exact alertidents.writtenOnce rfl List.prefix_rfl fun _ _ => isMatch rfl rfl rfl rfl
  | correlationAlertidents =>
      rcases eq_alert_of_table sameKind with ⟨alert, rfl⟩
      have alertidents := (Shows.alertPart shows 4 rfl (by decide)).correlationAlertidents
      exact alertidents.written rfl List.prefix_rfl fun _ _ => isMatch rfl rfl rfl rfl
  | files target =>
      rcases eq_alert_of_table sameKind with ⟨alert, rfl⟩
      have files := shows_filesAt target .file shows (by decide)
      rw [fileScript_eq] at files
      have heads := files.heads _ _ (fun index file => Within.flatten
        (within_fileParts ident target index file)) (by decide)
      exact heads.written rfl List.prefix_rfl fun _ _ => isMatch rfl trivial rfl rfl
  | fileAccesses target file =>
      rcases eq_alert_of_table sameKind with ⟨alert, rfl⟩
      have files := shows_filesAt target .fileAccess shows (by decide)
      have accesses := shows_fileAt target file File.fileAccesses files 0 (fun _ _ => rfl)
        (by decide)
      rw [fileAccessScript_eq] at accesses
      have heads := accesses.heads _ _ (fun index fileAccess => Within.flatten
        (within_accessParts ident target file index fileAccess)) (by decide)
      exact heads.written rfl List.prefix_rfl fun _ _ => isMatch rfl trivial rfl rfl
  | linkages target file =>
      rcases eq_alert_of_table sameKind with ⟨alert, rfl⟩
      have files := shows_filesAt target .linkage shows (by decide)
      have linkages := shows_fileAt target file File.linkages files 1 (fun _ _ => rfl)
        (by decide)
      exact linkages.written rfl List.prefix_rfl fun _ _ => isMatch rfl trivial rfl rfl
  | checksums target file =>
      rcases eq_alert_of_table sameKind with ⟨alert, rfl⟩
      have files := shows_filesAt target .checksum shows (by decide)
      have checksums := shows_fileAt target file File.checksums files 3 (fun _ _ => rfl)
        (by decide)
      exact checksums.written rfl List.prefix_rfl fun _ _ => isMatch rfl trivial rfl rfl
  | permissions target file fileAccess =>
      rcases eq_alert_of_table sameKind with ⟨alert, rfl⟩
      have files := shows_filesAt target .fileAccessPermission shows (by decide)
      have accesses := shows_fileAt target file File.fileAccesses files 0 (fun _ _ => rfl)
        (by decide)
      rw [fileAccessScript_eq] at accesses
      have permissions := accesses.partBelow
        (fun index _ => fileAccessRow ident target file index) _ (.fileAccess, none)
        (fun _ _ => rfl) (within_accessParts ident target file) 0 (fun _ _ => rfl) (by decide)
        fileAccess
      rw [optionalScript_listed] at permissions
      exact permissions.written rfl List.prefix_rfl fun _ _ => isMatch rfl trivial rfl rfl

end Rows

end RequiemDB
