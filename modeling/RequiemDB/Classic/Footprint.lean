import RequiemDB.Classic.Shown

/-!
# Where the parts of a message stand

The tables and parent letters of the rows of each part of a message, and the
parent index that they stand below.
-/

namespace RequiemDB

open Lib

variable {E : EnumKind → Type} [Librequiem E] {α β : Type}

/-- The tables of a footprint with the tests that their readers use. -/
def Footprint.asked (footprint : Footprint) : Asked :=
  footprint.map fun entry => (entry.1, entry.2.elim .any .is)

theorem optionalScript_bind (script : β → Script Row) (field : α → Option β) (part : Option α) :
    optionalScript (fun element => optionalScript script (field element)) part =
      optionalScript script (part.bind field) := by
  cases part <;> rfl

theorem optionalScript_listed (script : Int → β → Script Row) (field : α → List β)
    (part : Option α) :
    optionalScript (fun element => listed script (field element)) part =
      listed script (part.elim [] field) := by
  cases part <;> rfl

/-- The list of an optional part, behind the row of the part itself. -/
theorem Shows.listOf {store : Store} {ident : Nat} {asked : Asked} {parents : List Int}
    {script : Int → β → Script Row} (row : α → Row) {onFailure : OnFailure Row}
    (field : α → List β) {part : Option α}
    (shows : Shows store ident asked parents (optionalScript
      (fun element => ⟨row element, onFailure⟩ :: listed script (field element)) part))
    (apart : ∀ element, TablesApart asked [((row element).table, (row element).parentType)]) :
    Shows store ident asked parents (listed script (part.elim [] field)) := by
  cases part with
  | none => exact shows
  | some element => exact shows.tail (List.Subset.refl asked) (apart element)

section Nested

variable (letter : ParentType)

def nodeFootprint : Footprint := [(.node, some letter), (.address, some letter)]

def userFootprint : Footprint := [(.user, some letter), (.userId, some letter)]

def processFootprint : Footprint :=
  [(.process, some letter), (.processArg, some letter), (.processEnv, some letter)]

def serviceFootprint : Footprint :=
  [(.service, some letter), (.webService, some letter), (.webServiceArg, some letter),
    (.snmpService, some letter)]

variable (ident : Nat) (index : Int)

theorem within_nodeScript (node : Node E) :
    Within (nodeFootprint letter) [index] (nodeScript letter ident index node) := by
  refine .cons ⟨.head _, List.prefix_rfl⟩ ?_
  exact .listed fun _ _ => .single ⟨.tail _ (.head _), List.prefix_rfl⟩

theorem within_userScript (user : User E) :
    Within (userFootprint letter) [index] (userScript letter ident index user) := by
  refine .cons ⟨.head _, List.prefix_rfl⟩ ?_
  exact .listed fun _ _ => .single ⟨.tail _ (.head _), List.prefix_append [index] [0, 0]⟩

theorem within_processScript (process : Process) :
    Within (processFootprint letter) [index] (processScript letter ident index process) := by
  refine .cons ⟨.head _, List.prefix_rfl⟩ ?_
  apply Within.append
  · exact .each fun _ _ => .single ⟨.tail _ (.head _), List.prefix_rfl⟩
  · exact .each fun _ _ => .single ⟨.tail _ (.tail _ (.head _)), List.prefix_rfl⟩

theorem within_serviceScript (service : Service) :
    Within (serviceFootprint letter) [index] (serviceScript letter ident index service) := by
  refine .cons ⟨.head _, List.prefix_rfl⟩ ?_
  cases service.kind with
  | default => exact .nil
  | web webService =>
      refine .cons ⟨.tail _ (.head _), List.prefix_rfl⟩ ?_
      exact .listed fun _ _ => .single ⟨.tail _ (.tail _ (.head _)), List.prefix_rfl⟩
  | snmp snmpService =>
      exact .single ⟨.tail _ (.tail _ (.tail _ (.head _))), List.prefix_rfl⟩

section Below

variable {store : Store}

theorem Shows.args {process : Option Process}
    (shows : Shows store ident [(.processArg, .is letter)] [index]
      (optionalScript (processScript letter ident index) process)) :
    Shows store ident [(.processArg, .is letter)] [index]
      (each (fun position arg =>
        [.must (stringRow letter ident index .processArg .arg position arg)]) 0
        (process.elim [] Process.args)) := by
  cases process with
  | none => exact shows
  | some process =>
      have envs : Within [(.processEnv, some letter)] [index] (each (fun position env =>
          [.must (stringRow letter ident index .processEnv .env position env)]) 0 process.envs) :=
        .each fun _ _ => .single ⟨.head _, List.prefix_rfl⟩
      refine (shows.tail (List.Subset.refl _) ?_).left (.ofTables envs ?_)
      · simp [TablesApart, processRow]
      · simp [TablesApart]

theorem Shows.envs {process : Option Process}
    (shows : Shows store ident [(.processEnv, .is letter)] [index]
      (optionalScript (processScript letter ident index) process)) :
    Shows store ident [(.processEnv, .is letter)] [index]
      (each (fun position env =>
        [.must (stringRow letter ident index .processEnv .env position env)]) 0
        (process.elim [] Process.envs)) := by
  cases process with
  | none => exact shows
  | some process =>
      have args : Within [(.processArg, some letter)] [index] (each (fun position arg =>
          [.must (stringRow letter ident index .processArg .arg position arg)]) 0 process.args) :=
        .each fun _ _ => .single ⟨.head _, List.prefix_rfl⟩
      refine (shows.tail (List.Subset.refl _) ?_).right (.ofTables args ?_)
      · simp [TablesApart, processRow]
      · simp [TablesApart]

end Below

/-- The scripts below the row of an analyzer. -/
def analyzerParts (analyzer : Analyzer E) : List (Script Row) :=
  [optionalScript (nodeScript letter ident index) analyzer.node,
    optionalScript (processScript letter ident index) analyzer.process]

def analyzerFootprints : List Footprint := [nodeFootprint letter, processFootprint letter]

/-- The rows of the analyzers and of their parts. -/
def analyzerFootprint : Footprint := (.analyzer, some letter) :: (analyzerFootprints letter).flatten

theorem within_analyzerParts (analyzer : Analyzer E) :
    List.Forall₂ (fun footprint script => Within footprint [index] script)
      (analyzerFootprints letter) (analyzerParts letter ident index analyzer) :=
  .cons (.optional (within_nodeScript letter ident index)) <|
  .cons (.optional (within_processScript letter ident index)) .nil

theorem analyzerScript_eq : (analyzerScript letter ident : Int → Analyzer E → Script Row) =
    fun index analyzer => .must (analyzerRow letter ident index analyzer) ::
      (analyzerParts letter ident index analyzer).flatten := by
  funext index analyzer
  simp [analyzerScript, analyzerParts]

end Nested

section Files

variable (ident : Nat) (targetIndex fileIndex accessIndex : Int)

/-- The scripts below the row of a file access. -/
def accessParts (fileAccess : FileAccess E) : List (Script Row) :=
  [listed (fun index perm => [.must (fileAccessPermissionRow ident targetIndex fileIndex accessIndex
      index perm)]) fileAccess.permissions,
    [.must (userIdRow .F ident targetIndex fileIndex accessIndex 0 fileAccess.userId)]]

def accessFootprints : List Footprint := [[(.fileAccessPermission, none)], [(.userId, some .F)]]

theorem within_accessParts (fileAccess : FileAccess E) :
    List.Forall₂ (fun footprint script =>
        Within footprint [targetIndex, fileIndex, accessIndex] script) accessFootprints
      (accessParts ident targetIndex fileIndex accessIndex fileAccess) :=
  .cons (.listed (fun _ _ => .single ⟨.head _, List.prefix_rfl⟩)) <|
  .cons (.single ⟨.head _, List.prefix_rfl⟩) .nil

theorem fileAccessScript_eq :
    (fileAccessScript ident targetIndex fileIndex : Int → FileAccess E → Script Row) =
      fun index fileAccess => .must (fileAccessRow ident targetIndex fileIndex index) ::
        (accessParts ident targetIndex fileIndex index fileAccess).flatten := by
  funext index fileAccess
  simp [fileAccessScript, accessParts]

/-- The scripts below the row of a file. -/
def fileParts (file : File E) : List (Script Row) :=
  [listed (fileAccessScript ident targetIndex fileIndex) file.fileAccesses,
    listed (fun index linkage => [.must (linkageRow ident targetIndex fileIndex index linkage)])
      file.linkages,
    optionalScript (fun inode => [.must (inodeRow ident targetIndex fileIndex inode)]) file.inode,
    listed (fun index checksum => [.must (checksumRow ident targetIndex fileIndex index checksum)])
      file.checksums]

/-- The rows of the file accesses and of their parts. -/
def accessFootprint : Footprint := (.fileAccess, none) :: accessFootprints.flatten

def fileFootprints : List Footprint :=
  [accessFootprint, [(.linkage, none)], [(.inode, none)], [(.checksum, none)]]

theorem within_fileParts (file : File E) :
    List.Forall₂ (fun footprint script => Within footprint [targetIndex, fileIndex] script)
      fileFootprints (fileParts ident targetIndex fileIndex file) := by
  have accesses : ∀ index (fileAccess : FileAccess E), Within accessFootprint
      [targetIndex, fileIndex] (fileAccessScript ident targetIndex fileIndex index fileAccess) := by
    intro index fileAccess
    rw [fileAccessScript_eq]
    refine .cons ⟨.head _, List.prefix_rfl⟩ ?_
    exact (Within.flatten (within_accessParts ident targetIndex fileIndex index fileAccess)).mono
      (List.subset_cons_self _ _) (List.prefix_append [targetIndex, fileIndex] [index])
  exact
    .cons (.listed accesses) <|
    .cons (.listed (fun _ _ => .single ⟨.head _, List.prefix_rfl⟩)) <|
    .cons (.optional (fun _ => .single ⟨.head _, List.prefix_rfl⟩)) <|
    .cons (.listed (fun _ _ => .single ⟨.head _, List.prefix_rfl⟩)) .nil

theorem fileScript_eq : (fileScript ident targetIndex : Int → File E → Script Row) =
    fun index file => .must (fileRow ident targetIndex index file) ::
      (fileParts ident targetIndex index file).flatten := by
  funext index file
  simp [fileScript, fileParts]

/-- The rows of the files and of their parts. -/
def fileFootprint : Footprint := (.file, none) :: fileFootprints.flatten

theorem within_files (files : List (File E)) :
    Within fileFootprint [targetIndex] (listed (fileScript ident targetIndex) files) := by
  rw [fileScript_eq]
  refine .listed fun index file => .cons ⟨.head _, List.prefix_rfl⟩ ?_
  exact (Within.flatten (within_fileParts ident targetIndex index file)).mono
    (List.subset_cons_self _ _) (List.prefix_append [targetIndex] [index])

end Files

section Endpoints

variable (ident : Nat) (index : Int)

/-- The scripts below the row of a source. -/
def sourceParts (source : Source E) : List (Script Row) :=
  [optionalScript (nodeScript .S ident index) source.node,
    optionalScript (userScript .S ident index) source.user,
    optionalScript (processScript .S ident index) source.process,
    optionalScript (serviceScript .S ident index) source.service]

def sourceFootprints : List Footprint :=
  [nodeFootprint .S, userFootprint .S, processFootprint .S, serviceFootprint .S]

/-- The rows of the sources and of their parts. -/
def sourceFootprint : Footprint := (.source, none) :: sourceFootprints.flatten

theorem within_sourceParts (source : Source E) :
    List.Forall₂ (fun footprint script => Within footprint [index] script) sourceFootprints
      (sourceParts ident index source) :=
  .cons (.optional (within_nodeScript .S ident index)) <|
  .cons (.optional (within_userScript .S ident index)) <|
  .cons (.optional (within_processScript .S ident index)) <|
  .cons (.optional (within_serviceScript .S ident index)) .nil

theorem sourceScript_eq : (sourceScript ident : Int → Source E → Script Row) =
    fun index source => .must (sourceRow ident index source) ::
      (sourceParts ident index source).flatten := by
  funext index source
  simp [sourceScript, sourceParts]

/-- The scripts below the row of a target. -/
def targetParts (target : Target E) : List (Script Row) :=
  [optionalScript (nodeScript .T ident index) target.node,
    optionalScript (userScript .T ident index) target.user,
    optionalScript (processScript .T ident index) target.process,
    optionalScript (serviceScript .T ident index) target.service,
    listed (fileScript ident index) target.files]

def targetFootprints : List Footprint :=
  [nodeFootprint .T, userFootprint .T, processFootprint .T, serviceFootprint .T, fileFootprint]

/-- The rows of the targets and of their parts. -/
def targetFootprint : Footprint := (.target, none) :: targetFootprints.flatten

theorem within_targetParts (target : Target E) :
    List.Forall₂ (fun footprint script => Within footprint [index] script) targetFootprints
      (targetParts ident index target) :=
  .cons (.optional (within_nodeScript .T ident index)) <|
  .cons (.optional (within_userScript .T ident index)) <|
  .cons (.optional (within_processScript .T ident index)) <|
  .cons (.optional (within_serviceScript .T ident index)) <|
  .cons (within_files ident index _) .nil

theorem targetScript_eq : (targetScript ident : Int → Target E → Script Row) =
    fun index target => .must (targetRow ident index target) ::
      (targetParts ident index target).flatten := by
  funext index target
  simp [targetScript, targetParts]

end Endpoints

section AlertParts

variable (ident : Nat)

/-- The scripts below the row of an assessment. -/
def assessmentParts (assessment : Assessment E) : List (Script Row) :=
  [optionalScript (fun impact => [.must (impactRow ident impact)]) assessment.impact,
    optionalScript (fun confidence => [.must (confidenceRow ident confidence)])
      assessment.confidence,
    listed (fun index action => [.must (actionRow ident index action)]) assessment.actions]

def assessmentFootprints : List Footprint :=
  [[(.impact, none)], [(.confidence, none)], [(.action, none)]]

/-- The rows of the assessment and of its parts. -/
def assessmentFootprint : Footprint := (.assessment, none) :: assessmentFootprints.flatten

theorem within_assessmentParts (assessment : Assessment E) :
    List.Forall₂ (fun footprint script => Within footprint [] script) assessmentFootprints
      (assessmentParts ident assessment) :=
  .cons (.optional fun _ => .single ⟨.head _, List.prefix_rfl⟩) <|
  .cons (.optional fun _ => .single ⟨.head _, List.prefix_rfl⟩) <|
  .cons (.listed fun _ _ => .single ⟨.head _, List.prefix_rfl⟩) .nil

theorem assessmentScript_eq (assessment : Assessment E) :
    assessmentScript ident assessment =
      .must (assessmentRow ident) :: (assessmentParts ident assessment).flatten := by
  simp [assessmentScript, assessmentParts]

def classificationFootprint : Footprint := [(.classification, none), (.reference, none)]

theorem within_classificationScript (classification : Classification E) :
    Within classificationFootprint [] (classificationScript ident classification) := by
  refine .cons ⟨.head _, List.prefix_rfl⟩ ?_
  exact .listed fun _ _ => .single ⟨.tail _ (.head _), List.prefix_rfl⟩

def alertKindFootprint : Footprint :=
  [(.toolAlert, none), (.correlationAlert, none), (.overflowAlert, none), (.alertident, some .T),
    (.alertident, some .C)]

theorem within_alertKindScript (kind : AlertKind) :
    Within alertKindFootprint [] (alertKindScript ident E kind) := by
  cases kind with
  | default => exact .nil
  | tool toolAlert =>
      refine .cons ⟨.head _, List.prefix_rfl⟩ ?_
      exact .each fun _ _ => .single ⟨.tail _ (.tail _ (.tail _ (.head _))), List.prefix_rfl⟩
  | overflow overflowAlert => exact .single ⟨.tail _ (.tail _ (.head _)), List.prefix_rfl⟩
  | correlation correlationAlert =>
      refine .cons ⟨.tail _ (.head _), List.prefix_rfl⟩ ?_
      exact .listed fun _ _ =>
        .single ⟨.tail _ (.tail _ (.tail _ (.tail _ (.head _)))), List.prefix_rfl⟩

end AlertParts

section Messages

variable (ident : Nat)

/-- The scripts of an alert. -/
def alertParts (alert : Alert E) : List (Script Row) :=
  [[.must (messageTimeRow ident .createTime (some .A) alert.createTime)],
    optionalScript (fun time => [.must (messageTimeRow ident .detectTime none (some time))])
      alert.detectTime,
    optionalScript (fun time => [.must (messageTimeRow ident .analyzerTime (some .A) (some time))])
      alert.analyzerTime,
    optionalScript (assessmentScript ident) alert.assessment,
    alertKindScript ident E alert.kind,
    listed (analyzerScript .A ident) alert.analyzers,
    listed (sourceScript ident) alert.sources,
    listed (targetScript ident) alert.targets,
    optionalScript (classificationScript ident) alert.classification,
    listed (fun index data => [.must (additionalDataRow .A ident E index data)])
      alert.additionalData]

def alertFootprints : List Footprint :=
  [[(.createTime, some .A)], [(.detectTime, none)], [(.analyzerTime, some .A)],
    assessmentFootprint, alertKindFootprint, analyzerFootprint .A, sourceFootprint,
    targetFootprint, classificationFootprint, [(.additionalData, some .A)]]

theorem within_analyzers (letter : ParentType) (analyzers : List (Analyzer E)) :
    Within (analyzerFootprint letter) [] (listed (analyzerScript letter ident) analyzers) := by
  rw [analyzerScript_eq]
  refine .listed fun index analyzer => .cons ⟨.head _, List.prefix_rfl⟩ ?_
  exact (Within.flatten (within_analyzerParts letter ident index analyzer)).mono
    (List.subset_cons_self _ _) List.nil_prefix

theorem within_sources (sources : List (Source E)) :
    Within sourceFootprint [] (listed (sourceScript ident) sources) := by
  rw [sourceScript_eq]
  refine .listed fun index source => .cons ⟨.head _, List.prefix_rfl⟩ ?_
  exact (Within.flatten (within_sourceParts ident index source)).mono
    (List.subset_cons_self _ _) List.nil_prefix

theorem within_targets (targets : List (Target E)) :
    Within targetFootprint [] (listed (targetScript ident) targets) := by
  rw [targetScript_eq]
  refine .listed fun index target => .cons ⟨.head _, List.prefix_rfl⟩ ?_
  exact (Within.flatten (within_targetParts ident index target)).mono
    (List.subset_cons_self _ _) List.nil_prefix

theorem within_assessmentScript (assessment : Assessment E) :
    Within assessmentFootprint [] (assessmentScript ident assessment) := by
  rw [assessmentScript_eq]
  refine .cons ⟨.head _, List.prefix_rfl⟩ ?_
  exact (Within.flatten (within_assessmentParts ident assessment)).mono
    (List.subset_cons_self _ _) List.prefix_rfl

theorem within_alertParts (alert : Alert E) :
    List.Forall₂ (fun footprint script => Within footprint [] script) alertFootprints
      (alertParts ident alert) :=
  .cons (.single ⟨.head _, List.prefix_rfl⟩) <|
  .cons (.optional fun _ => .single ⟨.head _, List.prefix_rfl⟩) <|
  .cons (.optional fun _ => .single ⟨.head _, List.prefix_rfl⟩) <|
  .cons (.optional (within_assessmentScript ident)) <|
  .cons (within_alertKindScript ident alert.kind) <|
  .cons (within_analyzers ident .A alert.analyzers) <|
  .cons (within_sources ident alert.sources) <|
  .cons (within_targets ident alert.targets) <|
  .cons (.optional (within_classificationScript ident)) <|
  .cons (.listed fun _ _ => .single ⟨.head _, List.prefix_rfl⟩) .nil

theorem alertScript_eq (alert : Alert E) :
    alertScript ident alert = (alertParts ident alert).flatten := by
  simp [alertScript, alertParts]

/-- The scripts of a heartbeat. -/
def heartbeatParts (heartbeat : Heartbeat E) : List (Script Row) :=
  [listed (analyzerScript .H ident) heartbeat.analyzers,
    [.must (messageTimeRow ident .createTime (some .H) heartbeat.createTime)],
    optionalScript (fun time => [.must (messageTimeRow ident .analyzerTime (some .H) (some time))])
      heartbeat.analyzerTime,
    listed (fun index data => [.must (additionalDataRow .H ident E index data)])
      heartbeat.additionalData]

def heartbeatFootprints : List Footprint :=
  [analyzerFootprint .H, [(.createTime, some .H)], [(.analyzerTime, some .H)],
    [(.additionalData, some .H)]]

theorem within_heartbeatParts (heartbeat : Heartbeat E) :
    List.Forall₂ (fun footprint script => Within footprint [] script) heartbeatFootprints
      (heartbeatParts ident heartbeat) :=
  .cons (within_analyzers ident .H heartbeat.analyzers) <|
  .cons (.single ⟨.head _, List.prefix_rfl⟩) <|
  .cons (.optional fun _ => .single ⟨.head _, List.prefix_rfl⟩) <|
  .cons (.listed fun _ _ => .single ⟨.head _, List.prefix_rfl⟩) .nil

theorem heartbeatScript_eq (heartbeat : Heartbeat E) :
    heartbeatScript ident heartbeat = (heartbeatParts ident heartbeat).flatten := by
  simp [heartbeatScript, heartbeatParts]

/-- The rows of a message below its own row. -/
def messageFootprint : MessageTable → Footprint
  | .alert => alertFootprints.flatten
  | .heartbeat => heartbeatFootprints.flatten

theorem within_messageScript (message : Message E) :
    Within (messageFootprint message.table) [] (messageScript ident message) := by
  cases message with
  | alert alert =>
      rw [messageScript, alertScript_eq]
      exact .flatten (within_alertParts ident alert)
  | heartbeat heartbeat =>
      rw [messageScript, heartbeatScript_eq]
      exact .flatten (within_heartbeatParts ident heartbeat)

end Messages

end RequiemDB
