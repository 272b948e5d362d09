import RequiemDB.Classic.Script
import RequiemDB.Sql.Database

/-!
# Whose row is it

A row belongs to a message when it carries the message's ident and a parent
letter that rows of that kind of message have in its table. The letter tells the
kind apart where alerts and heartbeats share a table. Every row of a message's
script belongs to that message, and the script says for which tables the source
does not stop at a failed insertion.
-/

namespace RequiemDB

open Lib

variable {E : EnumKind → Type} [Librequiem E]

/-- The parent letters of the parts that analyzers, sources and targets share. -/
def nestedLetters : MessageTable → List (Option ParentType)
  | .alert => [some .A, some .S, some .T]
  | .heartbeat => [some .H]

/-- The letters of the parts that only sources and targets have. -/
def endpointLetters : MessageTable → List (Option ParentType)
  | .alert => [some .S, some .T]
  | .heartbeat => []

/-- The letter of the parts that sit right below a message. -/
def messageLetter : MessageTable → ParentType
  | .alert => .A
  | .heartbeat => .H

/-- The parent letters that the rows of a kind of message have in a table. -/
def Table.letters (table : Table) (kind : MessageTable) : List (Option ParentType) :=
  match table with
  | .alert | .heartbeat => if table = kind.table then [none] else []
  | .node | .address | .process | .processArg | .processEnv => nestedLetters kind
  | .user | .service | .webService | .webServiceArg | .snmpService => endpointLetters kind
  | .analyzer | .additionalData | .createTime | .analyzerTime => [some (messageLetter kind)]
  | .alertident => if kind = .alert then [some .T, some .C] else []
  | .userId => if kind = .alert then [some .S, some .T, some .F] else []
  | .toolAlert | .correlationAlert | .overflowAlert | .classification | .reference | .source
  | .target | .file | .fileAccess | .fileAccessPermission | .linkage | .inode | .checksum
  | .impact | .action | .confidence | .assessment | .detectTime =>
      if kind = .alert then [none] else []

/-- The table of the messages of the other kind. -/
def MessageTable.other : MessageTable → MessageTable
  | .alert => .heartbeat
  | .heartbeat => .alert

/-- The row is one that may be written for the message. -/
structure Row.BelongsTo (row : Row) (owner : Owner) : Prop where
  ident : row.messageIdent = owner.ident
  letter : row.parentType ∈ row.table.letters owner.table

/-- The query asks for no letter that rows of the kind have in its table. -/
def Select.Avoids (query : Select) (kind : MessageTable) : Prop :=
  ∀ letter ∈ query.table.letters kind, ¬ query.parentType.Holds letter

/-- The rows of another message than the one of a query are not found. -/
theorem Row.BelongsTo.not_matches {row : Row} {owner : Owner} (belongs : row.BelongsTo owner)
    {query : Select} {kind : MessageTable} (avoids : query.Avoids kind.other)
    (isOther : owner ≠ ⟨kind, query.messageIdent⟩) : ¬ query.Matches row := by
  rintro ⟨table, letter, sameIdent, _⟩
  rcases owner with ⟨ownerKind, ident⟩
  by_cases sameKind : ownerKind = kind
  · have isIdent : ident = query.messageIdent := belongs.ident.symm.trans sameIdent
    exact isOther (by rw [sameKind, isIdent])
  · have other : ownerKind = kind.other := by
      cases ownerKind <;> cases kind <;> first | rfl | exact absurd rfl sameKind
    exact avoids _ (table ▸ other ▸ belongs.letter) letter

theorem messageRow_belongsTo (owner : Owner) (cells : List (Column × Cell)) :
    (messageRow owner cells).BelongsTo owner := by
  refine ⟨rfl, ?_⟩
  rcases owner with ⟨_ | _, ident⟩ <;> simp [messageRow, Table.letters, MessageTable.table]

/-- The tables whose insertions the source does not test. -/
def untestedTables : List Table := [.webService, .classification, .toolAlert]

/-- A row of the message, untested in three tables only; a replacement is an alertident. -/
structure Fits (owner : Owner) (item : Item Row) : Prop where
  belongs : item.statement.BelongsTo owner
  tested : item.onFailure ≠ .stop → item.statement.table ∈ untestedTables
  replaced : ∀ other, item.onFailure = .instead other →
    other.table = .alertident ∧ other.BelongsTo owner

theorem Fits.must {owner : Owner} {row : Row} (belongs : row.BelongsTo owner) :
    Fits owner (.must row) where
  belongs := belongs
  tested := fun untested => absurd rfl untested
  replaced := fun _ impossible => absurd impossible (by simp [Item.must])

theorem Fits.ignore {owner : Owner} {row : Row} (belongs : row.BelongsTo owner)
    (untested : row.table ∈ untestedTables) : Fits owner ⟨row, .ignore⟩ where
  belongs := belongs
  tested := fun _ => untested
  replaced := fun _ impossible => absurd impossible (by simp)

/-- All rows of a script belong to the message. -/
def AllFit (owner : Owner) (script : Script Row) : Prop := ∀ item ∈ script, Fits owner item

namespace AllFit

variable {owner : Owner} {α : Type}

theorem nil : AllFit owner [] := fun _ absent => absurd absent List.not_mem_nil

theorem cons {item : Item Row} {script : Script Row} (here : Fits owner item)
    (later : AllFit owner script) : AllFit owner (item :: script) :=
  List.forall_mem_cons.mpr ⟨here, later⟩

theorem append {left right : Script Row} (inLeft : AllFit owner left)
    (inRight : AllFit owner right) : AllFit owner (left ++ right) :=
  List.forall_mem_append.mpr ⟨inLeft, inRight⟩

theorem single {row : Row} (belongs : row.BelongsTo owner) : AllFit owner [.must row] :=
  cons (.must belongs) nil

theorem optional {script : α → Script Row} (fits : ∀ element, AllFit owner (script element))
    (part : Option α) : AllFit owner (optionalScript script part) := by
  cases part with
  | none => exact nil
  | some element => exact fits element

theorem each {part : Int → α → Script Row}
    (fits : ∀ index element, AllFit owner (part index element))
    (start : Int) (elements : List α) : AllFit owner (each part start elements) :=
  forall_mem_each part start elements fun index element _ => fits index element

theorem listed {part : Int → α → Script Row}
    (fits : ∀ index element, AllFit owner (part index element))
    (elements : List α) : AllFit owner (listed part elements) :=
  forall_mem_listed part elements fun index element _ => fits index element

end AllFit

section Shared

variable (owner : Owner) {parentType : ParentType} (parentIndex : Int)

theorem allFit_nodeScript (nested : some parentType ∈ nestedLetters owner.table) (node : Node E) :
    AllFit owner (nodeScript parentType owner.ident parentIndex node) := by
  apply AllFit.cons (.must ⟨rfl, nested⟩)
  exact .listed (fun index address => .single ⟨rfl, nested⟩) _

theorem allFit_processScript (nested : some parentType ∈ nestedLetters owner.table)
    (process : Process) :
    AllFit owner (processScript parentType owner.ident parentIndex process) := by
  apply AllFit.cons (.must ⟨rfl, nested⟩)
  apply AllFit.append
  · exact .each (fun index arg => .single ⟨rfl, nested⟩) _ _
  · exact .each (fun index env => .single ⟨rfl, nested⟩) _ _

theorem allFit_analyzerScript (isMessage : parentType = messageLetter owner.table)
    (analyzerIndex : Int) (analyzer : Analyzer E) :
    AllFit owner (analyzerScript parentType owner.ident analyzerIndex analyzer) := by
  have nested : some parentType ∈ nestedLetters owner.table := by
    rcases owner with ⟨_ | _, ident⟩ <;> simp [isMessage, nestedLetters, messageLetter]
  apply AllFit.cons (.must ⟨rfl, by simp [analyzerRow, Table.letters, isMessage]⟩)
  apply AllFit.append
  · exact .optional (allFit_nodeScript owner analyzerIndex nested) _
  · exact .optional (allFit_processScript owner analyzerIndex nested) _

theorem allFit_additionalData (isMessage : parentType = messageLetter owner.table)
    (additionalData : List AdditionalData) :
    AllFit owner (listed (fun index data =>
      [.must (additionalDataRow parentType owner.ident E index data)]) additionalData) :=
  .listed (fun index data =>
    .single ⟨rfl, by simp [additionalDataRow, Table.letters, isMessage]⟩) _

end Shared

section OfAlert

variable (ident : Nat)

/-- The parts that only alerts have. -/
abbrev alertOwner : Owner := ⟨.alert, ident⟩

theorem allFit_userScript {parentType : ParentType}
    (endpoint : some parentType ∈ endpointLetters .alert) (parentIndex : Int) (user : User E) :
    AllFit (alertOwner ident) (userScript parentType ident parentIndex user) := by
  apply AllFit.cons (.must ⟨rfl, endpoint⟩)
  refine .listed (fun index userId => .single ⟨rfl, ?_⟩) _
  simp only [endpointLetters, List.mem_cons, Option.some.injEq, List.not_mem_nil, or_false]
    at endpoint
  rcases endpoint with rfl | rfl <;> simp [userIdRow, Table.letters]

theorem allFit_serviceScript {parentType : ParentType}
    (endpoint : some parentType ∈ endpointLetters .alert) (parentIndex : Int)
    (service : Service) :
    AllFit (alertOwner ident) (serviceScript parentType ident parentIndex service) := by
  apply AllFit.cons (.must ⟨rfl, endpoint⟩)
  cases service.kind with
  | default => exact .nil
  | snmp snmpService => exact .single ⟨rfl, endpoint⟩
  | web webService =>
      apply AllFit.cons (.ignore ⟨rfl, endpoint⟩ (by simp [webServiceRow, untestedTables]))
      exact .listed (fun index arg => .single ⟨rfl, endpoint⟩) _

theorem allFit_fileScript (targetIndex fileIndex : Int) (file : File E) :
    AllFit (alertOwner ident) (fileScript ident targetIndex fileIndex file) := by
  apply AllFit.cons (.must ⟨rfl, by simp [fileRow, Table.letters]⟩)
  apply AllFit.append
  · refine .listed (fun index fileAccess => ?_) _
    apply AllFit.cons (.must ⟨rfl, by simp [fileAccessRow, Table.letters]⟩)
    apply AllFit.append
    · exact .listed (fun index perm =>
        .single ⟨rfl, by simp [fileAccessPermissionRow, Table.letters]⟩) _
    · exact .single ⟨rfl, by simp [userIdRow, Table.letters]⟩
  apply AllFit.append
  · exact .listed (fun index linkage => .single ⟨rfl, by simp [linkageRow, Table.letters]⟩) _
  apply AllFit.append
  · exact .optional (fun inode => .single ⟨rfl, by simp [inodeRow, Table.letters]⟩) _
  · exact .listed (fun index checksum => .single ⟨rfl, by simp [checksumRow, Table.letters]⟩) _

theorem allFit_sourceScript (index : Int) (source : Source E) :
    AllFit (alertOwner ident) (sourceScript ident index source) := by
  have nested : some ParentType.S ∈ nestedLetters .alert := by decide
  have endpoint : some ParentType.S ∈ endpointLetters .alert := by decide
  apply AllFit.cons (.must ⟨rfl, by simp [sourceRow, Table.letters]⟩)
  apply AllFit.append (.optional (allFit_nodeScript (alertOwner ident) index nested) _)
  apply AllFit.append (.optional (allFit_userScript ident endpoint index) _)
  apply AllFit.append (.optional (allFit_processScript (alertOwner ident) index nested) _)
  exact .optional (allFit_serviceScript ident endpoint index) _

theorem allFit_targetScript (targetIndex : Int) (target : Target E) :
    AllFit (alertOwner ident) (targetScript ident targetIndex target) := by
  have nested : some ParentType.T ∈ nestedLetters .alert := by decide
  have endpoint : some ParentType.T ∈ endpointLetters .alert := by decide
  apply AllFit.cons (.must ⟨rfl, by simp [targetRow, Table.letters]⟩)
  apply AllFit.append
    (.optional (allFit_nodeScript (alertOwner ident) targetIndex nested) _)
  apply AllFit.append (.optional (allFit_userScript ident endpoint targetIndex) _)
  apply AllFit.append
    (.optional (allFit_processScript (alertOwner ident) targetIndex nested) _)
  apply AllFit.append (.optional (allFit_serviceScript ident endpoint targetIndex) _)
  exact .listed (allFit_fileScript ident targetIndex) _

theorem allFit_assessmentScript (assessment : Assessment E) :
    AllFit (alertOwner ident) (assessmentScript ident assessment) := by
  apply AllFit.cons (.must ⟨rfl, by simp [assessmentRow, Table.letters]⟩)
  apply AllFit.append
  · exact .optional (fun impact => .single ⟨rfl, by simp [impactRow, Table.letters]⟩) _
  apply AllFit.append
  · exact .optional (fun confidence => .single ⟨rfl, by simp [confidenceRow, Table.letters]⟩) _
  · exact .listed (fun index action => .single ⟨rfl, by simp [actionRow, Table.letters]⟩) _

theorem alertidentRow_belongsTo {parentType : ParentType} (index : Int)
    (alertident : Option Alertident) (letter : parentType = .T ∨ parentType = .C) :
    (alertidentRow parentType ident index alertident).BelongsTo (alertOwner ident) := by
  refine ⟨rfl, ?_⟩
  rcases letter with rfl | rfl <;> simp [alertidentRow, Table.letters]

theorem allFit_toolAlertScript (toolAlert : ToolAlert) :
    AllFit (alertOwner ident) (toolAlertScript ident toolAlert) := by
  apply AllFit.cons
  · refine ⟨⟨rfl, by simp [toolAlertRow, Table.letters]⟩, fun _ => ?_, ?_⟩
    · simp [toolAlertRow, untestedTables]
    · intro other replaces
      cases empty : toolAlert.alertidents.isEmpty with
      | true =>
          simp only [empty, if_true, OnFailure.instead.injEq] at replaces
          subst replaces
          exact ⟨rfl, alertidentRow_belongsTo ident _ _ (.inl rfl)⟩
      | false => simp [empty] at replaces
  · exact .each (fun index alertident =>
      .single (alertidentRow_belongsTo ident index _ (.inl rfl))) _ _

theorem allFit_alertKindScript (kind : AlertKind) :
    AllFit (alertOwner ident) (alertKindScript ident E kind) := by
  cases kind with
  | default => exact .nil
  | tool toolAlert => exact allFit_toolAlertScript ident toolAlert
  | overflow overflowAlert =>
      exact .single ⟨rfl, by simp [overflowAlertRow, Table.letters]⟩
  | correlation correlationAlert =>
      apply AllFit.cons (.must ⟨rfl, by simp [correlationAlertRow, Table.letters]⟩)
      exact .listed (fun index alertident =>
        .single (alertidentRow_belongsTo ident index _ (.inr rfl))) _

theorem allFit_classificationScript (classification : Classification E) :
    AllFit (alertOwner ident) (classificationScript ident classification) := by
  apply AllFit.cons (.ignore ⟨rfl, by simp [classificationRow, Table.letters]⟩
    (by simp [classificationRow, untestedTables]))
  exact .listed (fun index reference => .single ⟨rfl, by simp [referenceRow, Table.letters]⟩) _

theorem allFit_alertScript (alert : Alert E) :
    AllFit (alertOwner ident) (alertScript ident alert) := by
  apply AllFit.cons (.must ⟨rfl, by simp [messageTimeRow, Table.letters, messageLetter]⟩)
  apply AllFit.append
  · exact .optional (fun time => .single ⟨rfl, by simp [messageTimeRow, Table.letters]⟩) _
  apply AllFit.append
  · exact .optional (fun time =>
      .single ⟨rfl, by simp [messageTimeRow, Table.letters, messageLetter]⟩) _
  apply AllFit.append (.optional (allFit_assessmentScript ident) _)
  apply AllFit.append (allFit_alertKindScript ident alert.kind)
  apply AllFit.append
    (.listed (allFit_analyzerScript (alertOwner ident) rfl) alert.analyzers)
  apply AllFit.append (.listed (allFit_sourceScript ident) _)
  apply AllFit.append (.listed (allFit_targetScript ident) _)
  apply AllFit.append (.optional (allFit_classificationScript ident) _)
  exact allFit_additionalData (alertOwner ident) rfl _

end OfAlert

theorem allFit_heartbeatScript (ident : Nat) (heartbeat : Heartbeat E) :
    AllFit ⟨.heartbeat, ident⟩ (heartbeatScript ident heartbeat) := by
  apply AllFit.append (.listed (allFit_analyzerScript ⟨.heartbeat, ident⟩ rfl) _)
  apply AllFit.cons (.must ⟨rfl, by simp [messageTimeRow, Table.letters, messageLetter]⟩)
  apply AllFit.append
  · exact .optional (fun time =>
      .single ⟨rfl, by simp [messageTimeRow, Table.letters, messageLetter]⟩) _
  · exact allFit_additionalData ⟨.heartbeat, ident⟩ rfl _

/-- Every row of a message's script belongs to the message. -/
theorem allFit_messageScript (ident : Nat) (message : Message E) :
    AllFit ⟨message.table, ident⟩ (messageScript ident message) := by
  cases message with
  | alert alert => exact allFit_alertScript ident alert
  | heartbeat heartbeat => exact allFit_heartbeatScript ident heartbeat

/-- The one replacement of a message's script is a row of another table. -/
theorem replacesByOthers_messageScript (ident : Nat) (message : Message E) :
    (messageScript ident message).ReplacesByOthers := by
  intro item present replaces
  have fits := allFit_messageScript ident message item present
  have untested := fits.tested (by simp [replaces])
  have isAlertident := (fits.replaced _ replaces).1
  simp [isAlertident, untestedTables] at untested

end RequiemDB
