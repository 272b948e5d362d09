import RequiemDB.Classic.ArchiveReading
import RequiemDB.Lib.Confined

/-!
# A reader looks at the rows of one message

Every query of a reader names the ident of its message, and where alerts and heartbeats
share a table it tests the parent letter. Two databases with the same rows of the message
are therefore read alike. A row of a message is written by its insertion and removed by a
deletion that names the ident, so that nothing else changes what is read, whatever fails.
-/

namespace RequiemDB

open Lib

variable {E : EnumKind → Type} [Librequiem E]

/-- A call that answers from the rows of one message. -/
def SqlOp.Concerns (kind : MessageTable) (ident : Nat) : SqlOp → Prop
  | .select query => query.messageIdent = ident ∧ query.Avoids kind.other
  | .unescapeBinary _ | .fetchRow _ _ | .fetchField _ => True
  | _ => False

/-- The parent letter is one of the kind of message. -/
def ParentType.Of (kind : MessageTable) (parentType : ParentType) : Prop :=
  parentType = .H ↔ kind = .heartbeat

instance (kind : MessageTable) (parentType : ParentType) : Decidable (parentType.Of kind) :=
  inferInstanceAs (Decidable (_ ↔ _))

/-- No row of the other kind of message has the letter. -/
theorem not_mem_letters {kind : MessageTable} {parentType : ParentType} (of : parentType.Of kind)
    (table : Table) : some parentType ∉ table.letters kind.other := by
  revert of
  cases kind <;> cases parentType <;> cases table <;> decide

theorem avoids_is {kind : MessageTable} {query : Select} {parentType : ParentType}
    (of : parentType.Of kind) (asks : query.parentType = .is parentType) :
    query.Avoids kind.other := by
  intro letter present holds
  rw [asks] at holds
  cases letter with
  | none => exact holds
  | some letter =>
      have same : letter = parentType := holds
      exact not_mem_letters of query.table (same ▸ present)

namespace Get

variable {α β : Type} {kind : MessageTable} {ident : Nat}

/-- The calls of the reader all answer from the rows of one message. -/
def Local (kind : MessageTable) (ident : Nat) (reader : Get α) : Prop :=
  Program.Only (SqlOp.Concerns kind ident) (fun _ _ => True) reader.run

@[simp]
theorem local_pure (answer : α) : Local kind ident (pure answer : Get α) := trivial

@[simp]
theorem local_throw (error : ErrorCode) : Local kind ident (throw error : Get α) := trivial

@[simp]
theorem local_convert (result : Except ErrorCode α) : Local kind ident (convert result) := trivial

@[simp]
theorem local_bind {first : Get α} {rest : α → Get β} (ofFirst : Local kind ident first)
    (ofRest : ∀ answer, Local kind ident (rest answer)) : Local kind ident (first >>= rest) := by
  refine Program.only_bind ofFirst fun answer => ?_
  cases answer with
  | error error => trivial
  | ok answer => exact ofRest answer

@[simp]
theorem local_map {f : α → β} {reader : Get α} (ofReader : Local kind ident reader) :
    Local kind ident (f <$> reader) := by
  rw [map_eq_pure_bind]
  exact local_bind ofReader fun _ => trivial

@[simp]
theorem local_tryCatch {reader : Get α} {handler : ErrorCode → Get α}
    (ofReader : Local kind ident reader) (ofHandler : ∀ error, Local kind ident (handler error)) :
    Local kind ident (tryCatch reader handler) := by
  rw [Local, ExceptT.run_tryCatch]
  refine Program.only_bind ofReader fun answer => ?_
  cases answer with
  | error error => exact ofHandler error
  | ok answer => trivial

theorem local_query {columns : List Column} {query : Select} (asks : query.messageIdent = ident)
    (avoids : query.Avoids kind.other) : Local kind ident (requiemdbSqlQuery columns query) :=
  ⟨⟨asks, avoids⟩, fun _ _ => trivial⟩

@[simp]
theorem local_fetchRow (table : Table) (fetched : Nat) :
    Local kind ident (requiemdbSqlTableFetchRow table fetched) :=
  ⟨trivial, fun _ _ => trivial⟩

@[simp]
theorem local_fetchField (row : Fetched) (column : Nat) :
    Local kind ident (requiemdbSqlRowFetchField row column) :=
  ⟨trivial, fun _ _ => trivial⟩

@[simp]
theorem local_unescapeBinary (input : List UInt8) :
    Local kind ident (requiemdbSqlUnescapeBinary input) :=
  ⟨trivial, fun _ _ => trivial⟩

section Fields

variable {E : EnumKind → Type} [Librequiem E] {enum : EnumKind} (row : Fetched) (index : Nat)

/-- A field that is absent, or not. -/
theorem local_field {rest : Option Cell → Get α} (absent : Local kind ident (rest none))
    (present : ∀ field, Local kind ident (rest (some field))) :
    Local kind ident (requiemdbSqlRowFetchField row index >>= rest) := by
  refine local_bind (local_fetchField row index) fun field => ?_
  cases field with
  | none => exact absent
  | some field => exact present field

@[simp]
theorem local_getUint8 : Local kind ident (getUint8 row index) :=
  local_field row index (local_pure none) (by simp)

@[simp]
theorem local_getNumber (conversion : Cell → Except ErrorCode (Option α)) (zero : α) :
    Local kind ident (getNumber row index conversion zero) :=
  local_field row index (local_pure none) (by simp)

@[simp]
theorem local_getUint16 : Local kind ident (getUint16 row index) := local_getNumber row index _ _

@[simp]
theorem local_getUint32 : Local kind ident (getUint32 row index) := local_getNumber row index _ _

@[simp]
theorem local_getFloat : Local kind ident (getFloat row index) := local_getNumber row index _ _

@[simp]
theorem local_getString : Local kind ident (getString row index) :=
  local_field row index (local_pure none) (by simp)

@[simp]
theorem local_getEnum : Local kind ident (getEnum row index : Get (Option (E enum))) :=
  local_field row index (local_pure none) (by simp)

@[simp]
theorem local_getMandatoryEnum [Inhabited (E enum)] :
    Local kind ident (getMandatoryEnum row index : Get (E enum)) := by
  simp [getMandatoryEnum]

@[simp]
theorem local_getTimestamp (unassigned : Int) (timeIndex gmtoffIndex : Nat)
    (usecIndex : Option Nat) :
    Local kind ident (getTimestamp row unassigned timeIndex gmtoffIndex usecIndex) := by
  refine local_field row timeIndex (local_pure none) fun timeField => ?_
  refine local_field row gmtoffIndex (local_throw _) fun gmtoffField => ?_
  cases usecIndex with
  | none => simp
  | some usecIndex =>
      refine local_field row usecIndex (local_throw _) fun usecField => ?_
      iterate 4 refine local_bind (by simp) fun _ => ?_
      exact local_pure _

end Fields

section Loops

variable {columns : List Column} {query : Select}

@[simp]
theorem local_fetchRows {table : Table} {body : Int → Fetched → Get α}
    (ofBody : ∀ index row, Local kind ident (body index row)) (start : Int)
    (rows : List Fetched) : Local kind ident (fetchRows table body start rows) := by
  induction rows generalizing start with
  | nil => simp [fetchRows]
  | cons row rows ih =>
      refine local_bind (local_fetchRow table _) fun _ => ?_
      exact local_bind (ofBody start row) fun element => by simp [ih]

theorem local_getListed {body : Int → Fetched → Get α} (asks : query.messageIdent = ident)
    (avoids : query.Avoids kind.other) (ofBody : ∀ index row, Local kind ident (body index row)) :
    Local kind ident (getListed columns query body) := by
  refine local_bind (local_query asks avoids) fun rows => ?_
  cases rows with
  | nil => simp
  | cons row rows => exact local_fetchRows ofBody 0 (row :: rows)

theorem local_getSingle {body : Fetched → Get α} (asks : query.messageIdent = ident)
    (avoids : query.Avoids kind.other) (ofBody : ∀ row, Local kind ident (body row)) :
    Local kind ident (getSingle columns query body) := by
  refine local_bind (local_query asks avoids) fun rows => ?_
  cases rows with
  | nil => simp
  | cons row rows => simp [ofBody]

theorem local_getStringListed (asks : query.messageIdent = ident)
    (avoids : query.Avoids kind.other) : Local kind ident (getStringListed columns query) :=
  local_bind (local_getListed asks avoids (by simp)) (by simp)

@[simp]
theorem local_getNested {body : Int → α → Get β}
    (ofBody : ∀ cnt element, Local kind ident (body cnt element)) (start : Int)
    (elements : List α) : Local kind ident (getNested body start elements) := by
  induction elements generalizing start with
  | nil => simp [getNested]
  | cons element elements ih => simp [getNested, ofBody, ih]

theorem local_fetchLater {table : Table} {body : Int → Fetched → Get α}
    (ofBody : ∀ index row, Local kind ident (body index row)) (start : Int)
    (rows : List Fetched) : Local kind ident (fetchLater table body start rows) := by
  have fetches : ∀ fetched, Local kind ident (fetchesRow table fetched) := by
    intro fetched
    simp [fetchesRow]
  induction rows generalizing start with
  | nil => simp [fetchLater, fetches]
  | cons row rows ih =>
      refine local_bind (fetches _) fun another => ?_
      cases another with
      | false => simp
      | true => simp [ofBody, ih]

theorem local_getElements {body : Int → Fetched → Get α} (asks : query.messageIdent = ident)
    (avoids : query.Avoids kind.other) (ofBody : ∀ index row, Local kind ident (body index row)) :
    Local kind ident (getElements columns query body) := by
  refine local_bind (local_query asks avoids) fun rows => ?_
  cases rows with
  | nil => simp
  | cons row rows =>
      refine local_bind (local_fetchRow _ 0) fun _ => ?_
      exact local_bind (ofBody 0 row) fun element => by simp [local_fetchLater ofBody]

end Loops

section Readers

variable {E : EnumKind → Type} [Librequiem E] [∀ kind, Inhabited (E kind)]
variable (unassigned : Int) (messageIdent : Nat)

/-! The parts that a letter tells apart. -/

section Letters

variable {parentType : ParentType} (of : parentType.Of kind) (parentIndex : Int)
include of

theorem local_getMessageTime (table : Table) :
    Local kind messageIdent
      (getMessageTime unassigned messageIdent table (.is parentType)) :=
  local_bind (local_getSingle rfl (avoids_is of rfl) fun row => local_getTimestamp row _ _ _ _)
    (by simp)

theorem local_getUserId (fileIndex fileAccessIndex : Int) :
    Local kind messageIdent (getUserId messageIdent parentType parentIndex fileIndex
      fileAccessIndex : Get (List (UserId E))) := by
  refine local_getListed rfl (avoids_is of rfl) fun _ row => ?_
  iterate 5 refine local_bind (by simp) fun _ => ?_
  exact local_pure _

theorem local_getUser :
    Local kind messageIdent (getUser messageIdent parentType parentIndex :
      Get (Option (User E))) := by
  refine local_getSingle rfl (avoids_is of rfl) fun row => ?_
  iterate 2 refine local_bind (by simp) fun _ => ?_
  exact local_bind (local_getUserId messageIdent of parentIndex 0 0) fun _ => local_pure _

theorem local_getProcess :
    Local kind messageIdent (getProcess messageIdent parentType parentIndex) := by
  refine local_getSingle rfl (avoids_is of rfl) fun row => ?_
  iterate 4 refine local_bind (by simp) fun _ => ?_
  iterate 2 refine local_bind (local_getStringListed rfl (avoids_is of rfl)) fun _ => ?_
  exact local_pure _

theorem local_getWebService :
    Local kind messageIdent (getWebService messageIdent parentType parentIndex) := by
  refine local_getSingle rfl (avoids_is of rfl) fun row => ?_
  iterate 3 refine local_bind (by simp) fun _ => ?_
  exact local_bind (local_getStringListed rfl (avoids_is of rfl)) fun _ => local_pure _

theorem local_getSnmpService :
    Local kind messageIdent (getSnmpService messageIdent parentType parentIndex) := by
  refine local_getSingle rfl (avoids_is of rfl) fun row => ?_
  iterate 8 refine local_bind (by simp) fun _ => ?_
  exact local_pure _

theorem local_getService :
    Local kind messageIdent (getService messageIdent parentType parentIndex) := by
  refine local_bind (local_tryCatch (local_query rfl (avoids_is of rfl)) (by simp)) fun rows => ?_
  cases rows with
  | nil => exact local_pure _
  | cons row rows =>
      iterate 9 refine local_bind (by simp) fun _ => ?_
      refine local_bind (local_getWebService messageIdent of parentIndex) fun _ => ?_
      exact local_bind (local_getSnmpService messageIdent of parentIndex) fun _ => local_pure _

theorem local_getNode :
    Local kind messageIdent (getNode messageIdent parentType parentIndex :
      Get (Option (Node E))) := by
  have ofAddress : Local kind messageIdent (getAddress messageIdent parentType parentIndex :
      Get (List (Address E))) := by
    refine local_getListed rfl (avoids_is of rfl) fun _ row => ?_
    iterate 6 refine local_bind (by simp) fun _ => ?_
    exact local_pure _
  refine local_getSingle rfl (avoids_is of rfl) fun row => ?_
  iterate 4 refine local_bind (by simp) fun _ => ?_
  exact local_bind ofAddress fun _ => local_pure _

theorem local_getAnalyzer :
    Local kind messageIdent (getAnalyzer messageIdent parentType : Get (List (Analyzer E))) := by
  refine local_getListed rfl (avoids_is of rfl) fun index row => ?_
  iterate 8 refine local_bind (by simp) fun _ => ?_
  refine local_bind (local_getNode messageIdent of index) fun _ => ?_
  exact local_bind (local_getProcess messageIdent of index) fun _ => local_pure _

omit of [∀ kind, Inhabited (E kind)] in
theorem local_fetchData (fetched : Nat) (rows : List Fetched) :
    Local kind messageIdent (fetchData E unassigned fetched rows) := by
  have ofPayload : ∀ (field : Cell) (type : AdditionalDataType),
      Local kind messageIdent (getPayload unassigned field type) := by
    intro field type
    cases type <;> simp [getPayload]
  induction rows generalizing fetched with
  | nil => simp [fetchData]
  | cons row rows ih =>
      refine local_bind (local_fetchRow _ fetched) fun _ => ?_
      refine local_bind (local_field row 0 (local_pure _) fun _ => local_pure _) fun type => ?_
      refine local_bind (local_getString row 1) fun meaning => ?_
      refine local_field row 2 (local_pure _) fun field => ?_
      cases type with
      | none => exact local_throw _
      | some type =>
          refine local_bind (ofPayload field type) fun data => ?_
          exact local_bind (ih (fetched + 1)) fun later => local_pure _

omit [∀ kind, Inhabited (E kind)] in
theorem local_getAdditionalData :
    Local kind messageIdent (getAdditionalData E unassigned messageIdent parentType) := by
  refine local_bind (local_query rfl (avoids_is of rfl)) fun rows => ?_
  cases rows with
  | nil => exact local_pure _
  | cons row rows => exact local_fetchData unassigned messageIdent 0 (row :: rows)

theorem local_getAlertident :
    Local kind messageIdent (getAlertident messageIdent parentType) := by
  refine local_getListed rfl (avoids_is of rfl) fun _ row => ?_
  iterate 2 refine local_bind (by simp) fun _ => ?_
  exact local_pure _

end Letters

/-! The parts that only alerts have. -/

omit [Librequiem E] [∀ kind, Inhabited (E kind)] in
theorem avoids_of_alert {query : Select} (apart : query.table.letters .heartbeat = []) :
    query.Avoids MessageTable.alert.other := by
  intro letter present
  rw [MessageTable.other, apart] at present
  exact absurd present List.not_mem_nil

theorem local_getAssessment :
    Local .alert messageIdent (getAssessment messageIdent : Get (Option (Assessment E))) := by
  have ofImpact : Local .alert messageIdent (getImpact messageIdent :
      Get (Option (Impact E))) := by
    refine local_getSingle rfl (avoids_of_alert rfl) fun row => ?_
    iterate 4 refine local_bind (by simp) fun _ => ?_
    exact local_pure _
  have ofConfidence : Local .alert messageIdent (getConfidence messageIdent :
      Get (Option (Confidence E))) := by
    refine local_getSingle rfl (avoids_of_alert rfl) fun row => ?_
    iterate 2 refine local_bind (by simp) fun _ => ?_
    exact local_pure _
  have ofActions : Local .alert messageIdent (getAction messageIdent :
      Get (List (Action E))) := by
    refine local_getListed rfl (avoids_of_alert rfl) fun _ row => ?_
    iterate 2 refine local_bind (by simp) fun _ => ?_
    exact local_pure _
  refine local_bind (local_query rfl (avoids_of_alert rfl)) fun rows => ?_
  cases rows with
  | nil => exact local_pure _
  | cons row rows =>
      refine local_bind ofImpact fun impact => ?_
      refine local_bind ofConfidence fun confidence => ?_
      exact local_bind ofActions fun actions => local_pure _

theorem local_getFile (targetIndex : Int) :
    Local .alert messageIdent (getFile unassigned messageIdent targetIndex :
      Get (List (File E))) := by
  have ofFileAccess : ∀ fileIndex, Local .alert messageIdent
      (getFileAccess unassigned messageIdent targetIndex fileIndex :
        Get (List (FileAccess E))) := by
    intro fileIndex
    refine local_bind (local_bind (local_query rfl (avoids_of_alert rfl)) (by simp)) fun row => ?_
    refine local_bind (local_fetchRow _ 0) fun _ => ?_
    refine local_field row 0 (local_pure []) fun field => ?_
    refine local_bind (local_convert _) fun count => ?_
    refine local_getNested (fun cnt _ => ?_) 0 _
    refine local_bind (local_getUserId messageIdent (by decide) targetIndex fileIndex cnt) fun _ =>
      ?_
    exact local_bind (local_getStringListed rfl (avoids_of_alert rfl)) fun _ => local_pure _
  have ofLinkage : ∀ fileIndex, Local .alert messageIdent
      (getLinkage messageIdent targetIndex fileIndex : Get (List (Linkage E))) := by
    intro fileIndex
    refine local_getListed rfl (avoids_of_alert rfl) fun _ row => ?_
    iterate 3 refine local_bind (by simp) fun _ => ?_
    exact local_pure _
  have ofInode : ∀ fileIndex, Local .alert messageIdent
      (getInode unassigned messageIdent targetIndex fileIndex) := by
    intro fileIndex
    refine local_getSingle rfl (avoids_of_alert rfl) fun row => ?_
    iterate 6 refine local_bind (by simp) fun _ => ?_
    exact local_pure _
  have ofChecksum : ∀ fileIndex, Local .alert messageIdent
      (getChecksum messageIdent targetIndex fileIndex : Get (List (Checksum E))) := by
    intro fileIndex
    refine local_getListed rfl (avoids_of_alert rfl) fun _ row => ?_
    iterate 3 refine local_bind (by simp) fun _ => ?_
    exact local_pure _
  refine local_bind (local_getElements rfl (avoids_of_alert rfl) fun _ row => ?_) fun files => ?_
  · iterate 11 refine local_bind (by simp) fun _ => ?_
    exact local_pure _
  · refine local_getNested (fun cnt file => ?_) 0 files
    refine local_bind (ofFileAccess cnt) fun _ => ?_
    refine local_bind (ofLinkage cnt) fun _ => ?_
    refine local_bind (ofInode cnt) fun _ => ?_
    exact local_bind (ofChecksum cnt) fun _ => local_pure _

theorem local_getSource :
    Local .alert messageIdent (getSource messageIdent : Get (List (Source E))) := by
  refine local_bind (local_getElements rfl (avoids_of_alert rfl) fun _ row => ?_) fun sources => ?_
  · iterate 3 refine local_bind (by simp) fun _ => ?_
    exact local_pure _
  · refine local_getNested (fun cnt source => ?_) 0 sources
    refine local_bind (local_getNode messageIdent (by decide) cnt) fun _ => ?_
    refine local_bind (local_getUser messageIdent (by decide) cnt) fun _ => ?_
    refine local_bind (local_getProcess messageIdent (by decide) cnt) fun _ => ?_
    exact local_bind (local_getService messageIdent (by decide) cnt) fun _ => local_pure _

theorem local_getTarget :
    Local .alert messageIdent (getTarget unassigned messageIdent : Get (List (Target E))) := by
  refine local_bind (local_getElements rfl (avoids_of_alert rfl) fun _ row => ?_) fun targets => ?_
  · iterate 3 refine local_bind (by simp) fun _ => ?_
    exact local_pure _
  · refine local_getNested (fun cnt target => ?_) 0 targets
    refine local_bind (local_getNode messageIdent (by decide) cnt) fun _ => ?_
    refine local_bind (local_getUser messageIdent (by decide) cnt) fun _ => ?_
    refine local_bind (local_getProcess messageIdent (by decide) cnt) fun _ => ?_
    refine local_bind (local_getService messageIdent (by decide) cnt) fun _ => ?_
    exact local_bind (local_getFile unassigned messageIdent cnt) fun _ => local_pure _

theorem local_getClassification :
    Local .alert messageIdent (getClassification messageIdent :
      Get (Option (Classification E))) := by
  have ofReference : Local .alert messageIdent (getReference messageIdent :
      Get (List (Reference E))) := by
    refine local_getListed rfl (avoids_of_alert rfl) fun _ row => ?_
    iterate 4 refine local_bind (by simp) fun _ => ?_
    exact local_pure _
  refine local_getSingle rfl (avoids_of_alert rfl) fun row => ?_
  iterate 2 refine local_bind (by simp) fun _ => ?_
  exact local_bind ofReference fun _ => local_pure _

theorem local_getToolAlert : Local .alert messageIdent (getToolAlert messageIdent) := by
  refine local_getSingle rfl (avoids_of_alert rfl) fun row => ?_
  iterate 2 refine local_bind (by simp) fun _ => ?_
  exact local_bind (local_getAlertident messageIdent (by decide)) fun _ => local_pure _

theorem local_getCorrelationAlert :
    Local .alert messageIdent (getCorrelationAlert messageIdent) := by
  refine local_getSingle rfl (avoids_of_alert rfl) fun row => ?_
  refine local_bind (local_getString row 0) fun _ => ?_
  exact local_bind (local_getAlertident messageIdent (by decide)) fun _ => local_pure _

theorem local_getOverflowAlert : Local .alert messageIdent (getOverflowAlert messageIdent) := by
  refine local_getSingle rfl (avoids_of_alert rfl) fun row => ?_
  iterate 2 refine local_bind (by simp) fun _ => ?_
  refine local_field row 2 (local_throw _) fun field => ?_
  exact local_bind (local_unescapeBinary _) fun _ => local_pure _

theorem local_getMessageRow (kind : MessageTable) {columns : List Column}
    {body : Fetched → Get α} (ofBody : ∀ row, Local kind messageIdent (body row)) :
    Local kind messageIdent (getMessageRow columns kind messageIdent body) := by
  refine local_bind (local_query rfl (ownQuery_avoids kind messageIdent)) fun rows => ?_
  cases rows with
  | nil => exact local_throw _
  | cons row rows => exact local_bind (local_fetchRow _ 0) fun _ => ofBody row

/-- The reader of a message asks for the rows of that message alone. -/
theorem local_classicGet (kind : MessageTable) :
    Local kind messageIdent (classicGet unassigned kind messageIdent : Get (MessageRead E)) := by
  cases kind with
  | alert =>
      refine local_bind (local_getMessageRow messageIdent .alert fun row => by simp) fun _ => ?_
      refine local_bind (local_getAssessment messageIdent) fun _ => ?_
      refine local_bind (local_getAnalyzer messageIdent (by decide)) fun _ => ?_
      refine local_bind (local_getMessageTime unassigned messageIdent (by decide) _) fun _ => ?_
      refine local_bind ?_ fun _ => ?_
      · exact local_bind (local_getSingle rfl (avoids_of_alert rfl) fun row =>
          local_getTimestamp row _ _ _ _) (by simp)
      refine local_bind (local_getMessageTime unassigned messageIdent (by decide) _) fun _ => ?_
      refine local_bind (local_getSource messageIdent) fun _ => ?_
      refine local_bind (local_getTarget unassigned messageIdent) fun _ => ?_
      refine local_bind (local_getClassification messageIdent) fun _ => ?_
      refine local_bind (local_getAdditionalData unassigned messageIdent (by decide)) fun _ => ?_
      refine local_bind (local_getToolAlert messageIdent) fun _ => ?_
      refine local_bind (local_getCorrelationAlert messageIdent) fun _ => ?_
      exact local_bind (local_getOverflowAlert messageIdent) fun _ => local_pure _
  | heartbeat =>
      refine local_bind (local_getMessageRow messageIdent .heartbeat fun row => ?_) fun _ => ?_
      · iterate 2 refine local_bind (by simp) fun _ => ?_
        exact local_pure _
      refine local_bind (local_getAnalyzer messageIdent (by decide)) fun _ => ?_
      refine local_bind (local_getMessageTime unassigned messageIdent (by decide) _) fun _ => ?_
      refine local_bind (local_getMessageTime unassigned messageIdent (by decide) _) fun _ => ?_
      exact local_bind (local_getAdditionalData unassigned messageIdent (by decide)) fun _ =>
        local_pure _

end Readers

end Get

section Stores

variable {store other : Store} {kind : MessageTable} {ident : Nat}

/-- The rows of one message. -/
def Store.ownRows (store : Store) (owner : Owner) : List Row :=
  (store.committed.filter fun entry => entry.owner = some owner).map Entry.row

theorem Store.Sound.filter_rows (sound : store.Sound) {query : Select}
    (asks : query.messageIdent = ident) (avoids : query.Avoids kind.other) :
    store.rows.filter (fun row => query.Matches row) =
      (store.ownRows ⟨kind, ident⟩).filter fun row => query.Matches row := by
  have shown : store.visible = store.committed := sound.idle
  rw [Store.rows, shown, Store.ownRows, List.filter_map, List.filter_map, List.filter_filter]
  congr 1
  apply List.filter_congr
  intro entry present
  rcases sound.entries entry present with ⟨owner, isOwner, belongs, _⟩
  by_cases own : owner = ⟨kind, ident⟩
  · simp [isOwner, own]
  · have notMatched : ¬ query.Matches entry.row :=
      belongs.not_matches avoids fun same => own (by rw [same, asks])
    simp [notMatched]

/-- Two databases with the same rows of a message are read alike. -/
theorem Get.Local.read_eq {α : Type} {reader : Get α} (isLocal : reader.Local kind ident)
    (sound : store.Sound) (soundOther : other.Sound)
    (same : store.ownRows ⟨kind, ident⟩ = other.ownRows ⟨kind, ident⟩) (retrieval : Retrieval) :
    reader.read retrieval store = reader.read retrieval other := by
  have agree : Program.Agree (SqlOp.Concerns kind ident) (fun _ _ => True)
      retrieval.environment retrieval.environment
      (fun left right => left = store ∧ right = other) := by
    refine ⟨fun _ _ => trivial, fun {op left right} concerns related => ?_,
      fun _ related => related⟩
    rcases related with ⟨rfl, rfl⟩
    cases op with
    | select query =>
        rcases concerns with ⟨asks, avoids⟩
        have found := sound.filter_rows asks avoids
        rw [same, ← soundOther.filter_rows asks avoids] at found
        show Except.ok (left.select query) = Except.ok (right.select query)
        rw [Store.select, Store.select, found]
    | unescapeBinary | fetchRow | fetchField => rfl
    | _ => exact concerns.elim
  exact (agree.run isLocal ⟨rfl, rfl⟩).1

/-- A message none of whose rows is there cannot be read. -/
theorem read_of_ownRows_nil [∀ kind, Inhabited (E kind)] (sound : store.Sound)
    (none : store.ownRows ⟨kind, ident⟩ = []) (retrieval : Retrieval) (unassigned : Int) :
    (classicGet unassigned kind ident : Get (MessageRead E)).read retrieval store =
      .error invalidMessageIdent := by
  apply read_classicGet_of_absent
  have found := sound.filter_rows rfl (ownQuery_avoids kind ident)
  rw [Store.select, found]
  show (if (ownQuery kind ident).listed = true then _ else _) = _
  rw [ownQuery, if_neg Bool.false_ne_true, none]
  rfl

end Stores

section Calls

variable {store : Store} {kind : MessageTable} {ident : Nat}

/-- An insertion, whatever fails of it, writes rows of a fresh ident. -/
theorem AddsTo.ownRows {owner : Owner} {result : Store} (adds : AddsTo store owner result)
    (differs : owner ≠ ⟨kind, ident⟩) :
    result.ownRows ⟨kind, ident⟩ = store.ownRows ⟨kind, ident⟩ := by
  rcases adds.committed with ⟨added, committed, ofOwner⟩
  have none : (added.filter fun entry => entry.owner = some (⟨kind, ident⟩ : Owner)) = [] := by
    refine List.filter_eq_nil_iff.mpr fun entry present => ?_
    simpa [(ofOwner entry present).1] using differs
  rw [Store.ownRows, committed, List.filter_append, none, List.append_nil, Store.ownRows]

theorem ownRows_of_spared {result : Store} {ofKind : MessageTable} {idents : List Nat}
    (committed : result.committed = spared ofKind idents store.committed) :
    result.ownRows ⟨kind, ident⟩ =
      if ofKind = kind ∧ ident ∈ idents then [] else store.ownRows ⟨kind, ident⟩ := by
  have doomed : ∀ entry : Entry, entry.owner = some ⟨kind, ident⟩ →
      (entry.Doomed ofKind idents ↔ ofKind = kind ∧ ident ∈ idents) := by
    intro entry isOwner
    rw [Entry.Doomed, isOwner]
    constructor
    · rintro ⟨other, asked, same⟩
      cases same
      exact ⟨rfl, asked⟩
    · rintro ⟨rfl, asked⟩
      exact ⟨ident, asked, rfl⟩
  rw [Store.ownRows, committed, spared, List.filter_filter]
  split
  · rename_i named
    rw [List.map_eq_nil_iff, List.filter_eq_nil_iff]
    intro entry _ kept
    simp only [Bool.and_eq_true, decide_eq_true_eq] at kept
    exact kept.2 ((doomed entry kept.1).mpr named)
  · rename_i notNamed
    rw [Store.ownRows]
    congr 1
    apply List.filter_congr
    intro entry _
    by_cases isOwner : entry.owner = some ⟨kind, ident⟩
    · have survives : ¬ entry.Doomed ofKind idents := fun isDoomed =>
        notNamed ((doomed entry isOwner).mp isDoomed)
      simp [survives]
    · simp [isOwner]

theorem Deleted.ownRows {queries : List Delete} {ofKind : MessageTable} {idents : List Nat}
    {result : Int × Store} (deleted : Deleted queries store result)
    (exact : 0 ≤ result.1 → result.2.committed = spared ofKind idents store.committed) :
    result.2.ownRows ⟨kind, ident⟩ =
      if decide (0 ≤ result.1) = true ∧ ofKind = kind ∧ ident ∈ idents then []
      else store.ownRows ⟨kind, ident⟩ := by
  rcases Int.lt_or_le result.1 0 with negative | succeeded
  · rw [Store.ownRows, deleted.failed negative, if_neg (by simp [negative]), Store.ownRows]
  · rw [ownRows_of_spared (exact succeeded)]
    exact if_congr (by simp [succeeded]) rfl rfl

/-- A call changes the rows of a message only when it deletes the message. -/
theorem ownRows_call (sound : store.Sound) (isGiven : ident < store.next kind) (call : Call E)
    (faults : Faults) :
    (call.program.run (environment faults) store).2.ownRows ⟨kind, ident⟩ =
      if decide (0 ≤ (call.program.run (environment faults) store).1) = true ∧
          call.request.Discards kind ident then []
      else store.ownRows ⟨kind, ident⟩ := by
  rcases call_cases sound call faults with
    ⟨message, rfl⟩ | ⟨ofKind, idents, queries, asks, deleted, exact⟩
  · rw [if_neg (by simp [Call.request, Archive.Request.Discards])]
    refine (classicInsert_addsTo faults message sound).ownRows fun same => ?_
    cases same
    exact Nat.lt_irrefl _ isGiven
  · rw [asks]
    exact deleted.ownRows exact

theorem next_le_call (sound : store.Sound) (call : Call E) (faults : Faults)
    (kind : MessageTable) :
    store.next kind ≤ (call.program.run (environment faults) store).2.next kind := by
  rcases call_cases sound call faults with
    ⟨message, rfl⟩ | ⟨ofKind, idents, queries, asks, deleted, exact⟩
  · exact (classicInsert_addsTo faults message sound).next kind
  · exact Nat.le_of_eq (congrFun deleted.next kind).symm

theorem Reached.behind (reached : Reached E store) (counting : Counting) (call : Call E)
    (faults : Faults) :
    Reached E (counting.behind store (call.program.run (environment faults) store)) := by
  cases counting with
  | goesOn => exact reached.call call faults
  | takenBack =>
      rw [Counting.behind]
      split
      · rename_i failed
        exact reached.takenBack call faults failed
      · exact reached.call call faults

theorem Reached.serveCalls (reached : Reached E store) (counting : Counting)
    (calls : List (Call E × Faults)) :
    Reached E (RequiemDB.serveCalls counting calls store).2 := by
  induction calls generalizing store with
  | nil => exact reached
  | cons call calls ih => exact ih (reached.behind counting call.1 call.2)

/-- The counter is not taken back behind the idents of messages that were there before. -/
theorem Counting.next_le (counting : Counting) {result : Int × Store}
    (grows : store.next kind ≤ result.2.next kind) :
    store.next kind ≤ (counting.behind store result).next kind := by
  cases counting with
  | goesOn => exact grows
  | takenBack =>
      rw [Counting.behind]
      split
      · exact Nat.le_refl _
      · exact grows

theorem Counting.ownRows (counting : Counting) (result : Int × Store) (owner : Owner) :
    (counting.behind store result).ownRows owner = result.2.ownRows owner := by
  cases counting with
  | goesOn => rfl
  | takenBack =>
      rw [Counting.behind]
      split <;> rfl

/-- Calls change the rows of a message only when one of them deletes the message. -/
theorem ownRows_serveCalls (reached : Reached E store) (isGiven : ident < store.next kind)
    (counting : Counting) (calls : List (Call E × Faults)) :
    (serveCalls counting calls store).2.ownRows ⟨kind, ident⟩ =
      if Archive.Discarded kind ident (history calls (serveCalls counting calls store).1) then []
      else store.ownRows ⟨kind, ident⟩ := by
  induction calls generalizing store with
  | nil =>
      rw [if_neg (by simp [serveCalls, history, Archive.Discarded])]
      rfl
  | cons call calls ih =>
      have here := ownRows_call reached.sound isGiven call.1 call.2
      have grows := counting.next_le (next_le_call reached.sound call.1 call.2 kind)
      have later := ih (reached.behind counting call.1 call.2) (Nat.lt_of_lt_of_le isGiven grows)
      rw [counting.ownRows, here] at later
      exact later.trans (Archive.ite_discarded_cons kind ident
        (call.1.request, decide (0 ≤ (call.1.program.run (environment call.2) store).1))
        (history calls _) [] _).symm

variable [∀ kind, Inhabited (E kind)]

/--
Calls of the plugin, whatever fails of them, leave what is read of a message that is there
before them as it is, to the last error, until one of them deletes the message. From then on it
cannot be read, although new messages are given idents.
-/
theorem read_after_calls (reached : Reached E store) (stored : ident ∈ store.idents kind)
    (counting : Counting) (calls : List (Call E × Faults)) (retrieval : Retrieval)
    (unassigned : Int) :
    let result := serveCalls counting calls store
    (classicGet unassigned kind ident : Get (MessageRead E)).read retrieval result.2 =
      if Archive.Discarded kind ident (history calls result.1) then .error invalidMessageIdent
      else (classicGet unassigned kind ident).read retrieval store := by
  intro result
  have isGiven := reached.sound.given stored
  have rows := ownRows_serveCalls reached isGiven counting calls
  have sound := (reached.serveCalls counting calls).sound
  split
  · rename_i discarded
    rw [if_pos discarded] at rows
    exact read_of_ownRows_nil sound rows retrieval unassigned
  · rename_i kept
    rw [if_neg kept] at rows
    exact (Get.local_classicGet unassigned ident kind).read_eq sound reached.sound rows retrieval

/-- An alert that lost its classification, behind an insertion and a failing deletion. -/
theorem read_after_calls_classified :
    let stored := ((classicInsert (.alert classified)).run
      (environment (statementFaults failsFourth)) (Store.unfilled fun _ => 1)).2
    let calls : List (Call TextEnum × Faults) :=
      [(.insert (.alert (Alert.bare TextEnum)), noFaults),
        (.deleteAlert 1, fun _ _ => some ⟨-1, minusOne_negative⟩)]
    let result := serveCalls .takenBack calls stored
    (classicGet 0 .alert 1 : Get (MessageRead TextEnum)).read .sqlite3 result.2 =
      if Archive.Discarded .alert 1 (history calls result.1) then .error invalidMessageIdent
      else (classicGet 0 .alert 1).read .sqlite3 stored := by
  intro stored calls
  have isStored : 1 ∈ stored.idents .alert := by decide
  exact read_after_calls (.call (.empty fun _ => 1) (.insert (.alert classified))
    (statementFaults failsFourth)) isStored .takenBack calls .sqlite3 0

end Calls

end RequiemDB
