import RequiemDB.Classic.RoundTrip

/-!
# Readers and calls that fail

Each reader hands on the error of a call, but for two kinds of calls. `get_service`
takes a query that fails for one that finds nothing. `get_source`, `get_target` and
`get_file` leave the loop over their rows when a fetch fails, and the loop behind it
overwrites the error if there is an element. The message is then returned without the
service, or without the elements that were not fetched.
-/

namespace RequiemDB

open Lib

/-- The calls whose error is forgotten: the query of `get_service`, and each fetch behind the
first row of the sources, of the targets and of the files. -/
def SqlOp.Forgotten : SqlOp → Prop
  | .select query => query.table = .service
  | .fetchRow table fetched => table ∈ [Table.source, .target, .file] ∧ 0 < fetched
  | _ => False

/-- The plugin answers from the database, but for the calls that fail, each by its position. -/
def Retrieval.failing (retrieval : Retrieval) (store : Store) (fails : Nat → Option ErrorCode) :
    Environment SqlReply Nat := fun op call =>
  (match fails call with
    | none => retrieval.reply store op
    | some error => refusal error op, call + 1)

namespace Get

variable {α β : Type}

section Reports

/-- Every call is one whose error the program returns at once. -/
def Reports : Sql (Except ErrorCode α) → Prop
  | .done _ => True
  | .perform op next =>
      ¬ op.Forgotten ∧ (∀ error, ∃ reported, next (refusal error op) = .done (.error reported)) ∧
        ∀ reply, Reports (next reply)

theorem reports_pure (answer : α) : Reports (pure answer : Get α).run := trivial

theorem reports_throw (error : ErrorCode) : Reports (throw error : Get α).run := trivial

theorem reports_convert (result : Except ErrorCode α) : Reports (convert result).run := trivial

theorem reports_bind {first : Get α} {rest : α → Get β} (ofFirst : Reports first.run)
    (ofRest : ∀ answer, Reports (rest answer).run) : Reports (first >>= rest).run := by
  change Sql (Except ErrorCode α) at first
  change Reports first at ofFirst
  induction first with
  | done answer =>
      cases answer with
      | error error => trivial
      | ok answer => exact ofRest answer
  | perform op next ih =>
      rcases ofFirst with ⟨kept, failure, later⟩
      refine ⟨kept, ?_, fun reply => ih reply (later reply)⟩
      intro error
      rcases failure error with ⟨reported, ends⟩
      exact ⟨reported, congrArg (· >>= ExceptT.bindCont rest) ends⟩

theorem reports_perform {op : SqlOp} {reply : SqlReply op → Except ErrorCode α}
    (kept : ¬ op.Forgotten) (failure : ∀ error, ∃ reported,
      reply (refusal error op) = .error reported) : Reports (perform op reply).run := by
  refine ⟨kept, fun error => ?_, fun _ => trivial⟩
  rcases failure error with ⟨reported, ends⟩
  exact ⟨reported, congrArg Program.done ends⟩

theorem reports_query {columns : List Column} {query : Select} (kept : query.table ≠ .service) :
    Reports (requiemdbSqlQuery columns query).run :=
  reports_perform kept fun error => ⟨error, rfl⟩

theorem reports_fetchRow {table : Table} {fetched : Nat}
    (kept : table ∉ [Table.source, .target, .file] ∨ fetched = 0) :
    Reports (requiemdbSqlTableFetchRow table fetched).run := by
  refine reports_perform ?_ fun error => ⟨error, rfl⟩
  rintro ⟨forgotten, behind⟩
  rcases kept with apart | first
  · exact apart forgotten
  · omega

theorem reports_fetchField (row : Fetched) (column : Nat) :
    Reports (requiemdbSqlRowFetchField row column).run :=
  reports_perform id fun error => ⟨error, rfl⟩

theorem reports_unescapeBinary (input : List UInt8) :
    Reports (requiemdbSqlUnescapeBinary input).run :=
  reports_perform id fun error => ⟨error, rfl⟩

theorem reports_map {reader : Get α} (f : α → β) (reports : Reports reader.run) :
    Reports (f <$> reader).run := by
  rw [map_eq_pure_bind]
  exact reports_bind reports fun _ => reports_pure _

end Reports

end Get

section Fields

open Get

variable {E : EnumKind → Type} [Librequiem E] {kind : EnumKind} (row : Fetched) (index : Nat)

theorem reports_field {α : Type} {rest : Option Cell → Get α} (absent : Reports (rest none).run)
    (present : ∀ field, Reports (rest (some field)).run) :
    Reports (requiemdbSqlRowFetchField row index >>= rest).run := by
  refine reports_bind (reports_fetchField row index) fun field => ?_
  cases field with
  | none => exact absent
  | some field => exact present field

theorem reports_getUint8 : Reports (getUint8 row index).run := by
  refine reports_field row index (reports_pure none) fun field => ?_
  exact reports_bind (reports_convert _) fun _ => reports_pure _

theorem reports_getNumber {α : Type} (conversion : Cell → Except ErrorCode (Option α)) (zero : α) :
    Reports (getNumber row index conversion zero).run := by
  refine reports_field row index (reports_pure none) fun field => ?_
  exact reports_bind (reports_convert _) fun _ => reports_pure _

theorem reports_getString : Reports (getString row index).run :=
  reports_field row index (reports_pure none) fun _ => reports_pure _

theorem reports_getEnum : Reports (getEnum row index : Get (Option (E kind))).run :=
  reports_field row index (reports_pure none) fun _ => reports_pure _

theorem reports_getMandatoryEnum [Inhabited (E kind)] :
    Reports (getMandatoryEnum row index : Get (E kind)).run :=
  reports_bind (reports_getEnum row index) fun _ => reports_pure _

theorem reports_getTimestamp (unassigned : Int) (timeIndex gmtoffIndex : Nat)
    (usecIndex : Option Nat) :
    Reports (getTimestamp row unassigned timeIndex gmtoffIndex usecIndex).run := by
  refine reports_field row timeIndex (reports_pure none) fun timeField => ?_
  refine reports_field row gmtoffIndex (reports_throw _) fun gmtoffField => ?_
  cases usecIndex with
  | none =>
      refine reports_bind (reports_pure _) fun usec => ?_
      refine reports_bind (reports_convert _) fun gmtoff => ?_
      exact reports_bind (reports_convert _) fun _ => reports_pure _
  | some usecIndex =>
      refine reports_field row usecIndex (reports_throw _) fun usecField => ?_
      refine reports_bind (reports_convert _) fun usecValue => ?_
      refine reports_bind (reports_pure _) fun usec => ?_
      refine reports_bind (reports_convert _) fun gmtoff => ?_
      exact reports_bind (reports_convert _) fun _ => reports_pure _

end Fields

section Loops

open Get

variable {α β : Type}

theorem reports_fetchRows {table : Table} {body : Int → Fetched → Get α}
    (kept : table ∉ [Table.source, .target, .file])
    (ofBody : ∀ index row, Reports (body index row).run) (start : Int) (rows : List Fetched) :
    Reports (fetchRows table body start rows).run := by
  induction rows generalizing start with
  | nil => exact reports_bind (reports_fetchRow (.inl kept)) fun _ => reports_pure _
  | cons row rows ih =>
      refine reports_bind (reports_fetchRow (.inl kept)) fun _ => ?_
      refine reports_bind (ofBody start row) fun element => ?_
      exact reports_bind (ih (start + 1)) fun elements => reports_pure _

theorem reports_getListed {columns : List Column} {query : Select}
    {body : Int → Fetched → Get α}
    (kept : query.table ∉ [Table.service, .source, .target, .file])
    (ofBody : ∀ index row, Reports (body index row).run) :
    Reports (getListed columns query body).run := by
  rw [List.mem_cons, not_or] at kept
  refine reports_bind (reports_query kept.1) fun rows => ?_
  cases rows with
  | nil => exact reports_pure _
  | cons row rows => exact reports_fetchRows kept.2 ofBody 0 (row :: rows)

theorem reports_getSingle {columns : List Column} {query : Select} {body : Fetched → Get α}
    (kept : query.table ≠ .service) (ofBody : ∀ row, Reports (body row).run) :
    Reports (getSingle columns query body).run := by
  refine reports_bind (reports_query kept) fun rows => ?_
  cases rows with
  | nil => exact reports_pure _
  | cons row rows =>
      refine reports_bind (reports_fetchRow (.inr rfl)) fun _ => ?_
      exact reports_bind (ofBody row) fun _ => reports_pure _

theorem reports_getNested {body : Int → α → Get β}
    (ofBody : ∀ cnt element, Reports (body cnt element).run) (start : Int) (elements : List α) :
    Reports (getNested body start elements).run := by
  induction elements generalizing start with
  | nil => exact reports_pure _
  | cons element elements ih =>
      refine reports_bind (ofBody start element) fun nested => ?_
      exact reports_bind (ih (start + 1)) fun later => reports_pure _

theorem reports_getStringListed {columns : List Column} {query : Select}
    (kept : query.table ∉ [Table.service, .source, .target, .file]) :
    Reports (getStringListed columns query).run :=
  reports_bind (reports_getListed kept fun _ row => reports_getString row 0) fun _ => reports_pure _

end Loops

section Readers

open Get

variable {E : EnumKind → Type} [Librequiem E] [∀ kind, Inhabited (E kind)]
variable (unassigned : Int) (messageIdent : Nat) (parentType : ParentType) (parentIndex : Int)

theorem reports_getMessageTime {table : Table} (kept : table ≠ .service) (letter : ParentTypeTest) :
    Reports (getMessageTime unassigned messageIdent table letter).run := by
  refine reports_bind (reports_getSingle kept fun row => ?_) fun time => reports_pure _
  exact reports_getTimestamp row unassigned 0 1 (some 2)

theorem reports_getUserId (fileIndex fileAccessIndex : Int) :
    Reports (getUserId messageIdent parentType parentIndex fileIndex fileAccessIndex :
      Get (List (UserId E))).run := by
  refine reports_getListed (by simp) fun _ row => ?_
  refine reports_bind (reports_getString row 0) fun ident => ?_
  refine reports_bind (reports_getMandatoryEnum row 1) fun type => ?_
  refine reports_bind (reports_getString row 2) fun name => ?_
  refine reports_bind (reports_getNumber row 3 _ _) fun number => ?_
  exact reports_bind (reports_getString row 4) fun tty => reports_pure _

theorem reports_getUser :
    Reports (getUser messageIdent parentType parentIndex : Get (Option (User E))).run := by
  refine reports_getSingle (by simp) fun row => ?_
  refine reports_bind (reports_getString row 0) fun ident => ?_
  refine reports_bind (reports_getMandatoryEnum row 1) fun category => ?_
  exact reports_bind (reports_getUserId messageIdent parentType parentIndex 0 0) fun userIds =>
    reports_pure _

theorem reports_getProcess : Reports (getProcess messageIdent parentType parentIndex).run := by
  refine reports_getSingle (by simp) fun row => ?_
  refine reports_bind (reports_getString row 0) fun ident => ?_
  refine reports_bind (reports_getString row 1) fun name => ?_
  refine reports_bind (reports_getNumber row 2 _ _) fun pid => ?_
  refine reports_bind (reports_getString row 3) fun path => ?_
  refine reports_bind (reports_getStringListed (by simp)) fun args => ?_
  exact reports_bind (reports_getStringListed (by simp)) fun envs => reports_pure _

theorem reports_getWebService :
    Reports (getWebService messageIdent parentType parentIndex).run := by
  refine reports_getSingle (by simp) fun row => ?_
  refine reports_bind (reports_getString row 0) fun url => ?_
  refine reports_bind (reports_getString row 1) fun cgi => ?_
  refine reports_bind (reports_getString row 2) fun httpMethod => ?_
  exact reports_bind (reports_getStringListed (by simp)) fun args => reports_pure _

theorem reports_getSnmpService :
    Reports (getSnmpService messageIdent parentType parentIndex).run := by
  refine reports_getSingle (by simp) fun row => ?_
  refine reports_bind (reports_getString row 0) fun oid => ?_
  refine reports_bind (reports_getNumber row 1 _ _) fun messageProcessingModel => ?_
  refine reports_bind (reports_getNumber row 2 _ _) fun securityModel => ?_
  refine reports_bind (reports_getString row 3) fun securityName => ?_
  refine reports_bind (reports_getNumber row 4 _ _) fun securityLevel => ?_
  refine reports_bind (reports_getString row 5) fun contextName => ?_
  refine reports_bind (reports_getString row 6) fun contextEngineId => ?_
  exact reports_bind (reports_getString row 7) fun command => reports_pure _

theorem reports_getAddress :
    Reports (getAddress messageIdent parentType parentIndex : Get (List (Address E))).run := by
  refine reports_getListed (by simp) fun _ row => ?_
  refine reports_bind (reports_getString row 0) fun ident => ?_
  refine reports_bind (reports_getMandatoryEnum row 1) fun category => ?_
  refine reports_bind (reports_getString row 2) fun vlanName => ?_
  refine reports_bind (reports_getNumber row 3 _ _) fun vlanNum => ?_
  refine reports_bind (reports_getString row 4) fun address => ?_
  exact reports_bind (reports_getString row 5) fun netmask => reports_pure _

theorem reports_getNode :
    Reports (getNode messageIdent parentType parentIndex : Get (Option (Node E))).run := by
  refine reports_getSingle (by simp) fun row => ?_
  refine reports_bind (reports_getString row 0) fun ident => ?_
  refine reports_bind (reports_getMandatoryEnum row 1) fun category => ?_
  refine reports_bind (reports_getString row 2) fun location => ?_
  refine reports_bind (reports_getString row 3) fun name => ?_
  exact reports_bind (reports_getAddress messageIdent parentType parentIndex) fun addresses =>
    reports_pure _

theorem reports_getAnalyzer :
    Reports (getAnalyzer messageIdent parentType : Get (List (Analyzer E))).run := by
  refine reports_getListed (by simp) fun index row => ?_
  refine reports_bind (reports_getString row 0) fun analyzerid => ?_
  refine reports_bind (reports_getString row 1) fun name => ?_
  refine reports_bind (reports_getString row 2) fun manufacturer => ?_
  refine reports_bind (reports_getString row 3) fun model => ?_
  refine reports_bind (reports_getString row 4) fun version => ?_
  refine reports_bind (reports_getString row 5) fun class_ => ?_
  refine reports_bind (reports_getString row 6) fun ostype => ?_
  refine reports_bind (reports_getString row 7) fun osversion => ?_
  refine reports_bind (reports_getNode messageIdent parentType index) fun node => ?_
  exact reports_bind (reports_getProcess messageIdent parentType index) fun process =>
    reports_pure _

theorem reports_getAssessment :
    Reports (getAssessment messageIdent : Get (Option (Assessment E))).run := by
  have ofImpact : Reports (getImpact messageIdent : Get (Option (Impact E))).run := by
    refine reports_getSingle (by simp) fun row => ?_
    refine reports_bind (reports_getEnum row 0) fun severity => ?_
    refine reports_bind (reports_getEnum row 1) fun completion => ?_
    refine reports_bind (reports_getMandatoryEnum row 2) fun type => ?_
    exact reports_bind (reports_getString row 3) fun description => reports_pure _
  have ofConfidence : Reports (getConfidence messageIdent : Get (Option (Confidence E))).run := by
    refine reports_getSingle (by simp) fun row => ?_
    refine reports_bind (reports_getMandatoryEnum row 0) fun rating => ?_
    exact reports_bind (reports_getNumber row 1 _ _) fun confidence => reports_pure _
  have ofActions : Reports (getAction messageIdent : Get (List (Action E))).run := by
    refine reports_getListed (by simp) fun _ row => ?_
    refine reports_bind (reports_getMandatoryEnum row 0) fun category => ?_
    exact reports_bind (reports_getString row 1) fun description => reports_pure _
  refine reports_bind (reports_query (by simp)) fun rows => ?_
  cases rows with
  | nil => exact reports_pure _
  | cons row rows =>
      refine reports_bind (ofImpact) fun impact => ?_
      refine reports_bind (ofConfidence) fun confidence => ?_
      exact reports_bind (ofActions) fun actions => reports_pure _

theorem reports_getFileAccess (targetIndex fileIndex : Int) :
    Reports (getFileAccess unassigned messageIdent targetIndex fileIndex :
      Get (List (FileAccess E))).run := by
  refine reports_bind (reports_bind (reports_query (by simp)) fun _ => reports_pure _) fun row => ?_
  refine reports_bind (reports_fetchRow (.inr rfl)) fun _ => ?_
  refine reports_field row 0 (reports_pure []) fun field => ?_
  refine reports_bind (reports_convert _) fun count => ?_
  refine reports_getNested (fun cnt _ => ?_) 0 _
  refine reports_bind (reports_getUserId messageIdent .F targetIndex fileIndex cnt) fun userIds =>
    ?_
  exact reports_bind (reports_getStringListed (by simp)) fun permissions => reports_pure _

theorem reports_getLinkage (targetIndex fileIndex : Int) :
    Reports (getLinkage messageIdent targetIndex fileIndex : Get (List (Linkage E))).run := by
  refine reports_getListed (by simp) fun _ row => ?_
  refine reports_bind (reports_getMandatoryEnum row 0) fun category => ?_
  refine reports_bind (reports_getString row 1) fun name => ?_
  exact reports_bind (reports_getString row 2) fun path => reports_pure _

theorem reports_getInode (targetIndex fileIndex : Int) :
    Reports (getInode unassigned messageIdent targetIndex fileIndex).run := by
  refine reports_getSingle (by simp) fun row => ?_
  refine reports_bind (reports_getTimestamp row unassigned 0 1 none) fun changeTime => ?_
  refine reports_bind (reports_getNumber row 2 _ _) fun number => ?_
  refine reports_bind (reports_getNumber row 3 _ _) fun majorDevice => ?_
  refine reports_bind (reports_getNumber row 4 _ _) fun minorDevice => ?_
  refine reports_bind (reports_getNumber row 5 _ _) fun cMajorDevice => ?_
  exact reports_bind (reports_getNumber row 6 _ _) fun cMinorDevice => reports_pure _

theorem reports_getChecksum (targetIndex fileIndex : Int) :
    Reports (getChecksum messageIdent targetIndex fileIndex : Get (List (Checksum E))).run := by
  refine reports_getListed (by simp) fun _ row => ?_
  refine reports_bind (reports_getString row 0) fun value => ?_
  refine reports_bind (reports_getString row 1) fun key => ?_
  exact reports_bind (reports_getMandatoryEnum row 2) fun algorithm => reports_pure _

theorem reports_getFileRow (row : Fetched) :
    Reports (getFileRow unassigned row : Get (File E)).run := by
  refine reports_bind (reports_getString row 0) fun ident => ?_
  refine reports_bind (reports_getMandatoryEnum row 1) fun category => ?_
  refine reports_bind (reports_getString row 2) fun name => ?_
  refine reports_bind (reports_getString row 3) fun path => ?_
  refine reports_bind (reports_getTimestamp row unassigned 4 5 none) fun createTime => ?_
  refine reports_bind (reports_getTimestamp row unassigned 6 7 none) fun modifyTime => ?_
  refine reports_bind (reports_getTimestamp row unassigned 8 9 none) fun accessTime => ?_
  refine reports_bind (reports_getNumber row 10 _ _) fun dataSize => ?_
  refine reports_bind (reports_getNumber row 11 _ _) fun diskSize => ?_
  refine reports_bind (reports_getEnum row 12) fun fstype => ?_
  exact reports_bind (reports_getString row 13) fun fileType => reports_pure _

theorem reports_getPayload (field : Cell) (type : AdditionalDataType) :
    Reports (getPayload unassigned field type).run := by
  cases type with
  | byteString => exact reports_map _ (reports_unescapeBinary _)
  | _ => exact reports_pure _

omit [∀ kind, Inhabited (E kind)] in
theorem reports_fetchData (fetched : Nat) (rows : List Fetched) :
    Reports (fetchData E unassigned fetched rows).run := by
  induction rows generalizing fetched with
  | nil => exact reports_bind (reports_fetchRow (.inl (by simp))) fun _ => reports_pure _
  | cons row rows ih =>
      refine reports_bind (reports_fetchRow (.inl (by simp))) fun _ => ?_
      refine reports_bind (reports_field row 0 (reports_pure _) fun _ => reports_pure _) fun type =>
        ?_
      refine reports_bind (reports_getString row 1) fun meaning => ?_
      refine reports_field row 2 (reports_pure _) fun field => ?_
      cases type with
      | none => exact reports_throw _
      | some type =>
          refine reports_bind (reports_getPayload unassigned field type) fun data => ?_
          exact reports_bind (ih (fetched + 1)) fun later => reports_pure _

omit [∀ kind, Inhabited (E kind)] in
theorem reports_getAdditionalData :
    Reports (getAdditionalData E unassigned messageIdent parentType).run := by
  refine reports_bind (reports_query (by simp)) fun rows => ?_
  cases rows with
  | nil => exact reports_pure _
  | cons row rows => exact reports_fetchData unassigned 0 (row :: rows)

theorem reports_getClassification :
    Reports (getClassification messageIdent : Get (Option (Classification E))).run := by
  refine reports_getSingle (by simp) fun row => ?_
  refine reports_bind (reports_getString row 0) fun ident => ?_
  refine reports_bind (reports_getString row 1) fun text => ?_
  refine reports_bind (reports_getListed (by simp) fun _ row => ?_) fun references => reports_pure _
  refine reports_bind (reports_getMandatoryEnum row 0) fun origin => ?_
  refine reports_bind (reports_getString row 1) fun name => ?_
  refine reports_bind (reports_getString row 2) fun url => ?_
  exact reports_bind (reports_getString row 3) fun meaning => reports_pure _

theorem reports_getAlertident : Reports (getAlertident messageIdent parentType).run := by
  refine reports_getListed (by simp) fun _ row => ?_
  refine reports_bind (reports_getString row 0) fun alertident => ?_
  exact reports_bind (reports_getString row 1) fun analyzerid => reports_pure _

theorem reports_getToolAlert : Reports (getToolAlert messageIdent).run := by
  refine reports_getSingle (by simp) fun row => ?_
  refine reports_bind (reports_getString row 0) fun name => ?_
  refine reports_bind (reports_getString row 1) fun command => ?_
  exact reports_bind (reports_getAlertident messageIdent .T) fun alertidents => reports_pure _

theorem reports_getCorrelationAlert : Reports (getCorrelationAlert messageIdent).run := by
  refine reports_getSingle (by simp) fun row => ?_
  refine reports_bind (reports_getString row 0) fun name => ?_
  exact reports_bind (reports_getAlertident messageIdent .C) fun alertidents => reports_pure _

theorem reports_getOverflowAlert : Reports (getOverflowAlert messageIdent).run := by
  refine reports_getSingle (by simp) fun row => ?_
  refine reports_bind (reports_getString row 0) fun program => ?_
  refine reports_bind (reports_getNumber row 1 _ _) fun size => ?_
  refine reports_field row 2 (reports_throw _) fun field => ?_
  exact reports_bind (reports_unescapeBinary _) fun buffer => reports_pure _

theorem reports_getMessageRow {α : Type} {columns : List Column} {table : MessageTable}
    {body : Fetched → Get α} (ofBody : ∀ row, Reports (body row).run) :
    Reports (getMessageRow columns table messageIdent body).run := by
  refine reports_bind (reports_query (by cases table <;> simp [MessageTable.table])) fun rows => ?_
  cases rows with
  | nil => exact reports_throw _
  | cons row rows => exact reports_bind (reports_fetchRow (.inr rfl)) fun _ => ofBody row

/-- A heartbeat has no parts whose readers forget an error. -/
theorem reports_classicGetHeartbeat :
    Reports (classicGetHeartbeat unassigned messageIdent : Get (MessageRead E)).run := by
  refine reports_bind (reports_getMessageRow messageIdent fun row => ?_) fun own => ?_
  · refine reports_bind (reports_getString row 0) fun messageid => ?_
    exact reports_bind (reports_getNumber row 1 _ _) fun heartbeatInterval => reports_pure _
  · refine reports_bind (reports_getAnalyzer messageIdent .H) fun analyzers => ?_
    refine reports_bind (reports_getMessageTime unassigned messageIdent (by simp) _)
      fun createTime => ?_
    refine reports_bind (reports_getMessageTime unassigned messageIdent (by simp) _)
      fun analyzerTime => ?_
    exact reports_bind (reports_getAdditionalData unassigned messageIdent .H) fun data =>
      reports_pure _

end Readers

section Settles

open Get

variable {α β : Type} (retrieval : Retrieval) (store : Store) (fails : Nat → Option ErrorCode)

/-- Every call of the reader that fails is one whose error is forgotten. -/
def OnlyForgottenFail (reader : Get α) (call : Nat) : Prop :=
  Program.Along (retrieval.failing store fails) (fun op call => fails call ≠ none → op.Forgotten)
    reader.run call

/-- Every call of the reader succeeds. -/
def NoCallFails (reader : Get α) (call : Nat) : Prop :=
  Program.Along (retrieval.failing store fails) (fun _ call => fails call = none) reader.run call

/-- What the reader returns, and the position of the call behind it. -/
def outcome (reader : Get α) (call : Nat) : Except ErrorCode α × Nat :=
  Program.run (retrieval.failing store fails) reader.run call

/-- The reader returns an error exactly when a call fails whose error is not forgotten. -/
def Settles (reader : Get α) (good : α → Prop) : Prop :=
  ∀ call,
    (OnlyForgottenFail retrieval store fails reader call ∧
      ∃ answer, good answer ∧ (outcome retrieval store fails reader call).1 = .ok answer) ∨
    (¬ OnlyForgottenFail retrieval store fails reader call ∧
      ∃ error, (outcome retrieval store fails reader call).1 = .error error)

variable {retrieval store fails}

theorem settles_pure {answer : α} {good : α → Prop} (isGood : good answer) :
    Settles retrieval store fails (pure answer : Get α) good :=
  fun _ => .inl ⟨trivial, answer, isGood, rfl⟩

theorem Settles.mono {reader : Get α} {good better : α → Prop}
    (settles : Settles retrieval store fails reader good)
    (implies : ∀ answer, good answer → better answer) :
    Settles retrieval store fails reader better := by
  intro call
  rcases settles call with ⟨only, answer, isGood, returned⟩ | failed
  · exact .inl ⟨only, answer, implies answer isGood, returned⟩
  · exact .inr failed

theorem outcome_bind (first : Get α) (rest : α → Get β) (call : Nat) :
    outcome retrieval store fails (first >>= rest) call =
      match outcome retrieval store fails first call with
      | (.ok answer, later) => outcome retrieval store fails (rest answer) later
      | (.error error, later) => (.error error, later) := by
  rw [outcome, ExceptT.run_bind, Program.run_bind]
  change _ = match Program.run (retrieval.failing store fails) first.run call with
    | (.ok answer, later) => outcome retrieval store fails (rest answer) later
    | (.error error, later) => (.error error, later)
  rcases Program.run (retrieval.failing store fails) first.run call with ⟨answer | error, later⟩ <;>
    rfl

theorem onlyForgottenFail_bind (first : Get α) (rest : α → Get β) (call : Nat) :
    OnlyForgottenFail retrieval store fails (first >>= rest) call ↔
      OnlyForgottenFail retrieval store fails first call ∧
        match outcome retrieval store fails first call with
        | (.ok answer, later) => OnlyForgottenFail retrieval store fails (rest answer) later
        | (.error _, _) => True := by
  rw [OnlyForgottenFail, ExceptT.run_bind, Program.along_bind]
  refine and_congr_right fun _ => ?_
  change _ ↔ match Program.run (retrieval.failing store fails) first.run call with
    | (.ok answer, later) => OnlyForgottenFail retrieval store fails (rest answer) later
    | (.error _, _) => True
  rcases Program.run (retrieval.failing store fails) first.run call with ⟨answer | error, later⟩ <;>
    exact Iff.rfl

theorem Settles.bind {first : Get α} {rest : α → Get β} {good : α → Prop} {later : β → Prop}
    (ofFirst : Settles retrieval store fails first good)
    (ofRest : ∀ answer, good answer → Settles retrieval store fails (rest answer) later) :
    Settles retrieval store fails (first >>= rest) later := by
  intro call
  rw [outcome_bind, onlyForgottenFail_bind]
  rcases ofFirst call with ⟨only, answer, isGood, returned⟩ | ⟨notOnly, error, returned⟩
  · have settled := ofRest answer isGood (outcome retrieval store fails first call).2
    rw [← Prod.eta (outcome retrieval store fails first call), returned]
    simpa only [only, true_and] using settled
  · rw [← Prod.eta (outcome retrieval store fails first call), returned]
    exact .inr ⟨fun both => notOnly both.1, error, rfl⟩

/-- A reader that reports every error returns what it reads where no call fails. -/
theorem settles_of_reports {reader : Get α} (reports : Reports reader.run) {answer : α}
    (reads : reader.read retrieval store = .ok answer) :
    Settles retrieval store fails reader (· = answer) := by
  change Sql (Except ErrorCode α) at reader
  change Reports reader at reports
  change (Program.run retrieval.environment reader store).1 = .ok answer at reads
  intro call
  induction reader generalizing call with
  | done result => exact .inl ⟨trivial, answer, rfl, reads⟩
  | perform op next ih =>
      rcases reports with ⟨kept, failure, later⟩
      change
        (((fails call ≠ none → op.Forgotten) ∧ _) ∧
          ∃ own, own = answer ∧ (Program.run (retrieval.failing store fails)
            (next (retrieval.failing store fails op call).1) _).1 = .ok own) ∨
        (¬ ((fails call ≠ none → op.Forgotten) ∧ _) ∧
          ∃ error, (Program.run (retrieval.failing store fails)
            (next (retrieval.failing store fails op call).1) _).1 = .error error)
      cases found : fails call with
      | none =>
          have succeeds : (retrieval.failing store fails op call).1 = retrieval.reply store op := by
            simp only [Retrieval.failing, found]
          rw [succeeds]
          have settled := ih (retrieval.reply store op) (later _) reads (call + 1)
          simp only [ne_eq, not_true_eq_false, false_implies, true_and]
          exact settled
      | some error =>
          have refused : (retrieval.failing store fails op call).1 = refusal error op := by
            simp only [Retrieval.failing, found]
          rcases failure error with ⟨reported, ends⟩
          rw [refused, ends]
          refine .inr ⟨fun only => kept (only.1 (by simp)), reported, rfl⟩

theorem read_bind_eq_ok {first : Get α} {rest : α → Get β} {answer : β}
    (reads : (first >>= rest).read retrieval store = .ok answer) :
    ∃ own, first.read retrieval store = .ok own ∧
      (rest own).read retrieval store = .ok answer := by
  rw [Get.read_bind] at reads
  cases own : first.read retrieval store with
  | error error => rw [own] at reads; cases reads
  | ok own' => rw [own] at reads; exact ⟨own', rfl, reads⟩

/-- What a reader that reports every error reads comes first. -/
theorem settles_bind_of_reports {first : Get α} {rest : α → Get β} {answer : β}
    {good : β → Prop} (reports : Reports first.run)
    (reads : (first >>= rest).read retrieval store = .ok answer)
    (ofRest : ∀ own, (rest own).read retrieval store = .ok answer →
      Settles retrieval store fails (rest own) good) :
    Settles retrieval store fails (first >>= rest) good := by
  rcases read_bind_eq_ok reads with ⟨own, readsFirst, readsRest⟩
  refine (settles_of_reports reports readsFirst).bind ?_
  rintro _ rfl
  exact ofRest _ readsRest

/-- A forgotten call may fail. -/
theorem settles_tryCatch {op : SqlOp} {reply : SqlReply op → Except ErrorCode α}
    {handler : ErrorCode → α} (forgotten : op.Forgotten) {answer : α}
    (reads : reply (retrieval.reply store op) = .ok answer)
    (failure : ∀ error, ∃ reported, reply (refusal error op) = .error reported) :
    Settles retrieval store fails
      (tryCatch (perform op reply) fun error => pure (handler error))
      (fun found => found = answer ∨ ∃ error, found = handler error) := by
  intro call
  have tested : OnlyForgottenFail retrieval store fails (perform op reply) call :=
    ⟨fun _ => forgotten, trivial⟩
  have answered : Program.run (retrieval.failing store fails) (perform op reply).run call =
      (reply (retrieval.failing store fails op call).1,
        (retrieval.failing store fails op call).2) := rfl
  have steps : ∀ found, (reply (retrieval.failing store fails op call).1 = .ok found ∨
      ∃ error, reply (retrieval.failing store fails op call).1 = .error error ∧
        handler error = found) →
      OnlyForgottenFail retrieval store fails
        (tryCatch (perform op reply) fun error => pure (handler error)) call ∧
      (outcome retrieval store fails
        (tryCatch (perform op reply) fun error => pure (handler error)) call).1 = .ok found := by
    intro found ends
    rw [OnlyForgottenFail, outcome, ExceptT.run_tryCatch, Program.along_bind, Program.run_bind,
      answered]
    rcases ends with isOk | ⟨error, isError, rfl⟩
    · rw [isOk]
      exact ⟨⟨tested, trivial⟩, rfl⟩
    · rw [isError]
      exact ⟨⟨tested, trivial⟩, rfl⟩
  cases found : fails call with
  | none =>
      have succeeds : (retrieval.failing store fails op call).1 = retrieval.reply store op := by
        simp only [Retrieval.failing, found]
      rcases steps answer (.inl (succeeds ▸ reads)) with ⟨onlyForgotten, isAnswer⟩
      exact .inl ⟨onlyForgotten, answer, .inl rfl, isAnswer⟩
  | some error =>
      have refused : (retrieval.failing store fails op call).1 = refusal error op := by
        simp only [Retrieval.failing, found]
      rcases failure error with ⟨reported, isReported⟩
      rcases steps _ (.inr ⟨reported, refused ▸ isReported, rfl⟩) with ⟨onlyForgotten, isHandled⟩
      exact .inl ⟨onlyForgotten, handler reported, .inr ⟨reported, rfl⟩, isHandled⟩

/-- The test for another row of the sources, the targets or the files. -/
theorem settles_fetchesRow {table : Table} (forgets : table ∈ [Table.source, .target, .file])
    {fetched : Nat} (behind : 0 < fetched) :
    Settles retrieval store fails (fetchesRow table fetched) fun _ => True := by
  have same : (do requiemdbSqlTableFetchRow table fetched; return true : Get Bool) =
      perform (.fetchRow table fetched) fun reply => reply.map fun _ => true := by
    refine congrArg (Program.perform (SqlOp.fetchRow table fetched)) (funext fun reply => ?_)
    cases reply <;> rfl
  have forgotten : (SqlOp.fetchRow table fetched).Forgotten := ⟨forgets, behind⟩
  have reads : (do requiemdbSqlTableFetchRow table fetched; return true : Get Bool).read retrieval
      store = .ok true := rfl
  rw [same] at reads
  rw [fetchesRow, same]
  exact (settles_tryCatch forgotten reads fun error => ⟨error, rfl⟩).mono fun _ _ => trivial

/-- The query on the services finds nothing where it fails. -/
theorem settles_serviceQuery {columns : List Column} {query : Select}
    (isService : query.table = .service) :
    Settles retrieval store fails (tryCatch (requiemdbSqlQuery columns query) fun _ => pure [])
      fun rows => rows = (store.select query).map (fun row => columns.map row.cell) ∨
        rows = [] := by
  have forgotten : (SqlOp.select query).Forgotten := isService
  have settled := @settles_tryCatch _ retrieval store fails (.select query)
    (fun rows => rows.map fun rows => rows.map fun row => columns.map row.cell) (fun _ => [])
    forgotten _ rfl fun error => ⟨error, rfl⟩
  exact settled.mono fun _ found => found.imp_right fun ⟨_, nothing⟩ => nothing

/-- The rows fetched before a fetch fails are the first ones. -/
theorem settles_fetchLater {table : Table} (forgets : table ∈ [Table.source, .target, .file])
    {body : Int → Fetched → Get α} (ofBody : ∀ index row, Reports (body index row).run)
    {start : Int} (behind : 0 < start) {rows : List Fetched} {elements : List α}
    (reads : (fetchRows table body start rows).read retrieval store = .ok elements) :
    Settles retrieval store fails (fetchLater table body start rows) (· <+: elements) := by
  induction rows generalizing start elements with
  | nil =>
      refine (settles_fetchesRow forgets (by omega)).bind fun _ _ => ?_
      exact settles_pure List.nil_prefix
  | cons row rows ih =>
      rcases read_bind_eq_ok reads with ⟨_, -, readsRow⟩
      rcases read_bind_eq_ok readsRow with ⟨element, readsElement, readsRest⟩
      rcases read_bind_eq_ok readsRest with ⟨later, readsLater, isElements⟩
      rw [read_pure, Except.ok.injEq] at isElements
      subst isElements
      refine (settles_fetchesRow forgets (by omega)).bind fun more _ => ?_
      cases more with
      | false => exact settles_pure List.nil_prefix
      | true =>
          refine (settles_of_reports (ofBody start row) readsElement).bind ?_
          rintro _ rfl
          refine (ih (by omega) readsLater).bind fun others isPrefix => ?_
          exact settles_pure ((List.prefix_cons_inj _).mpr isPrefix)

theorem settles_getElements {columns : List Column} {query : Select}
    (forgets : query.table ∈ [Table.source, .target, .file])
    {body : Int → Fetched → Get α} (ofBody : ∀ index row, Reports (body index row).run)
    {elements : List α}
    (reads : (getElements columns query body).read retrieval store = .ok elements) :
    Settles retrieval store fails (getElements columns query body) (· <+: elements) := by
  have kept : query.table ≠ .service := by
    intro isService
    rw [isService] at forgets
    exact absurd forgets (by decide)
  refine settles_bind_of_reports (reports_query kept) reads fun rows readsRows => ?_
  cases rows with
  | nil => exact settles_pure List.nil_prefix
  | cons row rows =>
      refine settles_bind_of_reports (reports_fetchRow (.inr rfl)) readsRows fun _ readsFirst => ?_
      rcases read_bind_eq_ok readsFirst with ⟨element, readsElement, readsRest⟩
      rcases read_bind_eq_ok readsRest with ⟨later, readsLater, isElements⟩
      rw [read_pure, Except.ok.injEq] at isElements
      subst isElements
      refine (settles_of_reports (ofBody 0 row) readsElement).bind ?_
      rintro _ rfl
      rw [read_fetchLater] at readsLater
      refine (settles_fetchLater forgets ofBody (by omega) readsLater).bind fun others isPrefix =>
        ?_
      exact settles_pure ((List.prefix_cons_inj _).mpr isPrefix)

theorem settles_getNested {body : Int → α → Get β}
    (ofBody : ∀ cnt element answer, (body cnt element).read retrieval store = .ok answer →
      Settles retrieval store fails (body cnt element) fun _ => True)
    {start : Int} {elements all : List α} (isPrefix : elements <+: all) {later : List β}
    (reads : (getNested body start all).read retrieval store = .ok later) :
    Settles retrieval store fails (getNested body start elements) fun _ => True := by
  induction elements generalizing start all later with
  | nil => exact settles_pure trivial
  | cons element elements ih =>
      rcases isPrefix with ⟨rest, rfl⟩
      rcases read_bind_eq_ok reads with ⟨nested, readsNested, readsRest⟩
      rcases read_bind_eq_ok readsRest with ⟨others, readsOthers, -⟩
      refine (ofBody start element nested readsNested).bind fun _ _ => ?_
      refine (ih (List.prefix_append elements rest) readsOthers).bind fun _ _ => ?_
      exact settles_pure trivial

end Settles

section Forgetful

open Get

variable {E : EnumKind → Type} [Librequiem E] [∀ kind, Inhabited (E kind)]
variable {retrieval : Retrieval} {store : Store} {fails : Nat → Option ErrorCode}
variable {unassigned : Int} {messageIdent : Nat} {parentType : ParentType} {parentIndex : Int}

/-- The reader of a service returns one, none, or an error that it reports. -/
theorem settles_getService {service : Option Service}
    (reads : (getService messageIdent parentType parentIndex).read retrieval store = .ok service) :
    Settles retrieval store fails (getService messageIdent parentType parentIndex)
      fun _ => True := by
  rcases read_bind_eq_ok reads with ⟨rows, readsRows, readsService⟩
  rw [read_tryCatch, read_requiemdbSqlQuery, Except.ok.injEq] at readsRows
  refine (settles_serviceQuery rfl).bind fun found isFound => ?_
  rcases isFound with isRows | nothing
  · rw [readsRows] at isRows
    subst isRows
    refine (settles_of_reports ?_ readsService).mono fun _ _ => trivial
    cases found with
    | nil => exact reports_pure _
    | cons row rows =>
        refine reports_bind (reports_fetchRow (.inr rfl)) fun _ => ?_
        refine reports_bind (reports_getString row 0) fun ident => ?_
        refine reports_bind (reports_getUint8 row 1) fun ipVersion => ?_
        refine reports_bind (reports_getString row 2) fun name => ?_
        refine reports_bind (reports_getNumber row 3 _ _) fun port => ?_
        refine reports_bind (reports_getUint8 row 4) fun ianaProtocolNumber => ?_
        refine reports_bind (reports_getString row 5) fun ianaProtocolName => ?_
        refine reports_bind (reports_getString row 6) fun portlist => ?_
        refine reports_bind (reports_getString row 7) fun protocol => ?_
        refine reports_bind (reports_getWebService messageIdent parentType parentIndex)
          fun webService => ?_
        exact reports_bind (reports_getSnmpService messageIdent parentType parentIndex)
          fun snmpService => reports_pure _
  · subst nothing
    exact settles_pure trivial

theorem settles_getFile {files : List (File E)} {targetIndex : Int}
    (reads : (getFile unassigned messageIdent targetIndex).read retrieval store = .ok files) :
    Settles retrieval store fails
      (getFile unassigned messageIdent targetIndex : Get (List (File E)))
      fun _ => True := by
  rcases read_bind_eq_ok reads with ⟨all, readsAll, readsParts⟩
  refine (settles_getElements (by simp) (fun _ row => reports_getFileRow unassigned row)
    readsAll).bind fun read isPrefix => ?_
  refine settles_getNested (fun cnt file answer readsFile => ?_) isPrefix readsParts
  refine (settles_of_reports ?_ readsFile).mono fun _ _ => trivial
  refine reports_bind (reports_getFileAccess unassigned messageIdent targetIndex cnt)
    fun fileAccesses => ?_
  refine reports_bind (reports_getLinkage messageIdent targetIndex cnt) fun linkages => ?_
  refine reports_bind (reports_getInode unassigned messageIdent targetIndex cnt) fun inode => ?_
  exact reports_bind (reports_getChecksum messageIdent targetIndex cnt) fun checksums =>
    reports_pure _

theorem settles_getSource {sources : List (Source E)}
    (reads : (getSource messageIdent).read retrieval store = .ok sources) :
    Settles retrieval store fails (getSource messageIdent : Get (List (Source E)))
      fun _ => True := by
  rcases read_bind_eq_ok reads with ⟨all, readsAll, readsParts⟩
  have rows := @settles_getElements (Source E) retrieval store fails _ _ (by simp) _
    (fun _ row => reports_bind (reports_getString row 0) fun ident =>
      reports_bind (reports_getMandatoryEnum row 1) fun spoofed =>
      reports_bind (reports_getString row 2) fun interface => reports_pure _) _ readsAll
  refine rows.bind fun read isPrefix => ?_
  refine settles_getNested (fun cnt source answer readsSource => ?_) isPrefix readsParts
  refine settles_bind_of_reports (reports_getNode messageIdent .S cnt) readsSource
    fun node readsSource => ?_
  refine settles_bind_of_reports (reports_getUser messageIdent .S cnt) readsSource
    fun user readsSource => ?_
  refine settles_bind_of_reports (reports_getProcess messageIdent .S cnt) readsSource
    fun process readsSource => ?_
  rcases read_bind_eq_ok readsSource with ⟨service, readsService, -⟩
  exact (settles_getService readsService).bind fun _ _ => settles_pure trivial

theorem settles_getTarget {targets : List (Target E)}
    (reads : (getTarget unassigned messageIdent).read retrieval store = .ok targets) :
    Settles retrieval store fails (getTarget unassigned messageIdent : Get (List (Target E)))
      fun _ => True := by
  rcases read_bind_eq_ok reads with ⟨all, readsAll, readsParts⟩
  have rows := @settles_getElements (Target E) retrieval store fails _ _ (by simp) _
    (fun _ row => reports_bind (reports_getString row 0) fun ident =>
      reports_bind (reports_getMandatoryEnum row 1) fun decoy =>
      reports_bind (reports_getString row 2) fun interface => reports_pure _) _ readsAll
  refine rows.bind fun read isPrefix => ?_
  refine settles_getNested (fun cnt target answer readsTarget => ?_) isPrefix readsParts
  refine settles_bind_of_reports (reports_getNode messageIdent .T cnt) readsTarget
    fun node readsTarget => ?_
  refine settles_bind_of_reports (reports_getUser messageIdent .T cnt) readsTarget
    fun user readsTarget => ?_
  refine settles_bind_of_reports (reports_getProcess messageIdent .T cnt) readsTarget
    fun process readsTarget => ?_
  rcases read_bind_eq_ok readsTarget with ⟨service, readsService, readsTarget⟩
  rcases read_bind_eq_ok readsTarget with ⟨files, readsFiles, -⟩
  refine (settles_getService readsService).bind fun _ _ => ?_
  exact (settles_getFile readsFiles).bind fun _ _ => settles_pure trivial

theorem settles_classicGetAlert {result : MessageRead E}
    (reads : (classicGetAlert unassigned messageIdent).read retrieval store = .ok result) :
    Settles retrieval store fails (classicGetAlert unassigned messageIdent : Get (MessageRead E))
      fun _ => True := by
  refine settles_bind_of_reports
    (reports_getMessageRow messageIdent fun row => reports_getString row 0) reads
    fun messageid reads => ?_
  refine settles_bind_of_reports (reports_getAssessment messageIdent) reads
    fun assessment reads => ?_
  refine settles_bind_of_reports (reports_getAnalyzer messageIdent .A) reads
    fun analyzers reads => ?_
  refine settles_bind_of_reports (reports_getMessageTime unassigned messageIdent (by simp) _) reads
    fun createTime reads => ?_
  refine settles_bind_of_reports (reports_getMessageTime unassigned messageIdent (by simp) _) reads
    fun detectTime reads => ?_
  refine settles_bind_of_reports (reports_getMessageTime unassigned messageIdent (by simp) _) reads
    fun analyzerTime reads => ?_
  rcases read_bind_eq_ok reads with ⟨sources, readsSources, reads⟩
  rcases read_bind_eq_ok reads with ⟨targets, readsTargets, reads⟩
  refine (settles_getSource readsSources).bind fun _ _ => ?_
  refine (settles_getTarget readsTargets).bind fun _ _ => ?_
  rcases read_bind_eq_ok reads with ⟨classification, readsClassification, reads⟩
  rcases read_bind_eq_ok reads with ⟨data, readsData, reads⟩
  rcases read_bind_eq_ok reads with ⟨toolAlert, readsToolAlert, reads⟩
  rcases read_bind_eq_ok reads with ⟨correlationAlert, readsCorrelationAlert, reads⟩
  rcases read_bind_eq_ok reads with ⟨overflowAlert, readsOverflowAlert, -⟩
  refine (settles_of_reports (reports_getClassification messageIdent)
    readsClassification).bind fun _ _ => ?_
  refine (settles_of_reports (reports_getAdditionalData unassigned messageIdent .A)
    readsData).bind fun _ _ => ?_
  refine (settles_of_reports (reports_getToolAlert messageIdent) readsToolAlert).bind fun _ _ => ?_
  refine (settles_of_reports (reports_getCorrelationAlert messageIdent)
    readsCorrelationAlert).bind fun _ _ => ?_
  exact (settles_of_reports (reports_getOverflowAlert messageIdent) readsOverflowAlert).bind
    fun _ _ => settles_pure trivial

end Forgetful

section Complete

open Get

variable {α : Type} {retrieval : Retrieval} {store : Store} {fails : Nat → Option ErrorCode}

/-- The calls of a run have the positions from its first call on. -/
theorem noFailure_of_noCallFails {reader : Get α} {call : Nat}
    (succeeds : NoCallFails retrieval store fails reader call) {position : Nat}
    (behind : call ≤ position)
    (made : position < (outcome retrieval store fails reader call).2) : fails position = none := by
  change Sql (Except ErrorCode α) at reader
  induction reader generalizing call with
  | done result => exact absurd made (Nat.not_lt.mpr behind)
  | perform op next ih =>
      rcases succeeds with ⟨here, later⟩
      rcases Nat.eq_or_lt_of_le behind with same | further
      · exact same ▸ here
      · exact ih _ further later made

variable {E : EnumKind → Type} [Librequiem E] [∀ kind, Inhabited (E kind)]

/--
A message that is returned where no call fails. Whatever calls fail, it is returned only if
all calls succeeded, exactly when none fails or one fails whose error is not forgotten.
-/
theorem classicGet_complete_iff {unassigned : Int} {table : MessageTable} {ident : Nat}
    {result : MessageRead E}
    (stored : (classicGet unassigned table ident).read retrieval store = .ok result)
    (fails : Nat → Option ErrorCode) :
    ((∃ returned : MessageRead E, (outcome retrieval store fails
          (classicGet unassigned table ident) 0).1 = .ok returned) →
        NoCallFails retrieval store fails (classicGet unassigned table ident : Get (MessageRead E))
          0) ↔
      NoCallFails retrieval store fails (classicGet unassigned table ident : Get (MessageRead E))
          0 ∨
        ¬ OnlyForgottenFail retrieval store fails
          (classicGet unassigned table ident : Get (MessageRead E)) 0 := by
  have settles : Settles retrieval store fails
      (classicGet unassigned table ident : Get (MessageRead E)) fun _ => True := by
    cases table with
    | alert => exact settles_classicGetAlert stored
    | heartbeat =>
        exact (settles_of_reports (reports_classicGetHeartbeat unassigned ident) stored).mono
          fun _ _ => trivial
  rcases settles 0 with ⟨only, returned, -, isReturned⟩ | ⟨notOnly, error, isError⟩
  · constructor
    · exact fun complete => .inl (complete ⟨returned, isReturned⟩)
    · rintro (succeeds | notOnly) _
      · exact succeeds
      · exact absurd only notOnly
  · constructor
    · exact fun _ => .inr notOnly
    · rintro _ ⟨returned, isReturned⟩
      rw [isError] at isReturned
      cases isReturned

/-- A service on a port. -/
def Service.onPort (port : UInt16) : Service where
  ident := none
  ipVersion := none
  name := none
  port := some port
  ianaProtocolNumber := none
  ianaProtocolName := none
  portlist := none
  protocol := none
  kind := .default

/-- An alert from a web server. -/
def serverAlert : Message TextEnum :=
  .alert { Alert.bare TextEnum with
    sources := [{ ident := none, spoofed := "unknown", interface := none, node := none
                  user := none, process := none, service := some (.onPort 80) }] }

/-- The query on the service of the source fails, which is the twenty-second call. -/
def refusesService (call : Nat) : Option ErrorCode :=
  if call = 21 then some ⟨-1, minusOne_negative⟩ else none

/-- The alert is returned without its service. -/
theorem serverAlert_not_complete :
    ¬ ((∃ returned : MessageRead TextEnum,
          (outcome .mysql (inserted serverAlert .empty) refusesService
            (classicGet 0 .alert 1) 0).1 = .ok returned) →
        NoCallFails .mysql (inserted serverAlert .empty) refusesService
          (classicGet 0 .alert 1 : Get (MessageRead TextEnum)) 0) := by
  intro complete
  have returns : (outcome .mysql (inserted serverAlert .empty) refusesService
      (classicGet 0 .alert 1 : Get (MessageRead TextEnum)) 0).1.toOption.isSome := by
    decide +kernel
  have calls : 21 < (outcome .mysql (inserted serverAlert .empty) refusesService
      (classicGet 0 .alert 1 : Get (MessageRead TextEnum)) 0).2 := by
    decide +kernel
  have isOk : ∃ returned : MessageRead TextEnum, (outcome .mysql (inserted serverAlert .empty)
      refusesService (classicGet 0 .alert 1) 0).1 = .ok returned := by
    cases result : (outcome .mysql (inserted serverAlert .empty) refusesService
        (classicGet 0 .alert 1 : Get (MessageRead TextEnum)) 0).1 with
    | error error => rw [result] at returns; cases returns
    | ok returned => exact ⟨returned, rfl⟩
  have succeeds := noFailure_of_noCallFails (complete isOk) (Nat.zero_le 21) calls
  cases succeeds

theorem classicGet_complete_iff_serverAlert :
    ((∃ returned : MessageRead TextEnum,
          (outcome .mysql (inserted serverAlert .empty) refusesService
            (classicGet 0 .alert 1) 0).1 = .ok returned) →
        NoCallFails .mysql (inserted serverAlert .empty) refusesService
          (classicGet 0 .alert 1 : Get (MessageRead TextEnum)) 0) ↔
      NoCallFails .mysql (inserted serverAlert .empty) refusesService
          (classicGet 0 .alert 1 : Get (MessageRead TextEnum)) 0 ∨
        ¬ OnlyForgottenFail .mysql (inserted serverAlert .empty) refusesService
          (classicGet 0 .alert 1 : Get (MessageRead TextEnum)) 0 :=
  classicGet_complete_iff
    (read_classicGet_inserted (fun isNull => absurd isNull (by decide)) serverAlert
      Store.sound_empty 0)
    refusesService

end Complete

end RequiemDB
