import RequiemDB.Admin.Requested
import RequiemDB.Admin.SafeMove
import RequiemDB.Classic.IdentList

/-!
# A copy between two databases, when nothing fails

The databases of `Admin.Window` stand for two databases of the plugin: the source lists the
messages that the query selects, as the reader returns them, and the destination has what was
filed. On success both do the same, and a run that fails nowhere has successes only. The
messages of the requested window therefore arrive as messages that can be read.
-/

namespace RequiemDB

open Lib

variable {E : EnumKind → Type} [Librequiem E]

section Succeeding

/-- Without a fault a script is carried out. -/
theorem Emits.succeeds {program : Sql Int} {script : Script Row} (emits : Emits program script)
    (store : Store) : 0 ≤ (program.run (environment noFaults) store).1 := by
  induction emits generalizing store with
  | done ret succeeded => exact succeeded
  | escape _ _ ih | escapeBinary _ _ ih => exact ih store
  | must _ _ ih => exact ih 0 (Int.le_refl 0) _
  | ignore _ ih => exact ih 0 _
  | «instead» _ _ _ ih => exact ih 0 (Int.le_refl 0) _

theorem run_getLastInsertIdent_noFaults {store : Store} {table : MessageTable} {ident : Nat}
    (found : store.maxIdent table = some ident) (rest : Nat → Sql Int) :
    (getLastInsertIdent table rest).run (environment noFaults) store =
      (rest ident).run (environment noFaults) { store with sent := store.sent + 1 } := by
  have answer : (store.counted (.selectMaxIdent table)).maxIdent table = some ident := found
  rw [getLastInsertIdent, Program.run_perform]
  simp only [environment_noFaults, Store.accept, answer, Option.elim_some, Program.run_perform,
    counted_fetchRow, counted_fetchField]
  simp [Cell.toInt, Store.counted, SqlOp.isStatement]

theorem insertMessage_succeeds (message : Message E) (store : Store) :
    0 ≤ ((insertMessage message).run (environment noFaults) store).1 := by
  rw [insertMessage_eq, requiemdbSqlEscape, escapeOr, Program.run_perform]
  simp only [environment_noFaults, counted_escape, Store.accept, run_checked, Program.run_perform,
    Program.run_done, Int.lt_irrefl, if_false]
  generalize (Column.messageid, _) :: message.cells.tail = cells
  generalize isInserted : (store.counted (.insertMessage message.table cells)).insertMessage
    message.table cells = inserted
  have found : inserted.maxIdent message.table ≠ none := by
    rw [Store.maxIdent, Ne, List.max?_eq_none_iff, ← isInserted]
    simp [Store.rows, Store.insertMessage, messageRow, Store.nextOwner]
  rcases Option.ne_none_iff_exists'.mp found with ⟨ident, isIdent⟩
  rw [run_getLastInsertIdent_noFaults isIdent]
  exact (emits_insertMessageParts ident message).succeeds _

theorem classicInsert_within_succeeds (message : Message E) (store : Store) :
    0 ≤ ((classicInsert message).run (environmentWithin noFaults) store).1 := by
  have differs : SameButCommitted store.committed store.visible store store.shown := ⟨rfl, rfl⟩
  have same := ((agree_within noFaults _ _).run (inner_insertMessage message) differs).1
  have succeeded := insertMessage_succeeds message store.shown
  rw [← same] at succeeded
  rw [classicInsert_eq, run_checked, Program.run_perform]
  show 0 ≤ ((insertMessage message >>= closeTransaction).run _ store).1
  rw [Program.run_bind, closeTransaction, if_neg (Int.not_lt.mpr succeeded)]
  exact Int.le_refl 0

end Succeeding

section Idents

variable {store : Store} {kind : MessageTable}

/-- A deletion takes the idents that it names from the table of its messages. -/
theorem Store.Sound.idents_spared (sound : store.Sound) {after : Store} (idle : after.Idle)
    {idents : List Nat} (committed : after.committed = spared kind idents store.committed) :
    after.idents kind = (store.idents kind).filter fun ident => ident ∉ idents := by
  have shown : store.visible = store.committed := sound.idle
  have shownAfter : after.visible = after.committed := idle
  rw [Store.idents, Store.idents, Store.rows, Store.rows, shown, shownAfter, committed, spared]
  simp only [List.filter_map, List.filter_filter, List.map_map]
  congr 1
  apply List.filter_congr
  intro entry present
  rcases sound.entries entry present with ⟨owner, isOwner, belongs, _⟩
  by_cases inTable : entry.row.table = kind.table
  · have isKind := belongs.table_eq inTable
    have isDoomed : entry.Doomed kind idents ↔ entry.row.messageIdent ∈ idents := by
      rw [Entry.Doomed, isOwner, belongs.ident]
      constructor
      · rintro ⟨ident, asked, same⟩
        cases same
        exact asked
      · rintro asked
        exact ⟨owner.ident, asked, by rw [← isKind]⟩
    simp [inTable, isDoomed]
  · simp [inTable]

end Idents

namespace Admin

variable [∀ kind, Inhabited (E kind)]

/-- The answer to a query for idents. -/
def Batch.ofIdents (idents : List Nat) : Batch where
  count := idents.length
  idents := idents
  last := 0
  ended := Batch.ended_zero

theorem window_map {α β : Type} (f : α → β) (limit offset : Int) (elements : List α) :
    window limit offset (elements.map f) = (window limit offset elements).map f := by
  rw [window, window]
  split
  · rw [List.map_drop]
  · rw [List.map_take, List.map_drop]

theorem Batch.ofMessages_eq {M : Type} (messages : List (Nat × M)) :
    Batch.ofMessages messages = Batch.ofIdents (messages.map Prod.fst) := by
  rw [Batch.ofMessages, Batch.ofIdents]
  simp only [List.length_map]

/--
Nothing fails, and no signal arrives. A query answers the window of the idents that the
criteria select, in the order of their rows.
-/
def Link.undisturbed (kind : MessageTable) (retrieval : Retrieval) (unassigned : Int)
    (selects : Nat → Bool) : Link where
  kind := kind
  retrieval := retrieval
  unassigned := unassigned
  listing := fun _ limit offset store =>
    .ok (.ofIdents (window limit offset ((store.idents kind).filter selects)))
  unread := fun _ => none
  signalled := fun _ => false
  sourceFaults := noFaults
  destinationFaults := noFaults

variable {kind : MessageTable} {retrieval : Retrieval} {unassigned : Int} {selects : Nat → Bool}
  {stored : List (ℕ × Message E)} {sites : Sites} {databases : Databases (Message E)}

/-- The state of `Admin.Move` for databases of the plugin. -/
def stateOf (link : Link) (sites : Sites) (databases : Databases (Message E)) :
    State (Message E) where
  source := fun ident => (link.reads sites.source ident).toOption
  committed := databases.committed
  pending := databases.pending
  inTransaction := databases.inTransaction
  settled := 0

/-- The databases of `Admin.Window` for databases of the plugin. -/
structure Served (link : Link) (selects : Nat → Bool) (stored : List (ℕ × Message E))
    (sites : Sites) (databases : Databases (Message E)) : Prop where
  inStep : InStep link stored sites (stateOf link sites databases)
  listed : databases.source.map Prod.fst = (sites.source.idents link.kind).filter selects
  reads : ∀ entry ∈ databases.source, link.reads sites.source entry.1 = .ok entry.2

/-- The states of the destination agree, whatever stands for the source. -/
theorem InStep.toStateOf {link : Link} {state : State (Message E)}
    (inStep : InStep link stored sites state) (committed : databases.committed = state.committed)
    (pending : databases.pending = state.pending)
    (inTransaction : databases.inTransaction = state.inTransaction) :
    InStep link stored sites (stateOf link sites databases) := by
  refine ⟨⟨inStep.sound, fun _ => rfl, ?_, ?_, ?_⟩, ?_⟩
  · exact inStep.opened.trans inTransaction.symm
  · show databases.inTransaction = false → _ ∧ databases.pending = []
    rw [inTransaction, pending]
    exact inStep.idle
  · show ∃ archive, _ ∧ Appends stored databases.committed archive
    rw [committed]
    exact inStep.committed
  · show ∃ archive, _ ∧ Appends stored (databases.committed ++ databases.pending) archive
    rw [committed, pending]
    exact inStep.shown

section Steps

/-- An operation that does the same on both, with the databases of the plugin in step. -/
structure Agrees (link : Link) (selects : Nat → Bool) (stored : List (ℕ × Message E))
    (sites : Sites) (databases : Databases (Message E)) (op : Op (Message E)) : Prop where
  reply : (sitesEnvironment link op sites).1 = (serving .none op databases).1
  served : Served link selects stored (sitesEnvironment link op sites).2
    (serving .none op databases).2

/-- The fate that a reply tells. -/
abbrev oracleOf (link : Link) (op : Op (Message E)) (sites : Sites) : Nat → Fate := fun _ =>
  .ofReply op (sitesEnvironment link op sites).1

variable (served : Served (.undisturbed kind retrieval unassigned selects) selects stored sites
  databases)
include served

theorem Served.step (op : Op (Message E)) :
    Step (.undisturbed kind retrieval unassigned selects) stored
      (oracleOf (.undisturbed kind retrieval unassigned selects) op sites) op sites
      (stateOf (.undisturbed kind retrieval unassigned selects) sites databases) :=
  served.inStep.step (fun _ _ _ => rfl) op rfl

/-- The operations that touch neither database. -/
theorem Served.counted (performed : Nat) (queries copied : Nat) :
    Served (.undisturbed kind retrieval unassigned selects) selects stored
      { sites with performed := performed }
      { databases with queries := queries, copied := copied } := by
  have inStep : InStep (.undisturbed kind retrieval unassigned selects) stored
      { sites with performed := performed } _ := served.inStep.counted rfl rfl rfl
  exact ⟨inStep.toStateOf rfl rfl rfl, served.listed, served.reads⟩

theorem Served.fetchIdents (limit offset : Int) :
    Agrees (.undisturbed kind retrieval unassigned selects) selects stored sites databases
      (.fetchIdents limit offset) where
  reply := by
    show Except.ok (Batch.ofIdents (window limit offset ((sites.source.idents kind).filter
      selects))) = Except.ok (Batch.ofMessages (window limit offset databases.source))
    rw [Batch.ofMessages_eq, ← window_map, served.listed]
    rfl
  served := served.counted _ _ _

theorem Served.getMessage {ident : Nat}
    (succeeds : Succeeds (.getMessage ident) (serving .none (.getMessage ident) databases).1) :
    Agrees (.undisturbed kind retrieval unassigned selects) selects stored sites databases
      (.getMessage ident) where
  reply := by
    rcases succeeds with ⟨message, isMessage⟩
    rw [isMessage]
    simp only [serving, Interruption.failure] at isMessage
    cases found : databases.source.find? fun entry => entry.1 = ident with
    | none =>
        rw [found] at isMessage
        cases isMessage
    | some entry =>
        rw [found] at isMessage
        cases isMessage
        have isIdent := List.find?_some found
        simp only [decide_eq_true_eq] at isIdent
        subst isIdent
        exact served.reads entry (List.mem_of_find?_eq_some found)
  served := served.counted _ _ _

theorem Served.insertMessage (ident : Nat) (message : Message E) :
    Agrees (.undisturbed kind retrieval unassigned selects) selects stored sites databases
      (.insertMessage ident message) := by
  let link := Link.undisturbed kind retrieval unassigned selects
  let state := stateOf link sites databases
  have succeeded : 0 ≤ (sites.insert link message).1 := by
    rw [Sites.insert]
    split
    · exact classicInsert_within_succeeds message _
    · rename_i isClosed
      have closed := served.inStep.opened.symm.trans (by simpa using isClosed)
      exact (classicInsert_commits_all message _ (served.inStep.idle closed).1).1
  have error : errorOf (sites.insert link message).1 = none := errorOf_eq_none.mpr succeeded
  have step := served.step (.insertMessage ident message)
  have inStep := step.inStep succeeded
  have next : (environment (oracleOf link (.insertMessage ident message) sites)
      (.insertMessage ident message) state).2 = state.settle.insert ident message := if_pos error
  have reply : (environment (oracleOf link (.insertMessage ident message) sites)
      (.insertMessage ident message) state).1 = (0 : Int) := by
    show (Fate.failing (errorOf (sites.insert link message).1)).code 0 = 0
    rw [error]
    rfl
  have isInserted : (serving .none (.insertMessage ident message) databases).2 =
      databases.insert ident message := rfl
  rw [next, State.insert] at inStep
  refine ⟨step.reply.symm.trans reply, ?_⟩
  rw [isInserted, Databases.insert]
  rcases Bool.eq_false_or_eq_true databases.inTransaction with isOpen | isClosed
  · have opened : state.settle.inTransaction = true := isOpen
    rw [if_pos opened] at inStep
    rw [if_pos isOpen]
    exact ⟨inStep.toStateOf rfl rfl rfl, served.listed, served.reads⟩
  · have notOpen : ¬ databases.inTransaction = true := by simp [isClosed]
    have notOpened : ¬ state.settle.inTransaction = true := notOpen
    rw [if_neg notOpened] at inStep
    rw [if_neg notOpen]
    exact ⟨inStep.toStateOf rfl rfl rfl, served.listed, served.reads⟩

theorem Served.deleteFromList (idents : List Nat) :
    Agrees (.undisturbed kind retrieval unassigned selects) selects stored sites databases
      (.deleteFromList idents) := by
  let link := Link.undisturbed kind retrieval unassigned selects
  let state := stateOf link sites databases
  have answer : (link.deletes E idents sites.source).1 = idents.length := by
    have fromList := (run_deleteFromList_noFaults kind idents sites.source).1
    cases kind with
    | alert => exact fromList
    | heartbeat => exact fromList
  have succeeded : 0 ≤ (link.deletes E idents sites.source).1 := by omega
  have error : errorOf (link.deletes E idents sites.source).1 = none :=
    errorOf_eq_none.mpr succeeded
  have inStep := (served.step (.deleteFromList idents)).inStep trivial
  have next : (environment (oracleOf link (.deleteFromList idents) sites)
      (.deleteFromList idents) state).2 = state.settle.delete idents := if_pos error
  rcases deletes_spared (E := E) link idents served.inStep.sound with ⟨queries, deleted, exact⟩
  have idents_eq := served.inStep.sound.idents_spared deleted.idle (exact succeeded)
  rw [next] at inStep
  refine ⟨answer, inStep.toStateOf rfl rfl rfl, ?_, ?_⟩
  · show (databases.source.filter fun entry => entry.1 ∉ idents).map Prod.fst =
      ((link.deletes E idents sites.source).2.idents link.kind).filter selects
    have listed : databases.source.map Prod.fst =
        (sites.source.idents link.kind).filter selects := served.listed
    rw [idents_eq, List.filter_comm, ← listed, List.filter_map]
    rfl
  · intro entry present
    rcases List.mem_filter.mp present with ⟨before, notNamed⟩
    have reads := deletes_reads (E := E) link idents served.inStep.sound entry.1
    have isRead : link.reads sites.source entry.1 = .ok entry.2 := served.reads entry before
    rw [if_neg (by simpa using fun _ => notNamed), isRead] at reads
    show link.reads (link.deletes E idents sites.source).2 entry.1 = .ok entry.2
    cases later : (link.reads (link.deletes E idents sites.source).2 entry.1 :
        Except ErrorCode (Message E)) with
    | error error =>
        rw [later] at reads
        cases reads
    | ok message =>
        rw [later] at reads
        exact congrArg Except.ok (Option.some.inj reads)

/-- A call that is refused because there is a transaction, or none. -/
theorem Served.refused {op : Op (Message E)} {reply : Reply op}
    (concrete : sitesEnvironment (.undisturbed kind retrieval unassigned selects) op sites =
      (reply, { sites with performed := sites.performed + 1 }))
    (abstract_ : serving .none op databases = (reply, databases)) :
    Agrees (.undisturbed kind retrieval unassigned selects) selects stored sites databases op := by
  refine ⟨?_, ?_⟩
  · rw [concrete, abstract_]
  · rw [concrete, abstract_]
    exact served.counted _ databases.queries databases.copied

/-- The source behind a transaction call is the one before it. -/
theorem Served.behind {sitesAfter : Sites} {after : Databases (Message E)}
    (source : sitesAfter.source = sites.source) (sourceAfter : after.source = databases.source)
    (inStep : InStep (.undisturbed kind retrieval unassigned selects) stored sitesAfter
      (stateOf (.undisturbed kind retrieval unassigned selects) sitesAfter after)) :
    Served (.undisturbed kind retrieval unassigned selects) selects stored sitesAfter after := by
  refine ⟨inStep, ?_, ?_⟩
  · rw [sourceAfter, source]
    exact served.listed
  · rw [sourceAfter, source]
    exact served.reads

theorem Served.transactionStart :
    Agrees (.undisturbed kind retrieval unassigned selects) selects stored sites databases
      .transactionStart := by
  let link := Link.undisturbed kind retrieval unassigned selects
  rcases Bool.eq_false_or_eq_true databases.inTransaction with isOpen | isClosed
  · have opened := served.inStep.opened.trans isOpen
    exact served.refused (if_pos opened) (if_pos isOpen)
  · have closed := served.inStep.opened.trans isClosed
    have concrete : sitesEnvironment link (.transactionStart : Op (Message E)) sites = (0,
        { sites with
          destination := sites.destination.closed
          inTransaction := true
          performed := sites.performed + 1 }) := if_neg (by simp [closed])
    have abstract_ : serving .none (.transactionStart : Op (Message E)) databases =
        (0, databases.begin) := if_neg (by simp [isClosed])
    refine ⟨by rw [concrete, abstract_], ?_⟩
    rw [concrete, abstract_]
    refine served.behind rfl rfl ?_
    exact served.inStep.toMirrored.closed (stateOf link _ databases.begin) rfl rfl
      (served.inStep.idle isClosed).2

theorem Served.transactionEnd :
    Agrees (.undisturbed kind retrieval unassigned selects) selects stored sites databases
      .transactionEnd := by
  let link := Link.undisturbed kind retrieval unassigned selects
  rcases Bool.eq_false_or_eq_true databases.inTransaction with isOpen | isClosed
  · have opened := served.inStep.opened.trans isOpen
    have concrete : sitesEnvironment link (.transactionEnd : Op (Message E)) sites = (0,
        { sites with
          destination := sites.destination.shown.closed
          inTransaction := false
          performed := sites.performed + 1 }) := if_pos opened
    have abstract_ : serving .none (.transactionEnd : Op (Message E)) databases =
        (0, databases.commit) := if_pos isOpen
    refine ⟨by rw [concrete, abstract_], ?_⟩
    rw [concrete, abstract_]
    refine served.behind rfl rfl ?_
    have commit : InStep link stored
        { sites with
          destination := sites.destination.shown.closed
          inTransaction := false
          performed := sites.performed + 1 } _ := served.inStep.commit
    exact commit.toStateOf rfl rfl rfl
  · have closed := served.inStep.opened.trans isClosed
    exact served.refused (if_neg (by simp [closed])) (if_neg (by simp [isClosed]))

theorem Served.transactionAbort :
    Agrees (.undisturbed kind retrieval unassigned selects) selects stored sites databases
      .transactionAbort := by
  let link := Link.undisturbed kind retrieval unassigned selects
  rcases Bool.eq_false_or_eq_true databases.inTransaction with isOpen | isClosed
  · have opened := served.inStep.opened.trans isOpen
    have concrete : sitesEnvironment link (.transactionAbort : Op (Message E)) sites = (0,
        { sites with
          destination := sites.destination.closed
          inTransaction := false
          performed := sites.performed + 1 }) := if_pos opened
    have abstract_ : serving .none (.transactionAbort : Op (Message E)) databases =
        (0, databases.rollback) := if_pos isOpen
    refine ⟨by rw [concrete, abstract_], ?_⟩
    rw [concrete, abstract_]
    refine served.behind rfl rfl ?_
    exact served.inStep.toMirrored.closed (stateOf link _ databases.rollback) rfl rfl rfl
  · have closed := served.inStep.opened.trans isClosed
    exact served.refused (if_neg (by simp [closed])) (if_neg (by simp [isClosed]))

theorem Served.agrees (op : Op (Message E))
    (succeeds : Succeeds op (serving .none op databases).1) :
    Agrees (.undisturbed kind retrieval unassigned selects) selects stored sites databases op := by
  cases op with
  | fetchIdents limit offset => exact served.fetchIdents limit offset
  | getMessage ident => exact served.getMessage succeeds
  | insertMessage ident message => exact served.insertMessage ident message
  | recordIdent index ident => exact ⟨rfl, served.counted _ _ _⟩
  | deleteFromList idents => exact served.deleteFromList idents
  | transactionStart => exact served.transactionStart
  | transactionEnd => exact served.transactionEnd
  | transactionAbort => exact served.transactionAbort
  | stopProcessing => exact ⟨rfl, served.counted _ _ _⟩

end Steps

section Whole

/--
The messages that a query selects from the source: their idents are distinct, as the primary key
of their table is, and each of them can be read.
-/
structure Selected (link : Link) (selects : Nat → Bool) (source : Store)
    (messages : List (Nat × Message E)) : Prop where
  idents : messages.map Prod.fst = (source.idents link.kind).filter selects
  distinct : (messages.map Prod.fst).Nodup
  reads : ∀ entry ∈ messages, link.reads source entry.1 = .ok entry.2

/-- The databases that stand for those of the plugin when the command starts. -/
def Databases.start (messages : List (Nat × Message E)) : Databases (Message E) :=
  ⟨messages, [], [], false, 0, 0⟩

theorem served_start {link : Link} {messages : List (Nat × Message E)}
    (reached : Reached E sites.source) (selected : Selected link selects sites.source messages)
    {archive : MessageArchive E} (holds : Holds sites.destination archive)
    (closed : sites.inTransaction = false) :
    Served link selects archive.entries sites (Databases.start messages) := by
  have committed : ∃ later : MessageArchive E, Holds sites.destination.closed later ∧
      Appends archive.entries ([] : List (Nat × Message E)) later :=
    ⟨archive, ⟨rfl, holds.committed, holds.next⟩, [], (List.append_nil _).symm, rfl⟩
  have shown : ∃ later : MessageArchive E, Holds sites.destination.shown later ∧
      Appends archive.entries ([] : List (Nat × Message E)) later :=
    ⟨archive, ⟨rfl, holds.idle.trans holds.committed, holds.next⟩, [],
      (List.append_nil _).symm, rfl⟩
  refine ⟨⟨⟨reached.sound, fun _ => rfl, closed, ?_, committed⟩, shown⟩, selected.idents,
    selected.reads⟩
  exact fun _ => ⟨holds.idle, rfl⟩

omit [Librequiem E] [∀ kind, Inhabited (E kind)] in
/-- A command that fails does not answer 0. -/
theorem not_zero_of_aborting {State : Type}
    (environment : Environment (@Reply (Message E)) State)
    (program : Command (Message E) (Int × Counters)) (aborting : Aborting program) (state : State) :
    ¬ (program.run environment state).1.1 = 0 := by
  cases program with
  | done answer =>
      intro zero
      have negative : answer.1 < 0 := aborting
      exact absurd (zero ▸ negative) (Int.lt_irrefl 0)
  | perform op next =>
      rcases aborting with ⟨rfl, ends⟩
      rcases ends (environment .transactionAbort state).1 with ⟨answer, negative, isDone⟩
      rw [Program.run_perform, isDone]
      intro zero
      exact absurd (zero ▸ negative) (Int.lt_irrefl 0)

/-- What a copy or a move leaves when nothing fails. -/
structure FilesWindow (link : Link) (selects : Nat → Bool) (options : Options) (limit : Int)
    (messages : List (Nat × Message E)) (archive : MessageArchive E)
    (result : (Int × Counters) × Sites) : Prop where
  succeeds : result.1.1 = 0
  source : Selected link selects result.2.source
    (remaining options messages (requested options limit messages))
  destination : ∃ after, Holds result.2.destination.closed after ∧
    Appends archive.entries (requested options limit messages) after

/--
A copy or a move between two databases of the plugin, when nothing fails: with enough rounds the
command answers 0. The destination has filed the messages of the requested window, in their
order and each once, behind those that it had; a move leaves the other messages in the source.
-/
theorem copyMove_files_window (options : Options) (limit : Int)
    (reached : Reached E sites.source) {messages : List (Nat × Message E)}
    (selected : Selected (.undisturbed kind retrieval unassigned selects) selects sites.source
      messages)
    {archive : MessageArchive E} (holds : Holds sites.destination archive)
    (closed : sites.inTransaction = false) (inRange : InRange options messages) (rounds : Nat)
    (enough : rounds > (requested options limit messages).length) :
    let link := Link.undisturbed kind retrieval unassigned selects
    FilesWindow link selects options limit messages archive
      ((doCmdCopyMove options rounds limit : Command (Message E) _).run (sitesEnvironment link)
        sites) := by
  intro link
  have served := served_start reached selected holds closed
  have round := round_started options (Databases.start messages) limit inRange.positive rfl
  rcases round.run inRange selected.distinct with ⟨final, complete, ends⟩
  have isFinal : (doCmdCopyMove options rounds limit).run (serving .none)
      (Databases.start messages) = final := by
    rw [doCmdCopyMove, run_transactionStart options _ .none rfl]
    exact ends rounds enough
  have agree : ∀ {op : Op (Message E)} {state otherState},
      Served link selects archive.entries state otherState →
      Succeeds op (serving .none op otherState).1 →
      (sitesEnvironment link op state).1 = (serving .none op otherState).1 ∧
        Served link selects archive.entries (sitesEnvironment link op state).2
          (serving .none op otherState).2 := fun related succeeds =>
    ⟨(related.agrees _ succeeds).reply, (related.agrees _ succeeds).served⟩
  have careful := careful_doCmdCopyMove (M := Message E) options rounds limit
  rcases careful.agree (fun answer => answer.1 = 0) (not_zero_of_aborting (serving .none)) agree
    served (isFinal ▸ complete.succeeds) with ⟨answer, behind⟩
  rw [isFinal] at answer behind
  have source := complete.source
  refine ⟨answer ▸ complete.succeeds, ⟨?_, ?_, ?_⟩, ?_⟩
  · exact source ▸ behind.listed
  · rw [remaining]
    split
    · exact selected.distinct.sublist (List.filter_sublist.map Prod.fst)
    · exact selected.distinct
  · exact source ▸ behind.reads
  · rcases behind.inStep.committed with ⟨after, holdsAfter, appends⟩
    have committed : final.2.committed = requested options limit messages := complete.committed
    exact ⟨after, holdsAfter, committed ▸ appends⟩

/-- The messages of a database, as they are read. -/
def readable (link : Link) (source : Store) (other : Message E) : List (Nat × Message E) :=
  (source.idents link.kind).map fun ident =>
    (ident, ((link.reads source ident).toOption).getD other)

/-- The second of two alerts is moved into an empty database. -/
theorem copyMove_files_window_bareAlerts :
    let link := Link.undisturbed .alert .mysql 0 fun _ => true
    FilesWindow link (fun _ => true) ⟨2, 1, true⟩ 1
      (readable link bareAlerts (.alert (Alert.bare TextEnum)))
      (MessageArchive.unfilled fun _ => 1)
      ((doCmdCopyMove ⟨2, 1, true⟩ 3 1 : Command (Message TextEnum) _).run (sitesEnvironment link)
        ⟨bareAlerts, Store.unfilled fun _ => 1, false, 0⟩) := by
  intro link
  have idents : bareAlerts.idents .alert = [1, 2] := by decide +kernel
  have selected : Selected link (fun _ => true) bareAlerts
      (readable link bareAlerts (.alert (Alert.bare TextEnum))) := by
    refine ⟨?_, ?_, ?_⟩
    · simp [readable, Function.comp_def]
    · have firsts : (readable link bareAlerts (.alert (Alert.bare TextEnum))).map Prod.fst =
          [1, 2] := by
        rw [← idents]
        simp [readable, Function.comp_def, link, Link.undisturbed]
      rw [firsts]
      decide
    · intro entry present
      rcases List.mem_map.mp present with ⟨ident, among, rfl⟩
      have isRead : ∀ ident ∈ bareAlerts.idents .alert,
          (link.reads bareAlerts ident : Except ErrorCode (Message TextEnum)).toOption.isSome =
            true := by
        rw [idents]
        decide +kernel
      have some_ := isRead ident among
      cases reads : (link.reads bareAlerts ident : Except ErrorCode (Message TextEnum)) with
      | error error =>
          rw [reads] at some_
          cases some_
      | ok message => rfl
  have two : (readable link bareAlerts (.alert (Alert.bare TextEnum))).length = 2 := by
    rw [readable, List.length_map]
    exact congrArg List.length idents
  have reached : Reached TextEnum bareAlerts := (Reached.empty fun _ => 1).serveCalls .goesOn _
  refine copyMove_files_window ⟨2, 1, true⟩ 1 reached selected (holds_unfilled fun _ => 1) rfl
    ⟨by decide, by decide, by decide, ?_⟩ 3 ?_
  · rw [two]
    decide
  · have few := List.length_take_le (1 : Int).toNat
      ((readable link bareAlerts (.alert (Alert.bare TextEnum))).drop (1 : Int).toNat)
    show ((window 1 1 _).length : ℕ) < 3
    rw [window, if_neg (by decide)]
    exact Nat.lt_of_le_of_lt few (by decide)

end Whole

end Admin

end RequiemDB
