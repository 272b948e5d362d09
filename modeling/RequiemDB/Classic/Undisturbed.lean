import RequiemDB.Classic.Failures
import RequiemDB.Classic.Locality
import RequiemDB.Lib.Interleaving

/-!
# Reading while other clients write

A reader sends its queries one by one, outside of a transaction. Between them other clients
insert and delete, statement by statement. How much of their work a query finds depends on the
server and on its isolation level. It finds rows that were there before or have been inserted
since, and misses one only if a statement that covers it has been sent. Of the message that the
reader asks for, each query then finds what it would have found before all of this.
-/

namespace RequiemDB

open Lib

variable {E : EnumKind → Type} [Librequiem E]

/-- A call that deletes other messages than the one that is read. -/
abbrev OtherCall (E : EnumKind → Type) (watched : Owner) :=
  { call : Call E // ¬ call.request.Discards watched.table watched.ident }

def OtherCall.program {watched : Owner} (call : OtherCall E watched) : Sql Int := call.1.program

/-- What the clients have sent: the rows that were inserted, and the deletions. -/
structure Traffic where
  inserted : List Row
  deletions : List Delete

/-- What the server settles when it answers a statement. -/
structure Whim where
  fault : Option ErrorCode
  number : Nat
  rows : List Row

/--
The answer to a client, which remembers the message whose row it inserted last. A new message
is given a number that none had before, and `max(_ident)` finds at least the client's own row.
-/
def serveAside (next : MessageTable → Nat) (whim : Whim) (op : SqlOp) (writing : Option Owner)
    (sent : Traffic) : SqlReply op × Option Owner × Traffic :=
  match whim.fault with
  | some error => (refusal error op, writing, sent)
  | none =>
    match op with
    | .transactionStart | .transactionEnd | .transactionAbort => (0, none, sent)
    | .escape input => (.ok (stringLiteral input), writing, sent)
    | .escapeBinary input => (.ok (.blob input), writing, sent)
    | .unescapeBinary input => (.ok input, writing, sent)
    | .insertMessage table cells =>
        let owner : Owner := ⟨table, next table + whim.number⟩
        (0, some owner, { sent with inserted := sent.inserted ++ [messageRow owner cells] })
    | .insert row => (0, writing, { sent with inserted := sent.inserted ++ [row] })
    | .delete statement =>
        (0, writing, { sent with deletions := sent.deletions ++ [statement] })
    | .selectMaxIdent table =>
        let own := (writing.filter fun owner => owner.table = table).elim 0 Owner.ident
        (.ok (.number (own + whim.number : Nat)), writing, sent)
    | .select _ => (.ok whim.rows, writing, sent)
    | .fetchRow _ _ => (.ok (), writing, sent)
    | .fetchField cell => (.ok (if cell = .null then none else some cell), writing, sent)

section Writers

variable (next : MessageTable → Nat) (watched : Owner)

/-- A row of a message that was given its ident since. -/
def Recent (row : Row) : Prop := ∃ owner : Owner, next owner.table ≤ owner.ident ∧
  row.BelongsTo owner

/-- The statement removes no row of the message. -/
def Delete.Spares (statement : Delete) : Prop :=
  ∀ row : Row, row.BelongsTo watched → ¬ statement.Matches row

namespace OtherCall

/-- What a client sends: rows of recent messages, and deletions that spare the watched one. -/
def Guarantees : SqlOp → Option Owner → Prop
  | .insert row, _ => Recent next row
  | .delete statement, _ => statement.Spares watched
  | .selectMaxIdent table, writing =>
      ∃ owner, writing = some owner ∧ owner.table = table ∧ next table ≤ owner.ident
  | _, _ => True

/-- What a client may rely on when a call answers. -/
def Relies : (op : SqlOp) → Option Owner → SqlReply op → Option Owner → Prop
  | .insertMessage table _, _, reply, after =>
      0 ≤ reply → ∃ owner, after = some owner ∧ owner.table = table ∧ next table ≤ owner.ident
  | .selectMaxIdent table, before, reply, _ =>
      ∀ owner cell, before = some owner → owner.table = table → next table ≤ owner.ident →
        reply = .ok cell → ∃ ident : Nat, cell = .number ident ∧ next table ≤ ident
  | .fetchField cell, _, reply, _ => ∀ field, reply = .ok (some field) → field = cell
  | .escape input, _, reply, _ => ∀ cell, reply = .ok cell → cell = stringLiteral input
  | .escapeBinary input, _, reply, _ => ∀ cell, reply = .ok cell → cell = .blob input
  | _, _, _, _ => True

end OtherCall

open OtherCall

/-- A program that keeps to the guarantee for all answers of the server. -/
abbrev WritesAside (program : Sql Int) (writing : Option Owner) : Prop :=
  program.Keeps (Relies next) (Guarantees next watched) (fun _ _ => True) writing

variable {next watched} {writing : Option Owner}

theorem aside_of_givesUp {program : Sql Int} (givesUp : GivesUp program) :
    WritesAside next watched program writing := by
  rcases givesUp with ⟨ret, _, rfl⟩
  trivial

theorem aside_checked {program rest : Sql Int} {middle : Int → Option Owner → Prop}
    (first : program.Keeps (Relies next) (Guarantees next watched) middle writing)
    (second : ∀ ret after, 0 ≤ ret → middle ret after → WritesAside next watched rest after) :
    WritesAside next watched (checked program rest) writing := by
  apply first.bind
  intro ret after reached
  split
  · trivial
  · exact second ret after (by omega) reached

/-- A program that follows a script of a recent message inserts rows of this message. -/
theorem Emits.aside {program : Sql Int} {script : Script Row} (emits : Emits program script)
    {owner : Owner} (recent : next owner.table ≤ owner.ident) (fits : AllFit owner script)
    (writing : Option Owner) : WritesAside next watched program writing := by
  induction emits generalizing writing with
  | done ret succeeded => trivial
  | @escape input next script failure _ ih =>
      refine ⟨trivial, fun reply after literal => ?_⟩
      cases reply with
      | error error => exact aside_of_givesUp (failure error)
      | ok cell =>
          rw [literal cell rfl]
          exact ih fits after
  | @escapeBinary input next script failure _ ih =>
      refine ⟨trivial, fun reply after literal => ?_⟩
      cases reply with
      | error error => exact aside_of_givesUp (failure error)
      | ok cell =>
          rw [literal cell rfl]
          exact ih fits after
  | @must row next script failure _ ih =>
      rcases List.forall_mem_cons.mp fits with ⟨here, later⟩
      refine ⟨⟨owner, recent, here.belongs⟩, fun ret after _ => ?_⟩
      by_cases negative : ret < 0
      · exact aside_of_givesUp (failure ret negative)
      · exact ih ret (Int.not_lt.mp negative) later after
  | @ignore row next script _ ih =>
      rcases List.forall_mem_cons.mp fits with ⟨here, later⟩
      exact ⟨⟨owner, recent, here.belongs⟩, fun ret after _ => ih ret later after⟩
  | @«instead» row other next script _ _ ihFailure ih =>
      rcases List.forall_mem_cons.mp fits with ⟨here, later⟩
      refine ⟨⟨owner, recent, here.belongs⟩, fun ret after _ => ?_⟩
      by_cases negative : ret < 0
      · exact ihFailure ret negative
          (List.forall_mem_cons.mpr ⟨.must (here.replaced other rfl).2, later⟩) after
      · exact ih ret (Int.not_lt.mp negative) later after

/-- The ident read behind the row of a message may be a later one, and is recent. -/
theorem aside_getLastInsertIdent {owner : Owner} {rest : Nat → Sql Int}
    (recent : next owner.table ≤ owner.ident)
    (goesOn : ∀ ident after, next owner.table ≤ ident →
      WritesAside next watched (rest ident) after) :
    WritesAside next watched (getLastInsertIdent owner.table rest) (some owner) := by
  refine ⟨⟨owner, rfl, rfl, recent⟩, fun reply selected found => ?_⟩
  cases reply with
  | error error => trivial
  | ok cell =>
      rcases found owner cell rfl rfl recent rfl with ⟨ident, isNumber, isRecent⟩
      refine ⟨trivial, fun reply fetched _ => ?_⟩
      cases reply with
      | error error => trivial
      | ok _ =>
          refine ⟨trivial, fun reply after isCell => ?_⟩
          cases reply with
          | error error => trivial
          | ok field =>
              cases field with
              | none => trivial
              | some field =>
                  rw [isCell field rfl, isNumber]
                  simpa [Cell.toInt] using goesOn ident after isRecent

theorem aside_insertMessage (message : Message E) (writing : Option Owner) :
    WritesAside next watched (insertMessage message) writing := by
  rw [insertMessage_eq]
  refine ⟨trivial, fun reply escaped _ => ?_⟩
  cases reply with
  | error error => trivial
  | ok tmp =>
      have sends : Guarantees next watched (.insertMessage message.table ((.messageid, tmp) ::
          message.cells.tail)) escaped := trivial
      apply aside_checked (.call sends)
      intro ret inserted succeeded wrote
      rcases wrote succeeded with ⟨owner, rfl, isTable, recent⟩
      rw [← isTable] at recent ⊢
      apply aside_getLastInsertIdent recent
      intro ident after isRecent
      have fits := allFit_messageScript ident message
      rw [isTable] at isRecent
      exact (emits_insertMessageParts ident message).aside isRecent fits after

theorem aside_closeTransaction (ret : Int) (writing : Option Owner) :
    WritesAside next watched (closeTransaction ret) writing := by
  rw [closeTransaction]
  split
  · exact ⟨trivial, fun _ _ _ => trivial⟩
  · exact ⟨trivial, fun _ _ _ => trivial⟩

theorem aside_classicInsert (message : Message E) (writing : Option Owner) :
    WritesAside next watched (classicInsert message) writing := by
  rw [classicInsert_eq]
  have sends : Guarantees next watched .transactionStart writing := trivial
  apply aside_checked (.call sends)
  intro ret started _ _
  exact (aside_insertMessage message started).bind fun ret after _ =>
    aside_closeTransaction ret after

theorem aside_deleteMessage {queries : IdentTest → List Delete} {idents : IdentTest}
    (spares : ∀ query ∈ queries idents, query.Spares watched) (writing : Option Owner) :
    WritesAside next watched (deleteMessage queries idents) writing := by
  have each : ∀ (statements : List Delete), (∀ query ∈ statements, query.Spares watched) →
      ∀ writing, WritesAside next watched (deleteEach statements) writing := by
    intro statements
    induction statements with
    | nil => exact fun _ _ => ⟨trivial, fun _ _ _ => trivial⟩
    | cons query statements ih =>
        intro spares writing
        rcases List.forall_mem_cons.mp spares with ⟨here, later⟩
        refine ⟨here, fun ret after _ => ?_⟩
        show WritesAside next watched (if (ret : Int) < 0 then _ else _) after
        split
        · exact ⟨trivial, fun _ _ _ => trivial⟩
        · exact ih later after
  have sends : Guarantees next watched .transactionStart writing := trivial
  apply aside_checked (.call sends)
  exact fun _ started _ _ => each _ spares started

theorem aside_deleteFromList {doDelete : IdentTest → Sql Int} {idents : List Nat}
    (deletes : WritesAside next watched (doDelete (.among idents)) writing) :
    WritesAside next watched (deleteFromList doDelete idents) writing :=
  deletes.bind fun _ _ _ => trivial

theorem spares_alertQueries {idents : IdentTest}
    (others : ¬ (watched.table = .alert ∧ idents.Holds watched.ident)) :
    ∀ query ∈ alertQueries idents, query.Spares watched := fun query present _ belongs isMatch =>
  others ((alertQueries_match_iff belongs idents).mp ⟨query, present, isMatch⟩)

theorem spares_heartbeatQueries {idents : IdentTest}
    (others : ¬ (watched.table = .heartbeat ∧ idents.Holds watched.ident)) :
    ∀ query ∈ heartbeatQueries idents, query.Spares watched :=
  fun query present _ belongs isMatch =>
    others ((heartbeatQueries_match_iff belongs idents).mp ⟨query, present, isMatch⟩)

/-- A call keeps to the guarantee, whatever its client has done before. -/
theorem OtherCall.aside (call : OtherCall E watched) (writing : Option Owner) :
    WritesAside next watched call.program writing := by
  rcases call with ⟨call, others⟩
  cases call with
  | insert message => exact aside_classicInsert message writing
  | deleteAlert ident =>
      refine aside_deleteMessage (spares_alertQueries ?_) writing
      rintro ⟨isAlert, rfl⟩
      exact others ⟨isAlert.symm, List.mem_singleton_self _⟩
  | deleteHeartbeat ident =>
      refine aside_deleteMessage (spares_heartbeatQueries ?_) writing
      rintro ⟨isHeartbeat, rfl⟩
      exact others ⟨isHeartbeat.symm, List.mem_singleton_self _⟩
  | deleteAlertFromList idents =>
      refine aside_deleteFromList (aside_deleteMessage (spares_alertQueries ?_) writing)
      exact fun asked => others ⟨asked.1.symm, asked.2⟩
  | deleteHeartbeatFromList idents =>
      refine aside_deleteFromList (aside_deleteMessage (spares_heartbeatQueries ?_) writing)
      exact fun asked => others ⟨asked.1.symm, asked.2⟩

end Writers

section Serve

open OtherCall

variable {next : MessageTable → Nat} {watched : Owner}

/-- What has been sent so far leaves the rows of the watched message as they are. -/
structure Traffic.Spares (next : MessageTable → Nat) (watched : Owner) (sent : Traffic) : Prop where
  inserted : ∀ row ∈ sent.inserted, Recent next row
  deletions : ∀ statement ∈ sent.deletions, statement.Spares watched

theorem relies_serveAside (whim : Whim) (op : SqlOp) (writing : Option Owner) (sent : Traffic)
    (sends : Guarantees next watched op writing) :
    Relies next op writing (serveAside next whim op writing sent).1
      (serveAside next whim op writing sent).2.1 := by
  rcases whim with ⟨fault, number, rows⟩
  cases fault with
  | some error =>
      have negative := error.negative
      cases op with
      | insertMessage table cells =>
          exact fun succeeded => absurd negative (Int.not_lt.mpr succeeded)
      | selectMaxIdent table => exact fun _ _ _ _ _ refused => by cases refused
      | fetchField cell => exact fun _ refused => by cases refused
      | escape input => exact fun _ refused => by cases refused
      | escapeBinary input => exact fun _ refused => by cases refused
      | _ => trivial
  | none =>
      cases op with
      | insertMessage table cells =>
          exact fun _ => ⟨_, rfl, rfl, Nat.le_add_right _ _⟩
      | selectMaxIdent table =>
          rintro owner cell rfl rfl recent answered
          refine ⟨owner.ident + number, ?_, Nat.le_trans recent (Nat.le_add_right _ _)⟩
          have own : (some owner).filter (fun other => other.table = owner.table) = some owner := by
            simp [Option.filter_some]
          have isCell : Cell.number (((some owner).filter
              fun other => other.table = owner.table).elim 0 Owner.ident + number : Nat) = cell :=
            Except.ok.inj answered
          rw [own] at isCell
          exact isCell.symm
      | fetchField cell =>
          intro field answered
          have found := Except.ok.inj answered
          split at found
          · cases found
          · exact (Option.some.inj found).symm
      | escape input => exact fun _ answered => (Except.ok.inj answered).symm
      | escapeBinary input => exact fun _ answered => (Except.ok.inj answered).symm
      | _ => trivial

theorem spares_serveAside (whim : Whim) (op : SqlOp) (writing : Option Owner) {sent : Traffic}
    (sends : Guarantees next watched op writing) (spares : sent.Spares next watched) :
    (serveAside next whim op writing sent).2.2.Spares next watched := by
  rcases whim with ⟨fault, number, rows⟩
  cases fault with
  | some error => exact spares
  | none =>
      cases op with
      | insertMessage table cells =>
          refine ⟨List.forall_mem_append.mpr ⟨spares.inserted, fun row isNew => ?_⟩,
            spares.deletions⟩
          rw [List.mem_singleton.mp isNew]
          exact ⟨⟨table, next table + number⟩, Nat.le_add_right _ _, messageRow_belongsTo _ _⟩
      | insert row =>
          refine ⟨List.forall_mem_append.mpr ⟨spares.inserted, fun other isNew => ?_⟩,
            spares.deletions⟩
          rw [List.mem_singleton.mp isNew]
          exact sends
      | delete statement =>
          refine ⟨spares.inserted, List.forall_mem_append.mpr ⟨spares.deletions,
            fun other isNew => ?_⟩⟩
          rw [List.mem_singleton.mp isNew]
          exact sends
      | _ => exact spares

/-- The server answers as its clients rely on, and what they send spares the message. -/
theorem serves_aside (next : MessageTable → Nat) (watched : Owner) :
    Clients.Serves (serveAside next) (fun _ _ _ => True) (Relies next) (Guarantees next watched)
      (fun _ _ => True) (Traffic.Spares next watched) where
  answers := fun whim op writing sent _ sends _ => relies_serveAside whim op writing sent sends
  states := fun _ _ _ _ _ _ _ => trivial
  stable := fun _ _ _ _ _ _ _ _ => trivial
  shared := fun whim op writing _ sends _ spares => spares_serveAside whim op writing sends spares

end Serve

/-- The database to a query that finds the rows. -/
def Store.showing (rows : List Row) : Store :=
  { Store.empty with visible := rows.map fun row => ⟨none, row⟩ }

/-- Rows that a query may find: old ones, but for those that were deleted, and new ones. -/
def Visible (base : Store) (sent : Traffic) (rows : List Row) : Prop :=
  ∃ keep : Row → Bool, ∃ added : List Row, rows = base.rows.filter keep ++ added ∧
    (∀ row ∈ base.rows, keep row = false → ∃ statement ∈ sent.deletions, statement.Matches row) ∧
    ∀ row ∈ added, row ∈ sent.inserted

/-- What the isolation level of a server lets each query of the reader find. -/
structure Visibility (base : Store) where
  rows : Nat → Traffic → List Row
  visible : ∀ call sent, Visible base sent (rows call sent)

section Reading

variable {Client : Type} [DecidableEq Client] {watched : Owner} {base : Store}

/-- The other clients, none of which is at work. -/
def othersAtRest (Client : Type) : Clients SqlReply Int Client (Option Owner) Traffic where
  programs := fun _ => .done 0
  states := fun _ => none
  shared := ⟨[], []⟩

/-- The other clients and their calls in between. -/
abbrev Meanwhile (E : EnumKind → Type) (Client : Type) (watched : Owner) :=
  Nat → List (Event Client (OtherCall E watched) Whim)

/-- The plugin answers the reader from what its queries find, behind what the others sent. -/
def Retrieval.amid (retrieval : Retrieval) (visibility : Visibility base)
    (meanwhile : Meanwhile E Client watched) (fails : Nat → Option ErrorCode) :
    Environment SqlReply (Nat × Clients SqlReply Int Client (Option Owner) Traffic) :=
  fun op (call, others) =>
  let others := others.after OtherCall.program (fun _ writing => writing) (serveAside base.next)
    (meanwhile call)
  (match fails call with
    | none => retrieval.reply (.showing (visibility.rows call others.shared)) op
    | some error => refusal error op, call + 1, others)

/-- A query for the watched message finds the rows that it had before. -/
theorem Visible.filter_rows {sent : Traffic} {rows : List Row} (visible : Visible base sent rows)
    (sound : base.Sound) (isGiven : watched.ident < base.next watched.table)
    (spares : sent.Spares base.next watched) {query : Select}
    (asks : query.messageIdent = watched.ident) (avoids : query.Avoids watched.table.other) :
    rows.filter (fun row => query.Matches row) =
      base.rows.filter fun row => query.Matches row := by
  rcases visible with ⟨keep, added, rfl, deleted, isNew⟩
  have isWatched : watched = ⟨watched.table, query.messageIdent⟩ := by rw [asks]
  have none : added.filter (fun row => query.Matches row) = [] := by
    refine List.filter_eq_nil_iff.mpr fun row present => ?_
    rcases spares.inserted row (isNew row present) with ⟨owner, recent, belongs⟩
    rw [decide_eq_true_eq]
    refine belongs.not_matches avoids fun same => ?_
    rw [same, asks] at recent
    exact Nat.lt_irrefl _ (Nat.lt_of_lt_of_le isGiven recent)
  have keeps : ∀ row ∈ base.rows, query.Matches row → keep row = true := by
    intro row present isMatch
    have idle : base.visible = base.committed := sound.idle
    have isStored := present
    rw [Store.rows, idle] at isStored
    rcases List.mem_map.mp isStored with ⟨entry, stored, rfl⟩
    rcases sound.entries entry stored with ⟨owner, _, belongs, _⟩
    have isOwner : owner = watched := by
      by_contra isOther
      exact belongs.not_matches avoids (isWatched ▸ isOther) isMatch
    cases kept : keep entry.row with
    | true => rfl
    | false =>
        rcases deleted entry.row present kept with ⟨statement, isSent, isDeleted⟩
        exact absurd isDeleted (spares.deletions statement isSent entry.row (isOwner ▸ belongs))
  rw [List.filter_append, none, List.append_nil, List.filter_filter]
  refine List.filter_congr fun row present => ?_
  by_cases isMatch : query.Matches row
  · simp [isMatch, keeps row present isMatch]
  · simp [isMatch]

theorem rows_showing (rows : List Row) : (Store.showing rows).rows = rows := by
  simp [Store.showing, Store.rows, Function.comp_def]

/-- The reader cannot tell that other clients are at work. -/
theorem agree_amid (retrieval : Retrieval) (visibility : Visibility base) (sound : base.Sound)
    (isGiven : watched.ident < base.next watched.table)
    (meanwhile : Meanwhile E Client watched) (fails : Nat → Option ErrorCode) :
    Program.Agree (SqlOp.Concerns watched.table watched.ident) (fun _ _ => True)
      (retrieval.amid visibility meanwhile fails) (retrieval.failing base fails)
      (fun state call => state.1 = call ∧ state.2.Well (OtherCall.Relies base.next)
        (OtherCall.Guarantees base.next watched) (fun _ _ => True)
        (Traffic.Spares base.next watched)) := by
  have further : ∀ call {others : Clients SqlReply Int Client (Option Owner) Traffic},
      others.Well (OtherCall.Relies base.next) (OtherCall.Guarantees base.next watched)
        (fun _ _ => True) (Traffic.Spares base.next watched) →
      (others.after OtherCall.program (fun _ writing => writing) (serveAside base.next)
          (meanwhile call)).Well
        (OtherCall.Relies base.next) (OtherCall.Guarantees base.next watched) (fun _ _ => True)
        (Traffic.Spares base.next watched) := fun _ _ well =>
    well.after (serves_aside base.next watched) ⟨OtherCall.aside, fun _ _ _ _ => trivial⟩
      (Clients.allowsAll_true _ _ _ _ _)
  refine ⟨fun _ _ => trivial, fun {op state call} concerns related => ?_,
    fun {op state call} _ related => ⟨congrArg (· + 1) related.1, further _ related.2⟩⟩
  rcases state with ⟨own, others⟩
  rcases related with ⟨rfl, well⟩
  have spares := (further own well).shared
  cases failed : fails own with
  | some error => simp only [Retrieval.amid, Retrieval.failing, failed]
  | none =>
      simp only [Retrieval.amid, Retrieval.failing, failed]
      cases op with
      | select query =>
          rcases concerns with ⟨asks, avoids⟩
          have found := (visibility.visible own _).filter_rows sound isGiven spares asks avoids
          show Except.ok ((Store.showing _).select query) = Except.ok (base.select query)
          rw [Store.select, Store.select, rows_showing, found]
      | unescapeBinary | fetchRow | fetchField => rfl
      | _ => exact concerns.elim

variable [∀ kind, Inhabited (E kind)]

/--
Whatever other clients send between the queries of a reader, and whatever of it each query
finds, the reader answers as it would have answered before: the messages that they insert and
delete are others than the one that is read. Its own failing calls do what they would have done.
-/
theorem read_undisturbed (reached : Reached E base)
    (isGiven : watched.ident < base.next watched.table) (visibility : Visibility base)
    (meanwhile : Meanwhile E Client watched) (fails : Nat → Option ErrorCode)
    (retrieval : Retrieval) (unassigned : Int) :
    (Program.run (retrieval.amid visibility meanwhile fails)
      (classicGet unassigned watched.table watched.ident : Get (MessageRead E)).run
        (0, othersAtRest Client)).1 =
      (outcome retrieval base fails (classicGet unassigned watched.table watched.ident) 0).1 := by
  have atRest : (othersAtRest Client).Well (OtherCall.Relies base.next)
      (OtherCall.Guarantees base.next watched) (fun _ _ => True)
      (Traffic.Spares base.next watched) :=
    ⟨fun _ => trivial, fun _ => trivial, fun _ absent => absurd absent List.not_mem_nil,
      fun _ absent => absurd absent List.not_mem_nil⟩
  exact ((agree_amid retrieval visibility reached.sound isGiven meanwhile fails).run
    (Get.local_classicGet unassigned watched.ident watched.table) ⟨rfl, atRest⟩).1

/-- A server without transactions: each query finds all that has been sent. -/
def Visibility.atOnce (base : Store) : Visibility base where
  rows := fun _ sent =>
    base.rows.filter (fun row => ¬ ∃ statement ∈ sent.deletions, statement.Matches row) ++
      sent.inserted
  visible := fun _ sent => by
    refine ⟨_, _, rfl, fun row _ gone => ?_, fun _ present => present⟩
    simpa using gone

/-- Behind the first query an alert is inserted, and behind the second one it is deleted. -/
def insertedAndDeleted : Meanwhile TextEnum Unit ⟨.alert, 1⟩ := fun call =>
  let served := List.replicate 50 (.serve () ⟨none, 0, []⟩)
  match call with
  | 1 => .call () ⟨.insert (.alert (Alert.bare TextEnum)), id⟩ :: served
  | 2 => .call () ⟨.deleteAlert 2, fun asked => absurd asked (by decide)⟩ :: served
  | _ => []

theorem read_undisturbed_classified :
    let stored := ((classicInsert (.alert classified)).run
      (environment (statementFaults failsFourth)) (Store.unfilled fun _ => 1)).2
    (Program.run (Retrieval.mysql.amid (.atOnce stored) insertedAndDeleted fun _ => none)
      (classicGet 0 .alert 1 : Get (MessageRead TextEnum)).run (0, othersAtRest Unit)).1 =
      (outcome .mysql stored (fun _ => none) (classicGet 0 .alert 1) 0).1 := by
  intro stored
  have isGiven : 1 < stored.next .alert := by decide
  exact read_undisturbed (.call (.empty fun _ => 1) (.insert (.alert classified))
    (statementFaults failsFourth)) isGiven (.atOnce stored) insertedAndDeleted (fun _ => none)
    .mysql 0

end Reading

end RequiemDB
