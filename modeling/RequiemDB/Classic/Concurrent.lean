import RequiemDB.Classic.Ownership
import RequiemDB.Classic.PrimaryKeys
import RequiemDB.Lib.Interleaving

/-!
# Clients that insert at the same time

Each client has a connection and a transaction of its own, and inserts one message
after the other. A statement sees the rows that are committed when it is served
and the rows of its own transaction, and an INSERT is refused where its primary key
is taken among them. The ident of a message's row is read back by `SELECT
max(_ident)`: it is the client's own unless a row of a later ident is committed
between the two statements. A client that reads such an ident goes on to write below
it, as long as the keys it writes are not taken there.
-/

namespace RequiemDB

open Lib

variable {E : EnumKind → Type}

/-- A row with the same primary key is among the rows. -/
def Row.Taken (row : Row) (entries : List Entry) : Prop :=
  ∃ entry ∈ entries, row.Collides entry.row

instance (row : Row) (entries : List Entry) : Decidable (row.Taken entries) :=
  inferInstanceAs (Decidable (∃ entry ∈ entries, row.Collides entry.row))

theorem Row.Taken.mono {row : Row} {entries more : List Entry} (taken : row.Taken entries)
    (isPart : entries ⊆ more) : row.Taken more := by
  rcases taken with ⟨entry, present, collides⟩
  exact ⟨entry, isPart present, collides⟩

/-- The first row that an insertion writes below an ident, as far as its primary key goes. -/
def Message.firstRow (ident : Nat) : Message E → Row
  | .alert _ => ⟨.createTime, some .A, ident, [], none, []⟩
  | .heartbeat message =>
      if message.analyzers = [] then ⟨.createTime, some .H, ident, [], none, []⟩
      else ⟨.analyzer, some .H, ident, [], some 0, []⟩

/--
A client: the message that it inserts, the committed rows that its last call found, and what it
has done since its transaction started.
-/
structure Transaction (E : EnumKind → Type) where
  message : Option (Message E)
  found : List Entry
  pending : List Entry
  writing : Option Owner
  sent : Nat

/-- What all clients share: the committed rows and the counters of the message tables. -/
structure Server where
  committed : List Entry
  next : MessageTable → Nat

def Transaction.idle : Transaction E where
  message := none
  found := []
  pending := []
  writing := none
  sent := 0

/-- A client sets out to insert a message. -/
def Transaction.inserting (message : Message E) (transaction : Transaction E) : Transaction E :=
  { transaction with message := some message }

/-- The database as a client finds it. -/
def Server.seenBy (server : Server) (transaction : Transaction E) : Store where
  committed := server.committed
  visible := server.committed ++ transaction.pending
  next := server.next
  writing := transaction.writing
  sent := transaction.sent

/-- The greatest ident that is committed in a message table. -/
def Server.lastIdent (server : Server) (table : MessageTable) : Option Nat :=
  (((server.committed.map Entry.row).filter fun row => row.table = table.table).map
    Row.messageIdent).max?

/--
The answer to a client: that of a database with one client, where only the rows it appends
to the committed ones are its own. The choice is the error of the call, if it fails.
-/
def Server.respond (fault : Option ErrorCode) (op : SqlOp) (transaction : Transaction E)
    (server : Server) : SqlReply op × Transaction E × Server :=
  let (reply, store) := environment (fun _ _ => fault) op (server.seenBy transaction)
  (reply,
    { message := transaction.message
      found := server.committed
      pending := store.visible.drop store.committed.length
      writing := store.writing
      sent := store.sent },
    { committed := store.committed, next := store.next })

def duplicateKey : ErrorCode := ⟨-1, minusOne_negative⟩

/--
The error of an INSERT whose primary key is taken. A statement that waits for the row of another
open transaction is served when that one has ended.
-/
def Server.duplicate (transaction : Transaction E) (server : Server) : SqlOp → Option ErrorCode
  | .insert row =>
      if row.Taken (server.committed ++ transaction.pending) then some duplicateKey else none
  | _ => none

def Server.serve (fault : Option ErrorCode) (op : SqlOp) (transaction : Transaction E)
    (server : Server) : SqlReply op × Transaction E × Server :=
  server.respond (fault.or (server.duplicate transaction op)) op transaction

/-- Every row carries the ident of a message's row that is among the rows too, as its message. -/
def Attached (entries : List Entry) : Prop :=
  ∀ entry ∈ entries, ∃ owner cells, entry.owner = some owner ∧
    entry.row.messageIdent = owner.ident ∧ ⟨some owner, messageRow owner cells⟩ ∈ entries

theorem attached_nil : Attached [] := fun _ absent => absurd absent List.not_mem_nil

theorem Attached.append {left right : List Entry} (inLeft : Attached left)
    (inRight : Attached right) : Attached (left ++ right) := by
  intro entry present
  rcases List.mem_append.mp present with old | new
  · rcases inLeft entry old with ⟨owner, cells, isOwner, ident, own⟩
    exact ⟨owner, cells, isOwner, ident, List.mem_append_left _ own⟩
  · rcases inRight entry new with ⟨owner, cells, isOwner, ident, own⟩
    exact ⟨owner, cells, isOwner, ident, List.mem_append_right _ own⟩

namespace Transaction

/-- The client writes the rows of a message, whose own row is among its rows. -/
def WritesFor (transaction : Transaction E) (owner : Owner) : Prop :=
  transaction.writing = some owner ∧
    ∃ cells, ⟨some owner, messageRow owner cells⟩ ∈ transaction.pending

/-- The client has written the row of a message, and nothing else. -/
def JustWrote (transaction : Transaction E) (owner : Owner) : Prop :=
  transaction.writing = some owner ∧
    ∃ cells, transaction.pending = [⟨some owner, messageRow owner cells⟩]

theorem JustWrote.writesFor {transaction : Transaction E} {owner : Owner}
    (justWrote : transaction.JustWrote owner) : transaction.WritesFor owner := by
  rcases justWrote with ⟨writing, cells, pending⟩
  exact ⟨writing, cells, by simp [pending]⟩

/--
What a call must find: an ident is read behind its row, rows are of the client's message or
have a key that is known to be taken.
-/
def Guarantees : SqlOp → Transaction E → Prop
  | .insertMessage _ _, transaction => transaction.pending = []
  | .selectMaxIdent table, transaction =>
      ∃ owner, owner.table = table ∧ transaction.JustWrote owner
  | .insert row, transaction =>
      (∃ owner, transaction.WritesFor owner ∧ row.BelongsTo owner) ∨ row.Taken transaction.found
  | .delete _, _ => False
  | _, _ => True

/-- The rows of a client and the message it writes stay as they are; it may find more rows. -/
structure Unchanged (before after : Transaction E) : Prop where
  pending : after.pending = before.pending
  writing : after.writing = before.writing
  message : after.message = before.message
  found : before.found ⊆ after.found

/-- What a client may rely on when a call answers. -/
def Relies : (op : SqlOp) → Transaction E → SqlReply op → Transaction E → Prop
  | .transactionStart, before, reply, after =>
      after.message = before.message ∧ (0 ≤ reply → after.pending = [])
  | .transactionEnd, _, _, _ | .transactionAbort, _, _, _ | .delete _, _, _, _ => True
  | .insertMessage table _, before, reply, after =>
      after.message = before.message ∧
        (0 ≤ reply → ∃ owner, owner.table = table ∧ after.JustWrote owner)
  | .insert row, before, reply, after =>
      (∀ owner, before.WritesFor owner → after.WritesFor owner) ∧
        (row.Taken before.found → reply < 0)
  | .selectMaxIdent table, before, reply, after =>
      Unchanged before after ∧
        ∀ owner cell, before.JustWrote owner → owner.table = table → reply = .ok cell →
          cell = .number owner.ident ∨ ∃ ident : Nat, cell = .number ident ∧
            ∀ message ∈ before.message, (message.firstRow ident).Taken after.found
  | .fetchField cell, before, reply, after =>
      Unchanged before after ∧ ∀ field, reply = .ok (some field) → field = cell
  | .escape input, before, reply, after =>
      Unchanged before after ∧ ∀ cell, reply = .ok cell → cell = stringLiteral input
  | .escapeBinary input, before, reply, after =>
      Unchanged before after ∧ ∀ cell, reply = .ok cell → cell = .blob input
  | .select _, before, _, after | .fetchRow _ _, before, _, after
  | .unescapeBinary _, before, _, after => Unchanged before after

theorem Unchanged.writesFor {before after : Transaction E} (unchanged : Unchanged before after)
    {owner : Owner} (writesFor : before.WritesFor owner) : after.WritesFor owner := by
  rcases writesFor with ⟨isWriting, cells, own⟩
  exact ⟨unchanged.writing.trans isWriting, cells, unchanged.pending ▸ own⟩

end Transaction

section Program

open Transaction

/-- A program that keeps to the guarantee for all answers of the server. -/
abbrev KeepsTo (program : Sql Int) (transaction : Transaction E) : Prop :=
  program.Keeps Relies Guarantees (fun _ _ => True) transaction

variable {transaction : Transaction E} {owner : Owner}

theorem keepsTo_of_givesUp {program : Sql Int} (givesUp : GivesUp program) :
    KeepsTo program transaction := by
  rcases givesUp with ⟨ret, _, rfl⟩
  trivial

theorem keepsTo_checked {program rest : Sql Int} {middle : Int → Transaction E → Prop}
    (first : program.Keeps Relies Guarantees middle transaction)
    (second : ∀ ret after, 0 ≤ ret → middle ret after → KeepsTo rest after) :
    KeepsTo (checked program rest) transaction := by
  apply first.bind
  intro ret after reached
  split
  · trivial
  · exact second ret after (by omega) reached

/-- A program that follows a script of the client's message keeps to the guarantee. -/
theorem Emits.keepsTo {program : Sql Int} {script : Script Row} (emits : Emits program script)
    (fits : AllFit owner script) {transaction : Transaction E}
    (writesFor : transaction.WritesFor owner) :
    KeepsTo program transaction := by
  induction emits generalizing transaction with
  | done ret succeeded => trivial
  | @escape input next script failure _ ih =>
      refine ⟨trivial, fun reply after answered => ?_⟩
      rcases answered with ⟨unchanged, literal⟩
      cases reply with
      | error error => exact keepsTo_of_givesUp (failure error)
      | ok cell =>
          rw [literal cell rfl]
          exact ih fits (unchanged.writesFor writesFor)
  | @escapeBinary input next script failure _ ih =>
      refine ⟨trivial, fun reply after answered => ?_⟩
      rcases answered with ⟨unchanged, literal⟩
      cases reply with
      | error error => exact keepsTo_of_givesUp (failure error)
      | ok cell =>
          rw [literal cell rfl]
          exact ih fits (unchanged.writesFor writesFor)
  | @must row next script failure _ ih =>
      rcases List.forall_mem_cons.mp fits with ⟨here, later⟩
      refine ⟨.inl ⟨owner, writesFor, here.belongs⟩, fun ret after ⟨keeps, _⟩ => ?_⟩
      by_cases negative : ret < 0
      · exact keepsTo_of_givesUp (failure ret negative)
      · exact ih ret (Int.not_lt.mp negative) later (keeps owner writesFor)
  | @ignore row next script _ ih =>
      rcases List.forall_mem_cons.mp fits with ⟨here, later⟩
      exact ⟨.inl ⟨owner, writesFor, here.belongs⟩, fun ret after ⟨keeps, _⟩ =>
        ih ret later (keeps owner writesFor)⟩
  | @«instead» row other next script _ _ ihFailure ih =>
      rcases List.forall_mem_cons.mp fits with ⟨here, later⟩
      refine ⟨.inl ⟨owner, writesFor, here.belongs⟩, fun ret after ⟨keeps, _⟩ => ?_⟩
      by_cases negative : ret < 0
      · exact ihFailure ret negative
          (List.forall_mem_cons.mpr ⟨.must (here.replaced other rfl).2, later⟩)
          (keeps owner writesFor)
      · exact ih ret (Int.not_lt.mp negative) later (keeps owner writesFor)

/-- A program gives up at its first row where the key of that row is known to be taken. -/
theorem Emits.keepsTo_taken {program : Sql Int} {script : Script Row}
    (emits : Emits program script) {row : Row} {rest : Script Row}
    (begins : script = .must row :: rest) {transaction : Transaction E}
    (taken : row.Taken transaction.found) : KeepsTo program transaction := by
  induction emits generalizing transaction with
  | done ret succeeded => cases begins
  | @escape input next script failure _ ih =>
      refine ⟨trivial, fun reply after ⟨unchanged, literal⟩ => ?_⟩
      cases reply with
      | error error => exact keepsTo_of_givesUp (failure error)
      | ok cell =>
          rw [literal cell rfl]
          exact ih begins (taken.mono unchanged.found)
  | @escapeBinary input next script failure _ ih =>
      refine ⟨trivial, fun reply after ⟨unchanged, literal⟩ => ?_⟩
      cases reply with
      | error error => exact keepsTo_of_givesUp (failure error)
      | ok cell =>
          rw [literal cell rfl]
          exact ih begins (taken.mono unchanged.found)
  | must failure _ _ =>
      cases begins
      exact ⟨.inr taken, fun ret _ ⟨_, refused⟩ =>
        keepsTo_of_givesUp (failure ret (refused taken))⟩
  | ignore _ _ => cases begins
  | «instead» _ _ _ _ => cases begins

/--
The ident read behind the row of a message is its own, or one below which the keys of the
message are taken.
-/
theorem keepsTo_getLastInsertIdent {rest : Nat → Sql Int} {message : Message E}
    (justWrote : transaction.JustWrote owner) (inserts : transaction.message = some message)
    (goesOn : ∀ after : Transaction E, after.WritesFor owner → KeepsTo (rest owner.ident) after)
    (stops : ∀ ident (after : Transaction E), (message.firstRow ident).Taken after.found →
      KeepsTo (rest ident) after) :
    KeepsTo (getLastInsertIdent owner.table rest) transaction := by
  refine ⟨⟨owner, rfl, justWrote⟩, fun reply selected ⟨unchanged, found⟩ => ?_⟩
  cases reply with
  | error error => trivial
  | ok cell =>
      refine ⟨trivial, fun reply fetched rowUnchanged => ?_⟩
      cases reply with
      | error error => trivial
      | ok _ =>
          refine ⟨trivial, fun reply after ⟨fieldUnchanged, isCell⟩ => ?_⟩
          cases reply with
          | error error => trivial
          | ok field =>
              cases field with
              | none => trivial
              | some field =>
                  rw [isCell field rfl]
                  rcases found owner cell justWrote rfl rfl with rfl | ⟨ident, rfl, taken⟩
                  · have writesFor : after.WritesFor owner := fieldUnchanged.writesFor
                      (rowUnchanged.writesFor (unchanged.writesFor justWrote.writesFor))
                    simpa [Cell.toInt] using goesOn after writesFor
                  · have isTaken := ((taken message inserts).mono rowUnchanged.found).mono
                      fieldUnchanged.found
                    simpa [Cell.toInt] using stops ident after isTaken

variable [Librequiem E]

theorem messageScript_firstRow (ident : Nat) (message : Message E) :
    ∃ row rest, messageScript ident message = .must row :: rest ∧
      ∀ entries, (message.firstRow ident).Taken entries → row.Taken entries := by
  have sameKey : ∀ {first row : Row}, row.table = first.table →
      (∀ column ∈ first.table.primaryKey, column.Agrees row first) →
        ∀ entries, first.Taken entries → row.Taken entries := by
    rintro first row sameTable agrees entries ⟨entry, present, isTable, isKey⟩
    refine ⟨entry, present, sameTable.trans isTable, fun column inKey => ?_⟩
    have inFirst : column ∈ first.table.primaryKey := sameTable ▸ inKey
    have here := agrees column inFirst
    have there := isKey column inFirst
    cases column <;> exact here.trans there
  cases message with
  | alert alert =>
      refine ⟨_, _, rfl, sameKey rfl ?_⟩
      simp [Message.firstRow, Table.primaryKey, KeyColumn.Agrees, messageTimeRow]
  | heartbeat heartbeat =>
      rcases heartbeat with ⟨messageid, interval, analyzers, createTime, analyzerTime, data⟩
      cases analyzers with
      | nil =>
          refine ⟨_, _, rfl, sameKey rfl ?_⟩
          simp [Message.firstRow, Table.primaryKey, KeyColumn.Agrees, messageTimeRow]
      | cons analyzer analyzers =>
          refine ⟨_, _, rfl, sameKey rfl ?_⟩
          simp [Message.firstRow, Table.primaryKey, KeyColumn.Agrees, analyzerRow]

theorem keepsTo_insertMessage (message : Message E) (empty : transaction.pending = [])
    (inserts : transaction.message = some message) :
    KeepsTo (insertMessage message) transaction := by
  rw [insertMessage_eq]
  refine ⟨trivial, fun reply escaped ⟨unchanged, _⟩ => ?_⟩
  cases reply with
  | error error => trivial
  | ok tmp =>
      have found : Guarantees (.insertMessage message.table ((.messageid, tmp) ::
          message.cells.tail)) escaped := unchanged.pending.trans empty
      apply keepsTo_checked (.call found)
      rintro ret inserted succeeded ⟨sameMessage, wrote⟩
      rcases wrote succeeded with ⟨owner, isTable, justWrote⟩
      have emits := fun ident => emits_insertMessageParts ident message
      rw [← isTable]
      apply keepsTo_getLastInsertIdent justWrote
        (sameMessage.trans (unchanged.message.trans inserts))
      · intro after writesFor
        have fits := allFit_messageScript owner.ident message
        rw [← isTable] at fits
        exact (emits owner.ident).keepsTo fits writesFor
      · intro ident after taken
        rcases messageScript_firstRow ident message with ⟨row, rest, begins, isTaken⟩
        exact (emits ident).keepsTo_taken begins (isTaken _ taken)

/-- A call keeps to the guarantee, whatever its client has done before. -/
theorem keepsTo_classicInsert (message : Message E) (transaction : Transaction E) :
    KeepsTo (classicInsert message) (transaction.inserting message) := by
  rw [classicInsert_eq]
  have found : Guarantees .transactionStart (transaction.inserting message) := trivial
  apply keepsTo_checked (.call found)
  rintro ret started succeeded ⟨sameMessage, empty⟩
  apply (keepsTo_insertMessage message (empty succeeded) sameMessage).bind
  intro ret after _
  rw [closeTransaction]
  split
  · exact ⟨trivial, fun _ _ _ => trivial⟩
  · exact ⟨trivial, fun _ _ _ => trivial⟩

end Program

/--
A client that is about to read its ident back finds no later one in its message table, or the
primary key is taken of the first row that it would write below the last one.
-/
def KeepsApart : SqlOp → Transaction E → Server → Prop
  | .selectMaxIdent table, transaction, server =>
      ∀ owner ∈ transaction.writing, ∀ message ∈ transaction.message,
        ∀ last ∈ server.lastIdent table, owner.ident < last →
          (message.firstRow last).Taken server.committed
  | _, _, _ => True

instance : ∀ (op : SqlOp) (transaction : Transaction E) (server : Server),
    Decidable (KeepsApart op transaction server)
  | .selectMaxIdent table, transaction, server =>
      inferInstanceAs (Decidable (∀ owner ∈ transaction.writing,
        ∀ message ∈ transaction.message, ∀ last ∈ server.lastIdent table, owner.ident < last →
          (message.firstRow last).Taken server.committed))
  | .transactionStart, _, _ | .transactionEnd, _, _ | .transactionAbort, _, _ | .escape _, _, _
  | .escapeBinary _, _, _ | .unescapeBinary _, _, _ | .insertMessage _ _, _, _ | .insert _, _, _
  | .delete _, _, _ | .select _, _, _ | .fetchRow _ _, _, _ | .fetchField _, _, _ =>
      inferInstanceAs (Decidable True)

section Serve

open Transaction

variable {server : Server} {transaction : Transaction E} {owner : Owner}

theorem max?_append_single (idents : List Nat) (ident : Nat) :
    (idents ++ [ident]).max? = some (idents.max?.elim ident fun last => max last ident) := by
  cases greatest : idents.max? with
  | none =>
      rw [List.max?_eq_none_iff.mp greatest]
      rfl
  | some last =>
      rcases List.max?_eq_some_iff.mp greatest with ⟨isLast, bounded⟩
      refine List.max?_eq_some_iff.mpr ⟨?_, fun other present => ?_⟩
      · rcases Nat.le_total last ident with below | above
        · simp [Nat.max_eq_right below]
        · simp [Nat.max_eq_left above, isLast]
      · rcases List.mem_append.mp present with stored | own
        · exact Nat.le_trans (bounded other stored) (Nat.le_max_left last ident)
        · exact List.mem_singleton.mp own ▸ Nat.le_max_right last ident

/-- The ident read behind the row of a message is its own or the last one that is committed. -/
theorem maxIdent_seenBy (justWrote : transaction.JustWrote owner) :
    (server.seenBy transaction).maxIdent owner.table =
      some ((server.lastIdent owner.table).elim owner.ident fun last => max last owner.ident) := by
  rcases justWrote with ⟨_, cells, pending⟩
  have rows : (server.seenBy transaction).rows =
      server.committed.map Entry.row ++ [messageRow owner cells] := by
    simp [Store.rows, Server.seenBy, pending]
  have own : ([messageRow owner cells].filter fun row => row.table = owner.table.table).map
      Row.messageIdent = [owner.ident] := by
    simp [messageRow]
  rw [Store.maxIdent, rows, List.filter_append, List.map_append, own, max?_append_single,
    Server.lastIdent]

theorem firstRow_not_collides (ident : Nat) (message : Message E) (cells : List (Column × Cell)) :
    ¬ (message.firstRow ident).Collides (messageRow owner cells) := by
  rintro ⟨sameTable, _⟩
  have isFirst : (message.firstRow ident).table = .createTime ∨
      (message.firstRow ident).table = .analyzer := by
    cases message with
    | alert alert => exact .inl rfl
    | heartbeat heartbeat =>
        rw [Message.firstRow]
        split
        · exact .inl rfl
        · exact .inr rfl
  have isOwn : owner.table.table ≠ .createTime ∧ owner.table.table ≠ .analyzer := by
    cases owner.table <;> exact ⟨by decide, by decide⟩
  rcases isFirst with isTime | isAnalyzer
  · exact isOwn.1 (sameTable.symm.trans isTime)
  · exact isOwn.2 (sameTable.symm.trans isAnalyzer)

/--
The condition is exact: it says that the ident that is read is the client's own, or that the
first row which the client writes below it is refused.
-/
theorem keepsApart_iff (justWrote : transaction.JustWrote owner) {message : Message E}
    (inserts : transaction.message = some message) :
    KeepsApart (.selectMaxIdent owner.table) transaction server ↔
      ∀ ident ∈ (server.seenBy transaction).maxIdent owner.table, ident = owner.ident ∨
        server.duplicate transaction (.insert (message.firstRow ident)) = some duplicateKey := by
  have refused : ∀ ident, server.duplicate transaction (.insert (message.firstRow ident)) =
      some duplicateKey ↔ (message.firstRow ident).Taken server.committed := by
    intro ident
    rcases justWrote with ⟨_, cells, pending⟩
    simp [Server.duplicate, Row.Taken, pending, or_and_right, exists_or,
      firstRow_not_collides ident message cells]
  rw [maxIdent_seenBy justWrote]
  simp only [KeepsApart, justWrote.1, inserts, Option.mem_def, Option.some.injEq, forall_eq',
    refused]
  cases isLast : server.lastIdent owner.table with
  | none => simp
  | some last =>
      by_cases later : owner.ident < last
      · have other : last ≠ owner.ident := Nat.ne_of_gt later
        simp [later, Nat.max_eq_left (Nat.le_of_lt later), other]
      · simp [later, Nat.max_eq_right (Nat.not_lt.mp later)]

variable (server transaction) in
theorem respond_insertMessage (table : MessageTable) (cells : List (Column × Cell)) :
    server.respond none (.insertMessage table cells) transaction =
      (0,
        { message := transaction.message
          found := server.committed
          pending := transaction.pending ++ [⟨some ⟨table, server.next table⟩,
            messageRow ⟨table, server.next table⟩ cells⟩]
          writing := some ⟨table, server.next table⟩
          sent := transaction.sent + 1 },
        { server with next := Function.update server.next table (server.next table + 1) }) := by
  simp [Server.respond, Server.seenBy, Store.counted, SqlOp.isStatement, environment, Store.accept,
    Store.insertMessage, Store.nextOwner]

variable (server transaction) in
theorem respond_insert (row : Row) :
    server.respond none (.insert row) transaction =
      (0,
        { message := transaction.message
          found := server.committed
          pending := transaction.pending ++ [⟨transaction.writing, row⟩]
          writing := transaction.writing
          sent := transaction.sent + 1 },
        server) := by
  simp [Server.respond, Server.seenBy, Store.counted, SqlOp.isStatement, environment, Store.accept,
    Store.insert]

variable (server transaction) in
theorem respond_transactionEnd :
    server.respond none .transactionEnd transaction =
      (0,
        { message := transaction.message
          found := server.committed
          pending := []
          writing := none
          sent := transaction.sent },
        { server with committed := server.committed ++ transaction.pending }) := by
  simp [Server.respond, Server.seenBy, Store.counted, SqlOp.isStatement, environment, Store.accept]

/-- A refused call changes no row but those of its client, which it may discard. -/
theorem respond_some (error : ErrorCode) (op : SqlOp) :
    ((server.respond (some error) op transaction).2.1.pending = [] ∨
      (server.respond (some error) op transaction).2.1.pending = transaction.pending) ∧
    (server.respond (some error) op transaction).2.2 = server := by
  cases op <;> simp [Server.respond, Server.seenBy, Store.counted, SqlOp.isStatement, environment,
    Store.refuse]

/-- An INSERT that is accepted has a key of its own. -/
theorem not_taken_of_accepted {fault : Option ErrorCode} {row : Row}
    (accepted : fault.or (server.duplicate transaction (.insert row)) = none) :
    ¬ row.Taken (server.committed ++ transaction.pending) := by
  intro taken
  rw [Server.duplicate, if_pos taken] at accepted
  cases fault <;> cases accepted

/-- What a client has found remains committed, and its own rows are attached. -/
def Grounded (transaction : Transaction E) (server : Server) : Prop :=
  transaction.found ⊆ server.committed ∧ Attached transaction.pending

/-- A refused statement answers with its error and changes no row. -/
theorem relies_refused (error : ErrorCode) (op : SqlOp)
    (found : transaction.found ⊆ server.committed) :
    Relies op transaction (server.respond (some error) op transaction).1
      (server.respond (some error) op transaction).2.1 := by
  have negative := error.negative
  have unchanged : ∀ {op : SqlOp}, op ≠ .transactionEnd → op ≠ .transactionAbort →
      Unchanged transaction (server.respond (some error) op transaction).2.1 := by
    intro op notEnd notAbort
    constructor <;> cases op <;> simp_all [Server.respond, Server.seenBy, Store.counted,
      SqlOp.isStatement, environment, Store.refuse]
  cases op with
  | transactionStart => exact ⟨rfl, fun succeeded => absurd negative (Int.not_lt.mpr succeeded)⟩
  | transactionEnd | transactionAbort | delete statement => trivial
  | insertMessage table cells =>
      exact ⟨rfl, fun succeeded => absurd negative (Int.not_lt.mpr succeeded)⟩
  | insert row =>
      exact ⟨fun owner => (unchanged (by simp) (by simp)).writesFor, fun _ => negative⟩
  | selectMaxIdent table =>
      exact ⟨unchanged (by simp) (by simp), fun owner cell _ _ answered => by cases answered⟩
  | escape input | escapeBinary input =>
      exact ⟨unchanged (by simp) (by simp), fun cell answered => by cases answered⟩
  | fetchField cell =>
      exact ⟨unchanged (by simp) (by simp), fun field answered => by cases answered⟩
  | _ => exact unchanged (by simp) (by simp)

/-- What a client relies on is what the server answers, as long as the idents are kept apart. -/
theorem relies_serve (fault : Option ErrorCode) (op : SqlOp)
    (apart : KeepsApart op transaction server) (meets : Guarantees op transaction)
    (grounded : Grounded transaction server) :
    Relies op transaction (server.serve fault op transaction).1
      (server.serve fault op transaction).2.1 := by
  rcases grounded with ⟨found, _⟩
  rw [Server.serve]
  cases accepted : fault.or (server.duplicate transaction op) with
  | some error => exact relies_refused error op found
  | none =>
      have unchanged : ∀ {after : Transaction E},
          after.pending = transaction.pending → after.writing = transaction.writing →
            after.message = transaction.message → after.found = server.committed →
              Unchanged transaction after :=
        fun pending writing message isFound => ⟨pending, writing, message, isFound ▸ found⟩
      cases op with
      | transactionStart => exact ⟨rfl, fun _ => by simp [Server.respond, environment, Store.accept,
          Store.counted, SqlOp.isStatement]⟩
      | transactionEnd | transactionAbort | delete statement => trivial
      | insertMessage table cells =>
          rw [respond_insertMessage]
          have empty : transaction.pending = [] := meets
          exact ⟨rfl, fun _ => ⟨⟨table, server.next table⟩, rfl, rfl, cells, by simp [empty]⟩⟩
      | insert row =>
          rw [respond_insert]
          refine ⟨?_, fun taken => ?_⟩
          · rintro owner ⟨isWriting, cells, own⟩
            exact ⟨isWriting, cells, List.mem_append_left _ own⟩
          · have isTaken := (taken.mono found).mono (List.subset_append_left _ transaction.pending)
            exact absurd isTaken (not_taken_of_accepted accepted)
      | selectMaxIdent table =>
          refine ⟨unchanged (by simp [Server.respond, Server.seenBy, environment, Store.accept,
            Store.counted, SqlOp.isStatement]) rfl rfl rfl, ?_⟩
          rintro owner cell justWrote rfl answered
          have isMax : ((server.seenBy transaction).counted (.selectMaxIdent owner.table)).maxIdent
              owner.table = _ := maxIdent_seenBy justWrote
          simp only [Server.respond, environment, Store.accept, isMax, Except.ok.injEq,
            Option.elim_some] at answered
          cases isLast : server.lastIdent owner.table with
          | none =>
              rw [isLast] at answered
              exact .inl answered.symm
          | some last =>
              rw [isLast] at answered
              by_cases later : owner.ident < last
              · refine .inr ⟨last, ?_, fun message inserts => ?_⟩
                · rw [← answered, Option.elim_some, Nat.max_eq_left (Nat.le_of_lt later)]
                · exact apart owner justWrote.1 message inserts last isLast later
              · rw [Option.elim_some, Nat.max_eq_right (Nat.not_lt.mp later)] at answered
                exact .inl answered.symm
      | fetchField cell =>
          refine ⟨unchanged (by simp [Server.respond, Server.seenBy, environment, Store.accept,
            Store.counted, SqlOp.isStatement]) rfl rfl rfl, ?_⟩
          intro field answered
          simp only [Server.respond, environment, Store.accept, Except.ok.injEq] at answered
          split at answered
          · cases answered
          · exact (Option.some.inj answered).symm
      | escape input | escapeBinary input =>
          refine ⟨unchanged (by simp [Server.respond, Server.seenBy, environment, Store.accept,
            Store.counted, SqlOp.isStatement]) rfl rfl rfl, fun cell answered => ?_⟩
          exact (Except.ok.inj answered).symm
      | _ =>
          exact unchanged (by simp [Server.respond, Server.seenBy, environment, Store.accept,
            Store.counted, SqlOp.isStatement]) rfl rfl rfl

/-- A row that meets the guarantee is attached to the rows of its client, or it is refused. -/
theorem attached_pending (fault : Option ErrorCode) (op : SqlOp)
    (meets : Guarantees op transaction) (grounded : Grounded transaction server) :
    Attached (server.serve fault op transaction).2.1.pending := by
  rcases grounded with ⟨found, attached⟩
  rw [Server.serve]
  cases accepted : fault.or (server.duplicate transaction op) with
  | some error =>
      rcases (respond_some error op).1 with discarded | same
      · rw [discarded]
        exact attached_nil
      · rwa [same]
  | none =>
      cases op with
      | insertMessage table cells =>
          rw [respond_insertMessage]
          refine attached.append fun entry present => ?_
          rw [List.mem_singleton.mp present]
          exact ⟨_, cells, rfl, rfl, List.mem_singleton_self _⟩
      | insert row =>
          rw [respond_insert]
          rcases meets with ⟨owner, ⟨isWriting, cells, own⟩, belongs⟩ | taken
          · intro entry present
            rcases List.mem_append.mp present with old | new
            · rcases attached entry old with ⟨owner, cells, isOwner, ident, own⟩
              exact ⟨owner, cells, isOwner, ident, List.mem_append_left _ own⟩
            · rw [List.mem_singleton.mp new]
              exact ⟨owner, cells, isWriting, belongs.ident, List.mem_append_left _ own⟩
          · have isTaken := (taken.mono found).mono (List.subset_append_left _ transaction.pending)
            exact absurd isTaken (not_taken_of_accepted accepted)
      | delete statement => exact absurd meets id
      | transactionStart | transactionEnd | transactionAbort =>
          simp [Server.respond, Server.seenBy, Store.counted, SqlOp.isStatement, environment,
            Store.accept, attached_nil]
      | _ => simpa [Server.respond, Server.seenBy, Store.counted, SqlOp.isStatement, environment,
          Store.accept] using attached

variable (server) in
/-- What is committed remains so, and a COMMIT adds the rows of its client. -/
theorem committed_serve (fault : Option ErrorCode) (op : SqlOp)
    (meets : Guarantees op transaction) :
    (server.serve fault op transaction).2.2.committed = server.committed ∨
      (server.serve fault op transaction).2.2.committed =
        server.committed ++ transaction.pending := by
  rw [Server.serve]
  cases fault.or (server.duplicate transaction op) with
  | some error =>
      rw [(respond_some error op).2]
      exact .inl rfl
  | none =>
      cases op with
      | transactionEnd =>
          rw [respond_transactionEnd]
          exact .inr rfl
      | delete statement => exact absurd meets id
      | _ => exact .inl rfl

/-- The rows that have been committed since the clients found the committed ones are attached. -/
def AddsAttached (base server : Server) : Prop :=
  ∃ added, server.committed = base.committed ++ added ∧ Attached added

/-- The server answers as its clients rely on, and keeps rows attached. -/
theorem serves_clients (base : Server) :
    Clients.Serves (@Server.serve E) KeepsApart Relies Guarantees Grounded
      (AddsAttached base) where
  answers := fun fault op _ _ apart meets grounded => relies_serve fault op apart meets grounded
  states := fun fault op transaction server meets grounded _ => by
    refine ⟨?_, attached_pending fault op meets grounded⟩
    have isFound : (server.serve fault op transaction).2.1.found = server.committed := rfl
    rw [isFound]
    rcases committed_serve server fault op meets with same | more
    · exact fun _ present => same ▸ present
    · exact fun _ present => more ▸ List.mem_append_left _ present
  stable := fun fault op transaction server meets _ other grounded => by
    refine ⟨fun entry present => ?_, grounded.2⟩
    have stored := grounded.1 present
    rcases committed_serve server fault op meets with same | more
    · exact same ▸ stored
    · exact more ▸ List.mem_append_left _ stored
  shared := fun fault op transaction server meets grounded adds => by
    rcases adds with ⟨added, committed, attached⟩
    rcases committed_serve server fault op meets with same | more
    · exact ⟨added, same.trans committed, attached⟩
    · exact ⟨added ++ transaction.pending, by rw [more, committed, List.append_assoc],
        attached.append grounded.2⟩

end Serve

section Interleaved

variable {Client : Type} [DecidableEq Client] [Librequiem E]

/-- Clients at rest before a database. -/
def Server.atRest (base : Server) : Clients SqlReply Int Client (Transaction E) Server where
  programs := fun _ => .done 0
  states := fun _ => .idle
  shared := base

/-- The clients behind an interleaving of their calls of `classicInsert`. -/
def Server.afterInserts (base : Server)
    (events : List (Event Client (Message E) (Option ErrorCode))) :
    Clients SqlReply Int Client (Transaction E) Server :=
  base.atRest.after classicInsert Transaction.inserting Server.serve events

/--
No client's rows are attached to another one's message: neither the pending rows of a client
nor those that have been committed.
-/
def NoCrossAttachment (base : Server)
    (events : List (Event Client (Message E) (Option ErrorCode))) : Prop :=
  (∀ client, Attached ((base.afterInserts events).states client).pending) ∧
    AddsAttached base (base.afterInserts events).shared

/--
No cross-attachment in any interleaving in which, whenever a client reads its ident back, no
later one is committed or the keys of the last one are taken.
-/
theorem noCrossAttachment (base : Server)
    (events : List (Event Client (Message E) (Option ErrorCode)))
    (apart : base.atRest.AllowsAll classicInsert Transaction.inserting Server.serve KeepsApart
      events) :
    NoCrossAttachment base events := by
  have atRest : (base.atRest : Clients SqlReply Int Client (Transaction E) Server).Well
      Transaction.Relies Transaction.Guarantees Grounded (AddsAttached base) :=
    ⟨fun _ => trivial, fun _ => ⟨List.nil_subset _, attached_nil⟩, [],
      (List.append_nil _).symm, attached_nil⟩
  have opens : Clients.Opens classicInsert Transaction.inserting Transaction.Relies
      Transaction.Guarantees (@Grounded E) :=
    ⟨keepsTo_classicInsert, fun _ _ _ grounded => grounded⟩
  have well := atRest.after (serves_clients base) opens apart
  exact ⟨fun client => (well.states client).2, well.shared⟩

end Interleaved

/-- A database without rows that many clients share. -/
def Server.empty : Server where
  committed := []
  next := fun _ => 1

/-- One client's calls are served `count` times, without a fault. -/
def served (client : Bool) (count : Nat) :
    List (Event Bool (Message TextEnum) (Option ErrorCode)) :=
  List.replicate count (.serve client none)

/-- A heartbeat from an analyzer. -/
def analyzed : Message TextEnum :=
  .heartbeat { Heartbeat.bare TextEnum with
    analyzers := [{ analyzerid := some "sensor", name := none, manufacturer := none
                    model := none, version := none, class_ := none, ostype := none
                    osversion := none, node := none, process := none }] }

/-- A client inserts it, and another one commits a heartbeat without an analyzer in between. -/
def overtaken : List (Event Bool (Message TextEnum) (Option ErrorCode)) :=
  [.call false analyzed] ++ served false 3 ++
    [.call true (.heartbeat (Heartbeat.bare TextEnum))] ++ served true 8 ++ served false 12

/-- The analyzer of the first heartbeat is stored as that of the second. -/
theorem overtaken_crossAttached : ¬ NoCrossAttachment Server.empty overtaken := by
  rintro ⟨attached, _⟩
  have misplaced : ∃ entry ∈ ((Server.empty.afterInserts overtaken).states false).pending,
      entry.owner = some ⟨.heartbeat, 1⟩ ∧ entry.row.messageIdent = 2 := by decide
  rcases misplaced with ⟨entry, present, isOwner, ident⟩
  rcases attached false entry present with ⟨owner, _, sameOwner, sameIdent, _⟩
  rw [isOwner, Option.some.injEq] at sameOwner
  rw [ident, ← sameOwner] at sameIdent
  exact absurd sameIdent (by decide)

/-- The other way around, the key of the analyzer is taken, and the first client gives up. -/
theorem noCrossAttachment_overtaken :
    NoCrossAttachment Server.empty
      ([.call false analyzed] ++ served false 3 ++ [.call true analyzed] ++ served true 30 ++
        served false 30) :=
  noCrossAttachment Server.empty _ (by decide)

end RequiemDB
