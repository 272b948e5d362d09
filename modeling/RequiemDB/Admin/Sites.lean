import RequiemDB.Admin.Copy
import RequiemDB.Classic.Locality

/-!
# The command on two databases of the plugin

The operations of a copy or a move as `requiemdb-admin.c` makes them: a message is read with
the reader of the format plugin, inserted by `classicInsert` and deleted by a call of the
plugin on the source. `requiemdb_transaction_start` disables the plugin's own transactions
on the destination: until the matching end they return at once. Every call on either
database may fail; the connections stay open.
-/

namespace RequiemDB

open Lib

variable {E : EnumKind → Type} [Librequiem E]

/-- `internal_transaction_disabled`: the three transaction functions return 0 at once. -/
def environmentWithin (faults : Faults) : Environment SqlReply Store := fun op store =>
  match op with
  | .transactionStart => (0, store)
  | .transactionEnd => (0, store)
  | .transactionAbort => (0, store)
  | op => environment faults op store

namespace Store

variable (store : Store)

/-- The database once the connection is closed. -/
def closed : Store := { store with visible := store.committed, writing := none }

/-- The database with what its one client finds as its committed rows. -/
def shown : Store := { store with committed := store.visible }

end Store

/-- A call that is neither BEGIN nor the end of a transaction. -/
def SqlOp.Inner : SqlOp → Prop
  | .transactionStart | .transactionEnd | .transactionAbort => False
  | _ => True

/-- What is escaped comes back as a literal of itself. -/
def SqlOp.Escapes : (op : SqlOp) → SqlReply op → Prop
  | .escape input, reply => ∀ cell, reply = .ok cell → cell = stringLiteral input
  | .escapeBinary input, reply => ∀ cell, reply = .ok cell → cell = .blob input
  | _, _ => True

section Within

/-- A function that leaves the transaction alone. -/
abbrev StaysInner (program : Sql Int) : Prop := Program.Only SqlOp.Inner SqlOp.Escapes program

theorem GivesUp.inner {program : Sql Int} (givesUp : GivesUp program) : StaysInner program := by
  rcases givesUp with ⟨code, _, rfl⟩
  trivial

theorem Emits.inner {program : Sql Int} {script : Script Row} (emits : Emits program script) :
    StaysInner program := by
  induction emits with
  | done ret _ => trivial
  | escape failure _ ih | escapeBinary failure _ ih =>
      refine ⟨trivial, fun reply escapes => ?_⟩
      cases reply with
      | error error => exact (failure error).inner
      | ok cell =>
          rw [escapes cell rfl]
          exact ih
  | must failure _ ih =>
      refine ⟨trivial, fun ret _ => ?_⟩
      rcases Int.lt_or_le ret 0 with negative | succeeded
      · exact (failure ret negative).inner
      · exact ih ret succeeded
  | ignore _ ih => exact ⟨trivial, fun ret _ => ih ret⟩
  | «instead» _ _ ihFailure ih =>
      refine ⟨trivial, fun ret _ => ?_⟩
      rcases Int.lt_or_le ret 0 with negative | succeeded
      · exact ihFailure ret negative
      · exact ih ret succeeded

theorem inner_getLastInsertIdent (table : MessageTable) {rest : Nat → Sql Int}
    (inner : ∀ ident, StaysInner (rest ident)) : StaysInner (getLastInsertIdent table rest) := by
  refine ⟨trivial, fun answer _ => ?_⟩
  cases answer with
  | error error => trivial
  | ok cell =>
      refine ⟨trivial, fun fetched _ => ?_⟩
      cases fetched with
      | error error => trivial
      | ok _ =>
          refine ⟨trivial, fun field _ => ?_⟩
          cases field with
          | error error => trivial
          | ok field =>
              cases field with
              | none => trivial
              | some field => exact inner _

theorem inner_insertMessage (message : Message E) : StaysInner (insertMessage message) := by
  rw [insertMessage_eq]
  refine ⟨trivial, fun escaped _ => ?_⟩
  cases escaped with
  | error error => trivial
  | ok tmp =>
      refine ⟨trivial, fun ret _ => ?_⟩
      show StaysInner (if ret < 0 then .done ret else _)
      split
      · trivial
      · exact inner_getLastInsertIdent _ fun ident => (emits_insertMessageParts ident message).inner

theorem escapes_environment (faults : Faults) (op : SqlOp) (store : Store) :
    op.Escapes (environment faults op store).1 := by
  cases op with
  | escape input =>
      rintro cell answered
      rw [environment] at answered
      split at answered
      · exact (Except.ok.inj answered).symm
      · cases answered
  | escapeBinary input =>
      rintro cell answered
      rw [environment] at answered
      split at answered
      · exact (Except.ok.inj answered).symm
      · cases answered
  | _ => trivial

/-- Two databases that differ in what is committed. -/
def SameButCommitted (base shown : List Entry) (store other : Store) : Prop :=
  store.committed = base ∧ other = { store with committed := shown }

/-- The committed rows do not matter to a function that leaves the transaction alone. -/
theorem agree_within (faults : Faults) (base shown : List Entry) :
    Program.Agree SqlOp.Inner SqlOp.Escapes (environmentWithin faults) (environment faults)
      (SameButCommitted base shown) where
  credible := by
    rintro op store _ _ _
    cases op with
    | escape input => exact escapes_environment faults (.escape input) store
    | escapeBinary input => exact escapes_environment faults (.escapeBinary input) store
    | _ => trivial
  reply := by
    rintro op store _ inner ⟨_, rfl⟩
    cases op with
    | transactionStart | transactionEnd | transactionAbort => exact inner.elim
    | _ =>
        simp only [environmentWithin, environment]
        split <;> rfl
  next := by
    rintro op store _ inner ⟨isBase, rfl⟩
    cases op with
    | transactionStart | transactionEnd | transactionAbort => exact inner.elim
    | _ =>
        simp only [environmentWithin, environment]
        split <;> exact ⟨isBase, rfl⟩

/-- A call of `classicInsert` inside a transaction of its caller. -/
structure FiledWithin (message : Message E) (store : Store) (result : Int × Store) : Prop where
  committed : result.2.committed = store.committed
  next_le : ∀ table, store.next table ≤ result.2.next table
  zero : 0 ≤ result.1 → result.1 = 0
  visible : 0 ≤ result.1 →
    result.2.visible = store.visible ++ storedRows (store.next message.table, message)
  next : 0 ≤ result.1 → result.2.next = store.advanced message.table

theorem filedWithin_classicInsert {faults : Faults} (noticed : faults.Noticed)
    (message : Message E) {store : Store} (sound : store.shown.Sound) :
    FiledWithin message store ((classicInsert message).run (environmentWithin faults) store) := by
  have opens : Opened store.shown store.shown := ⟨rfl, rfl, rfl⟩
  have filing := filing_insertMessage message noticed sound opens
  have differs : SameButCommitted store.committed store.visible store store.shown := ⟨rfl, rfl⟩
  have same := (agree_within faults _ _).run (inner_insertMessage message) differs
  rw [classicInsert_eq, run_checked, Program.run_perform]
  show FiledWithin message store ((insertMessage message >>= closeTransaction).run _ store)
  rw [Program.run_bind]
  generalize (insertMessage message).run (environmentWithin faults) store = result at same
  generalize (insertMessage message).run (environment faults) store.shown = other at same filing
  rcases same with ⟨sameAnswer, base, isOther⟩
  have next_le : ∀ table, store.next table ≤ result.2.next table := by
    have grows := filing.next_le
    rw [isOther] at grows
    exact grows
  rw [closeTransaction]
  split
  · rename_i negative
    refine ⟨base, next_le, fun succeeded => ?_, fun succeeded => ?_, fun succeeded => ?_⟩ <;>
      exact absurd negative (Int.not_lt.mpr succeeded)
  · rename_i succeeded
    have notNegative := sameAnswer ▸ Int.not_lt.mp succeeded
    have visible := filing.visible notNegative
    have next := filing.next notNegative
    rw [isOther] at visible next
    exact ⟨base, next_le, fun _ => rfl, fun _ => visible, fun _ => next⟩

theorem closeTransaction_zero {faults : Faults} {ret : Int} {store : Store}
    (succeeded : 0 ≤ ((closeTransaction ret).run (environment faults) store).1) :
    ((closeTransaction ret).run (environment faults) store).1 = 0 := by
  rw [closeTransaction] at succeeded ⊢
  split at succeeded
  · rename_i negative
    have both : ∀ tmp : Int, ¬ 0 ≤ if tmp < 0 then tmp else ret := by
      intro tmp
      split <;> omega
    exact absurd succeeded (both _)
  · rename_i notNegative
    rw [if_neg notNegative, Program.run_perform, Program.run_done] at *
    cases fault : faults .transactionEnd store.sent with
    | none =>
        rw [environment_of_accepted fault]
        rfl
    | some error =>
        rw [environment_of_refused fault] at succeeded
        exact absurd succeeded (Int.not_le.mpr error.negative)

/-- A call of `classicInsert` that does not fail answers 0. -/
theorem classicInsert_zero {faults : Faults} {message : Message E} {store : Store}
    (succeeded : 0 ≤ ((classicInsert message).run (environment faults) store).1) :
    ((classicInsert message).run (environment faults) store).1 = 0 := by
  rw [classicInsert_eq, run_checked, Program.run_bind] at succeeded ⊢
  split at succeeded
  · rename_i negative
    exact absurd succeeded (Int.not_le.mpr negative)
  · rename_i notNegative
    rw [if_neg notNegative]
    exact closeTransaction_zero succeeded

end Within

namespace Admin

variable [∀ kind, Inhabited (E kind)]

/--
What the command finds: how the plugins answer, and what becomes of its calls. The calls are
counted, but those of `classicInsert` and of the deletions have faults of their own.
-/
structure Link where
  kind : MessageTable
  retrieval : Retrieval
  unassigned : Int
  listing : Nat → Int → Int → Store → Except ErrorCode Batch
  unread : Nat → Option ErrorCode
  signalled : Nat → Bool
  sourceFaults : Faults
  destinationFaults : Faults

/-- The two databases, and whether the command has a transaction on the destination. -/
structure Sites where
  source : Store
  destination : Store
  inTransaction : Bool
  performed : Nat

/-- `requiemdb_get_alert` or `requiemdb_get_heartbeat`. -/
def Link.reads (link : Link) (store : Store) (ident : Nat) : Except ErrorCode (Message E) :=
  ((classicGet link.unassigned link.kind ident).read link.retrieval store).map MessageRead.message

/-- `requiemdb_delete_alert_from_list` or `requiemdb_delete_heartbeat_from_list`. -/
def deletionOf (E : EnumKind → Type) : MessageTable → List Nat → Call E
  | .alert, idents => .deleteAlertFromList idents
  | .heartbeat, idents => .deleteHeartbeatFromList idents

/-- The answer of a deletion and the source behind it. -/
def Link.deletes (E : EnumKind → Type) [Librequiem E] (link : Link) (idents : List Nat)
    (store : Store) : Int × Store :=
  (deletionOf E link.kind idents).program.run (RequiemDB.environment link.sourceFaults) store

/-- `requiemdb_insert_message` on the destination. -/
def Sites.insert (link : Link) (sites : Sites) (message : Message E) : Int × Store :=
  (classicInsert message).run
    (if sites.inTransaction then environmentWithin link.destinationFaults
      else RequiemDB.environment link.destinationFaults) sites.destination

def sitesEnvironment (link : Link) : Environment (@Reply (Message E)) Sites := fun op sites =>
  let next := { sites with performed := sites.performed + 1 }
  match op with
  | .fetchIdents limit offset =>
      (link.listing sites.performed limit offset sites.source, next)
  | .getMessage ident =>
      ((link.unread sites.performed).elim (link.reads sites.source ident) .error, next)
  | .insertMessage _ message =>
      ((sites.insert link message).1, { next with destination := (sites.insert link message).2 })
  | .recordIdent _ _ => ((), next)
  | .deleteFromList idents =>
      ((link.deletes E idents sites.source).1,
        { next with source := (link.deletes E idents sites.source).2 })
  | .transactionStart =>
      if sites.inTransaction then (transactionError, next)
      else
        let result := RequiemDB.environment link.destinationFaults .transactionStart
          sites.destination
        (result.1, { next with destination := result.2, inTransaction := decide (0 ≤ result.1) })
  | .transactionEnd =>
      if sites.inTransaction then
        let result := RequiemDB.environment link.destinationFaults .transactionEnd
          sites.destination
        (result.1, { next with destination := result.2, inTransaction := false })
      else (transactionError, next)
  | .transactionAbort =>
      if sites.inTransaction then
        let result := RequiemDB.environment link.destinationFaults .transactionAbort
          sites.destination
        (result.1, { next with destination := result.2, inTransaction := false })
      else (transactionError, next)
  | .stopProcessing => (link.signalled sites.performed, next)

end Admin

end RequiemDB
