import RequiemDB.Admin.Move
import RequiemDB.Admin.Sites
import RequiemDB.Lib.Simulation

/-!
# The abstract run of a move and the two databases

A run on two databases of the plugin is one of the runs of `Admin.Move`: the source is what
the reader finds, the destination what `classicInsert` has filed, and the oracle tells what
became of each call. An insertion that fails inside a transaction of the command leaves some
rows of its message behind; what is committed is still alike.
-/

namespace RequiemDB.Admin

open Lib

section Fates

variable {M : Type}

/-- The error that a return value stands for. -/
def errorOf (ret : Int) : Option ErrorCode :=
  if negative : ret < 0 then some ⟨ret, negative⟩ else none

@[simp]
theorem errorOf_elim {α : Type} (ret : Int) (success : α) (failure : Int → α) :
    (errorOf ret).elim success (fun error => failure error.code) =
      if ret < 0 then failure ret else success := by
  rw [errorOf]
  split <;> rfl

theorem errorOf_eq_none {ret : Int} : errorOf ret = none ↔ 0 ≤ ret := by
  rw [errorOf]
  split <;> simp <;> omega

/-- Nothing but the error is settled. -/
def Fate.failing (error : Option ErrorCode) : Fate := ⟨error, ⟨0, [], 0, Batch.ended_zero⟩, false⟩

instance : Nonempty Fate := ⟨.failing none⟩

/-- The fate of an operation is told from the reply to it. -/
def Fate.ofReply : (op : Op M) → Reply op → Fate
  | .fetchIdents _ _, .error error => .failing (some error)
  | .fetchIdents _ _, .ok batch => { Fate.failing none with batch := batch }
  | .getMessage _, .error error => .failing (some error)
  | .getMessage _, .ok _ => .failing none
  | .recordIdent _ _, _ => .failing none
  | .stopProcessing, stop => { Fate.failing none with stop := stop }
  | .insertMessage _ _, ret => .failing (errorOf ret)
  | .deleteFromList _, ret => .failing (errorOf ret)
  | .transactionStart, ret => .failing (errorOf ret)
  | .transactionEnd, ret => .failing (errorOf ret)
  | .transactionAbort, ret => .failing (errorOf ret)

/-- A message that is not read or not inserted is the end of the command. -/
def Succeeds : (op : Op M) → Reply op → Prop
  | .getMessage _, answer => ∃ message, answer = .ok message
  | .insertMessage _ _, ret => 0 ≤ ret
  | _, _ => True

@[simp]
theorem settled_insert (state : State M) (ident : Nat) (message : M) :
    (state.insert ident message).settled = state.settled := by
  rw [State.insert]
  split <;> rfl

theorem clocked_environment :
    Program.Clocked (environment (M := M)) State.settled where
  now := by
    intro oracle another op state same
    cases op <;> simp only [environment, same]
  tick := by
    intro oracle op state
    cases op with
    | insertMessage ident message =>
        simp only [environment]
        split
        · rw [settled_insert]
          rfl
        · rfl
    | deleteFromList idents =>
        simp only [environment]
        split <;> rfl
    | transactionStart | transactionEnd | transactionAbort =>
        simp only [environment]
        repeat' split
        all_goals rfl
    | _ => rfl

end Fates

variable {E : EnumKind → Type} [Librequiem E] [∀ kind, Inhabited (E kind)] {link : Link}

section Source

variable (link : Link) (idents : List Nat) {store : Store}

omit [∀ kind, Inhabited (E kind)] in
theorem deletes_answer (store : Store) :
    (errorOf (link.deletes E idents store).1).elim (idents.length : Int) ErrorCode.code =
      (link.deletes E idents store).1 := by
  have answer : ∀ doDelete : IdentTest → Sql Int, ∀ ret,
      ((deleteFromList doDelete idents).run (RequiemDB.environment link.sourceFaults) store).1 =
        ret → (errorOf ret).elim (idents.length : Int) ErrorCode.code = ret := by
    rintro doDelete _ rfl
    rw [deleteFromList, Program.run_bind, Program.run_done]
    generalize ((doDelete (.among idents)).run _ store).1 = ret
    by_cases negative : ret < 0
    · rw [if_pos negative, errorOf, dif_pos negative]
      rfl
    · rw [if_neg negative, errorOf, dif_neg (by omega)]
      rfl
  rw [Link.deletes]
  cases link.kind with
  | alert => exact answer doDeleteAlert _ rfl
  | heartbeat => exact answer doDeleteHeartbeat _ rfl

omit [∀ kind, Inhabited (E kind)] in
theorem deletes_spared (sound : store.Sound) :
    ∃ queries, Deleted queries store (link.deletes E idents store) ∧
      (0 ≤ (link.deletes E idents store).1 →
        (link.deletes E idents store).2.committed = spared link.kind idents store.committed) := by
  have asks : (deletionOf E link.kind idents).request = .discard link.kind idents := by
    cases link.kind <;> rfl
  rcases call_cases sound (deletionOf E link.kind idents) link.sourceFaults with
    ⟨message, isInsert⟩ | ⟨kind, others, queries, request, deleted, exact⟩
  · rw [isInsert] at asks
    cases asks
  · rw [asks] at request
    cases request
    exact ⟨queries, deleted, exact⟩

/-- A deletion takes the messages that it names, or fails and takes none. -/
theorem deletes_reads (sound : store.Sound) (ident : Nat) :
    (link.reads (link.deletes E idents store).2 ident :
        Except ErrorCode (Message E)).toOption =
      if 0 ≤ (link.deletes E idents store).1 ∧ ident ∈ idents then none
      else (link.reads store ident).toOption := by
  rcases deletes_spared (E := E) link idents sound with ⟨queries, deleted, exact⟩
  have own : (link.deletes E idents store).2.ownRows ⟨link.kind, ident⟩ = _ :=
    deleted.ownRows exact
  have soundAfter := deleted.sound sound
  rw [Link.reads, Link.reads]
  split
  · rename_i gone
    rw [if_pos (by simpa using gone)] at own
    rw [read_of_ownRows_nil soundAfter own]
    rfl
  · rename_i kept
    rw [if_neg (by simpa using kept)] at own
    have isLocal := Get.local_classicGet (E := E) link.unassigned ident link.kind
    rw [isLocal.read_eq soundAfter sound own]

end Source

section Coupling

/-- The plugin has filed the messages behind those that were there. -/
def Appends (stored : List (ℕ × Message E)) (messages : List (Nat × Message E))
    (archive : MessageArchive E) : Prop :=
  ∃ added, archive.entries = stored ++ added ∧ added.map Prod.snd = messages.map Prod.snd

/-- The source, and what is committed in the destination. -/
structure Mirrored (link : Link) (stored : List (ℕ × Message E)) (sites : Sites)
    (state : State (Message E)) : Prop where
  sound : sites.source.Sound
  source : ∀ ident, state.source ident = (link.reads sites.source ident).toOption
  opened : sites.inTransaction = state.inTransaction
  idle : state.inTransaction = false → sites.destination.Idle ∧ state.pending = []
  committed : ∃ archive, Holds sites.destination.closed archive ∧
    Appends stored state.committed archive

/-- The destination shows the messages that wait for COMMIT, and nothing else. -/
structure InStep (link : Link) (stored : List (ℕ × Message E)) (sites : Sites)
    (state : State (Message E)) : Prop extends Mirrored link stored sites state where
  shown : ∃ archive, Holds sites.destination.shown archive ∧
    Appends stored (state.committed ++ state.pending) archive

variable {stored : List (ℕ × Message E)} {sites : Sites} {state : State (Message E)}
  {performed : Nat}

theorem Mirrored.counted (mirrored : Mirrored link stored sites state) {after : Sites}
    (source : after.source = sites.source) (destination : after.destination = sites.destination)
    (inTransaction : after.inTransaction = sites.inTransaction) :
    Mirrored link stored after state.settle := by
  cases after
  subst source destination inTransaction
  exact ⟨mirrored.sound, mirrored.source, mirrored.opened, mirrored.idle, mirrored.committed⟩

/-- The operations that touch neither database. -/
theorem InStep.counted (inStep : InStep link stored sites state) {after : Sites}
    (source : after.source = sites.source) (destination : after.destination = sites.destination)
    (inTransaction : after.inTransaction = sites.inTransaction) :
    InStep link stored after state.settle := by
  have mirrored := inStep.toMirrored.counted source destination inTransaction
  cases after
  subst source destination inTransaction
  exact ⟨mirrored, inStep.shown⟩

omit [Librequiem E] [∀ kind, Inhabited (E kind)] in
theorem Appends.append {messages : List (Nat × Message E)} {archive : MessageArchive E}
    (appends : Appends stored messages archive) (ident : Nat) (message : Message E) :
    Appends stored (messages ++ [(ident, message)]) (archive.file message) := by
  rcases appends with ⟨added, entries, same⟩
  refine ⟨added ++ [(archive.next message.table, message)], ?_, ?_⟩
  · rw [← List.append_assoc, ← entries]
    rfl
  · simp [same]

omit [∀ kind, Inhabited (E kind)] in
/-- Idents are lost, and no row changes. -/
theorem exists_holds_skip {store : Store} (after : Store) {messages : List (Nat × Message E)}
    (held : ∃ archive, Holds store archive ∧ Appends stored messages archive)
    (idle : after.Idle) (committed : after.committed = store.committed)
    (grows : ∀ table, store.next table ≤ after.next table) :
    ∃ archive, Holds after archive ∧ Appends stored messages archive := by
  rcases held with ⟨archive, holds, appends⟩
  refine ⟨archive.skip after.next fun kind => holds.next ▸ grows kind, ?_, appends⟩
  exact ⟨idle, committed.trans holds.committed, rfl⟩

omit [∀ kind, Inhabited (E kind)] in
/-- A message is filed behind the others. -/
theorem exists_holds_file {store : Store} (after : Store) {messages : List (Nat × Message E)}
    (held : ∃ archive, Holds store archive ∧ Appends stored messages archive) (ident : Nat)
    (message : Message E) (idle : after.Idle)
    (committed : after.committed =
      store.committed ++ storedRows (store.next message.table, message))
    (next : after.next = store.advanced message.table) :
    ∃ archive, Holds after archive ∧ Appends stored (messages ++ [(ident, message)]) archive := by
  rcases held with ⟨archive, holds, appends⟩
  refine ⟨archive.file message, ⟨idle, ?_, ?_⟩, appends.append ident message⟩
  · rw [committed, holds.committed, holds.next, Archive.file, List.flatMap_append,
      List.flatMap_singleton]
  · rw [next, Store.advanced, holds.next]
    rfl

/-- What an insertion leaves: a message in both states, or some of its rows to be rolled back. -/
structure InsertedAt (link : Link) (stored : List (ℕ × Message E)) (state : State (Message E))
    (ident : Nat) (message : Message E) (ret : Int) (after : Sites) : Prop where
  zero : 0 ≤ ret → ret = 0
  inStep : 0 ≤ ret → InStep link stored after (state.settle.insert ident message)
  mirrored : ret < 0 → Mirrored link stored after state.settle

theorem InStep.insert_within (inStep : InStep link stored sites state)
    (noticed : link.destinationFaults.Noticed) (isOpen : sites.inTransaction = true)
    (ident : Nat) (message : Message E) :
    InsertedAt link stored state ident message (sites.insert link message).1
      { sites with
        performed := performed, destination := (sites.insert link message).2 } := by
  have opened := inStep.opened.symm.trans isOpen
  have sound : sites.destination.shown.Sound := inStep.shown.elim fun _ held => held.1.sound
  have filed := filedWithin_classicInsert noticed message sound
  rw [Sites.insert, if_pos isOpen]
  generalize (classicInsert message).run _ sites.destination = result at filed
  have mirrored : ∀ state' : State (Message E), state'.source = state.source →
      state'.inTransaction = true → state'.committed = state.committed →
      Mirrored link stored
        { sites with performed := performed, destination := result.2 } state' := by
    intro state' source inTransaction committed
    refine ⟨inStep.sound, ?_, ?_, ?_, ?_⟩
    · rw [source]
      exact inStep.source
    · exact isOpen.trans inTransaction.symm
    · rw [inTransaction]
      exact fun closed => absurd closed Bool.noConfusion
    · rw [committed]
      exact exists_holds_skip _ inStep.committed rfl filed.committed filed.next_le
  refine ⟨filed.zero, fun succeeded => ⟨?_, ?_⟩, fun _ => mirrored _ rfl opened rfl⟩
  · have inside : state.settle.inTransaction = true := opened
    rw [State.insert, if_pos inside]
    exact mirrored _ rfl opened rfl
  · have inside : state.settle.inTransaction = true := opened
    have shown := exists_holds_file result.2.shown inStep.shown ident message rfl
      (filed.visible succeeded) (filed.next succeeded)
    rw [State.insert, if_pos inside]
    rw [List.append_assoc] at shown
    exact shown

theorem InStep.insert_alone (inStep : InStep link stored sites state)
    (noticed : link.destinationFaults.Noticed) (isClosed : sites.inTransaction = false)
    (ident : Nat) (message : Message E) :
    InsertedAt link stored state ident message (sites.insert link message).1
      { sites with
        performed := performed, destination := (sites.insert link message).2 } := by
  have closed := inStep.opened.symm.trans isClosed
  rcases inStep.idle closed with ⟨idle, nothing⟩
  have sound : sites.destination.Sound :=
    ⟨idle, inStep.committed.elim fun _ held => held.1.sound.entries⟩
  have filed := filed_classicInsert message noticed sound
  have zero := @classicInsert_zero E _ link.destinationFaults message sites.destination
  rw [Sites.insert, if_neg (by rw [isClosed]; exact Bool.false_ne_true)]
  generalize (classicInsert message).run _ sites.destination = result at filed zero
  have shut : ¬ state.settle.inTransaction = true := by
    show ¬ state.inTransaction = true
    rw [closed]
    exact Bool.false_ne_true
  refine ⟨zero, fun succeeded => ?_, fun failed => ?_⟩
  · rcases filed.succeeded succeeded with ⟨committed, next⟩
    rw [State.insert, if_neg shut]
    refine ⟨⟨inStep.sound, inStep.source, inStep.opened, fun _ => ⟨filed.idle, nothing⟩, ?_⟩, ?_⟩
    · exact exists_holds_file _ inStep.committed ident message rfl committed next
    · have shown := exists_holds_file result.2.shown inStep.committed ident message rfl
        ((filed.idle : result.2.visible = _).trans committed) next
      show ∃ archive, _ ∧ Appends stored (_ ++ state.pending) archive
      rw [nothing, List.append_nil]
      exact shown
  · refine ⟨inStep.sound, inStep.source, inStep.opened, fun _ => ⟨filed.idle, nothing⟩, ?_⟩
    exact exists_holds_skip _ inStep.committed rfl (filed.failed failed) filed.next_le

/-- An operation on the databases, and the same operation under an oracle. -/
structure Step (link : Link) (stored : List (ℕ × Message E)) (oracle : Nat → Fate)
    (op : Op (Message E)) (sites : Sites) (state : State (Message E)) : Prop where
  reply : (environment oracle op state).1 = (sitesEnvironment link op sites).1
  mirrored : Mirrored link stored (sitesEnvironment link op sites).2
    (environment oracle op state).2
  inStep : Succeeds op (sitesEnvironment link op sites).1 →
    InStep link stored (sitesEnvironment link op sites).2 (environment oracle op state).2

variable {oracle : Nat → Fate} {op : Op (Message E)}

theorem Step.of_inStep
    (reply : (environment oracle op state).1 = (sitesEnvironment link op sites).1)
    (inStep : InStep link stored (sitesEnvironment link op sites).2
      (environment oracle op state).2) : Step link stored oracle op sites state :=
  ⟨reply, inStep.toMirrored, fun _ => inStep⟩

theorem InStep.fetchIdents (inStep : InStep link stored sites state) {limit offset : Int}
    (isFate : oracle state.settled =
      Fate.ofReply (.fetchIdents limit offset : Op (Message E))
        (link.listing sites.performed limit offset sites.source)) :
    Step link stored oracle (.fetchIdents limit offset) sites state := by
  refine .of_inStep ?_ (inStep.counted rfl rfl rfl)
  simp only [environment, sitesEnvironment, isFate]
  cases link.listing sites.performed limit offset sites.source <;> rfl

theorem InStep.getMessage (inStep : InStep link stored sites state) {ident : Nat}
    (isFate : oracle state.settled = Fate.ofReply (.getMessage ident : Op (Message E))
      ((link.unread sites.performed).elim (link.reads sites.source ident) .error)) :
    Step link stored oracle (.getMessage ident) sites state := by
  refine .of_inStep ?_ (inStep.counted rfl rfl rfl)
  have source := inStep.source ident
  simp only [environment, sitesEnvironment, isFate]
  cases reads : (link.unread sites.performed).elim
      (link.reads sites.source ident : Except ErrorCode (Message E)) .error with
  | error error => rfl
  | ok message =>
      have isRead : link.reads sites.source ident = .ok message := by
        cases unread : link.unread sites.performed with
        | none => rwa [unread] at reads
        | some error =>
            rw [unread] at reads
            cases reads
      rw [source, isRead]
      rfl

theorem InStep.insertMessage (inStep : InStep link stored sites state)
    (noticed : link.destinationFaults.Noticed) {ident : Nat} {message : Message E}
    (isFate : oracle state.settled =
      Fate.ofReply (.insertMessage ident message) (sites.insert link message).1) :
    Step link stored oracle (.insertMessage ident message) sites state := by
  have inserted : InsertedAt link stored state ident message (sites.insert link message).1
      { sites with
        performed := sites.performed + 1, destination := (sites.insert link message).2 } := by
    rcases Bool.eq_false_or_eq_true sites.inTransaction with isOpen | isClosed
    · exact inStep.insert_within noticed isOpen ident message
    · exact inStep.insert_alone noticed isClosed ident message
  rcases Int.lt_or_le (sites.insert link message).1 0 with negative | succeeded
  · have error : errorOf (sites.insert link message).1 = some ⟨_, negative⟩ := dif_pos negative
    simp only [Fate.ofReply, error] at isFate
    refine ⟨?_, ?_, fun succeeded => absurd negative (Int.not_lt.mpr succeeded)⟩
    · simp only [environment, sitesEnvironment, isFate]
      rfl
    · simp only [environment, sitesEnvironment, isFate]
      exact inserted.mirrored negative
  · have error : errorOf (sites.insert link message).1 = none := errorOf_eq_none.mpr succeeded
    simp only [Fate.ofReply, error] at isFate
    refine .of_inStep ?_ ?_
    · simp only [environment, sitesEnvironment, isFate]
      exact (inserted.zero succeeded).symm
    · simp only [environment, sitesEnvironment, isFate]
      exact inserted.inStep succeeded

theorem InStep.deleteFromList (inStep : InStep link stored sites state) {idents : List Nat}
    (isFate : oracle state.settled = Fate.ofReply (.deleteFromList idents : Op (Message E))
      (link.deletes E idents sites.source).1) :
    Step link stored oracle (.deleteFromList idents) sites state := by
  have answer := deletes_answer (E := E) link idents sites.source
  rcases deletes_spared (E := E) link idents inStep.sound with ⟨queries, deleted, _⟩
  have sound := deleted.sound inStep.sound
  have reads := deletes_reads (E := E) link idents inStep.sound
  simp only [Fate.ofReply] at isFate
  have source : ∀ source : Nat → Option (Message E),
      (∀ ident, source ident = (link.reads (link.deletes E idents sites.source).2 ident).toOption) →
      InStep link stored
        { sites with
          source := (link.deletes E idents sites.source).2, performed := sites.performed + 1 }
        { state.settle with source := source } := fun _ isSource =>
    ⟨⟨sound, isSource, inStep.opened, inStep.idle, inStep.committed⟩, inStep.shown⟩
  refine .of_inStep ?_ ?_
  · simp only [environment, sitesEnvironment, isFate]
    exact answer
  · rcases Int.lt_or_le (link.deletes E idents sites.source).1 0 with negative | succeeded
    · have error : errorOf (link.deletes E idents sites.source).1 = some ⟨_, negative⟩ :=
        dif_pos negative
      simp only [environment, sitesEnvironment, isFate, error]
      refine source state.source fun ident => ?_
      rw [reads, if_neg fun gone => absurd gone.1 (Int.not_le.mpr negative)]
      exact inStep.source ident
    · have error : errorOf (link.deletes E idents sites.source).1 = none :=
        errorOf_eq_none.mpr succeeded
      simp only [environment, sitesEnvironment, isFate, error]
      refine source (state.delete idents).source fun ident => ?_
      rw [reads, State.delete]
      exact if_congr (by simp [succeeded]) rfl (inStep.source ident)

/-- Without an open transaction the destination shows what is committed. -/
theorem Mirrored.closed (mirrored : Mirrored link stored sites state)
    (after : State (Message E)) (source : after.source = state.source)
    (committed : after.committed = state.committed) (nothing : after.pending = []) :
    InStep link stored
      { sites with
        destination := sites.destination.closed
        inTransaction := after.inTransaction
        performed := performed } after := by
  refine ⟨⟨mirrored.sound, ?_, rfl, fun _ => ⟨rfl, nothing⟩, ?_⟩, ?_⟩
  · rw [source]
    exact mirrored.source
  · rw [committed]
    exact mirrored.committed
  · rw [committed, nothing, List.append_nil]
    exact mirrored.committed

theorem InStep.commit (inStep : InStep link stored sites state) :
    InStep link stored
      { sites with
        destination := sites.destination.shown.closed
        inTransaction := false
        performed := performed } state.settle.commit := by
  have committed := exists_holds_skip sites.destination.shown.closed inStep.shown rfl
    rfl fun _ => Nat.le_refl _
  refine ⟨⟨inStep.sound, inStep.source, rfl, fun _ => ⟨rfl, rfl⟩, committed⟩, ?_⟩
  rw [State.commit, List.append_nil]
  exact committed

section Transactions

variable (faults : Faults) (store : Store)

theorem environment_transactionEnd :
    RequiemDB.environment faults .transactionEnd store =
      match faults .transactionEnd store.sent with
      | none => (0, store.shown.closed)
      | some error => (error.code, store.closed) := rfl

theorem environment_transactionAbort :
    RequiemDB.environment faults .transactionAbort store =
      ((faults .transactionAbort store.sent).elim 0 ErrorCode.code, store.closed) := by
  cases fault : faults .transactionAbort store.sent with
  | none => exact environment_of_accepted fault
  | some error => exact environment_of_refused fault

end Transactions

theorem InStep.transactionStart (inStep : InStep link stored sites state)
    (isFate : oracle state.settled = Fate.ofReply (.transactionStart : Op (Message E))
      (sitesEnvironment link (.transactionStart : Op (Message E)) sites).1) :
    Step link stored oracle .transactionStart sites state := by
  rcases Bool.eq_false_or_eq_true sites.inTransaction with isOpen | isClosed
  · have opened := inStep.opened.symm.trans isOpen
    refine .of_inStep ?_ ?_
    · simp only [environment, sitesEnvironment, isOpen, opened, if_true]
    · simp only [environment, sitesEnvironment, isOpen, opened, if_true]
      exact inStep.counted rfl rfl isOpen.symm
  · have closed := inStep.opened.symm.trans isClosed
    rcases inStep.idle closed with ⟨idle, nothing⟩
    cases fault : link.destinationFaults .transactionStart sites.destination.sent with
    | none =>
        have begun : RequiemDB.environment link.destinationFaults .transactionStart
            sites.destination = (0, sites.destination.closed) := environment_of_accepted fault
        simp only [sitesEnvironment, isClosed, Bool.false_eq_true, if_false, begun,
          Fate.ofReply] at isFate
        refine .of_inStep ?_ ?_
        · simp only [environment, sitesEnvironment, isClosed, closed, begun, isFate]
          rfl
        · simp only [environment, sitesEnvironment, isClosed, closed, begun, isFate]
          exact inStep.toMirrored.closed state.settle.begin rfl rfl rfl
    | some error =>
        have refused : RequiemDB.environment link.destinationFaults .transactionStart
            sites.destination = (error.code, sites.destination) := environment_of_refused fault
        have isError : errorOf error.code = some error := dif_pos error.negative
        simp only [sitesEnvironment, isClosed, Bool.false_eq_true, if_false, refused,
          Fate.ofReply, isError] at isFate
        have notBegun : decide (0 ≤ error.code) = false :=
          decide_eq_false (Int.not_le.mpr error.negative)
        refine .of_inStep ?_ ?_
        · simp only [environment, sitesEnvironment, isClosed, closed, refused, isFate]
          rfl
        · simp only [environment, sitesEnvironment, isClosed, closed, refused, isFate, notBegun]
          exact inStep.counted rfl rfl isClosed.symm

theorem InStep.transactionEnd (inStep : InStep link stored sites state)
    (isFate : oracle state.settled = Fate.ofReply (.transactionEnd : Op (Message E))
      (sitesEnvironment link (.transactionEnd : Op (Message E)) sites).1) :
    Step link stored oracle .transactionEnd sites state := by
  rcases Bool.eq_false_or_eq_true sites.inTransaction with isOpen | isClosed
  · have opened := inStep.opened.symm.trans isOpen
    have ends := environment_transactionEnd link.destinationFaults sites.destination
    cases fault : link.destinationFaults .transactionEnd sites.destination.sent with
    | none =>
        simp only [fault] at ends
        simp only [sitesEnvironment, isOpen, if_true, ends, Fate.ofReply] at isFate
        refine .of_inStep ?_ ?_
        · simp only [environment, sitesEnvironment, isOpen, opened, ends, isFate]
          rfl
        · simp only [environment, sitesEnvironment, isOpen, opened, ends, isFate]
          exact inStep.commit
    | some error =>
        have isError : errorOf error.code = some error := dif_pos error.negative
        simp only [fault] at ends
        simp only [sitesEnvironment, isOpen, if_true, ends, Fate.ofReply, isError] at isFate
        refine .of_inStep ?_ ?_
        · simp only [environment, sitesEnvironment, isOpen, opened, ends, isFate]
          rfl
        · simp only [environment, sitesEnvironment, isOpen, opened, ends, isFate]
          exact inStep.toMirrored.closed state.settle.rollback rfl rfl rfl
  · have closed := inStep.opened.symm.trans isClosed
    refine .of_inStep ?_ ?_
    · simp only [environment, sitesEnvironment, isClosed, closed, Bool.false_eq_true, if_false]
    · simp only [environment, sitesEnvironment, isClosed, closed, Bool.false_eq_true, if_false]
      exact inStep.counted rfl rfl isClosed.symm

/-- The abort of a transaction, whatever it shows. -/
theorem Mirrored.transactionAbort (mirrored : Mirrored link stored sites state)
    (isFate : oracle state.settled = Fate.ofReply (.transactionAbort : Op (Message E))
      (sitesEnvironment link (.transactionAbort : Op (Message E)) sites).1) :
    (environment oracle .transactionAbort state).1 =
        (sitesEnvironment link (.transactionAbort : Op (Message E)) sites).1 ∧
      Mirrored link stored (sitesEnvironment link (.transactionAbort : Op (Message E)) sites).2
        (environment oracle .transactionAbort state).2 ∧
      (InStep link stored sites state →
        InStep link stored (sitesEnvironment link (.transactionAbort : Op (Message E)) sites).2
          (environment oracle .transactionAbort state).2) := by
  rcases Bool.eq_false_or_eq_true sites.inTransaction with isOpen | isClosed
  · have opened := mirrored.opened.symm.trans isOpen
    have aborts := environment_transactionAbort link.destinationFaults sites.destination
    have behind : InStep link stored
        { sites with
          destination := sites.destination.closed
          inTransaction := false
          performed := sites.performed + 1 } state.settle.rollback :=
      mirrored.closed state.settle.rollback rfl rfl rfl
    simp only [sitesEnvironment, isOpen, if_true, aborts, Fate.ofReply] at isFate
    simp only [environment, sitesEnvironment, isOpen, opened, if_true, aborts, isFate]
    refine ⟨?_, behind.toMirrored, fun _ => behind⟩
    cases link.destinationFaults .transactionAbort sites.destination.sent with
    | none => rfl
    | some error =>
        have isError : errorOf error.code = some error := dif_pos error.negative
        simp only [Option.elim_some, isError]
        rfl
  · have closed := mirrored.opened.symm.trans isClosed
    simp only [environment, sitesEnvironment, isClosed, closed, Bool.false_eq_true, if_false]
    exact ⟨trivial, mirrored.counted rfl rfl isClosed.symm,
      fun inStep => inStep.counted rfl rfl isClosed.symm⟩

/-- Every operation has a fate under which the databases and the states stay in step. -/
theorem InStep.step (inStep : InStep link stored sites state)
    (noticed : link.destinationFaults.Noticed) (op : Op (Message E))
    (isFate : oracle state.settled = Fate.ofReply op (sitesEnvironment link op sites).1) :
    Step link stored oracle op sites state := by
  cases op with
  | fetchIdents limit offset => exact inStep.fetchIdents isFate
  | getMessage ident => exact inStep.getMessage isFate
  | insertMessage ident message => exact inStep.insertMessage noticed isFate
  | recordIdent index ident => exact .of_inStep rfl (inStep.counted rfl rfl rfl)
  | deleteFromList idents => exact inStep.deleteFromList isFate
  | transactionStart => exact inStep.transactionStart isFate
  | transactionEnd => exact inStep.transactionEnd isFate
  | transactionAbort =>
      rcases inStep.toMirrored.transactionAbort isFate with ⟨reply, _, keeps⟩
      exact .of_inStep reply (keeps inStep)
  | stopProcessing =>
      refine .of_inStep ?_ (inStep.counted rfl rfl rfl)
      simp only [environment, isFate]
      rfl

end Coupling

end RequiemDB.Admin
