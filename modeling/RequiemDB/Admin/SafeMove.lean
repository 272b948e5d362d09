import RequiemDB.Admin.Mirror
import RequiemDB.Admin.Requested

/-!
# A move between two databases loses no message

Behind an insertion that fails the command does nothing more than abort its transaction. Its
runs on two databases are therefore runs of `Admin.Move`, which are safe as long as COMMIT
succeeds and the table of idents has room. With up to 1023 events in a transaction it has.
-/

namespace RequiemDB.Admin

open Lib

section Functions

variable {M : Type} (options : Options)

/-- Nothing but the abort of the transaction is left to do, and the command fails. -/
def Aborting : Command M (Int × Counters) → Prop
  | .done answer => answer.1 < 0
  | .perform op next => op = .transactionAbort ∧
      ∀ reply, ∃ answer : Int × Counters, answer.1 < 0 ∧ next reply = .done answer

/-- The command fails at once behind a message that it cannot read or insert. -/
abbrev Careful (program : Command M (Int × Counters)) : Prop :=
  Program.Careful Succeeds Aborting program

variable {failed : Command M (Int × Counters) → Prop}

theorem careful_flush {counters : Counters} {increment : Nat}
    {rest : Counters → Command M (Int × Counters)}
    (careful : ∀ counters, Program.Careful Succeeds failed (rest counters)) :
    Program.Careful Succeeds failed (flushTransactionIfNeeded options counters increment rest) := by
  simp only [flushTransactionIfNeeded]
  split
  · exact careful counters
  · split
    · refine Program.careful_perform (fun _ => trivial) fun _ => ?_
      exact Program.careful_perform (fun _ => trivial) fun _ => careful _
    · exact careful _

theorem careful_transactionEnd (ret : Int) (counters : Counters) :
    Program.Careful Succeeds failed (transactionEnd options ret counters) := by
  rw [transactionEnd]
  split
  · split <;> exact Program.careful_perform (fun _ => trivial) fun _ => trivial
  · trivial

theorem aborting_transactionEnd {ret : Int} (negative : ret < 0) (counters : Counters) :
    Aborting (transactionEnd options ret counters : Command M _) := by
  rw [transactionEnd]
  simp only [if_pos negative]
  split
  · exact ⟨rfl, fun _ => ⟨_, negative, rfl⟩⟩
  · exact negative

theorem endsAtFailure_copyIterate (idents : List Nat) (last : Int) (table : List Nat)
    (counters : Counters) :
    Program.EndsAtFailure Succeeds (fun answer : Int × Counters => answer.1 < 0)
      (copyIterate options idents last table counters : Command M _) := by
  induction idents generalizing table counters with
  | nil =>
      refine careful_flush options fun counters => ?_
      split
      · trivial
      · exact Program.careful_perform (fun _ => trivial) fun _ => trivial
  | cons ident idents ih =>
      intro answer
      cases answer with
      | error error =>
          refine ⟨?_, fun _ => ⟨(error.code, counters), error.negative, rfl⟩⟩
          rintro ⟨message, isMessage⟩
          cases isMessage
      | ok message =>
          refine ⟨fun _ ret => ?_, fun failing => absurd ⟨message, rfl⟩ failing⟩
          constructor
          · intro succeeds
            have notNegative : ¬ ret < 0 := Int.not_lt.mpr succeeds
            simp only [if_neg notNegative]
            split
            · refine Program.careful_perform (fun _ => trivial) fun _ => ?_
              split
              · refine Program.careful_perform (fun _ => trivial) fun count => ?_
                split
                · exact ih _ _
                · exact careful_flush options fun counters => ih _ _
              · exact careful_flush options fun counters => ih _ _
            · exact careful_flush options fun counters => ih _ _
          · intro failing
            have negative : ret < 0 := Int.not_le.mp failing
            simp only [if_pos negative]
            exact ⟨(ret, counters), negative, rfl⟩

theorem careful_copyRounds (rounds : Nat) (counters : Counters) :
    Careful (copyRounds options rounds counters : Command M _) := by
  induction rounds generalizing counters with
  | zero => trivial
  | succ rounds ih =>
      refine Program.careful_perform (fun _ => trivial) fun answer => ?_
      cases answer with
      | error error => exact careful_transactionEnd options _ _
      | ok batch =>
          simp only
          split
          · exact careful_transactionEnd options _ _
          · refine Program.careful_bind (endsAtFailure_copyIterate options _ _ _ _) ?_ ?_
            · rintro ⟨ret, counters⟩
              show Careful (if ret < 0 then _ else _)
              split
              · exact careful_transactionEnd options _ _
              · refine Program.careful_perform (fun _ => trivial) fun stop => ?_
                split
                · exact careful_transactionEnd options _ _
                · exact ih _
            · rintro ⟨ret, counters⟩ negative
              show Aborting (if ret < 0 then _ else _)
              rw [if_pos negative]
              exact aborting_transactionEnd options negative counters

theorem careful_doCmdCopyMove (rounds : Nat) (limit : Int) :
    Careful (doCmdCopyMove options rounds limit : Command M _) := by
  rw [doCmdCopyMove, transactionStart]
  split
  · exact Program.careful_perform (fun _ => trivial) fun _ => careful_copyRounds options _ _
  · exact careful_copyRounds options _ _

/-- A write to `delete_tbl` behind which another one still fits. -/
def LeavesRoom : Op M → Prop
  | .recordIdent index _ => index + 1 < deleteTableSize
  | _ => True

/-- A query for idents answers no more of them than it is asked for. -/
def KeepsLimit : (op : Op M) → Reply op → Prop
  | .fetchIdents limit _, answer => 0 ≤ limit → ∀ batch, answer = .ok batch →
      batch.idents.length ≤ limit
  | _, _ => True

/-- Only programs with room in the table. -/
abbrev HasRoom (program : Command M (Int × Counters)) : Prop :=
  Program.Only LeavesRoom KeepsLimit program

theorem hasRoom_flush {counters : Counters} {increment : Nat}
    {rest : Counters → Command M (Int × Counters)} (room : ∀ counters, HasRoom (rest counters)) :
    HasRoom (flushTransactionIfNeeded options counters increment rest) := by
  simp only [flushTransactionIfNeeded]
  split
  · exact room counters
  · split
    · exact ⟨trivial, fun _ _ => ⟨trivial, fun _ _ => room _⟩⟩
    · exact room _

theorem hasRoom_transactionEnd (ret : Int) (counters : Counters) :
    HasRoom (transactionEnd options ret counters : Command M _) := by
  rw [transactionEnd]
  split
  · split <;> exact ⟨trivial, fun _ _ => trivial⟩
  · trivial

/-- A batch of fewer than 1024 idents fits into the table. -/
theorem hasRoom_copyIterate (idents : List Nat) (last : Int) (table : List Nat)
    (counters : Counters) (fits : table.length + idents.length < deleteTableSize) :
    HasRoom (copyIterate options idents last table counters : Command M _) := by
  induction idents generalizing table counters with
  | nil =>
      refine hasRoom_flush options fun counters => ?_
      split
      · trivial
      · exact ⟨trivial, fun _ _ => trivial⟩
  | cons ident idents ih =>
      rw [List.length_cons] at fits
      refine ⟨trivial, fun message _ => ?_⟩
      cases message with
      | error error => trivial
      | ok message =>
          refine ⟨trivial, fun ret _ => ?_⟩
          have grown : (table ++ [ident]).length + idents.length < deleteTableSize := by
            rw [List.length_append, List.length_singleton]
            omega
          dsimp only
          split
          · trivial
          · split
            · have room : table.length + 1 < deleteTableSize := by omega
              refine ⟨room, fun _ _ => ?_⟩
              dsimp only
              split
              · refine ⟨trivial, fun count _ => ?_⟩
                dsimp only
                split
                · exact ih _ _ grown
                · refine hasRoom_flush options fun counters => ih _ _ ?_
                  rw [List.length_nil]
                  omega
              · exact hasRoom_flush options fun counters => ih _ _ grown
            · exact hasRoom_flush options fun counters => ih _ _ (by omega)

theorem hasRoom_copyRounds (small : options.eventsPerTransaction < deleteTableSize)
    (rounds : Nat) (counters : Counters) :
    HasRoom (copyRounds options rounds counters : Command M _) := by
  induction rounds generalizing counters with
  | zero => trivial
  | succ rounds ih =>
      refine ⟨trivial, fun answer keepsLimit => ?_⟩
      cases answer with
      | error error => exact hasRoom_transactionEnd options _ _
      | ok batch =>
          rw [deleteTableSize] at small
          have few : batch.idents.length ≤ options.eventsPerTransaction := by
            have inRange : ∀ asked : Int, 0 ≤ asked → asked ≤ options.eventsPerTransaction →
                (0 ≤ toCInt asked → ∀ answer : Batch, (.ok batch : Except ErrorCode Batch) =
                  .ok answer → answer.idents.length ≤ toCInt asked) →
                batch.idents.length ≤ options.eventsPerTransaction := by
              intro asked lower upper keeps
              rw [toCInt_of_range lower (by omega)] at keeps
              have few := keeps lower batch rfl
              omega
            refine inRange _ ?_ ?_ keepsLimit
            · split <;> omega
            · split <;> omega
          simp only
          split
          · exact hasRoom_transactionEnd options _ _
          · refine Program.only_bind (hasRoom_copyIterate options _ _ _ _ ?_) ?_
            · rw [List.length_nil, deleteTableSize]
              omega
            · rintro ⟨ret, counters⟩
              show HasRoom (if ret < 0 then _ else _)
              split
              · exact hasRoom_transactionEnd options _ _
              · refine ⟨trivial, fun stop _ => ?_⟩
                dsimp only
                split
                · exact hasRoom_transactionEnd options _ _
                · exact ih _

theorem hasRoom_doCmdCopyMove (small : options.eventsPerTransaction < deleteTableSize)
    (rounds : Nat) (limit : Int) :
    HasRoom (doCmdCopyMove options rounds limit : Command M _) := by
  rw [doCmdCopyMove, transactionStart]
  split
  · exact ⟨trivial, fun _ _ => hasRoom_copyRounds options small rounds _⟩
  · exact hasRoom_copyRounds options small rounds _

end Functions

section Runs

variable {M : Type} {options : Options}

/-- The command keeps every message safe from the start on. -/
theorem keeps_doCmdCopyMove (positive : 1 ≤ options.eventsPerTransaction) (rounds : Nat)
    (limit : Int) (oracle : Nat → Fate) (source : Nat → Option M) :
    Keeps source options oracle (doCmdCopyMove options rounds limit) (State.start source []) := by
  have core : Core source [] (State.start source []) :=
    ⟨fun _ _ isInitial => .inl isInitial, fun _ _ present => present,
      fun _ absent => absurd absent List.not_mem_nil, fun _ => rfl⟩
  rw [doCmdCopyMove, transactionStart]
  split
  · have begun : (environment oracle .transactionStart (State.start source [])).2 =
        if (oracle 0).error = none then (State.start source []).settle.begin
        else (State.start source []).settle := rfl
    refine keeps_perform core.safe fun _ => keeps_copyRounds ?_
    rw [begun]
    split
    · exact ⟨core.settle.begin rfl, Nat.zero_le _, positive⟩
    · exact ⟨core.settle, Nat.zero_le _, positive⟩
  · exact keeps_copyRounds ⟨core, Nat.zero_le _, positive⟩

variable {E : EnumKind → Type} [Librequiem E] [∀ kind, Inhabited (E kind)]

/-- The COMMIT of a transaction of the command succeeds. -/
def Commits (link : Link) (op : Op (Message E)) (sites : Sites) : Prop :=
  op = .transactionEnd → sites.inTransaction = true →
    link.destinationFaults .transactionEnd sites.destination.sent = none

/-- What is left of the program is coupled with the databases and the abstract state. -/
def Coupled (link : Link) (stored : List (ℕ × Message E))
    (program : Command (Message E) (Int × Counters)) (sites : Sites)
    (state : State (Message E)) : Prop :=
  (Careful program ∧ InStep link stored sites state) ∨
    (Aborting program ∧ Mirrored link stored sites state)

theorem Coupled.mirrored {link : Link} {stored : List (ℕ × Message E)}
    {program : Command (Message E) (Int × Counters)} {sites : Sites} {state : State (Message E)}
    (coupled : Coupled link stored program sites state) : Mirrored link stored sites state := by
  rcases coupled with ⟨_, inStep⟩ | ⟨_, mirrored⟩
  · exact inStep.toMirrored
  · exact mirrored

theorem couples {link : Link} (noticed : link.destinationFaults.Noticed)
    (stored : List (ℕ × Message E)) :
    Program.Couples (sitesEnvironment link) environment State.settled
      (fun op sites => LeavesRoom op ∧ Commits link op sites)
      (fun fate => Allowed fun _ => fate) (Coupled link stored) := by
  constructor
  rintro op next sites state (⟨careful, inStep⟩ | ⟨⟨rfl, ends⟩, mirrored⟩)
  · refine ⟨Fate.ofReply op (sitesEnvironment link op sites).1, fun oracle isFate => ?_⟩
    have step := inStep.step noticed op isFate
    refine ⟨step.reply, ?_, ?_⟩
    · rcases careful (sitesEnvironment link op sites).1 with ⟨goesOn, failing⟩
      by_cases succeeds : Succeeds op (sitesEnvironment link op sites).1
      · exact .inl ⟨goesOn succeeds, step.inStep succeeds⟩
      · exact .inr ⟨failing succeeds, step.mirrored⟩
    · rintro ⟨room, commits⟩
      cases op with
      | recordIdent index ident => exact ⟨Nat.lt_of_succ_lt room, fun _ => room⟩
      | transactionEnd =>
          intro opened _
          have isOpen := inStep.opened.trans opened
          have ends := environment_transactionEnd link.destinationFaults sites.destination
          rw [commits rfl isOpen] at ends
          simp only [sitesEnvironment, isOpen, if_true, ends]
          rfl
      | _ => trivial
  · refine ⟨Fate.ofReply .transactionAbort
      (sitesEnvironment link (.transactionAbort : Op (Message E)) sites).1, fun oracle isFate => ?_⟩
    rcases mirrored.transactionAbort isFate with ⟨reply, after, _⟩
    rcases ends (sitesEnvironment link (.transactionAbort : Op (Message E)) sites).1 with
      ⟨answer, negative, isDone⟩
    exact ⟨reply, .inr ⟨isDone ▸ negative, after⟩, fun _ => trivial⟩

section Kept

variable (E)

/-- What could be read in the destination is read there as before, after the connection ends. -/
def Untouched (link : Link) (before after : Sites) : Prop :=
  ∀ kind ident read, (classicGet link.unassigned kind ident : Get (MessageRead E)).read
      link.retrieval before.destination = .ok read →
    (classicGet link.unassigned kind ident).read link.retrieval after.destination.closed = .ok read

/-- A message of the source is still there, or the destination has it as it stores messages. -/
def Kept (link : Link) (before after : Sites) : Prop :=
  ∀ ident (message : Message E), link.reads before.source ident = .ok message →
    link.reads after.source ident = .ok message ∨
      ∃ copy, (classicGet link.unassigned message.table copy).read link.retrieval
        after.destination.closed = message.returned link.retrieval link.unassigned

variable {E}

theorem Mirrored.kept {link : Link} (names : link.retrieval.emptyIsNull → NamesGiven E)
    {stored : List (ℕ × Message E)} {before after : Sites} {state : State (Message E)}
    (mirrored : Mirrored link stored after state)
    (safe : Safe (fun ident => (link.reads before.source ident).toOption) state) :
    Kept E link before after := by
  intro ident message isRead
  rcases safe ident message (by simp [isRead, Except.toOption]) with present | committed
  · left
    rw [mirrored.source] at present
    cases reads : (link.reads after.source ident : Except ErrorCode (Message E)) with
    | error error => simp [reads, Except.toOption] at present
    | ok other =>
        rw [reads] at present
        exact congrArg Except.ok (Option.some.inj present)
  · right
    rcases mirrored.committed with ⟨archive, holds, added, entries, same⟩
    have among : message ∈ added.map Prod.snd := same ▸ List.mem_map_of_mem committed
    rcases List.mem_map.mp among with ⟨⟨copy, _⟩, present, rfl⟩
    have found := archive.find_eq_some_iff.mpr ⟨rfl, entries ▸ List.mem_append_right _ present⟩
    refine ⟨copy, ?_⟩
    rw [holds.read names, found]
    rfl

theorem Mirrored.untouched {link : Link} (names : link.retrieval.emptyIsNull → NamesGiven E)
    {archive : MessageArchive E} {before after : Sites} {state : State (Message E)}
    (mirrored : Mirrored link archive.entries after state)
    (holds : Holds before.destination archive) : Untouched E link before after := by
  intro kind ident read isRead
  rcases mirrored.committed with ⟨later, holdsLater, added, entries, _⟩
  rw [holds.read names] at isRead
  cases found : archive.find kind ident with
  | none =>
      rw [found] at isRead
      cases isRead
  | some message =>
      rcases archive.find_eq_some_iff.mp found with ⟨ofKind, present⟩
      have still := later.find_eq_some_iff.mpr
        ⟨ofKind, entries ▸ List.mem_append_left added present⟩
      rw [found] at isRead
      rw [holdsLater.read names, still]
      exact isRead

end Kept

/--
A copy or a move between two databases of the plugin, with up to 1023 events in a transaction,
keeps every message: at every point, whatever fails but the COMMIT of a transaction of the
command, a message that could be read in the source can be read there, or in the destination
once the connection is closed. Nothing that was in the destination changes.
-/
theorem copyMove_keeps_messages {link : Link} (names : link.retrieval.emptyIsNull → NamesGiven E)
    (noticed : link.destinationFaults.Noticed) (positive : 1 ≤ options.eventsPerTransaction)
    (small : options.eventsPerTransaction < deleteTableSize) (rounds : Nat) (limit : Int)
    {sites : Sites} (reached : Reached E sites.source) {archive : MessageArchive E}
    (holds : Holds sites.destination archive) (closed : sites.inTransaction = false)
    (keepsLimit : ∀ performed limit offset store batch, 0 ≤ limit →
      link.listing performed limit offset store = .ok batch → batch.idents.length ≤ limit)
    (commits : (doCmdCopyMove options rounds limit).Along (sitesEnvironment link)
      (Commits (E := E) link) sites) :
    let command : Command (Message E) (Int × Counters) := doCmdCopyMove options rounds limit
    let fine := fun after => Kept E link sites after ∧ Untouched E link sites after
    command.Along (sitesEnvironment link) (fun _ => fine) sites ∧
      fine (command.run (sitesEnvironment link) sites).2 := by
  intro command fine
  let source : Nat → Option (Message E) := fun ident => (link.reads sites.source ident).toOption
  have committed : ∃ later : MessageArchive E, Holds sites.destination.closed later ∧
      Appends archive.entries ([] : List (Nat × Message E)) later :=
    ⟨archive, ⟨rfl, holds.committed, holds.next⟩, [], (List.append_nil _).symm, rfl⟩
  have shown : ∃ later : MessageArchive E, Holds sites.destination.shown later ∧
      Appends archive.entries ([] : List (Nat × Message E)) later :=
    ⟨archive, ⟨rfl, holds.idle.trans holds.committed, holds.next⟩, [],
      (List.append_nil _).symm, rfl⟩
  have inStep : InStep link archive.entries sites (State.start source []) :=
    ⟨⟨reached.sound, fun _ => rfl, closed, fun _ => ⟨holds.idle, rfl⟩, committed⟩, shown⟩
  have coupled : Coupled link archive.entries command sites (State.start source []) :=
    .inl ⟨careful_doCmdCopyMove options rounds limit, inStep⟩
  rcases (couples noticed archive.entries).exists_oracle clocked_environment coupled with
    ⟨oracle, simulated⟩
  have keepsLimits : ∀ op sites, KeepsLimit op (sitesEnvironment (E := E) link op sites).1 := by
    intro op sites
    cases op with
    | fetchIdents limit offset => exact fun asked batch => keepsLimit _ _ _ _ batch asked
    | _ => trivial
  have room := (hasRoom_doCmdCopyMove options small rounds limit).along keepsLimits sites
  have allowed : command.Along (environment oracle) (Allowed oracle) (State.start source []) := by
    have isAllowed := simulated.allowed (Program.along_and room commits)
    have same : (fun op later => Allowed (fun _ => oracle (State.settled later)) op later) =
        Allowed (M := Message E) oracle := by
      funext op later
      cases op <;> rfl
    exact same ▸ isAllowed
  rcases keeps_doCmdCopyMove positive rounds limit oracle source allowed with ⟨along, ready⟩
  have isFine : ∀ {program after state}, Coupled link archive.entries program after state →
      Safe source state → fine after := fun isCoupled safe =>
    ⟨isCoupled.mirrored.kept names safe, isCoupled.mirrored.untouched names holds⟩
  exact ⟨simulated.along isFine along, isFine simulated.final ready.core.safe⟩

/-- A database with two alerts. -/
def bareAlerts : Store :=
  (serveCalls .goesOn [(.insert (.alert (Alert.bare TextEnum)), noFaults),
    (.insert (.alert (Alert.bare TextEnum)), noFaults)] (Store.unfilled fun _ => 1)).2

/-- The second insertion into the destination fails. -/
def secondFails : Link where
  kind := .alert
  retrieval := .mysql
  unassigned := 0
  listing := fun _ limit offset store =>
    .ok ⟨(window limit offset (store.idents .alert)).length,
      window limit offset (store.idents .alert), 0, Batch.ended_zero⟩
  unread := fun _ => none
  signalled := fun _ => false
  sourceFaults := noFaults
  destinationFaults := fun op sent =>
    match op with
    | .selectMaxIdent _ => if 2 < sent then some ⟨-1, minusOne_negative⟩ else none
    | _ => none

theorem copyMove_keeps_messages_secondFails :
    let sites : Sites := ⟨bareAlerts, Store.unfilled fun _ => 1, false, 0⟩
    let command : Command (Message TextEnum) (Int × Counters) := doCmdCopyMove defaultMove 2 (-1)
    let fine := fun after =>
      Kept TextEnum secondFails sites after ∧ Untouched TextEnum secondFails sites after
    command.Along (sitesEnvironment secondFails) (fun _ => fine) sites ∧
      fine (command.run (sitesEnvironment secondFails) sites).2 := by
  have reached : Reached TextEnum bareAlerts := (Reached.empty fun _ => 1).serveCalls .goesOn _
  have noticed : secondFails.destinationFaults.Noticed := fun _ _ _ => rfl
  refine copyMove_keeps_messages (names_of_faithful rfl) noticed (by decide) (by decide) 2 (-1)
    reached (holds_unfilled fun _ => 1) rfl ?_ ?_
  · rintro _ limit offset store _ asked ⟨⟩
    show ((window limit offset (store.idents .alert)).length : Int) ≤ limit
    rw [window, if_neg (Int.not_lt.mpr asked)]
    have few := List.length_take_le limit.toNat ((store.idents .alert).drop offset.toNat)
    omega
  · exact Program.along_of_forall (fun _ _ _ _ => rfl) _ _

end Runs

end RequiemDB.Admin
