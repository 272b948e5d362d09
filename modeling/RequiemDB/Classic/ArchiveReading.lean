import RequiemDB.Classic.Archive

/-!
# Reading from the archive

A query of a reader finds rows of the message it asks for only. What is read under an ident
is therefore what the archive holds under it, whatever else has been inserted and deleted.
-/

namespace RequiemDB

open Lib

variable {E : EnumKind → Type} [Librequiem E] {store : Store} {archive : MessageArchive E}

/-- The rows of an entry, without the message they remember. -/
def rowsOf (entry : ℕ × Message E) : List Row := (storedRows entry).map Entry.row

theorem rowsOf_eq (entry : ℕ × Message E) :
    rowsOf entry = messageRow ⟨entry.2.table, entry.1⟩ entry.2.cells ::
      (messageScript entry.1 entry.2).statements := by
  simp [rowsOf, storedRows, Function.comp_def]

theorem Holds.rows (holds : Holds store archive) :
    store.rows = archive.entries.flatMap rowsOf := by
  have shown : store.visible = store.committed := holds.idle
  rw [Store.rows, shown, holds.committed, List.map_flatMap]
  rfl

/-- A query that tells the two kinds apart finds rows of the message it asks for. -/
theorem Holds.filter_rows (holds : Holds store archive) {kind : MessageTable} {query : Select}
    (avoids : query.Avoids kind.other) {ident : Nat} (asks : query.messageIdent = ident) :
    store.rows.filter (fun row => query.Matches row) =
      (archive.find kind ident).elim [] fun message =>
        (rowsOf (ident, message)).filter fun row => query.Matches row := by
  subst asks
  rw [holds.rows, List.filter_flatMap]
  apply archive.flatMap_eq_find
  rintro entry _ isOther
  refine List.filter_eq_nil_iff.mpr fun row present => ?_
  rcases List.mem_map.mp present with ⟨stored, isStored, rfl⟩
  have notMatched := (storedRows_owned isStored).2.not_matches avoids fun same =>
    isOther ⟨congrArg Owner.table same, congrArg Owner.ident same⟩
  simpa using notMatched

/-- The idents of a kind of messages, in the order of their rows. -/
def Store.idents (store : Store) (kind : MessageTable) : List Nat :=
  (store.rows.filter fun row => row.table = kind.table).map Row.messageIdent

/-- The ident of a message in the database has been given out. -/
theorem Store.Sound.given {kind : MessageTable} {ident : Nat} (sound : store.Sound)
    (stored : ident ∈ store.idents kind) : ident < store.next kind := by
  have shown : store.visible = store.committed := sound.idle
  rcases List.mem_map.mp stored with ⟨row, present, rfl⟩
  rcases List.mem_filter.mp present with ⟨isRow, inTable⟩
  rcases List.mem_map.mp isRow with ⟨entry, isEntry, rfl⟩
  rcases sound.entries entry (shown ▸ isEntry) with ⟨owner, _, belongs, isGiven⟩
  have isKind := belongs.table_eq (of_decide_eq_true inTable)
  rw [belongs.ident, ← isKind]
  exact isGiven

/-- No row below a message stands in the table of its kind. -/
theorem table_ne_of_messageScript {entry : ℕ × Message E} {row : Row}
    (present : row ∈ (messageScript entry.1 entry.2).statements) :
    row.table ≠ entry.2.table.table := by
  rcases List.mem_map.mp present with ⟨item, inScript, rfl⟩
  have inFootprint := (within_messageScript entry.1 entry.2 item inScript).table
  exact (not_holds_of_messageFootprint entry.2 _ (List.mem_map_of_mem inFootprint)).1

theorem Holds.idents (holds : Holds store archive) (kind : MessageTable) :
    store.idents kind =
      (archive.entries.filter fun entry => entry.2.table = kind).map Prod.fst := by
  rw [Store.idents, holds.rows]
  induction archive.entries with
  | nil => rfl
  | cons entry entries ih =>
      have own : (rowsOf entry).filter (fun row => row.table = kind.table) =
          if entry.2.table = kind then [messageRow ⟨entry.2.table, entry.1⟩ entry.2.cells]
          else [] := by
        split
        · rename_i ofKind
          subst ofKind
          rw [rowsOf_eq, List.filter_cons_of_pos (by simp [messageRow])]
          refine congrArg (_ :: ·) (List.filter_eq_nil_iff.mpr fun row present => ?_)
          simpa using table_ne_of_messageScript present
        · rename_i otherKind
          refine List.filter_eq_nil_iff.mpr fun row present => ?_
          rcases List.mem_map.mp present with ⟨stored, isStored, rfl⟩
          simpa using fun inTable => otherKind ((storedRows_owned isStored).2.table_eq inTable)
      rw [List.flatMap_cons, List.filter_append, List.map_append, ih, own, List.filter_cons]
      by_cases ofKind : entry.2.table = kind
      · simp [ofKind, messageRow]
      · simp [ofKind]

section Found

variable (holds : Holds store archive) {kind : MessageTable} {ident : Nat}

/-- The query of `getMessageRow`. -/
def ownQuery (kind : MessageTable) (ident : Nat) : Select where
  table := kind.table
  parentType := .any
  messageIdent := ident
  parents := []
  listed := false

theorem ownQuery_avoids (kind : MessageTable) (ident : Nat) :
    (ownQuery kind ident).Avoids kind.other := by
  rintro letter present
  cases kind <;> simp [ownQuery, Table.letters, MessageTable.table, MessageTable.other] at present

include holds

theorem Holds.select_of_absent (absent : archive.find kind ident = none) :
    store.select (ownQuery kind ident) = [] := by
  have found := holds.filter_rows (ownQuery_avoids kind ident) rfl
  rw [ownQuery, absent] at found
  exact found

variable {message : Message E} (isHeld : archive.find kind ident = some message)
include isHeld

theorem Holds.select_of_held :
    store.select (ownQuery message.table ident) =
      [messageRow ⟨message.table, ident⟩ message.cells] := by
  rcases archive.find_eq_some_iff.mp isHeld with ⟨rfl, _⟩
  have asks : (ownQuery message.table ident).messageIdent = ident := rfl
  have found := holds.filter_rows (ownQuery_avoids message.table ident) asks
  have below : RequiemDB.found (ownQuery message.table ident) (messageScript ident message) =
      [] := by
    have apart : TablesApart [(message.table.table, .any)] (messageFootprint message.table) := by
      cases message.table <;> decide
    exact Misses.found_eq_nil (within_messageScript ident message) apart
  have own : (ownQuery message.table ident).Matches
      (messageRow ⟨message.table, ident⟩ message.cells) :=
    ⟨rfl, trivial, rfl, rfl, by simp [ownQuery]⟩
  rw [isHeld, Option.elim_some, rowsOf_eq, List.filter_cons_of_pos (by simpa using own)] at found
  rw [Store.select, found]
  exact congrArg (_ :: ·) below

theorem Holds.shows_of_held :
    Shows store ident (messageFootprint message.table).asked []
      (messageScript ident message) := by
  rcases archive.find_eq_some_iff.mp isHeld with ⟨rfl, _⟩
  intro query asks
  rcases not_holds_of_messageFootprint message _ asks.table with ⟨notOwn, otherKind⟩
  have own : ¬ query.Matches (messageRow ⟨message.table, ident⟩ message.cells) := by
    rintro ⟨table, _⟩
    exact notOwn table.symm
  rw [holds.filter_rows otherKind asks.ident, isHeld, Option.elim_some, rowsOf_eq,
    List.filter_cons_of_neg (by simpa using own)]
  rfl

end Found

variable [∀ kind, Inhabited (E kind)] {retrieval : Retrieval}

omit [Librequiem E] [∀ kind, Inhabited (E kind)] in
/-- Without its own row a message is not read. -/
theorem read_getMessageRow_of_absent {α : Type} {columns : List Column} {kind : MessageTable}
    {ident : Nat} {body : Fetched → Get α} (absent : store.select (ownQuery kind ident) = []) :
    (getMessageRow columns kind ident body).read retrieval store = .error invalidMessageIdent := by
  rw [ownQuery] at absent
  rw [getMessageRow, Get.read_bind, read_requiemdbSqlQuery, ok_bind, absent]
  rfl

theorem read_classicGet_of_absent {kind : MessageTable} {ident : Nat}
    (absent : store.select (ownQuery kind ident) = []) (unassigned : Int) :
    (classicGet unassigned kind ident : Get (MessageRead E)).read retrieval store =
      .error invalidMessageIdent := by
  cases kind with
  | alert =>
      rw [classicGet, classicGetAlert, Get.read_bind, getAlertMessageid,
        read_getMessageRow_of_absent absent]
      rfl
  | heartbeat =>
      rw [classicGet, classicGetHeartbeat, Get.read_bind, getHeartbeat,
        read_getMessageRow_of_absent absent]
      rfl

/-- What is read under an ident is what the archive holds under it. -/
theorem Holds.read (holds : Holds store archive)
    (names : retrieval.emptyIsNull → NamesGiven E) (kind : MessageTable) (ident : Nat)
    (unassigned : Int) :
    (classicGet unassigned kind ident).read retrieval store =
      (archive.find kind ident).elim (.error invalidMessageIdent)
        (Message.returned retrieval unassigned) := by
  cases held : archive.find kind ident with
  | none => exact read_classicGet_of_absent (holds.select_of_absent held) unassigned
  | some message =>
      rcases archive.find_eq_some_iff.mp held with ⟨rfl, _⟩
      have own := holds.select_of_held held
      have shows := holds.shows_of_held held
      cases message with
      | alert alert => exact read_classicGetAlert names own rfl shows
      | heartbeat heartbeat => exact read_classicGetHeartbeat names own rfl rfl shows

section Runs

/-- A database without rows. -/
def Store.unfilled (next : MessageTable → Nat) : Store := { Store.empty with next := next }

/-- An archive without messages. -/
def MessageArchive.unfilled (next : MessageTable → Nat) : MessageArchive E where
  entries := []
  next := next
  distinct := List.nodup_nil
  given := fun _ absent => absurd absent List.not_mem_nil

omit [∀ kind, Inhabited (E kind)] in
theorem holds_unfilled (next : MessageTable → Nat) :
    Holds (Store.unfilled next) (MessageArchive.unfilled next : MessageArchive E) :=
  ⟨rfl, rfl, rfl⟩

/--
Calls of the plugin, one behind the other, answer like requests to an archive: each files or
discards messages, or fails and changes nothing. Behind them the messages that can be read, and
the idents in the tables of the messages, are those of the archive.
-/
theorem plugin_refines_archive (names : retrieval.emptyIsNull → NamesGiven E)
    (counting : Counting) (calls : List (Call E × Faults))
    (noticed : ∀ call ∈ calls, call.2.Noticed) (next : MessageTable → Nat) (unassigned : Int) :
    let result := serveCalls counting calls (Store.unfilled next)
    ∃ archive : MessageArchive E,
      Archive.Run (MessageArchive.unfilled next) (history calls result.1) archive ∧
        (∀ kind ident, (classicGet unassigned kind ident).read retrieval result.2 =
          (archive.find kind ident).elim (.error invalidMessageIdent)
            (Message.returned retrieval unassigned)) ∧
        ∀ kind, result.2.idents kind =
          (archive.entries.filter fun entry => entry.2.table = kind).map Prod.fst := by
  intro result
  rcases (holds_unfilled next).serveCalls counting calls noticed with ⟨archive, run, holds⟩
  exact ⟨archive, run, fun kind ident => holds.read names kind ident unassigned, holds.idents⟩

/-- Two alerts, of which the first is deleted again. -/
def filedTwice : List (Call TextEnum × Faults) :=
  [(.insert (.alert (Alert.bare TextEnum)), noFaults),
    (.insert (.alert (Alert.bare TextEnum)), noFaults), (.deleteAlert 1, noFaults)]

theorem plugin_refines_archive_filedTwice :
    ∃ archive : MessageArchive TextEnum,
      Archive.Run (MessageArchive.unfilled fun _ => 1)
          (history filedTwice (serveCalls .goesOn filedTwice (Store.unfilled fun _ => 1)).1)
          archive ∧
        (∀ kind ident, (classicGet 0 kind ident).read .mysql
            (serveCalls .goesOn filedTwice (Store.unfilled fun _ => 1)).2 =
          (archive.find kind ident).elim (.error invalidMessageIdent)
            (Message.returned .mysql 0)) ∧
        ∀ kind, (serveCalls .goesOn filedTwice (Store.unfilled fun _ => 1)).2.idents kind =
          (archive.entries.filter fun entry => entry.2.table = kind).map Prod.fst := by
  refine plugin_refines_archive (names_of_faithful rfl) .goesOn filedTwice ?_ (fun _ => 1) 0
  simp [filedTwice, Faults.Noticed, noFaults]

end Runs

end RequiemDB
