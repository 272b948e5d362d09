import RequiemDB.Classic.Reachable

/-!
# Deletion removes exactly a message

The statements of the two delete functions cover, for every table, the rows of
one kind of message: the test of the parent letter that a statement makes, or
leaves out, tells the two kinds apart wherever both have rows. In a database
that the plugin built, a deletion that succeeds therefore removes the rows of
the messages asked for, and no others.
-/

namespace RequiemDB

open Lib

variable {E : EnumKind → Type} [Librequiem E]

/-- The statements on one table of alerts test the letter only where heartbeats share it. -/
theorem alertQueries_match_iff {row : Row} {owner : Owner} (belongs : row.BelongsTo owner)
    (idents : IdentTest) :
    (∃ query ∈ alertQueries idents, query.Matches row) ↔
      owner.table = .alert ∧ idents.Holds owner.ident := by
  rcases row with ⟨table, parentType, messageIdent, parents, index, cells⟩
  rcases owner with ⟨kind, ident⟩
  rcases belongs with ⟨sameIdent, letter⟩
  simp only at sameIdent letter
  subst sameIdent
  simp only [alertQueries, Delete.Matches, List.exists_mem_cons_iff]
  cases table <;> cases kind <;>
    simp [Table.letters, nestedLetters, endpointLetters, messageLetter, MessageTable.table]
      at letter <;>
    rcases letter with rfl | rfl | rfl <;>
    simp [ParentTypeTest.Holds]

theorem heartbeatQueries_match_iff {row : Row} {owner : Owner} (belongs : row.BelongsTo owner)
    (idents : IdentTest) :
    (∃ query ∈ heartbeatQueries idents, query.Matches row) ↔
      owner.table = .heartbeat ∧ idents.Holds owner.ident := by
  rcases row with ⟨table, parentType, messageIdent, parents, index, cells⟩
  rcases owner with ⟨kind, ident⟩
  rcases belongs with ⟨sameIdent, letter⟩
  simp only at sameIdent letter
  subst sameIdent
  simp only [heartbeatQueries, Delete.Matches, List.exists_mem_cons_iff]
  cases table <;> cases kind <;>
    simp [Table.letters, nestedLetters, endpointLetters, messageLetter, MessageTable.table]
      at letter <;>
    rcases letter with rfl | rfl | rfl <;>
    simp [ParentTypeTest.Holds]

/-- The rows of the messages of one kind whose ident is asked for. -/
def Entry.Doomed (kind : MessageTable) (idents : List Nat) (entry : Entry) : Prop :=
  ∃ ident ∈ idents, entry.owner = some ⟨kind, ident⟩

instance (kind : MessageTable) (idents : List Nat) (entry : Entry) :
    Decidable (entry.Doomed kind idents) :=
  inferInstanceAs (Decidable (∃ ident ∈ idents, _))

/-- The rows that are left behind a deletion. -/
def spared (kind : MessageTable) (idents : List Nat) (entries : List Entry) : List Entry :=
  entries.filter fun entry => ¬ entry.Doomed kind idents

/-- Statements that match the rows of a kind keep exactly the rows of other messages. -/
theorem kept_eq_spared {queries : IdentTest → List Delete} {kind : MessageTable}
    (covers : ∀ {row : Row} {owner : Owner}, row.BelongsTo owner → ∀ idents,
      (∃ query ∈ queries idents, query.Matches row) ↔
        owner.table = kind ∧ idents.Holds owner.ident)
    {test : IdentTest} {idents : List Nat} (same : ∀ ident, test.Holds ident ↔ ident ∈ idents)
    {store : Store} (sound : store.Sound) :
    kept (queries test) store.committed = spared kind idents store.committed := by
  apply List.filter_congr
  intro entry stored
  rcases sound.entries entry stored with ⟨⟨table, ident⟩, isOwner, belongs, _⟩
  have survives : (∀ query ∈ queries test, ¬ query.Matches entry.row) ↔
      ¬ (table = kind ∧ ident ∈ idents) := by
    rw [← same, ← covers belongs test]
    simp
  have doomed : entry.Doomed kind idents ↔ table = kind ∧ ident ∈ idents := by
    rw [Entry.Doomed, isOwner]
    constructor
    · rintro ⟨other, present, equal⟩
      cases equal
      exact ⟨rfl, present⟩
    · rintro ⟨rfl, present⟩
      exact ⟨ident, present, rfl⟩
  rw [decide_eq_decide, survives, doomed]

/-- A deletion that succeeds removes the rows of the messages asked for, and no others. -/
def DeletesExactly (program : Sql Int) (kind : MessageTable) (idents : List Nat)
    (store : Store) : Prop :=
  ∀ faults, 0 ≤ (program.run (environment faults) store).1 →
    (program.run (environment faults) store).2.committed = spared kind idents store.committed

section Sound

variable {store : Store}

theorem Deleted.exactly {queries : IdentTest → List Delete} {kind : MessageTable}
    (covers : ∀ {row : Row} {owner : Owner}, row.BelongsTo owner → ∀ idents,
      (∃ query ∈ queries idents, query.Matches row) ↔
        owner.table = kind ∧ idents.Holds owner.ident)
    {test : IdentTest} {idents : List Nat} (same : ∀ ident, test.Holds ident ↔ ident ∈ idents)
    (sound : store.Sound) {result : Int × Store}
    (deleted : Deleted (queries test) store result) (succeeded : 0 ≤ result.1) :
    result.2.committed = spared kind idents store.committed := by
  have shown : store.visible = store.committed := sound.idle
  rw [deleted.succeeded succeeded, shown]
  exact kept_eq_spared covers same sound

theorem equal_holds (wanted : Nat) (ident : Nat) :
    (IdentTest.equal wanted).Holds ident ↔ ident ∈ [wanted] := by
  simp [IdentTest.Holds]

theorem classicDeleteAlert_exact (sound : store.Sound) (ident : Nat) :
    DeletesExactly (classicDeleteAlert ident) .alert [ident] store := by
  intro faults succeeded
  exact (run_deleteMessage faults _ _ sound.idle).exactly alertQueries_match_iff
    (equal_holds ident) sound succeeded

theorem classicDeleteHeartbeat_exact (sound : store.Sound) (ident : Nat) :
    DeletesExactly (classicDeleteHeartbeat ident) .heartbeat [ident] store := by
  intro faults succeeded
  exact (run_deleteMessage faults _ _ sound.idle).exactly heartbeatQueries_match_iff
    (equal_holds ident) sound succeeded

/-- The number answered for a list is not negative exactly when the deletion succeeded. -/
theorem deleteFromList_exact {doDelete : IdentTest → Sql Int} {kind : MessageTable}
    {idents : List Nat}
    (exact : ∀ faults, 0 ≤ ((doDelete (.among idents)).run (environment faults) store).1 →
      ((doDelete (.among idents)).run (environment faults) store).2.committed =
        spared kind idents store.committed) :
    DeletesExactly (deleteFromList doDelete idents) kind idents store := by
  intro faults succeeded
  rw [deleteFromList, Program.run_bind, Program.run_done] at succeeded ⊢
  apply exact faults
  by_contra negative
  rw [if_pos (Int.not_le.mp negative)] at succeeded
  exact negative succeeded

theorem classicDeleteAlertFromList_exact (sound : store.Sound) (idents : List Nat) :
    DeletesExactly (classicDeleteAlertFromList idents) .alert idents store :=
  deleteFromList_exact fun faults succeeded =>
    (run_deleteMessage faults _ _ sound.idle).exactly alertQueries_match_iff
      (fun _ => Iff.rfl) sound succeeded

theorem classicDeleteHeartbeatFromList_exact (sound : store.Sound) (idents : List Nat) :
    DeletesExactly (classicDeleteHeartbeatFromList idents) .heartbeat idents store :=
  deleteFromList_exact fun faults succeeded =>
    (run_deleteMessage faults _ _ sound.idle).exactly heartbeatQueries_match_iff
      (fun _ => Iff.rfl) sound succeeded

/-- The call that deletes one message of a kind. -/
def classicDelete : MessageTable → Nat → Sql Int
  | .alert => classicDeleteAlert
  | .heartbeat => classicDeleteHeartbeat

theorem classicDelete_exact (sound : store.Sound) (kind : MessageTable) (ident : Nat) :
    DeletesExactly (classicDelete kind ident) kind [ident] store := by
  cases kind with
  | alert => exact classicDeleteAlert_exact sound ident
  | heartbeat => exact classicDeleteHeartbeat_exact sound ident

/-- The rows of a message that was just inserted are all that a deletion of it removes. -/
theorem spared_of_addsTo {owner : Owner} {result : Store} (sound : store.Sound)
    (fresh : owner = store.nextOwner owner.table) (adds : AddsTo store owner result) :
    spared owner.table [owner.ident] result.committed = store.committed := by
  rcases adds.committed with ⟨added, committed, ofOwner⟩
  have doomed : ∀ entry : Entry, entry.Doomed owner.table [owner.ident] ↔
      entry.owner = some owner := by
    intro entry
    simp [Entry.Doomed]
  have older : ∀ entry ∈ store.committed, ¬ entry.owner = some owner := by
    intro entry stored isNew
    rcases sound.entries entry stored with ⟨other, isOwner, _, given⟩
    have same : other = owner := Option.some.inj (isOwner.symm.trans isNew)
    rw [same, fresh] at given
    exact absurd given (Nat.lt_irrefl _)
  rw [committed, spared, List.filter_append]
  have keepsOld : store.committed.filter (fun entry => ¬ entry.Doomed owner.table [owner.ident]) =
      store.committed := by
    apply List.filter_eq_self.mpr
    intro entry stored
    simpa [doomed] using older entry stored
  have dropsNew : added.filter (fun entry => ¬ entry.Doomed owner.table [owner.ident]) = [] := by
    apply List.filter_eq_nil_iff.mpr
    intro entry present
    simpa [doomed] using (ofOwner entry present).1
  rw [keepsOld, dropsNew, List.append_nil]

end Sound

/--
Deletion is exact in every database that the plugin built: by ident or by list, of alerts or
of heartbeats. Deleting a message that was just inserted restores the rows before it.
-/
theorem deletion_exact {store : Store} (reached : Reached E store) :
    (∀ ident, DeletesExactly (classicDeleteAlert ident) .alert [ident] store) ∧
    (∀ ident idents, DeletesExactly (classicDeleteAlertFromList (ident :: idents)) .alert
      (ident :: idents) store) ∧
    (∀ ident, DeletesExactly (classicDeleteHeartbeat ident) .heartbeat [ident] store) ∧
    (∀ ident idents, DeletesExactly (classicDeleteHeartbeatFromList (ident :: idents)) .heartbeat
      (ident :: idents) store) ∧
    ∀ (message : Message E) (inserting deleting : Faults),
      let inserted := ((classicInsert message).run (environment inserting) store).2
      let deleted := (classicDelete message.table (store.next message.table)).run
        (environment deleting) inserted
      0 ≤ deleted.1 → deleted.2.committed = store.committed := by
  have sound := reached.sound
  refine ⟨classicDeleteAlert_exact sound,
    fun ident idents => classicDeleteAlertFromList_exact sound (ident :: idents),
    classicDeleteHeartbeat_exact sound,
    fun ident idents => classicDeleteHeartbeatFromList_exact sound (ident :: idents), ?_⟩
  intro message inserting deleting inserted deleted succeeded
  have adds := classicInsert_addsTo inserting message sound
  rw [classicDelete_exact (adds.sound sound) message.table (store.next message.table) deleting
    succeeded]
  exact spared_of_addsTo sound rfl adds

/-- An alert and a heartbeat that both have the ident 1. -/
theorem deletion_exact_of_same_ident :
    DeletesExactly (classicDeleteAlert 1) .alert [1]
      ((classicInsert (.heartbeat (Heartbeat.bare TextEnum))).run (environment noFaults)
        ((classicInsert (.alert (Alert.bare TextEnum))).run (environment noFaults)
          Store.empty).2).2 :=
  (deletion_exact (.call (.call (.empty fun _ => 1) (.insert (.alert (Alert.bare TextEnum)))
    noFaults) (.insert (.heartbeat (Heartbeat.bare TextEnum))) noFaults)).1 1

end RequiemDB
