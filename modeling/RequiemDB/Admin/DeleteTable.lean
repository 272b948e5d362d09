import RequiemDB.Admin.Copy

/-!
# The bounds of `delete_tbl`

`copyIterate` forgets the idents in `delete_tbl` behind a deletion that
succeeds. A deletion that fails leaves them there, so the next message is
recorded behind them. The answers of the databases are streams here, one entry
for each call, and a run is read through the writes to `delete_tbl` and the
idents that it hands to the deletion. `writesInside_of_deletionSucceeds` is about
the whole command on any databases.
-/

namespace RequiemDB.Admin

open Lib

variable {M S : Type} {options : Options}

/-- What the databases answer to the calls of each kind, in the order of the calls. -/
structure Answers (M : Type) where
  message : Nat → Except ErrorCode M
  inserted : Nat → Int
  deleted : Nat → Int

/-- How many calls of each kind have been answered. -/
structure Asked where
  messages : Nat
  inserts : Nat
  deletes : Nat

/-- The results of BEGIN and COMMIT are not looked at, and `copyIterate` has no other calls. -/
def answering (answers : Answers M) : Environment (@Reply M) Asked := fun op asked =>
  match op with
  | .fetchIdents _ _ => (.error ⟨-1, minusOne_negative⟩, asked)
  | .getMessage _ =>
      (answers.message asked.messages, { asked with messages := asked.messages + 1 })
  | .insertMessage _ _ =>
      (answers.inserted asked.inserts, { asked with inserts := asked.inserts + 1 })
  | .recordIdent _ _ => ((), asked)
  | .deleteFromList _ =>
      (answers.deleted asked.deletes, { asked with deletes := asked.deletes + 1 })
  | .transactionStart | .transactionEnd | .transactionAbort => (0, asked)
  | .stopProcessing => (false, asked)

/-- The uses of `delete_tbl`. -/
inductive TableEvent where
  | recorded (index ident : Nat)
  | handed (idents : List Nat)

def tableEvents : Op M → S → List TableEvent
  | .recordIdent index ident, _ => [.recorded index ident]
  | .deleteFromList idents, _ => [.handed idents]
  | _, _ => []

/-- Every write to `delete_tbl` is inside of it. -/
def InsideTable (events : List TableEvent) : Prop :=
  ∀ index ident, .recorded index ident ∈ events → index < deleteTableSize

/-- A deletion of `events` is given the ident. -/
def Hands (events : List TableEvent) (ident : Nat) : Prop :=
  ∃ idents, .handed idents ∈ events ∧ ident ∈ idents

/-- Every ident that is recorded is handed to a later deletion. -/
def AllHanded (events : List TableEvent) : Prop :=
  ∀ before index ident after, events = before ++ .recorded index ident :: after →
    Hands after ident

/-- `delete_tbl` does not overflow, and no ident in it is lost without an error. -/
def TableSafe (events : List TableEvent) (ret : Int) : Prop :=
  InsideTable events ∧ (ret < 0 ∨ AllHanded events)

/-- A message that is read from the source and inserted into the destination. -/
def IsCopied (answers : Answers M) (position : Nat) : Prop :=
  (∃ message, answers.message position = .ok message) ∧ 0 ≤ answers.inserted position

/-- The messages at the front of `size` idents that are read and inserted. -/
def copied (answers : Answers M) : (size position : Nat) → Nat
  | 0, _ => 0
  | size + 1, position =>
      match answers.message position with
      | .error _ => 0
      | .ok _ =>
          if answers.inserted position < 0 then 0 else copied answers size (position + 1) + 1

/-- `event_no` is below the size of a transaction. -/
def Counters.Flushed (options : Options) (counters : Counters) : Prop :=
  options.eventsPerTransaction = 0 ∨ counters.eventNo < options.eventsPerTransaction

theorem not_flushDue {counters : Counters} (flushed : counters.Flushed options) :
    ¬(0 < options.eventsPerTransaction ∧ options.eventsPerTransaction ≤ counters.eventNo) := by
  rcases flushed with none | below
  · omega
  · omega

theorem flushTransactionIfNeeded_eq (options : Options) (counters : Counters) (increment : Nat) :
    ∃ next : Counters, next.Flushed options ∧
      ((∀ rest : Counters → Command M (Int × Counters),
        flushTransactionIfNeeded options counters increment rest = rest next) ∨
      ∀ rest : Counters → Command M (Int × Counters),
        flushTransactionIfNeeded options counters increment rest =
          .perform .transactionEnd fun _ => .perform .transactionStart fun _ => rest next) := by
  by_cases never : options.eventsPerTransaction = 0
  · exact ⟨counters, .inl never, .inl fun rest => if_pos never⟩
  · by_cases due : options.eventsPerTransaction ≤ counters.eventNo + increment ∨
        increment = 0 ∧ counters.eventNo + increment ≠ 0
    · refine ⟨⟨0, counters.curCount + (counters.eventNo + increment), counters.limitCopy⟩,
        .inr (Nat.pos_of_ne_zero never), .inr fun rest => ?_⟩
      simp only [flushTransactionIfNeeded, if_neg never, if_pos due]
    · refine ⟨⟨counters.eventNo + increment, counters.curCount, counters.limitCopy⟩,
        .inr (Nat.not_le.mp fun full => due (.inl full)), .inl fun rest => ?_⟩
      simp only [flushTransactionIfNeeded, if_neg never, if_neg due]

section Events

@[simp]
theorem hands_cons {event : TableEvent} {events : List TableEvent} {ident : Nat} :
    Hands (event :: events) ident ↔
      (∃ idents, event = .handed idents ∧ ident ∈ idents) ∨ Hands events ident := by
  simp only [Hands, List.mem_cons]
  constructor
  · rintro ⟨idents, same | mem, among⟩
    · exact .inl ⟨idents, same.symm, among⟩
    · exact .inr ⟨idents, mem, among⟩
  · rintro (⟨idents, same, among⟩ | ⟨idents, mem, among⟩)
    · exact ⟨idents, .inl same.symm, among⟩
    · exact ⟨idents, .inr mem, among⟩

theorem allHanded_nil : AllHanded [] := by
  intro before index ident after same
  simp at same

@[simp]
theorem allHanded_handed_cons {idents : List Nat} {events : List TableEvent} :
    AllHanded (.handed idents :: events) ↔ AllHanded events := by
  constructor
  · intro all before index ident after same
    exact all (.handed idents :: before) index ident after (by rw [same, List.cons_append])
  · intro all before index ident after same
    cases before with
    | nil => simp at same
    | cons event before =>
        rw [List.cons_append, List.cons.injEq] at same
        exact all before index ident after same.2

@[simp]
theorem allHanded_recorded_cons {index ident : Nat} {events : List TableEvent} :
    AllHanded (.recorded index ident :: events) ↔ Hands events ident ∧ AllHanded events := by
  constructor
  · intro all
    constructor
    · exact all [] index ident events rfl
    · intro before index' ident' after same
      exact all (.recorded index ident :: before) index' ident' after
        (by rw [same, List.cons_append])
  · rintro ⟨hands, all⟩ before index' ident' after same
    cases before with
    | nil =>
        simp only [List.nil_append, List.cons.injEq, TableEvent.recorded.injEq] at same
        rcases same with ⟨⟨_, rfl⟩, rfl⟩
        exact hands
    | cons event before =>
        rw [List.cons_append, List.cons.injEq] at same
        exact all before index' ident' after same.2

@[simp]
theorem insideTable_handed_cons {idents : List Nat} {events : List TableEvent} :
    InsideTable (.handed idents :: events) ↔ InsideTable events := by
  simp [InsideTable]

@[simp]
theorem insideTable_recorded_cons {index ident : Nat} {events : List TableEvent} :
    InsideTable (.recorded index ident :: events) ↔
      index < deleteTableSize ∧ InsideTable events := by
  simp only [InsideTable, List.mem_cons, TableEvent.recorded.injEq]
  constructor
  · intro inside
    exact ⟨inside index ident (.inl ⟨rfl, rfl⟩),
      fun index' ident' mem => inside index' ident' (.inr mem)⟩
  · rintro ⟨here, later⟩ index' ident' (⟨rfl, rfl⟩ | mem)
    · exact here
    · exact later index' ident' mem

end Events

section Copied

variable {answers : Answers M} {size position : Nat}

theorem copied_succ_of_isCopied (isCopied : IsCopied answers position) :
    copied answers (size + 1) position = copied answers size (position + 1) + 1 := by
  rcases isCopied with ⟨⟨message, read⟩, inserted⟩
  rw [copied, read]
  exact if_neg (Int.not_lt.mpr inserted)

theorem copied_succ_of_not_isCopied (isNotCopied : ¬IsCopied answers position) :
    copied answers (size + 1) position = 0 := by
  rw [copied]
  cases read : answers.message position with
  | error error => rfl
  | ok message =>
      refine if_pos (Int.not_le.mp fun inserted => ?_)
      exact isNotCopied ⟨⟨message, read⟩, inserted⟩

theorem copied_eq_of_all (all : ∀ n, IsCopied answers n) : copied answers size position = size := by
  induction size generalizing position with
  | zero => rfl
  | succ size ih => rw [copied_succ_of_isCopied (all position), ih]

end Copied

section Uses

variable (answers : Answers M)

/-- The uses of `delete_tbl` in a run, and the value that the run returns. -/
def tableUses (command : Command M (Int × Counters)) (asked : Asked) : List TableEvent × Int :=
  (command.trace (answering answers) tableEvents asked,
    (command.run (answering answers) asked).1.1)

@[simp]
theorem tableUses_done (answer : Int × Counters) (asked : Asked) :
    tableUses answers (.done answer) asked = ([], answer.1) := rfl

@[simp]
theorem tableUses_perform (op : Op M) (next : Reply op → Command M (Int × Counters))
    (asked : Asked) :
    tableUses answers (.perform op next) asked =
      (tableEvents op asked ++ (tableUses answers (next (answering answers op asked).1)
          (answering answers op asked).2).1,
        (tableUses answers (next (answering answers op asked).1)
          (answering answers op asked).2).2) := rfl

theorem exists_flushed (options : Options) (counters : Counters) (increment : Nat)
    (asked : Asked) :
    ∃ next : Counters, next.Flushed options ∧ ∀ rest,
      tableUses answers (flushTransactionIfNeeded options counters increment rest) asked =
        tableUses answers (rest next) asked := by
  rcases flushTransactionIfNeeded_eq options counters increment (M := M) with
    ⟨next, flushed, same | same⟩
  · exact ⟨next, flushed, fun rest => by rw [same]⟩
  · exact ⟨next, flushed, fun rest => by rw [same]; rfl⟩

end Uses

section Passes

variable (options) (answers : Answers M)

/--
The uses of `delete_tbl` for one message that is copied, with the entries of it and the number
of deletions answered that are left. A failed deletion leaves all entries.
-/
inductive Passes (deletes ident : Nat) (table : List Nat) :
    List TableEvent → List Nat → Nat → Prop where
  | unused (kept : options.deleteCopied = false) : Passes deletes ident table [] table deletes
  | recorded (deleted : options.deleteCopied = true)
      (space : table.length + 1 < deleteTableSize) :
      Passes deletes ident table [.recorded table.length ident] (table ++ [ident]) deletes
  | refused (deleted : options.deleteCopied = true)
      (full : deleteTableSize ≤ table.length + 1) (failed : answers.deleted deletes < 0) :
      Passes deletes ident table [.recorded table.length ident, .handed (table ++ [ident])]
        (table ++ [ident]) (deletes + 1)
  | emptied (deleted : options.deleteCopied = true)
      (full : deleteTableSize ≤ table.length + 1) (done : 0 ≤ answers.deleted deletes) :
      Passes deletes ident table [.recorded table.length ident, .handed (table ++ [ident])] []
        (deletes + 1)

variable (last : Int) (table : List Nat) (counters : Counters) (position deletes : Nat)

/-- What is left in `delete_tbl` behind the last message is handed to a deletion. -/
theorem tableUses_nil :
    ∃ ret, tableUses answers (copyIterate options [] last table counters)
        ⟨position, position, deletes⟩ = (if table = [] then [] else [.handed table], ret) := by
  rcases exists_flushed answers options counters 0 ⟨position, position, deletes⟩ with
    ⟨next, _, same⟩
  refine ⟨_, Prod.ext ?_ rfl⟩
  rw [copyIterate, same]
  by_cases empty : table = []
  · rw [if_pos empty, if_pos empty, tableUses_done]
  · rw [if_neg empty, if_neg empty, tableUses_perform, tableUses_done]
    rfl

/-- A message that is not copied ends the loop with an error. -/
theorem tableUses_of_not_isCopied (ident : Nat) (idents : List Nat) {position : Nat}
    (isNotCopied : ¬IsCopied answers position) :
    ∃ ret < 0, tableUses answers (copyIterate options (ident :: idents) last table counters)
      ⟨position, position, deletes⟩ = ([], ret) := by
  rw [copyIterate]
  cases read : answers.message position with
  | error error =>
      refine ⟨error.code, error.negative, ?_⟩
      simp [answering, tableEvents, read]
  | ok message =>
      have failed : answers.inserted position < 0 :=
        Int.not_le.mp fun inserted => isNotCopied ⟨⟨message, read⟩, inserted⟩
      refine ⟨answers.inserted position, failed, ?_⟩
      simp [answering, tableEvents, read, failed]

variable {options answers last table counters position deletes} {idents : List Nat} {ident : Nat}

/-- What one message that is copied does, and the loop behind it. -/
theorem tableUses_cons (isCopied : IsCopied answers position)
    (flushed : counters.Flushed options) :
    ∃ events left deletes' next,
      Passes options answers deletes ident table events left deletes' ∧
      next.Flushed options ∧
      tableUses answers (copyIterate options (ident :: idents) last table counters)
          ⟨position, position, deletes⟩ =
        (events ++ (tableUses answers (copyIterate options idents last left next)
            ⟨position + 1, position + 1, deletes'⟩).1,
          (tableUses answers (copyIterate options idents last left next)
            ⟨position + 1, position + 1, deletes'⟩).2) := by
  rcases isCopied with ⟨⟨message, read⟩, inserted⟩
  have passed : ¬answers.inserted position < 0 := Int.not_lt.mpr inserted
  rw [copyIterate]
  simp only [tableUses_perform, answering, read, tableEvents, List.nil_append, passed,
    reduceIte]
  by_cases deleted : options.deleteCopied = true
  · rw [if_pos deleted, tableUses_perform]
    by_cases full : deleteTableSize ≤ table.length + 1
    · rw [if_pos (.inr full), tableUses_perform]
      by_cases failed : answers.deleted deletes < 0
      · refine ⟨_, _, _, counters, .refused deleted full failed, flushed, ?_⟩
        simp only [answering, failed, reduceIte]
        rfl
      · rcases exists_flushed answers options counters 1
          ⟨position + 1, position + 1, deletes + 1⟩ with ⟨next, nextFlushed, same⟩
        refine ⟨_, _, _, next, .emptied deleted full (Int.not_lt.mp failed), nextFlushed, ?_⟩
        simp only [answering, failed, reduceIte, same]
        rfl
    · rcases exists_flushed answers options counters 1
        ⟨position + 1, position + 1, deletes⟩ with ⟨next, nextFlushed, same⟩
      refine ⟨_, _, _, next, .recorded deleted (Nat.not_le.mp full), nextFlushed, ?_⟩
      rw [if_neg (not_or.mpr ⟨not_flushDue flushed, full⟩)]
      simp only [answering, same]
      rfl
  · rcases exists_flushed answers options counters 1
      ⟨position + 1, position + 1, deletes⟩ with ⟨next, nextFlushed, same⟩
    refine ⟨_, _, _, next, .unused (eq_false_of_ne_true deleted), nextFlushed, ?_⟩
    rw [if_neg deleted, same]
    rfl

namespace Passes

variable {events : List TableEvent} {left : List Nat} {deletes' : Nat}

/-- An ident in the table or of the message is handed to a deletion, now or later. -/
theorem hands (passes : Passes options answers deletes ident table events left deletes')
    {later : List TableEvent} (handed : ∀ other ∈ left, Hands later other) :
    (∀ other ∈ table, Hands (events ++ later) other) ∧
      (AllHanded later → AllHanded (events ++ later)) := by
  cases passes with
  | unused kept => exact ⟨handed, id⟩
  | recorded deleted space =>
      simp only [List.cons_append, List.nil_append, allHanded_recorded_cons]
      refine ⟨fun other mem => ?_, fun all => ⟨handed ident (by simp), all⟩⟩
      rw [hands_cons]
      exact .inr (handed other (List.mem_append_left _ mem))
  | refused deleted full failed =>
      simp only [List.cons_append, List.nil_append, allHanded_recorded_cons,
        allHanded_handed_cons, hands_cons]
      exact ⟨fun other mem => .inr (.inr (handed other (List.mem_append_left _ mem))),
        fun all => ⟨.inr (handed ident (by simp)), all⟩⟩
  | emptied deleted full done =>
      simp only [List.cons_append, List.nil_append, allHanded_recorded_cons,
        allHanded_handed_cons, hands_cons]
      exact ⟨fun other mem => .inr (.inl ⟨_, rfl, List.mem_append_left _ mem⟩),
        fun all => ⟨.inl ⟨_, rfl, by simp⟩, all⟩⟩

end Passes

/-- Behind an end without error, every ident of the table has been handed to a deletion. -/
theorem hands_of_tableUses (flushed : counters.Flushed options)
    (succeeds : 0 ≤ (tableUses answers (copyIterate options idents last table counters)
      ⟨position, position, deletes⟩).2) :
    (∀ other ∈ table, Hands (tableUses answers
        (copyIterate options idents last table counters) ⟨position, position, deletes⟩).1 other) ∧
      AllHanded (tableUses answers (copyIterate options idents last table counters)
        ⟨position, position, deletes⟩).1 := by
  induction idents generalizing table counters position deletes with
  | nil =>
      rcases tableUses_nil options answers last table counters position deletes with
        ⟨ret, same⟩
      rw [same]
      by_cases empty : table = []
      · simp [empty, allHanded_nil]
      · simp only [if_neg empty, hands_cons, allHanded_handed_cons]
        exact ⟨fun other mem => .inl ⟨table, rfl, mem⟩, allHanded_nil⟩
  | cons ident idents ih =>
      by_cases isCopied : IsCopied answers position
      · rcases tableUses_cons isCopied flushed with
          ⟨events, left, deletes', next, passes, nextFlushed, same⟩
        rw [same] at succeeds ⊢
        rcases ih nextFlushed succeeds with ⟨handed, all⟩
        rcases passes.hands handed with ⟨now, later⟩
        exact ⟨now, later all⟩
      · rcases tableUses_of_not_isCopied options answers last table counters deletes ident idents
          isCopied with ⟨ret, negative, same⟩
        rw [same] at succeeds
        exact absurd succeeds (Int.not_le.mpr negative)

/-- The idents of a table that is left at the end are handed over without another write. -/
theorem insideTable_tableUses_nil :
    InsideTable (tableUses answers (copyIterate options [] last table counters)
      ⟨position, position, deletes⟩).1 := by
  rcases tableUses_nil options answers last table counters position deletes with ⟨ret, same⟩
  rw [same]
  by_cases empty : table = []
  · simp [empty, InsideTable]
  · simp [empty, InsideTable]

theorem insideTable_tableUses_of_not_isCopied (isNotCopied : ¬IsCopied answers position) :
    InsideTable (tableUses answers (copyIterate options (ident :: idents) last table counters)
      ⟨position, position, deletes⟩).1 := by
  rcases tableUses_of_not_isCopied options answers last table counters deletes ident idents
    isNotCopied with ⟨ret, _, same⟩
  rw [same]
  simp [InsideTable]

theorem insideTable_of_copy (kept : options.deleteCopied = false)
    (flushed : counters.Flushed options) :
    InsideTable (tableUses answers (copyIterate options idents last table counters)
      ⟨position, position, deletes⟩).1 := by
  induction idents generalizing table counters position deletes with
  | nil => exact insideTable_tableUses_nil
  | cons ident idents ih =>
      by_cases isCopied : IsCopied answers position
      · rcases tableUses_cons isCopied flushed with
          ⟨events, left, deletes', next, passes, nextFlushed, same⟩
        rw [same]
        cases passes with
        | unused _ => exact ih nextFlushed
        | recorded deleted _ => simp [kept] at deleted
        | refused deleted _ _ => simp [kept] at deleted
        | emptied deleted _ _ => simp [kept] at deleted
      · exact insideTable_tableUses_of_not_isCopied isCopied

/-- A full table, as a failed deletion leaves it, has no room for another message. -/
theorem insideTable_full_iff (deleted : options.deleteCopied = true)
    (full : table.length = deleteTableSize) (flushed : counters.Flushed options) :
    InsideTable (tableUses answers (copyIterate options idents last table counters)
      ⟨position, position, deletes⟩).1 ↔ copied answers idents.length position = 0 := by
  cases idents with
  | nil => exact iff_of_true insideTable_tableUses_nil rfl
  | cons ident idents =>
      by_cases isCopied : IsCopied answers position
      · rcases tableUses_cons isCopied flushed with
          ⟨events, left, deletes', next, passes, _, same⟩
        refine iff_of_false (fun inside => ?_) ?_
        · rw [same] at inside
          cases passes with
          | unused kept => simp [kept] at deleted
          | recorded _ _ =>
              exact absurd (insideTable_recorded_cons.mp inside).1 (by omega)
          | refused _ _ _ =>
              exact absurd (insideTable_recorded_cons.mp inside).1 (by omega)
          | emptied _ _ _ =>
              exact absurd (insideTable_recorded_cons.mp inside).1 (by omega)
        · rw [List.length_cons, copied_succ_of_isCopied isCopied]
          omega
      · refine iff_of_true (insideTable_tableUses_of_not_isCopied isCopied) ?_
        rw [List.length_cons, copied_succ_of_not_isCopied isCopied]

end Passes

/--
The deletions that come with another message to copy behind them, from a table with `filled`
entries, succeed.
-/
def Emptied (answers : Answers M) (filled size position deletes : Nat) : Prop :=
  ∀ k, deleteTableSize * (k + 1) < filled + copied answers size position →
    0 ≤ answers.deleted (deletes + k)

namespace Emptied

variable {answers : Answers M} {filled size position deletes : Nat}

/-- A table that is not filled by what is left to copy has no deletion before the end. -/
theorem of_copied_eq_zero (room : filled < deleteTableSize)
    (rest : copied answers size position = 0) : Emptied answers filled size position deletes := by
  intro k more
  rw [rest, Nat.add_zero, Nat.mul_succ] at more
  omega

theorem succ_iff (isCopied : IsCopied answers position) :
    Emptied answers filled (size + 1) position deletes ↔
      Emptied answers (filled + 1) size (position + 1) deletes := by
  rw [Emptied, Emptied, copied_succ_of_isCopied isCopied]
  simp only [Nat.add_assoc, Nat.add_comm 1]

/-- Behind a full table whose deletion succeeds, the count starts again. -/
theorem full_iff_of_deleted (done : 0 ≤ answers.deleted deletes) :
    Emptied answers deleteTableSize size position deletes ↔
      Emptied answers 0 size position (deletes + 1) := by
  constructor
  · intro emptied k more
    have next := emptied (k + 1) (by rw [Nat.mul_succ]; omega)
    rwa [Nat.add_right_comm]
  · intro emptied k more
    cases k with
    | zero => exact done
    | succ k =>
        rw [Nat.mul_succ] at more
        have next := emptied k (by omega)
        rwa [Nat.add_right_comm] at next

/-- Behind a full table whose deletion fails, nothing more may be copied. -/
theorem full_iff_of_failed (failed : answers.deleted deletes < 0) :
    Emptied answers deleteTableSize size position deletes ↔
      copied answers size position = 0 := by
  constructor
  · intro emptied
    by_contra more
    have next := emptied 0 (by omega)
    rw [Nat.add_zero] at next
    exact absurd next (Int.not_le.mpr failed)
  · intro rest k more
    rw [rest, Nat.mul_succ] at more
    omega

end Emptied

section Passes

variable {answers : Answers M} {idents : List Nat} {last : Int} {table : List Nat}
  {counters : Counters} {position deletes : Nat}

/-- The invariant of the loop: a table with room overflows unless its deletions succeed. -/
theorem insideTable_iff (deleted : options.deleteCopied = true)
    (room : table.length < deleteTableSize) (flushed : counters.Flushed options) :
    InsideTable (tableUses answers (copyIterate options idents last table counters)
      ⟨position, position, deletes⟩).1 ↔
      Emptied answers table.length idents.length position deletes := by
  induction idents generalizing table counters position deletes with
  | nil => exact iff_of_true insideTable_tableUses_nil (.of_copied_eq_zero room rfl)
  | cons ident idents ih =>
      by_cases isCopied : IsCopied answers position
      · rcases tableUses_cons isCopied flushed with
          ⟨events, left, deletes', next, passes, nextFlushed, same⟩
        have grown : (table ++ [ident]).length = table.length + 1 := List.length_append
        rw [same, List.length_cons, Emptied.succ_iff isCopied]
        cases passes with
        | unused kept => simp [kept] at deleted
        | recorded _ space =>
            simp only [List.cons_append, List.nil_append, insideTable_recorded_cons, room,
              true_and]
            rw [ih (by rwa [grown]) nextFlushed, grown]
        | refused _ full failed =>
            have filled : table.length + 1 = deleteTableSize := by omega
            simp only [List.cons_append, List.nil_append, insideTable_recorded_cons,
              insideTable_handed_cons, room, true_and]
            rw [insideTable_full_iff deleted (by rw [grown, filled]) nextFlushed, filled,
              Emptied.full_iff_of_failed failed]
        | emptied _ full done =>
            have filled : table.length + 1 = deleteTableSize := by omega
            simp only [List.cons_append, List.nil_append, insideTable_recorded_cons,
              insideTable_handed_cons, room, true_and]
            rw [ih (by decide) nextFlushed, filled, Emptied.full_iff_of_deleted done]
            rfl
      · refine iff_of_true (insideTable_tableUses_of_not_isCopied isCopied) ?_
        refine .of_copied_eq_zero room ?_
        rw [List.length_cons, copied_succ_of_not_isCopied isCopied]

/--
`delete_tbl` overflows exactly when the deletion of a full table fails with another message to
copy behind it.
-/
theorem tableSafe_iff (counters : Counters) (flushed : counters.Flushed options) :
    TableSafe
        ((copyIterate options idents last [] counters).trace (answering answers) tableEvents
          ⟨0, 0, 0⟩)
        ((copyIterate options idents last [] counters).run (answering answers) ⟨0, 0, 0⟩).1.1 ↔
      (options.deleteCopied = true →
        ∀ k, deleteTableSize * (k + 1) < copied answers idents.length 0 →
          0 ≤ answers.deleted k) := by
  have reported : (tableUses answers (copyIterate options idents last [] counters)
        ⟨0, 0, 0⟩).2 < 0 ∨
      AllHanded (tableUses answers (copyIterate options idents last [] counters) ⟨0, 0, 0⟩).1 := by
    by_cases succeeds : 0 ≤ (tableUses answers (copyIterate options idents last [] counters)
      ⟨0, 0, 0⟩).2
    · exact .inr (hands_of_tableUses flushed succeeds).2
    · exact .inl (Int.not_le.mp succeeds)
  refine (and_iff_left reported).trans ?_
  by_cases deleted : options.deleteCopied = true
  · refine (insideTable_iff deleted (by decide) flushed).trans ?_
    simp [Emptied, deleted]
  · refine iff_of_true ?_ fun done => absurd done deleted
    exact insideTable_of_copy (eq_false_of_ne_true deleted) flushed

/-- A transaction larger than `delete_tbl`, and a source that refuses every deletion. -/
def refusing : Answers Unit where
  message _ := .ok ()
  inserted _ := 0
  deleted _ := -1

theorem not_insideTable_refusing (more : deleteTableSize < idents.length) :
    ¬InsideTable ((copyIterate ⟨2000, 0, true⟩ idents 0 [] ⟨0, 0, -1⟩).trace
      (answering refusing) tableEvents ⟨0, 0, 0⟩) := by
  intro inside
  have all : ∀ n, IsCopied refusing n := fun n => ⟨⟨(), rfl⟩, Int.le_refl 0⟩
  have emptied : Emptied refusing 0 idents.length 0 0 :=
    (insideTable_iff rfl (by decide) (.inr (by decide))).mp inside
  have deleted : 0 ≤ refusing.deleted (0 + 0) :=
    emptied 0 (by rw [copied_eq_of_all all]; omega)
  exact absurd deleted (by decide)

theorem not_tableSafe_refusing :
    ¬TableSafe
        ((copyIterate ⟨2000, 0, true⟩ (List.range' 1 1025) 0 [] ⟨0, 0, -1⟩).trace
          (answering refusing) tableEvents ⟨0, 0, 0⟩)
        ((copyIterate ⟨2000, 0, true⟩ (List.range' 1 1025) 0 [] ⟨0, 0, -1⟩).run
          (answering refusing) ⟨0, 0, 0⟩).1.1 :=
  fun safe => not_insideTable_refusing (by rw [List.length_range']; decide) safe.1

/-- The same idents with deletions that succeed. -/
theorem tableSafe_deleting :
    TableSafe
        ((copyIterate ⟨2000, 0, true⟩ (List.range' 1 1025) 0 [] ⟨0, 0, -1⟩).trace
          (answering { refusing with deleted := fun _ => 1024 }) tableEvents ⟨0, 0, 0⟩)
        ((copyIterate ⟨2000, 0, true⟩ (List.range' 1 1025) 0 [] ⟨0, 0, -1⟩).run
          (answering { refusing with deleted := fun _ => 1024 }) ⟨0, 0, 0⟩).1.1 :=
  (tableSafe_iff ⟨0, 0, -1⟩ (.inr (by decide))).mpr fun _ _ _ => Int.natCast_nonneg 1024

end Passes

section Command

variable (environment : Environment (@Reply M) S)

/-- A write to `delete_tbl` is inside of it. -/
def WritesInside : Op M → S → Prop
  | .recordIdent index _, _ => index < deleteTableSize
  | _, _ => True

/-- A deletion succeeds. -/
def DeletionSucceeds : Op M → S → Prop
  | .deleteFromList idents, state => 0 ≤ (environment (.deleteFromList idents) state).1
  | _, _ => True

/-- If all deletions of a run succeed, its writes are inside and leave a flushed transaction. -/
def Guarded (options : Options) (command : Command M (Int × Counters)) (state : S) : Prop :=
  command.Along environment (DeletionSucceeds environment) state →
    command.Along environment WritesInside state ∧
      (command.run environment state).1.2.Flushed options

variable {environment} {state : S}

theorem guarded_done {answer : Int × Counters} (flushed : answer.2.Flushed options) :
    Guarded environment options (.done answer) state := fun _ => ⟨trivial, flushed⟩

theorem guarded_perform {op : Op M} {next : Reply op → Command M (Int × Counters)}
    (inside : WritesInside op state)
    (guarded : DeletionSucceeds environment op state →
      Guarded environment options (next (environment op state).1) (environment op state).2) :
    Guarded environment options (.perform op next) state := by
  rintro ⟨here, later⟩
  rcases guarded here later with ⟨insideLater, flushed⟩
  exact ⟨⟨inside, insideLater⟩, flushed⟩

theorem guarded_flush {counters : Counters} {increment : Nat}
    {rest : Counters → Command M (Int × Counters)}
    (guarded : ∀ next after, next.Flushed options →
      Guarded environment options (rest next) after) :
    Guarded environment options (flushTransactionIfNeeded options counters increment rest)
      state := by
  rcases flushTransactionIfNeeded_eq options counters increment (M := M) with
    ⟨next, flushed, same | same⟩
  · rw [same]
    exact guarded next _ flushed
  · rw [same]
    exact guarded_perform trivial fun _ => guarded_perform trivial fun _ => guarded next _ flushed

/-- The loop stays inside of `delete_tbl` in any environment while the deletions succeed. -/
theorem guarded_copyIterate {idents : List Nat} {last : Int} {table : List Nat}
    {counters : Counters} (room : table.length < deleteTableSize)
    (flushed : counters.Flushed options) :
    Guarded environment options (copyIterate options idents last table counters) state := by
  induction idents generalizing table counters state with
  | nil =>
      rw [copyIterate]
      refine guarded_flush fun next after nextFlushed => ?_
      split
      · exact guarded_done nextFlushed
      · exact guarded_perform trivial fun _ => guarded_done nextFlushed
  | cons ident idents ih =>
      rw [copyIterate]
      refine guarded_perform trivial fun _ => ?_
      cases (environment (.getMessage ident) state).1 with
      | error error => exact guarded_done flushed
      | ok message =>
          refine guarded_perform trivial fun _ => ?_
          split
          · exact guarded_done flushed
          split
          · refine guarded_perform room fun _ => ?_
            split
            · refine guarded_perform trivial fun succeeds => ?_
              rw [if_neg (Int.not_lt.mpr succeeds)]
              exact guarded_flush fun next after => ih (by decide)
            · rename_i notDue
              refine guarded_flush fun next after => ih ?_
              rw [List.length_append, List.length_singleton]
              exact Nat.not_le.mp fun full => notDue (.inr full)
          · exact guarded_flush fun next after => ih room

theorem guarded_bind {first : Command M (Int × Counters)}
    {rest : Int × Counters → Command M (Int × Counters)}
    (guarded : Guarded environment options first state)
    (later : ∀ answer after, answer.2.Flushed options →
      Guarded environment options (rest answer) after) :
    Guarded environment options (first >>= rest) state := by
  intro succeeds
  rw [Program.along_bind] at succeeds
  rcases guarded succeeds.1 with ⟨inside, flushed⟩
  rcases later _ _ flushed succeeds.2 with ⟨insideLater, flushedLater⟩
  rw [Program.along_bind, Program.run_bind]
  exact ⟨⟨inside, insideLater⟩, flushedLater⟩

theorem guarded_transactionEnd {ret : Int} {counters : Counters}
    (flushed : counters.Flushed options) :
    Guarded environment options (transactionEnd options ret counters) state := by
  rw [transactionEnd]
  split
  · split
    · exact guarded_perform trivial fun _ => guarded_done flushed
    · exact guarded_perform trivial fun _ => guarded_done flushed
  · exact guarded_done flushed

/-- Every round starts with a flushed transaction and an empty table. -/
theorem guarded_copyRounds {rounds : Nat} {counters : Counters}
    (flushed : counters.Flushed options) :
    Guarded environment options (copyRounds options rounds counters) state := by
  induction rounds generalizing counters state with
  | zero => exact guarded_done flushed
  | succ rounds ih =>
      rw [copyRounds, fetchMessageIdentsLimited]
      refine guarded_perform trivial fun _ => ?_
      generalize (environment _ state).1 = fetched
      cases fetched with
      | error error => exact guarded_transactionEnd flushed
      | ok batch =>
          have counted : (if counters.limitCopy > 0 then
              { counters with limitCopy := counters.limitCopy - batch.count }
              else counters).Flushed options := by
            split <;> exact flushed
          have room : ([] : List Nat).length < deleteTableSize := by decide
          by_cases none : batch.count ≤ 0
          · simp only [none, reduceIte]
            exact guarded_transactionEnd counted
          · simp only [none, reduceIte]
            refine guarded_bind (guarded_copyIterate room counted) ?_
            intro answer after iterated
            by_cases failed : answer.1 < 0
            · simp only [failed, reduceIte]
              exact guarded_transactionEnd iterated
            · simp only [failed, reduceIte]
              refine guarded_perform trivial fun _ => ?_
              split
              · exact guarded_transactionEnd iterated
              · exact ih iterated

/-- A run of the command writes inside of `delete_tbl` while its deletions succeed. -/
theorem writesInside_of_deletionSucceeds (rounds : Nat) (limit : Int)
    (succeeds : (doCmdCopyMove options rounds limit).Along environment
      (DeletionSucceeds environment) state) :
    (doCmdCopyMove options rounds limit).Along environment WritesInside state := by
  have flushed : Counters.Flushed options ⟨0, 0, limit⟩ :=
    options.eventsPerTransaction.eq_zero_or_pos
  have guarded : Guarded environment options (doCmdCopyMove options rounds limit) state := by
    rw [doCmdCopyMove, transactionStart]
    split
    · exact guarded_perform trivial fun _ => guarded_copyRounds flushed
    · exact guarded_copyRounds flushed
  exact (guarded succeeds).1

end Command

end RequiemDB.Admin
